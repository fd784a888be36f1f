/-! A cursor: a place in a source to read on from, and an earlier place at which the
current lexeme begins. Looking ahead never moves a cursor, and an operation that
fails leaves it where it is. -/
namespace ScriptLexer

/-- A source with the offsets of the current lexeme's start and of the next
character. -/
structure Cursor where
  source : Array Char
  start : Nat
  current : Nat
deriving DecidableEq

namespace Cursor

/-- Why a cursor cannot give a character. -/
inductive Fault
  /-- There is no next character to consume. -/
  | pastEnd
  /-- The character asked for would stand before the source. -/
  | outOfRange
deriving DecidableEq

def Fault.message : Fault → List Char
  | pastEnd => "advance() past end of source".toList
  | outOfRange => "string index out of range".toList

/-- A cursor at the beginning of a source. -/
def ofSource (source : List Char) : Cursor := ⟨source.toArray, 0, 0⟩

/-- Whether all characters are consumed. -/
def atEnd (cursor : Cursor) : Bool := cursor.source.size ≤ cursor.current

/-- Begins a new lexeme at the next character. -/
def markStart (cursor : Cursor) : Cursor := { cursor with start := cursor.current }

/-- The same cursor, one character further. -/
def next (cursor : Cursor) : Cursor := { cursor with current := cursor.current + 1 }

/-- Consumes the next character. -/
def advance (cursor : Cursor) : Except Fault (Char × Cursor) :=
  match cursor.source[cursor.current]? with
  | some c => .ok (c, cursor.next)
  | none => .error .pastEnd

/-- Consumes the next character if it is the one expected. A text of any other
length than one is never matched. -/
def accept (expected : List Char) (cursor : Cursor) : Bool × Cursor :=
  match cursor.source[cursor.current]? with
  | some c => if expected = [c] then (true, cursor.next) else (false, cursor)
  | none => (false, cursor)

/-- The character `offset` places after the next one, or NUL from the end of the
source on. A place before the source counts from its end instead, as long as the
source reaches that far. -/
def peek (offset : Int) (cursor : Cursor) : Except Fault Char :=
  match cursor.current + offset with
  | .ofNat place => .ok (cursor.source[place]?.getD '\x00')
  | .negSucc before =>
    match cursor.source.reverse[before]? with
    | some c => .ok c
    | none => .error .outOfRange

/-- The source from the start of the lexeme up to the next character. -/
def lexeme (cursor : Cursor) : List Char :=
  (cursor.source.extract cursor.start cursor.current).toList

/-- What is left of the source from the next character on. -/
def rest (cursor : Cursor) : List Char := cursor.source.toList.drop cursor.current

/-- The same cursor, `count` characters further. -/
def skip (count : Nat) (cursor : Cursor) : Cursor :=
  { cursor with current := cursor.current + count }

section Lemmas

variable {cursor moved : Cursor} {c : Char} {rest : List Char}

@[simp] theorem skip_zero (cursor : Cursor) : cursor.skip 0 = cursor := rfl

@[simp] theorem skip_skip (first second : Nat) (cursor : Cursor) :
    (cursor.skip first).skip second = cursor.skip (first + second) := by
  simp [skip, Nat.add_assoc]

@[simp] theorem rest_skip (count : Nat) (cursor : Cursor) :
    (cursor.skip count).rest = cursor.rest.drop count := by
  simp [skip, Cursor.rest]

@[simp] theorem rest_markStart (cursor : Cursor) : cursor.markStart.rest = cursor.rest := rfl

/-- A lexeme holds what was skipped since its start. -/
theorem lexeme_skip_markStart (count : Nat) (cursor : Cursor) :
    (cursor.markStart.skip count).lexeme = cursor.rest.take count := by
  simp [lexeme, skip, markStart, Cursor.rest, List.extract_eq_take_drop]

theorem getElem?_current (cursor : Cursor) :
    cursor.source[cursor.current]? = cursor.rest.head? := by
  simp [Cursor.rest, List.head?_drop]

theorem atEnd_iff : cursor.atEnd = true ↔ cursor.rest = [] := by
  simp [atEnd, Cursor.rest]

theorem atEnd_of_rest (ahead : cursor.rest = c :: rest) : cursor.atEnd = false := by
  rw [Bool.eq_false_iff, ne_eq, atEnd_iff, ahead]
  simp

theorem advance_of_rest (ahead : cursor.rest = c :: rest) :
    cursor.advance = .ok (c, cursor.skip 1) := by
  simp [advance, getElem?_current, ahead, next, skip]

theorem advance_of_end (ended : cursor.rest = []) : cursor.advance = .error .pastEnd := by
  simp [advance, getElem?_current, ended]

/-- Only a character that is there can be consumed. -/
theorem advance_inversion (advanced : cursor.advance = .ok (c, moved)) :
    ∃ rest, cursor.rest = c :: rest ∧ moved = cursor.skip 1 := by
  cases ahead : cursor.rest with
  | nil => simp [advance_of_end ahead] at advanced
  | cons first rest =>
    rw [advance_of_rest ahead, Except.ok.injEq, Prod.mk.injEq] at advanced
    exact ⟨rest, by rw [advanced.1], advanced.2.symm⟩

/-- Consuming a character leaves less of the source. -/
theorem advance_shortens (advanced : cursor.advance = .ok (c, moved)) :
    moved.rest.length < cursor.rest.length := by
  obtain ⟨rest, ahead, rfl⟩ := advance_inversion advanced
  simp [ahead]

/-- Nothing can fail in looking ahead. -/
theorem peek_ahead (places : Nat) (cursor : Cursor) :
    cursor.peek places = .ok (cursor.rest[places]?.getD '\x00') := by
  have place : (cursor.current : Int) + places = Int.ofNat (cursor.current + places) := rfl
  simp only [peek, place]
  simp [Cursor.rest]

theorem peek_zero (cursor : Cursor) : cursor.peek 0 = .ok (cursor.rest[0]?.getD '\x00') :=
  peek_ahead 0 cursor

theorem peek_one (cursor : Cursor) : cursor.peek 1 = .ok (cursor.rest[1]?.getD '\x00') :=
  peek_ahead 1 cursor

theorem peek_of_rest (ahead : cursor.rest = c :: rest) : cursor.peek 0 = .ok c := by
  simp [peek_zero, ahead]

theorem peek_of_end (ended : cursor.rest = []) : cursor.peek 0 = .ok '\x00' := by
  simp [peek_zero, ended]

theorem accept_of_head (ahead : cursor.rest.head? = some c) :
    cursor.accept [c] = (true, cursor.skip 1) := by
  simp [accept, getElem?_current, ahead, next, skip]

theorem accept_of_other (other : cursor.rest.head? ≠ some c) :
    cursor.accept [c] = (false, cursor) := by
  cases ahead : cursor.rest.head? with
  | none => simp [accept, getElem?_current, ahead]
  | some first =>
    have differs : ¬ c = first := fun same => other (by rw [ahead, same])
    simp [accept, getElem?_current, ahead, differs]

end Lemmas

/-- Consumes characters for as long as the next one calls for it. At the end of the
source the next one reads as NUL. -/
def advanceWhile (goesOn : Cursor → Char → Bool) (cursor : Cursor) : Except Fault Cursor :=
  match cursor.peek 0 with
  | .error fault => .error fault
  | .ok c =>
    if goesOn cursor c then
      match _advanced : cursor.advance with
      | .error fault => .error fault
      | .ok (_, moved) => moved.advanceWhile goesOn
    else .ok cursor
termination_by cursor.rest.length
decreasing_by exact advance_shortens _advanced

/-- A loop that no character past the end keeps going consumes the longest stretch of
characters it is made for. -/
theorem advanceWhile_eq {goesOn : Cursor → Char → Bool} (wanted : Char → Bool)
    (wants : ∀ (cursor : Cursor) c, cursor.rest.head? = some c → goesOn cursor c = wanted c)
    (ends : ∀ cursor : Cursor, cursor.rest = [] → goesOn cursor '\x00' = false)
    (cursor : Cursor) :
    cursor.advanceWhile goesOn = .ok (cursor.skip (cursor.rest.takeWhile wanted).length) := by
  generalize ahead : cursor.rest = rest
  induction rest generalizing cursor with
  | nil =>
    rw [advanceWhile, peek_of_end ahead]
    simp [ends cursor ahead]
  | cons c rest ih =>
    have decision : goesOn cursor c = wanted c := wants cursor c (by simp [ahead])
    rw [advanceWhile, peek_of_rest ahead]
    cases chosen : wanted c with
    | false => simp [decision, chosen]
    | true =>
      have later := ih (cursor.skip 1) (by simp [ahead])
      simp only [decision, chosen, ↓reduceIte]
      split
      · simp_all [advance_of_rest ahead]
      · rename_i moved advanced
        obtain ⟨_, _, rfl⟩ := advance_inversion advanced
        simp [later, chosen, Nat.add_comm]

/-- One thing to do with a cursor. -/
inductive Operation
  | atEnd
  | markStart
  | advance
  | accept (expected : List Char)
  | peek (offset : Int)
  | lexeme
deriving DecidableEq

/-- What an operation answers. -/
inductive Answer
  | nothing
  | truth (value : Bool)
  | character (value : Char)
  | text (value : List Char)
  | failure (fault : Fault)
deriving DecidableEq

/-- The answer to an operation, and the cursor after it. -/
def apply (cursor : Cursor) : Operation → Answer × Cursor
  | .atEnd => (.truth cursor.atEnd, cursor)
  | .markStart => (.nothing, cursor.markStart)
  | .advance =>
    match cursor.advance with
    | .ok (c, moved) => (.character c, moved)
    | .error fault => (.failure fault, cursor)
  | .accept expected =>
    let (matched, moved) := cursor.accept expected
    (.truth matched, moved)
  | .peek offset =>
    match cursor.peek offset with
    | .ok c => (.character c, cursor)
    | .error fault => (.failure fault, cursor)
  | .lexeme => (.text cursor.lexeme, cursor)

/-- The answers to a series of operations, each with the cursor after it. -/
def run (cursor : Cursor) : List Operation → List (Answer × Cursor)
  | [] => []
  | operation :: operations =>
    let answered := cursor.apply operation
    answered :: answered.2.run operations

end Cursor

end ScriptLexer
