import ScriptLexer.Source.Pass

/-! Rounds that record what they do. They get at the source only through two operations, one
that reads the character of a place and one that takes the text between two places, and both
are recorded; so is every call for the next character, every turn of a loop, every choice of
what a character begins and every text that is converted to a number. What comes of a
recorded round is what comes of the round. -/
namespace ScriptLexer

open Source

/-- Something that is done in a round. -/
inductive Action
  /-- The next character is called for. -/
  | advance (cursor : Cursor)
  /-- The character at a place of the source is read. -/
  | access (place : Nat)
  /-- The text from one place of the source up to another is taken. -/
  | slice (first last : Nat)
  /-- A loop has gone round once and brought its cursor from one place to another. -/
  | turn (first last : Nat)
  /-- A character is handled as one that begins what the opening says. -/
  | handle (c : Char) (part : Opening)
  /-- A text is converted to a number. -/
  | convert (text : List Char)

/-- Work with a record of its actions, which it leaves also when it fails. -/
structure Traced (α : Type) where
  outcome : Except Cursor.Fault α
  actions : List Action

namespace Traced

variable {α β : Type}

instance : Monad Traced where
  pure value := ⟨.ok value, []⟩
  bind work next :=
    match work.outcome with
    | .ok value => ⟨(next value).outcome, work.actions ++ (next value).actions⟩
    | .error fault => ⟨.error fault, work.actions⟩

/-- Fails and does nothing else. -/
def fail (fault : Cursor.Fault) : Traced α := ⟨.error fault, []⟩

def record (action : Action) : Traced Unit := ⟨.ok (), [action]⟩

/-- The same work. Its value comes with the knowledge that it is what came of the work, by
which a loop is seen to end. -/
def attach (work : Traced α) : Traced { value // work.outcome = .ok value } where
  outcome :=
    match work.outcome with
    | .ok value => .ok ⟨value, rfl⟩
    | .error fault => .error fault
  actions := work.actions

section Lemmas

variable {work : Traced α} {value : α}

@[simp] theorem outcome_pure (value : α) : (pure value : Traced α).outcome = .ok value := rfl

@[simp] theorem outcome_record (action : Action) : (record action).outcome = .ok () := rfl

@[simp] theorem outcome_bind (work : Traced α) (next : α → Traced β) :
    (work >>= next).outcome = work.outcome >>= fun value => (next value).outcome := by
  simp only [Bind.bind]
  cases work.outcome <;> rfl

theorem actions_bind (came : work.outcome = .ok value) (next : α → Traced β) :
    (work >>= next).actions = work.actions ++ (next value).actions := by
  simp only [Bind.bind, came]

theorem outcome_attach (came : work.outcome = .ok value) :
    work.attach.outcome = .ok ⟨value, came⟩ := by
  obtain ⟨outcome, actions⟩ := work
  cases came
  rfl

theorem outcome_attach_of_error {fault : Cursor.Fault} (failed : work.outcome = .error fault) :
    work.attach.outcome = .error fault := by
  obtain ⟨outcome, actions⟩ := work
  cases failed
  rfl

end Lemmas

/-! ### The cursor -/

/-- Reads the character at a place of the source. -/
def access (place : Nat) (cursor : Cursor) : Traced Char where
  outcome :=
    match cursor.source[place]? with
    | some c => .ok c
    | none => .error .outOfRange
  actions := [.access place]

/-- Takes the text from one place of the source up to another. -/
def slice (first last : Nat) (cursor : Cursor) : Traced (List Char) where
  outcome := .ok (cursor.source.extract first last).toList
  actions := [.slice first last]

def advance (cursor : Cursor) : Traced (Char × Cursor) := do
  record (.advance cursor)
  if cursor.atEnd then fail .pastEnd
  else
    let c ← access cursor.current cursor
    return (c, cursor.next)

def accept (expected : List Char) (cursor : Cursor) : Traced (Bool × Cursor) :=
  if cursor.atEnd then return (false, cursor)
  else do
    let c ← access cursor.current cursor
    return if expected = [c] then (true, cursor.next) else (false, cursor)

def peek (places : Nat) (cursor : Cursor) : Traced Char :=
  if cursor.source.size ≤ cursor.current + places then return '\x00'
  else access (cursor.current + places) cursor

def lexeme (cursor : Cursor) : Traced (List Char) := slice cursor.start cursor.current cursor

section Lemmas

variable {cursor : Cursor} {c : Char} {rest : List Char} {places : Nat}

theorem access_of_getElem? {place : Nat} (there : cursor.source[place]? = some c) :
    access place cursor = ⟨.ok c, [.access place]⟩ := by
  rw [access, there]

theorem advance_of_rest (ahead : cursor.rest = c :: rest) :
    advance cursor = ⟨.ok (c, cursor.next), [.advance cursor, .access cursor.current]⟩ := by
  have there : cursor.source[cursor.current]? = some c := by
    rw [Cursor.getElem?_current, ahead]
    rfl
  rw [advance, Cursor.atEnd_of_rest ahead, access_of_getElem? there]
  rfl

theorem advance_of_end (ended : cursor.rest = []) :
    advance cursor = ⟨.error .pastEnd, [.advance cursor]⟩ := by
  rw [advance, Cursor.atEnd_iff.mpr ended]
  rfl

theorem accept_of_rest (ahead : cursor.rest = c :: rest) (expected : List Char) :
    accept expected cursor = ⟨.ok (cursor.accept expected), [.access cursor.current]⟩ := by
  have there : cursor.source[cursor.current]? = some c := by
    rw [Cursor.getElem?_current, ahead]
    rfl
  rw [accept, Cursor.atEnd_of_rest ahead, if_neg Bool.false_ne_true, access_of_getElem? there,
    Cursor.accept, there]
  rfl

theorem accept_of_end (ended : cursor.rest = []) (expected : List Char) :
    accept expected cursor = ⟨.ok (cursor.accept expected), []⟩ := by
  rw [accept, Cursor.atEnd_iff.mpr ended, Cursor.accept, Cursor.getElem?_current, ended]
  rfl

theorem peek_of_some (there : cursor.rest[places]? = some c) :
    peek places cursor = ⟨.ok c, [.access (cursor.current + places)]⟩ := by
  rw [Cursor.rest, List.getElem?_drop, Array.getElem?_toList] at there
  obtain ⟨inside, _⟩ := Array.getElem?_eq_some_iff.mp there
  rw [peek, if_neg (Nat.not_le.mpr inside), access_of_getElem? there]

theorem peek_of_none (nothing : cursor.rest[places]? = none) :
    peek places cursor = ⟨.ok '\x00', []⟩ := by
  rw [Cursor.rest, List.getElem?_drop, Array.getElem?_toList, Array.getElem?_eq_none_iff]
    at nothing
  rw [peek, if_pos nothing]
  rfl

@[simp] theorem outcome_advance (cursor : Cursor) : (advance cursor).outcome = cursor.advance := by
  cases ahead : cursor.rest with
  | nil => rw [advance_of_end ahead, Cursor.advance_of_end ahead]
  | cons c rest =>
    rw [advance_of_rest ahead, Cursor.advance_of_rest ahead]
    rfl

@[simp] theorem outcome_accept (expected : List Char) (cursor : Cursor) :
    (accept expected cursor).outcome = .ok (cursor.accept expected) := by
  cases ahead : cursor.rest with
  | nil => rw [accept_of_end ahead]
  | cons c rest => rw [accept_of_rest ahead]

@[simp] theorem outcome_peek (places : Nat) (cursor : Cursor) :
    (peek places cursor).outcome = cursor.peek places := by
  rw [Cursor.peek_ahead]
  cases there : cursor.rest[places]? with
  | none => rw [peek_of_none there]; rfl
  | some c => rw [peek_of_some there]; rfl

end Lemmas

def advanceWhile (goesOn : Cursor → Char → Bool) (cursor : Cursor) : Traced Cursor := do
  let c ← peek 0 cursor
  if goesOn cursor c then
    let ⟨(_, moved), _advanced⟩ ← (advance cursor).attach
    record (.turn cursor.current moved.current)
    advanceWhile goesOn moved
  else return cursor
termination_by cursor.rest.length
decreasing_by exact Cursor.advance_shortens ((outcome_advance cursor).symm.trans _advanced)

/-! ### The pass -/

def emit (kind : Kind) (literal : Option Literal) (pass : Pass) : Traced Pass := do
  let lexeme ← lexeme pass.cursor
  return { pass with tokens := pass.tokens ++ [⟨kind, lexeme, literal, pass.line⟩] }

def readSlash (pass : Pass) : Traced Pass := do
  let (isComment, cursor) ← accept ['/'] pass.cursor
  if isComment then
    let cursor ← advanceWhile Pass.inComment cursor
    return { pass with cursor }
  else emit .slash none pass

def readText (pass : Pass) : Traced Pass := do
  let c ← peek 0 pass.cursor
  if c != '"' && !pass.cursor.atEnd then
    let inside ← peek 0 pass.cursor
    let line := if inside = '\n' then pass.line + 1 else pass.line
    let ⟨(_, cursor), _advanced⟩ ← (advance pass.cursor).attach
    record (.turn pass.cursor.current cursor.current)
    readText { pass with line, cursor }
  else return pass
termination_by pass.cursor.rest.length
decreasing_by exact Cursor.advance_shortens ((outcome_advance _).symm.trans _advanced)

def readString (pass : Pass) : Traced Pass := do
  let pass ← readText pass
  if pass.cursor.atEnd then return pass.complain (.unterminatedString pass.line)
  else
    let (_, cursor) ← advance pass.cursor
    let text ← slice (cursor.start + 1) (cursor.current - 1) cursor
    emit .string (some (.text text)) { pass with cursor }

def readDigits (cursor : Cursor) : Traced Cursor := advanceWhile (fun _ c => c.isDigit) cursor

/-- The character behind a point is looked at only where there is a point. -/
def readDecimal (cursor : Cursor) : Traced Cursor := do
  let whole ← readDigits cursor
  if (← peek 0 whole) == '.' then
    if (← peek 1 whole).isDigit then
      let (_, places) ← advance whole
      readDigits places
    else return whole
  else return whole

def readNumber (pass : Pass) : Traced Pass := do
  let cursor ← readDecimal pass.cursor
  let text ← lexeme cursor
  record (.convert text)
  emit .number (some (.number (Binary64.ofDecimal text))) { pass with cursor }

def readName (pass : Pass) : Traced Pass := do
  let cursor ← advanceWhile (fun _ c => isNamePart c) pass.cursor
  let word ← lexeme cursor
  emit (.ofWord word) none { pass with cursor }

/-- Handles a character as one that begins what the opening says. -/
def handling (c : Char) (part : Opening) (work : Traced Pass) : Traced Pass := do
  record (.handle c part)
  work

def dispatch (c : Char) (pass : Pass) : Traced Pass :=
  match opening c with
  | .mark kind => handling c (.mark kind) (emit kind none pass)
  | .extensibleMark bare extended => handling c (.extensibleMark bare extended) do
    let (isExtended, cursor) ← accept ['='] pass.cursor
    emit (if isExtended then extended else bare) none { pass with cursor }
  | .slash => handling c .slash (readSlash pass)
  | .padding => handling c .padding (return pass)
  | .lineEnd => handling c .lineEnd (return { pass with line := pass.line + 1 })
  | .string => handling c .string (readString pass)
  | .number => handling c .number (readNumber pass)
  | .name => handling c .name (readName pass)
  | .nothing => handling c .nothing (return pass.complain (.unexpectedCharacter [c] pass.line))

/-- A round with a record of all that is done in it. -/
def round (pass : Pass) : Traced Pass := do
  let (c, cursor) ← advance pass.cursor.markStart
  dispatch c { pass with cursor }

/-! ### The same comes of it -/

@[simp] theorem ok_bind (value : α) (next : α → Except Cursor.Fault β) :
    (Except.ok value >>= next) = next value := rfl

@[simp] theorem error_bind (fault : Cursor.Fault) (next : α → Except Cursor.Fault β) :
    (Except.error fault >>= next) = .error fault := rfl

@[simp] theorem outcome_advanceWhile (goesOn : Cursor → Char → Bool) (cursor : Cursor) :
    (advanceWhile goesOn cursor).outcome = cursor.advanceWhile goesOn := by
  fun_induction Cursor.advanceWhile goesOn cursor with
  | case1 cursor fault failed =>
    rw [Cursor.peek_zero] at failed
    cases failed
  | case2 cursor c ahead goes fault failed =>
    have failed' := outcome_attach_of_error ((outcome_advance cursor).trans failed)
    rw [advanceWhile]
    simp [ahead, goes, failed']
  | case3 cursor c ahead goes d moved advanced ih =>
    have advanced' := outcome_attach ((outcome_advance cursor).trans advanced)
    rw [advanceWhile]
    simp [ahead, goes, advanced', ih]
  | case4 cursor c ahead stops =>
    rw [advanceWhile]
    simp [ahead, stops]

@[simp] theorem outcome_emit (kind : Kind) (literal : Option Literal) (pass : Pass) :
    (emit kind literal pass).outcome = .ok (pass.emit kind literal) := rfl

@[simp] theorem outcome_readSlash (pass : Pass) : (readSlash pass).outcome = pass.readSlash := by
  rw [readSlash, Pass.readSlash, outcome_bind, outcome_accept, ok_bind]
  cases pass.cursor.accept ['/'] with
  | mk isComment cursor =>
    cases isComment with
    | false => rfl
    | true =>
      simp only [↓reduceIte, outcome_bind, outcome_advanceWhile]
      rfl

@[simp] theorem outcome_readText (pass : Pass) : (readText pass).outcome = pass.readText := by
  fun_induction Pass.readText pass with
  | case1 pass fault failed =>
    rw [Cursor.peek_zero] at failed
    cases failed
  | case2 pass c ahead goes fault failed =>
    have failed' := outcome_attach_of_error ((outcome_advance pass.cursor).trans failed)
    rw [readText]
    simp only [outcome_bind, outcome_peek, Int.cast_ofNat_Int, ahead, ok_bind, goes, ↓reduceIte,
      failed', error_bind]
  | case3 pass c ahead goes line d cursor advanced ih =>
    have advanced' := outcome_attach ((outcome_advance pass.cursor).trans advanced)
    rw [readText, ← ih]
    simp only [outcome_bind, outcome_peek, Int.cast_ofNat_Int, ahead, ok_bind, goes, ↓reduceIte,
      advanced', outcome_record]
    rfl
  | case4 pass c ahead stops =>
    rw [readText]
    simp only [outcome_bind, outcome_peek, Int.cast_ofNat_Int, ahead, ok_bind, stops,
      Bool.false_eq_true, ↓reduceIte, outcome_pure]

@[simp] theorem outcome_readString (pass : Pass) : (readString pass).outcome = pass.readString := by
  rw [readString, Pass.readString, outcome_bind, outcome_readText]
  congr 1
  funext pass
  cases pass.cursor.atEnd with
  | true => rfl
  | false =>
    simp only [Bool.false_eq_true, ↓reduceIte, outcome_bind, outcome_advance]
    rfl

@[simp] theorem outcome_readDigits (cursor : Cursor) :
    (readDigits cursor).outcome = Pass.readDigits cursor :=
  outcome_advanceWhile _ cursor

@[simp] theorem outcome_readDecimal (cursor : Cursor) :
    (readDecimal cursor).outcome = Pass.readDecimal cursor := by
  rw [readDecimal, Pass.readDecimal, outcome_bind, outcome_readDigits]
  congr 1
  funext whole
  rw [outcome_bind, outcome_peek, Cursor.peek_ahead, Cursor.peek_zero, Cursor.peek_one]
  simp only [ok_bind]
  cases point : whole.rest[0]?.getD '\x00' == '.' with
  | false => rfl
  | true =>
    simp only [↓reduceIte, outcome_bind, outcome_peek, Cursor.peek_ahead, ok_bind, Bool.true_and]
    cases digit : (whole.rest[1]?.getD '\x00').isDigit with
    | false => rfl
    | true =>
      simp only [↓reduceIte, outcome_bind, outcome_advance, outcome_readDigits]

@[simp] theorem outcome_readNumber (pass : Pass) : (readNumber pass).outcome = pass.readNumber := by
  rw [readNumber, Pass.readNumber, outcome_bind, outcome_readDecimal]
  rfl

@[simp] theorem outcome_readName (pass : Pass) : (readName pass).outcome = pass.readName := by
  rw [readName, Pass.readName, outcome_bind, outcome_advanceWhile]
  rfl

theorem outcome_handling (c : Char) (part : Opening) (work : Traced Pass) :
    (handling c part work).outcome = work.outcome := rfl

@[simp] theorem outcome_dispatch (c : Char) (pass : Pass) :
    (dispatch c pass).outcome = pass.dispatch c := by
  rw [dispatch, Pass.dispatch]
  cases opening c with
  | slash => exact outcome_readSlash pass
  | string => exact outcome_readString pass
  | number => exact outcome_readNumber pass
  | name => exact outcome_readName pass
  | extensibleMark bare extended =>
    simp only [outcome_handling, outcome_bind, outcome_accept, ok_bind, outcome_emit]
  | _ => rfl

/-- What comes of a recorded round is what comes of the round. -/
theorem outcome_round (pass : Pass) : (round pass).outcome = pass.round := by
  simp only [round, Pass.round, outcome_bind, outcome_advance, outcome_dispatch]

end Traced

end ScriptLexer
