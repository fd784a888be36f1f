import Mathlib.Data.List.DropRight
import Mathlib.Data.List.Induction
import ScriptLexer.Cursor

/-! The history of a cursor. Whatever is done with a cursor, and whatever of it fails, the
characters that it gave out or matched are the beginning of its source, each once and in
order, and those since the last mark are its lexeme. An operation takes the next character,
or marks the start of a lexeme, or leaves the cursor as it is, and there is no other. -/
namespace ScriptLexer.Cursor

variable {source : List Char} {cursor : Cursor} {operation : Operation}

/-! ### Places -/

/-- A cursor that stands in a source, or at its end, with its lexeme behind it. -/
structure Inside (source : List Char) (cursor : Cursor) : Prop where
  source_eq : cursor.source = source.toArray
  start_le : cursor.start ≤ cursor.current
  current_le : cursor.current ≤ source.length

theorem inside_ofSource (source : List Char) : Inside source (ofSource source) :=
  ⟨rfl, Nat.le_refl 0, Nat.zero_le _⟩

variable {c : Char} {rest : List Char}

theorem rest_next (ahead : cursor.rest = c :: rest) : cursor.next.rest = rest := by
  change (cursor.skip 1).rest = rest
  rw [rest_skip, ahead]
  rfl

theorem length_rest_pos (ahead : cursor.rest = c :: rest) : 0 < cursor.rest.length := by
  rw [ahead]
  exact Nat.zero_lt_succ _

namespace Inside

theorem rest_eq (inside : Inside source cursor) : cursor.rest = source.drop cursor.current := by
  rw [Cursor.rest, inside.source_eq]

theorem lexeme_eq (inside : Inside source cursor) :
    cursor.lexeme = (source.take cursor.current).drop cursor.start := by
  rw [lexeme, inside.source_eq, Array.toList_extract, List.extract_eq_take_drop,
    List.drop_take]

theorem head?_rest (inside : Inside source cursor) :
    cursor.rest.head? = source[cursor.current]? := by
  rw [inside.rest_eq, List.head?_drop]

theorem length_rest (inside : Inside source cursor) :
    cursor.current + cursor.rest.length = source.length := by
  have bound := inside.current_le
  rw [inside.rest_eq, List.length_drop]
  omega

theorem rest_eq_nil_iff (inside : Inside source cursor) :
    cursor.rest = [] ↔ cursor.current = source.length := by
  have length := inside.length_rest
  rw [← List.length_eq_zero_iff]
  omega

/-- There is room for as many characters as are left. -/
theorem skip (inside : Inside source cursor) {count : Nat} (room : count ≤ cursor.rest.length) :
    Inside source (cursor.skip count) where
  source_eq := inside.source_eq
  start_le := Nat.le_add_right_of_le inside.start_le
  current_le := by
    have length := inside.length_rest
    change cursor.current + count ≤ source.length
    omega

theorem take_skip (inside : Inside source cursor) (count : Nat) :
    source.take (cursor.skip count).current =
      source.take cursor.current ++ cursor.rest.take count := by
  rw [inside.rest_eq]
  exact List.take_add

/-- A lexeme grows by the characters that are skipped. -/
theorem lexeme_skip (inside : Inside source cursor) {count : Nat}
    (room : count ≤ cursor.rest.length) :
    (cursor.skip count).lexeme = cursor.lexeme ++ cursor.rest.take count := by
  have begun : cursor.start ≤ (source.take cursor.current).length := by
    rw [List.length_take, Nat.min_eq_left inside.current_le]
    exact inside.start_le
  rw [(inside.skip room).lexeme_eq, inside.take_skip, inside.lexeme_eq]
  exact List.drop_append_of_le_length begun

theorem next (inside : Inside source cursor) (ahead : cursor.rest = c :: rest) :
    Inside source cursor.next :=
  inside.skip (length_rest_pos ahead)

theorem take_next (inside : Inside source cursor) (ahead : cursor.rest = c :: rest) :
    source.take cursor.next.current = source.take cursor.current ++ [c] := by
  have grown := inside.take_skip 1
  rwa [ahead] at grown

theorem lexeme_next (inside : Inside source cursor) (ahead : cursor.rest = c :: rest) :
    cursor.next.lexeme = cursor.lexeme ++ [c] := by
  have grown := inside.lexeme_skip (length_rest_pos ahead)
  rwa [ahead] at grown

theorem markStart (inside : Inside source cursor) : Inside source cursor.markStart :=
  ⟨inside.source_eq, Nat.le_refl _, inside.current_le⟩

theorem lexeme_markStart (inside : Inside source cursor) : cursor.markStart.lexeme = [] := by
  rw [inside.markStart.lexeme_eq]
  exact List.drop_eq_nil_of_le (List.length_take_le _ _)

end Inside

/-! ### What an operation does -/

/-- What an operation has consumed, by its answer: the character given out, or the text
that was matched. -/
def taken : Operation → Answer → List Char
  | .advance, .character c => [c]
  | .accept expected, .truth true => expected
  | _, _ => []

/-- Operations that only look, and operations that fail. -/
def Idle : Operation → Answer → Prop
  | .peek _, _ | .lexeme, _ | .atEnd, _ => True
  | .accept _, .truth matched => matched = false
  | .advance, .failure _ => True
  | _, _ => False

/-- Only the next character alone is matched. -/
theorem accept_cases (expected : List Char) (cursor : Cursor) :
    (∃ c rest, cursor.rest = c :: rest ∧ expected = [c] ∧
        cursor.accept expected = (true, cursor.next)) ∨
      ((∀ c, cursor.rest.head? = some c → expected ≠ [c]) ∧
        cursor.accept expected = (false, cursor)) := by
  cases ahead : cursor.rest with
  | nil =>
    right
    simp [accept, getElem?_current, ahead]
  | cons c rest =>
    by_cases same : expected = [c]
    · left
      exact ⟨c, rest, rfl, same, by simp [accept, getElem?_current, ahead, same]⟩
    · right
      simp [accept, getElem?_current, ahead, same]

theorem apply_advance (cursor : Cursor) :
    (∃ c rest, cursor.rest = c :: rest ∧ cursor.apply .advance = (.character c, cursor.next)) ∨
      (cursor.rest = [] ∧ cursor.apply .advance = (.failure .pastEnd, cursor)) := by
  cases ahead : cursor.rest with
  | nil =>
    right
    simp [apply, advance_of_end ahead]
  | cons c rest =>
    left
    exact ⟨c, rest, rfl, by rw [apply, advance_of_rest ahead]; rfl⟩

theorem apply_peek (offset : Int) (cursor : Cursor) : (cursor.apply (.peek offset)).2 = cursor := by
  rw [apply]
  split <;> rfl

/-- Everything that an operation can do to a cursor. -/
theorem apply_cases (operation : Operation) (cursor : Cursor) :
    (∃ c rest, cursor.rest = c :: rest ∧ operation ≠ .markStart ∧
        taken operation (cursor.apply operation).1 = [c] ∧
        ¬Idle operation (cursor.apply operation).1 ∧
        (cursor.apply operation).2 = cursor.next) ∨
      (operation = .markStart ∧ cursor.apply operation = (.nothing, cursor.markStart)) ∨
      (operation ≠ .markStart ∧ taken operation (cursor.apply operation).1 = [] ∧
        (cursor.apply operation).2 = cursor) := by
  cases operation with
  | markStart => exact .inr (.inl ⟨rfl, rfl⟩)
  | atEnd => exact .inr (.inr ⟨nofun, rfl, rfl⟩)
  | lexeme => exact .inr (.inr ⟨nofun, rfl, rfl⟩)
  | peek offset => exact .inr (.inr ⟨nofun, rfl, apply_peek offset cursor⟩)
  | advance =>
    rcases cursor.apply_advance with ⟨c, rest, ahead, applied⟩ | ⟨_, applied⟩
    · exact .inl ⟨c, rest, ahead, nofun, by rw [applied]; rfl, by rw [applied]; exact id,
        by rw [applied]⟩
    · exact .inr (.inr ⟨nofun, by rw [applied]; rfl, by rw [applied]⟩)
  | accept expected =>
    rcases accept_cases expected cursor with ⟨c, rest, ahead, rfl, accepted⟩ | ⟨_, accepted⟩
    · exact .inl ⟨c, rest, ahead, nofun, by rw [apply, accepted]; rfl,
        by rw [apply, accepted]; exact Bool.noConfusion, by rw [apply, accepted]⟩
    · exact .inr (.inr ⟨nofun, by rw [apply, accepted]; rfl, by rw [apply, accepted]⟩)

/-! ### Histories -/

/-- The cursor after a series of operations. -/
def reached (cursor : Cursor) (operations : List Operation) : Cursor :=
  ((cursor.run operations).map Prod.snd).getLastD cursor

/-- Operations with their answers. -/
abbrev History := List (Operation × Answer)

/-- A series of operations with the answers of a cursor to them. -/
def history (cursor : Cursor) (operations : List Operation) : History :=
  operations.zip ((cursor.run operations).map Prod.fst)

/-- All that was consumed in a history. -/
def consumed (history : History) : List Char :=
  history.flatMap fun entry => taken entry.1 entry.2

/-- What was consumed since the start of a lexeme was last marked, or from the beginning on
if it never was. -/
def sinceMark (history : History) : List Char :=
  consumed (history.rtakeWhile fun entry => entry.1 ≠ .markStart)

theorem run_append (first second : List Operation) (cursor : Cursor) :
    cursor.run (first ++ second) = cursor.run first ++ (cursor.reached first).run second := by
  induction first generalizing cursor with
  | nil => rfl
  | cons operation operations ih =>
    have later : cursor.reached (operation :: operations) =
        (cursor.apply operation).2.reached operations := by
      rw [reached, run, List.map_cons, List.getLastD_cons]
      rfl
    rw [List.cons_append, run, ih, later]
    rfl

/-- One more operation is applied to the cursor that was reached. -/
theorem run_concat (operations : List Operation) (operation : Operation) (cursor : Cursor) :
    cursor.run (operations ++ [operation]) =
      cursor.run operations ++ [(cursor.reached operations).apply operation] :=
  run_append operations [operation] cursor

theorem length_run (operations : List Operation) (cursor : Cursor) :
    (cursor.run operations).length = operations.length := by
  induction operations generalizing cursor with
  | nil => rfl
  | cons operation operations ih => rw [run, List.length_cons, ih, List.length_cons]

theorem reached_concat (operations : List Operation) (operation : Operation) (cursor : Cursor) :
    cursor.reached (operations ++ [operation]) =
      ((cursor.reached operations).apply operation).2 := by
  rw [reached, run_concat]
  simp

theorem history_concat (operations : List Operation) (operation : Operation) (cursor : Cursor) :
    cursor.history (operations ++ [operation]) =
      cursor.history operations ++
        [(operation, ((cursor.reached operations).apply operation).1)] := by
  rw [history, run_concat, List.map_append, List.zip_append (by simp [length_run])]
  rfl

theorem consumed_concat (history : History) (operation : Operation) (answer : Answer) :
    consumed (history ++ [(operation, answer)]) = consumed history ++ taken operation answer := by
  simp [consumed]

theorem sinceMark_mark (history : History) (answer : Answer) :
    sinceMark (history ++ [(.markStart, answer)]) = [] := by
  simp [sinceMark, consumed]

theorem sinceMark_other {answer : Answer} (other : operation ≠ .markStart) (history : History) :
    sinceMark (history ++ [(operation, answer)]) =
      sinceMark history ++ taken operation answer := by
  rw [sinceMark, List.rtakeWhile_concat_pos _ _ _ (by simpa using other), consumed_concat]
  rfl

/-- A cursor that has come through a history. -/
structure Follows (source : List Char) (history : History) (cursor : Cursor) : Prop extends
    Inside source cursor where
  consumed_eq : consumed history = source.take cursor.current
  sinceMark_eq : sinceMark history = cursor.lexeme

theorem follows_ofSource (source : List Char) : Follows source [] (ofSource source) where
  toInside := inside_ofSource source
  consumed_eq := rfl
  sinceMark_eq := (inside_ofSource source).lexeme_markStart.symm

/-- One more operation, whatever it answers, makes the history one entry longer. -/
theorem Follows.apply {history : History} (follows : Follows source history cursor)
    (operation : Operation) :
    Follows source (history ++ [(operation, (cursor.apply operation).1)])
      (cursor.apply operation).2 := by
  have inside := follows.toInside
  rcases apply_cases operation cursor with ⟨c, rest, ahead, other, taken, _, moved⟩ |
      ⟨rfl, applied⟩ | ⟨other, taken, unmoved⟩
  · rw [moved]
    constructor
    · exact inside.next ahead
    · rw [consumed_concat, taken, follows.consumed_eq, inside.take_next ahead]
    · rw [sinceMark_other other, taken, follows.sinceMark_eq, inside.lexeme_next ahead]
  · rw [applied]
    constructor
    · exact inside.markStart
    · rw [consumed_concat]
      exact (List.append_nil _).trans follows.consumed_eq
    · rw [sinceMark_mark, inside.lexeme_markStart]
  · rw [unmoved]
    constructor
    · exact inside
    · rw [consumed_concat, taken, List.append_nil, follows.consumed_eq]
    · rw [sinceMark_other other, taken, List.append_nil, follows.sinceMark_eq]

theorem reached_follows (source : List Char) (operations : List Operation) :
    Follows source ((ofSource source).history operations)
      ((ofSource source).reached operations) := by
  induction operations using List.reverseRecOn with
  | nil => exact follows_ofSource source
  | append_singleton operations operation ih =>
    rw [history_concat, reached_concat]
    exact ih.apply operation

/-! ### Looking ahead -/

theorem reached_advances (places : Nat) (cursor : Cursor) :
    cursor.reached (List.replicate places .advance) =
      cursor.skip (min places cursor.rest.length) := by
  induction places with
  | zero => simp [reached, run]
  | succ places ih =>
    rw [List.replicate_succ', reached_concat, ih]
    rcases (cursor.skip (min places cursor.rest.length)).apply_advance with
        ⟨c, rest, ahead, applied⟩ | ⟨ended, applied⟩
    · have more := congrArg List.length ahead
      rw [rest_skip, List.length_drop, List.length_cons] at more
      rw [applied]
      change (cursor.skip _).skip 1 = _
      rw [skip_skip]
      congr 1
      omega
    · rw [rest_skip, List.drop_eq_nil_iff] at ended
      rw [applied]
      change cursor.skip _ = _
      congr 1
      omega

/-- What the last of some consecutive advances answers. -/
def lastAdvance (places : Nat) (cursor : Cursor) : Option Answer :=
  ((cursor.run (List.replicate places .advance)).map Prod.fst).getLast?

/-- To look ahead is to answer as the last advance would, or NUL if it would fail. -/
theorem apply_peek_ahead (places : Nat) (cursor : Cursor) :
    (∃ c, cursor.lastAdvance (places + 1) = some (.character c) ∧
        (cursor.apply (.peek places)).1 = .character c) ∨
      (cursor.lastAdvance (places + 1) = some (.failure .pastEnd) ∧
        (cursor.apply (.peek places)).1 = .character '\x00') := by
  have answer : (cursor.apply (.peek places)).1 =
      .character (cursor.rest[places]?.getD '\x00') := by
    rw [apply, peek_ahead]
  have last : cursor.lastAdvance (places + 1) =
      some ((cursor.skip (min places cursor.rest.length)).apply .advance).1 := by
    rw [lastAdvance, List.replicate_succ', run_concat, reached_advances]
    simp
  rw [answer, last]
  rcases (cursor.skip (min places cursor.rest.length)).apply_advance with
      ⟨c, rest, ahead, applied⟩ | ⟨ended, applied⟩
  · have more := congrArg List.length ahead
    have there := congrArg List.head? ahead
    rw [rest_skip, List.length_drop, List.length_cons] at more
    rw [rest_skip, List.head?_drop, Nat.min_eq_left (by omega)] at there
    left
    exact ⟨c, by rw [applied], by rw [there]; rfl⟩
  · rw [rest_skip, List.drop_eq_nil_iff] at ended
    right
    exact ⟨by rw [applied], by rw [List.getElem?_eq_none (by omega)]; rfl⟩

/-! ### Every operation after every history -/

/-- What one operation answers, and how it moves a cursor in `source`. -/
structure Performs (source : List Char) (before : Cursor) (operation : Operation)
    (answer : Answer) (after : Cursor) : Prop where
  start_le : before.start ≤ after.start
  current_le : before.current ≤ after.current
  advance : operation = .advance →
    (∃ c, source[before.current]? = some c ∧ answer = .character c ∧ after = before.next) ∨
      (before.current = source.length ∧ answer = .failure .pastEnd)
  accept : ∀ expected, operation = .accept expected →
    ∃ matched, answer = .truth matched ∧
      (matched = true ↔ ∃ c, source[before.current]? = some c ∧ expected = [c]) ∧
      (matched = true → after = before.next)
  /-- To look ahead tells what so many advances and one more would lead to. -/
  peek : ∀ places : Nat, operation = .peek places →
    (∃ c, before.lastAdvance (places + 1) = some (.character c) ∧ answer = .character c) ∨
      (before.lastAdvance (places + 1) = some (.failure .pastEnd) ∧ answer = .character '\x00')
  atEnd : operation = .atEnd → answer = .truth (before.current = source.length)
  markStart : operation = .markStart → after = { before with start := before.current }
  idle : Idle operation answer → after = before

theorem Inside.apply_le (inside : Inside source cursor) (operation : Operation) :
    cursor.start ≤ (cursor.apply operation).2.start ∧
      cursor.current ≤ (cursor.apply operation).2.current := by
  rcases apply_cases operation cursor with ⟨_, _, _, _, _, _, moved⟩ | ⟨_, applied⟩ |
      ⟨_, _, unmoved⟩
  · rw [moved]
    exact ⟨Nat.le_refl _, Nat.le_succ _⟩
  · rw [applied]
    exact ⟨inside.start_le, Nat.le_refl _⟩
  · rw [unmoved]
    exact ⟨Nat.le_refl _, Nat.le_refl _⟩

theorem Inside.performs (inside : Inside source cursor) (operation : Operation) :
    Performs source cursor operation (cursor.apply operation).1 (cursor.apply operation).2 where
  start_le := (inside.apply_le operation).1
  current_le := (inside.apply_le operation).2
  advance := by
    rintro rfl
    rcases cursor.apply_advance with ⟨c, rest, ahead, applied⟩ | ⟨ended, applied⟩
    · have there : source[cursor.current]? = some c := by rw [← inside.head?_rest, ahead]; rfl
      rw [applied]
      exact .inl ⟨c, there, rfl, rfl⟩
    · rw [applied]
      exact .inr ⟨inside.rest_eq_nil_iff.mp ended, rfl⟩
  accept := by
    rintro expected rfl
    rw [apply, ← inside.head?_rest]
    rcases accept_cases expected cursor with ⟨c, rest, ahead, rfl, accepted⟩ | ⟨other, accepted⟩
    · rw [accepted, ahead]
      exact ⟨true, rfl, ⟨fun _ => ⟨c, rfl, rfl⟩, fun _ => rfl⟩, fun _ => rfl⟩
    · rw [accepted]
      refine ⟨false, rfl, ⟨Bool.noConfusion, ?_⟩, Bool.noConfusion⟩
      rintro ⟨c, there, rfl⟩
      exact absurd rfl (other c there)
  peek := by
    rintro places rfl
    exact apply_peek_ahead places cursor
  atEnd := by
    rintro rfl
    have ended : cursor.atEnd = decide (cursor.current = source.length) := by
      rw [Bool.eq_iff_iff, atEnd_iff, inside.rest_eq_nil_iff, decide_eq_true_iff]
    rw [apply, ended]
  markStart := by
    rintro rfl
    rfl
  idle := by
    intro idle
    rcases apply_cases operation cursor with ⟨_, _, _, _, _, busy, _⟩ | ⟨rfl, applied⟩ |
        ⟨_, _, unmoved⟩
    · exact absurd idle busy
    · rw [applied] at idle
      exact idle.elim
    · exact unmoved

/-- After any operations on a cursor at the beginning of a source, failed ones included, the
cursor stands in the source with its lexeme behind it, what they consumed is the source up to
there, and what they consumed since the last mark is the lexeme. The next operation, whatever
it is, moves the cursor on by the character that it consumes, if at all, and looking ahead
tells what advancing would give. -/
theorem histories_consume_source (source : List Char) (operations : List Operation)
    (operation : Operation) :
    let cursor := (ofSource source).reached operations
    let history := (ofSource source).history operations
    (cursor.start ≤ cursor.current ∧ cursor.current ≤ source.length) ∧
      consumed history = source.take cursor.current ∧
      cursor.apply .lexeme = (.text (sinceMark history), cursor) ∧
      ∃ answer after,
        (ofSource source).run (operations ++ [operation]) =
          (ofSource source).run operations ++ [(answer, after)] ∧
        Performs source cursor operation answer after := by
  intro cursor history
  have follows : Follows source history cursor := reached_follows source operations
  refine ⟨⟨follows.start_le, follows.current_le⟩, follows.consumed_eq, ?_, ?_⟩
  · rw [follows.sinceMark_eq]
    rfl
  · exact ⟨_, _, run_concat operations operation _, follows.toInside.performs operation⟩

end ScriptLexer.Cursor
