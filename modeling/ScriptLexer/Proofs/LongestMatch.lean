import ScriptLexer.Proofs.Grammar
import ScriptLexer.Proofs.Rounds

/-! A pass cuts its source by longest match: each round takes the longest text of any
lexical class with which the rest of the source begins, and adds what the grammar
reads in it. Where no class matches, a quote takes the whole rest and any other
character stands alone, and either is reported. -/
namespace ScriptLexer

open Source

variable {c : Char} {body text span rest later : List Char} {reading : Reading}
  {source : List Char} {before after : Pass}

namespace Source

/-- The longest text of a lexical class with which `rest` begins. -/
structure Longest (rest span : List Char) : Prop where
  begins : span <+: rest
  classified : ∃ reading, Lexeme span reading
  maximal : ∀ other, other <+: rest → (∃ reading, Lexeme other reading) →
    other.length ≤ span.length

/-- `rest` begins with no text of any class. -/
def Unmatched (rest : List Char) : Prop :=
  ∀ other reading, other <+: rest → ¬Lexeme other reading

theorem lexeme_ne_nil (lexeme : Lexeme text reading) : text ≠ [] := by
  cases lexeme with
  | whole nonempty | fraction nonempty => simp [nonempty]
  | _ => exact List.cons_ne_nil _ _

/-- No text of a class is faulty. -/
theorem lexeme_sound (lexeme : Lexeme text reading) (fault : Fault) : reading ≠ .fault fault := by
  cases lexeme <;> simp

/-- A text of a class that the source begins with lies within the first span. -/
theorem lexeme_length_le (cut : Cut c body reading later) {other : List Char} {read : Reading}
    (begins : other <+: c :: (body ++ later)) (lexeme : Lexeme other read) :
    other.length ≤ (c :: body).length := by
  obtain ⟨behind, shape⟩ := begins
  obtain ⟨first, inside, rfl⟩ := List.exists_cons_of_ne_nil (lexeme_ne_nil lexeme)
  obtain ⟨rfl, same⟩ : first = c ∧ inside ++ behind = body ++ later := by simpa using shape
  have bound := lexeme.length_le_tail behind
  rw [same, cut.tail_eq] at bound
  simpa using bound

theorem cut_longest (cut : Cut c body reading later) (sound : ∀ fault, reading ≠ .fault fault) :
    Longest (c :: (body ++ later)) (c :: body) where
  begins := ⟨later, rfl⟩
  classified := ⟨reading, cut_lexeme cut sound⟩
  maximal := by
    intro other begins classified
    obtain ⟨read, lexeme⟩ := classified
    exact lexeme_length_le cut begins lexeme

/-- Where every beginning of the rest is read as a fault, no class matches. -/
theorem unmatched_of_faults
    (faulty : ∀ inside, inside <+: text → ∃ fault, read (c :: inside) = .fault fault) :
    Unmatched (c :: text) := by
  rintro other reading begins lexeme
  obtain ⟨first, inside, rfl⟩ := List.exists_cons_of_ne_nil (lexeme_ne_nil lexeme)
  obtain ⟨rfl, within⟩ := List.cons_prefix_cons.mp begins
  obtain ⟨fault, read⟩ := faulty inside within
  exact lexeme_sound lexeme fault (lexeme.read_eq.symm.trans read)

/-- A string without a closing quote is of no class, and nothing else begins with a
quote. -/
theorem unmatched_open (inside : ∀ d ∈ text, d ≠ '"') : Unmatched ('"' :: text) := by
  apply unmatched_of_faults
  intro beginning begins
  have open_still : ∀ d ∈ beginning, d ≠ '"' := by
    intro d member
    exact inside d (begins.subset member)
  exact ⟨.unterminatedString, (Cut.openString open_still).read_eq⟩

theorem unmatched_nothing (begins : opening c = .nothing) (text : List Char) :
    Unmatched (c :: text) := by
  apply unmatched_of_faults
  intro beginning _
  exact ⟨.unexpectedCharacter c, by simp [read, readFrom, begins]⟩

end Source

namespace Pass

/-- What a round adds for a span with a reading: the token, the diagnostic or nothing. -/
def Records (span : List Char) (reading : Reading) (before after : Pass) : Prop :=
  match reading with
  | .token kind literal =>
    after.tokens = before.tokens ++ [⟨kind, span, literal, after.line⟩] ∧
      after.diagnostics = before.diagnostics
  | .fault fault =>
    after.tokens = before.tokens ∧
      after.diagnostics = before.diagnostics ++ [fault.diagnostic after.line]
  | .trivia => after.tokens = before.tokens ∧ after.diagnostics = before.diagnostics

/-- What a round does with the rest of the source, of which it consumes `span`. -/
def Munches (rest span : List Char) (before after : Pass) : Prop :=
  (Longest rest span ∧ ∀ reading, Lexeme span reading → Records span reading before after) ∨
  (Unmatched rest ∧ rest.head? = some '"' ∧ '"' ∉ rest.tail ∧ span = rest ∧
    Records span (.fault .unterminatedString) before after) ∨
  (Unmatched rest ∧ ∃ c, rest.head? = some c ∧ c ≠ '"' ∧ span = [c] ∧
    Records span (.fault (.unexpectedCharacter c)) before after)

/-- A round of a pass over `source` consumes what longest match consumes. -/
def MunchesSource (source : List Char) (before after : Pass) : Prop :=
  let rest := source.drop before.cursor.current
  Munches rest (rest.take (after.cursor.current - before.cursor.current)) before after

theorem records_absorb (span : List Char) (reading : Reading) (pass : Pass) :
    Records span reading pass (pass.absorb span reading) := by
  cases reading with
  | token kind literal => exact absorb_token span kind literal pass
  | fault fault => exact absorb_fault span fault pass
  | trivia => exact absorb_trivia span pass

theorem cut_munches (cut : Cut c body reading later) (pass : Pass) :
    Munches (c :: (body ++ later)) (c :: body) pass (pass.absorb (c :: body) reading) := by
  have records := records_absorb (c :: body) reading pass
  by_cases sound : ∀ fault, reading ≠ .fault fault
  · left
    constructor
    · exact cut_longest cut sound
    · intro other lexeme
      have same : other = reading := lexeme.read_eq.symm.trans cut.read_eq
      exact same ▸ records
  · right
    cases cut with
    | openString inside =>
      have unquoted : '"' ∉ body := fun member => inside '"' member rfl
      rw [List.append_nil]
      left
      exact ⟨unmatched_open inside, rfl, unquoted, rfl, records⟩
    | nothing begins =>
      have other : c ≠ '"' := by rintro rfl; cases begins
      right
      exact ⟨unmatched_nothing begins _, c, rfl, other, rfl, records⟩
    | _ => exact absurd (fun _ => Reading.noConfusion) sound

theorem round_munches (within : Within source before) (taken : before.round = .ok after) :
    MunchesSource source before after := by
  obtain ⟨c, body, reading, later, ahead, cut, rfl⟩ := round_inversion taken
  have rest : source.drop before.cursor.current = c :: (body ++ later) := by
    rw [← within.rest_eq, ahead]
  have consumed : (c :: (body ++ later)).take (body.length + 1) = c :: body := by simp
  simp only [MunchesSource, rest, current_absorb, Nat.add_sub_cancel_left, List.length_cons,
    consumed]
  exact cut_munches cut before

/-- Every round of a scan consumes the longest text of any lexical class that the rest of
the source begins with, and adds what the grammar reads in it. If there is none, the
rest begins with a quote that is never closed and is reported as a whole, or with a
character that begins no class and is reported by itself. -/
theorem rounds_munch_maximally (source : List Char) :
    ∃ last, (start source).finish = .ok last ∧ (start source).heads.getLast? = some last ∧
      (start source).heads.IsChain fun before after =>
        before.round = .ok after ∧ MunchesSource source before after := by
  refine ⟨_, finish_eq _, getLast?_heads (finish_eq _), ?_⟩
  apply heads_chain (within_start source)
  · intro before after within taken
    exact within.round taken
  · intro before after within taken
    exact ⟨taken, round_munches within taken⟩

end Pass

end ScriptLexer
