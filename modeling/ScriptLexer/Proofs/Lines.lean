import ScriptLexer.Proofs.Grammar
import ScriptLexer.Proofs.Rounds

/-! The line counter of a pass. It is kept in two places, at a line end between lexemes
and inside strings, and nothing else takes a line end; so it counts every line end of
what has been taken, and each just once. Everything that is found carries the line on
which its span ends, and in the order of finding the lines never decrease. -/
namespace ScriptLexer

open Source

/-- A token or a diagnostic, in a common order. -/
inductive Finding
  | token (found : Token)
  | diagnostic (found : Diagnostic)
deriving DecidableEq

namespace Finding

def line : Finding → Int
  | token found => found.line
  | diagnostic found => found.line

def token? : Finding → Option Token
  | token found => some found
  | diagnostic _ => none

def diagnostic? : Finding → Option Diagnostic
  | token _ => none
  | diagnostic found => some found

end Finding

namespace Pass

variable {c : Char} {body later : List Char} {literal : Option Literal} {source : List Char}
  {pass before after last : Pass}

/-- The line of a place in a source: one, and one more for each line end before the
place. -/
def lineAt (source : List Char) (place : Nat) : Nat := 1 + (source.take place).count '\n'

/-- What a round has found: the tokens and diagnostics that were not there before. -/
def findings (before after : Pass) : List Finding :=
  (after.tokens.drop before.tokens.length).map .token ++
    (after.diagnostics.drop before.diagnostics.length).map .diagnostic

/-- Whatever `before` and `after` find between them carries the line of the place that
`after` has reached. A string has its closing quote just before that place, and the
quote is on that line. -/
structure CarriesLine (source : List Char) (before after : Pass) : Prop where
  line_eq : ∀ finding ∈ findings before after, finding.line = lineAt source after.cursor.current
  quote : ∀ token : Token, .token token ∈ findings before after → token.kind = .string →
    source[after.cursor.current - 1]? = some '"' ∧
      token.line = lineAt source (after.cursor.current - 1)

theorem findings_absorb (span : List Char) (reading : Reading) (pass : Pass) :
    findings pass (pass.absorb span reading) =
      match reading with
      | .token kind literal =>
        [.token ⟨kind, span, literal, (pass.line + span.count '\n' : Nat)⟩]
      | .fault fault => [.diagnostic (fault.diagnostic (pass.line + span.count '\n'))]
      | .trivia => [] := by
  cases reading <;> simp [findings, absorb, Entry.token?, Entry.diagnostic?]

/-- What a round finds carries the line counter after the round. -/
theorem line_findings (taken : before.round = .ok after) :
    ∀ finding ∈ findings before after, finding.line = after.line := by
  obtain ⟨c, body, reading, later, _, _, rfl⟩ := round_inversion taken
  rw [findings_absorb]
  cases reading with
  | token kind literal => simp [Finding.line]
  | fault fault => cases fault <;> simp [Finding.line, Fault.diagnostic, Diagnostic.line]
  | trivia => simp

theorem line_le_of_round (taken : before.round = .ok after) : before.line ≤ after.line := by
  obtain ⟨c, body, reading, later, _, _, rfl⟩ := round_inversion taken
  simp

/-- Moving on by a span moves on by the line ends of the span. -/
theorem lineAt_add {span : List Char} {place : Nat} (behind : source.drop place = span ++ later) :
    lineAt source (place + span.length) = lineAt source place + span.count '\n' := by
  rw [lineAt, lineAt, List.take_add, behind, List.take_left, List.count_append, Nat.add_assoc]

/-- A place in a source with the line counter right. -/
structure OnLine (source : List Char) (pass : Pass) : Prop extends Within source pass where
  line_eq : pass.line = lineAt source pass.cursor.current

theorem onLine_start (source : List Char) : OnLine source (start source) where
  toWithin := within_start source
  line_eq := by simp [start, lineAt, Cursor.ofSource]

theorem OnLine.round (onLine : OnLine source before) (taken : before.round = .ok after) :
    OnLine source after := by
  have within := onLine.toWithin.round taken
  obtain ⟨c, body, reading, later, ahead, _, rfl⟩ := round_inversion taken
  constructor
  · exact within
  have behind : source.drop before.cursor.current = (c :: body) ++ later := by
    rw [← onLine.rest_eq, ahead, List.cons_append]
  rw [line_absorb, current_absorb, onLine.line_eq, lineAt_add behind]

theorem cut_string (cut : Cut c body (.token .string literal) later) :
    ∃ text, body = text ++ ['"'] := by
  generalize shape : Reading.token .string literal = reading at cut
  cases cut with
  | @string text => exact ⟨text, rfl⟩
  | mark begins =>
    cases shape
    simpa [marks] using mem_marks_of_loneMark begins
  | bare begins | extended begins =>
    cases shape
    simpa [operators] using mem_operators_of_extensibleMark begins
  | name =>
    injection shape with kind
    unfold Kind.ofWord at kind
    split at kind <;> cases kind
  | _ => cases shape

theorem round_carriesLine (onLine : OnLine source before) (taken : before.round = .ok after) :
    CarriesLine source before after := by
  have lines := line_findings taken
  rw [(onLine.round taken).line_eq] at lines
  constructor
  · exact lines
  intro token found isString
  obtain ⟨c, body, reading, later, ahead, cut, rfl⟩ := round_inversion taken
  rw [findings_absorb] at found
  cases reading with
  | fault fault => simp at found
  | trivia => simp at found
  | token kind literal =>
    obtain rfl : token = ⟨kind, c :: body, literal, _⟩ := by simpa using found
    obtain rfl : kind = .string := isString
    obtain ⟨text, rfl⟩ := cut_string cut
    -- The closing quote is no line end, so its own line is the line behind it.
    have behind : source.drop before.cursor.current = (c :: text) ++ '"' :: later := by
      rw [← onLine.rest_eq, ahead]
      simp
    have last : (before.absorb (c :: (text ++ ['"'])) (.token .string literal)).cursor.current - 1 =
        before.cursor.current + (c :: text).length := by
      simp [Nat.add_assoc]
    have quote : source[before.cursor.current + (c :: text).length]? = some '"' := by
      rw [← List.getElem?_drop, behind, List.getElem?_append_right (Nat.le_refl _)]
      simp
    rw [last]
    refine ⟨quote, ?_⟩
    rw [lineAt_add behind, ← onLine.line_eq]
    simp [List.count_cons]

/-- In the order of finding, no line is less than the one before. All lines lie between
the line on which a pass begins and the line on which it finishes. -/
theorem gather_lines (finished : pass.finish = .ok last) :
    (∀ finding ∈ pass.gather findings, pass.line ≤ finding.line ∧ finding.line ≤ last.line) ∧
      ((pass.gather findings).map Finding.line).Pairwise (· ≤ ·) ∧ pass.line ≤ last.line := by
  induction pass using round_induction with
  | ended pass ended =>
    obtain rfl : pass = last := by simpa [finish_of_end ended] using finished
    simp [gather_of_end ended]
  | rounds pass next taken ih =>
    obtain ⟨bounds, sorted, reaches⟩ := ih (by rw [← finish_of_round taken, finished])
    have first := line_findings taken
    have onward := line_le_of_round taken
    rw [gather_of_round taken]
    -- All that one round finds is on the same line, and later rounds begin on that line.
    refine ⟨?_, ?_, by omega⟩
    · intro finding found
      rcases List.mem_append.mp found with new | old
      · have line := first finding new
        omega
      · have bound := bounds finding old
        omega
    · rw [List.map_append, List.pairwise_append]
      refine ⟨?_, sorted, ?_⟩
      · apply List.pairwise_map.mpr
        apply List.pairwise_of_forall_mem_list
        intro one here two there
        exact Int.le_of_eq ((first one here).trans (first two there).symm)
      · intro line new other old
        obtain ⟨finding, found, rfl⟩ := List.mem_map.mp new
        obtain ⟨finding', found', rfl⟩ := List.mem_map.mp old
        rw [first finding found]
        exact (bounds finding' found').1

/-- What the rounds find, put in order, are the tokens and the diagnostics of the pass. -/
theorem gather_findings (finished : pass.finish = .ok last) :
    last.tokens = pass.tokens ++ (pass.gather findings).filterMap Finding.token? ∧
      last.diagnostics =
        pass.diagnostics ++ (pass.gather findings).filterMap Finding.diagnostic? := by
  induction pass using round_induction with
  | ended pass ended =>
    obtain rfl : pass = last := by simpa [finish_of_end ended] using finished
    simp [gather_of_end ended]
  | rounds pass next taken ih =>
    obtain ⟨tokens, diagnostics⟩ := ih (by rw [← finish_of_round taken, finished])
    rw [tokens, diagnostics, gather_of_round taken]
    obtain ⟨c, body, reading, later, _, _, rfl⟩ := round_inversion taken
    rw [findings_absorb]
    cases reading with
    | token kind literal =>
      simp [absorb_token (c :: body) kind literal pass, List.filterMap_cons, Finding.token?,
        Finding.diagnostic?]
    | fault fault =>
      simp [absorb_fault (c :: body) fault pass, List.filterMap_cons, Finding.token?,
        Finding.diagnostic?]
    | trivia => simp [absorb_trivia (c :: body) pass]

/-- Everything that the scan of a source finds, in the order of finding. The token for
the end of the source comes last. -/
def chronicle (source : List Char) : List Finding :=
  (start source).gather findings ++ [.token (.endOfInput (Scan.ofSource source).lastLine)]

/-- At the head of every round the line counter is one more than the number of line ends
taken. Every token and diagnostic carries the line on which its span ends, the scan ends
on the last line of the source, and the lines of all that is found never decrease. -/
theorem lines_count_line_ends (source : List Char) :
    ∃ last, (start source).finish = .ok last ∧ (start source).heads.getLast? = some last ∧
      (∀ head ∈ (start source).heads, head.line = lineAt source head.cursor.current) ∧
      (start source).heads.IsChain (CarriesLine source) ∧
      (Scan.ofSource source).lastLine = 1 + source.count '\n' ∧
      (Scan.ofSource source).tokens.getLast? = some (.endOfInput (1 + source.count '\n')) ∧
      (chronicle source).filterMap Finding.token? = (Scan.ofSource source).tokens ∧
      (chronicle source).filterMap Finding.diagnostic? = (Scan.ofSource source).diagnostics ∧
      ((chronicle source).map Finding.line).Pairwise (· ≤ ·) := by
  obtain ⟨last, finished⟩ : ∃ last, (start source).finish = .ok last := ⟨_, finish_eq _⟩
  have reached := getLast?_heads finished
  have counted : ∀ head ∈ (start source).heads, OnLine source head := by
    apply heads_keep (onLine_start source)
    intro before after onLine taken
    exact onLine.round taken
  have end_line : last.line = 1 + source.count '\n' := by
    have scan := Scan.ofSource_eq source
    rw [Scan.ofSource_of_finish finished] at scan
    exact congrArg Scan.lastLine scan
  obtain ⟨bounds, sorted, _⟩ := gather_lines finished
  obtain ⟨tokens, diagnostics⟩ := gather_findings finished
  refine ⟨last, finished, reached, fun head member => (counted head member).line_eq, ?_, ?_⟩
  · apply heads_chain (onLine_start source)
    · intro before after onLine taken
      exact onLine.round taken
    · intro before after onLine taken
      exact round_carriesLine onLine taken
  simp only [chronicle, Scan.ofSource_of_finish finished]
  refine ⟨end_line, ?_, ?_, ?_, ?_⟩
  · simp [end_line]
  · simp [tokens, start, Finding.token?]
  · simp [diagnostics, start, Finding.diagnostic?]
  · rw [List.map_append, List.pairwise_append]
    refine ⟨sorted, by simp, ?_⟩
    intro line found closing last_line
    obtain ⟨finding, member, rfl⟩ := List.mem_map.mp found
    obtain rfl : closing = last.line := by simpa [Finding.line, Token.endOfInput] using last_line
    exact (bounds finding member).2

end Pass

end ScriptLexer
