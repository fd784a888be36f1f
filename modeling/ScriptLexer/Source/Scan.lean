import ScriptLexer.Source.Round

/-! The scan of a source: everything that a pass over the whole of it finds. A pass
goes round after round until nothing is left, and no source makes it fail. -/
namespace ScriptLexer

open Source

namespace Pass

variable {pass next : Pass}

/-- A round needs a character to begin with, and takes the span that it begins. -/
theorem round_inversion (taken : pass.round = .ok next) :
    ∃ c body reading after, pass.cursor.rest = c :: (body ++ after) ∧
      Cut c body reading after ∧ next = pass.absorb (c :: body) reading := by
  cases ahead : pass.cursor.rest with
  | nil =>
    have stuck : pass.cursor.markStart.advance = .error .pastEnd := Cursor.advance_of_end ahead
    rw [round, stuck] at taken
    cases taken
  | cons c rest =>
    obtain ⟨body, reading, after, rfl, cut⟩ := exists_cut c rest
    rw [round_eq cut ahead, Except.ok.injEq] at taken
    exact ⟨c, body, reading, after, rfl, cut, taken.symm⟩

theorem round_shortens (taken : pass.round = .ok next) :
    next.cursor.rest.length < pass.cursor.rest.length := by
  obtain ⟨c, body, reading, after, ahead, cut, rfl⟩ := round_inversion taken
  rw [rest_absorb ahead, ahead]
  simp only [List.length_cons, List.length_append]
  omega

/-- Goes on round after round to the end of the source. -/
def finish (pass : Pass) : Except Cursor.Fault Pass :=
  if pass.cursor.atEnd then .ok pass
  else
    match _taken : pass.round with
    | .error fault => .error fault
    | .ok next => next.finish
termination_by pass.cursor.rest.length
decreasing_by exact round_shortens _taken

theorem finish_of_end (ended : pass.cursor.rest = []) : pass.finish = .ok pass := by
  rw [finish, if_pos (Cursor.atEnd_iff.mpr ended)]

theorem finish_of_round (taken : pass.round = .ok next) : pass.finish = next.finish := by
  obtain ⟨c, body, reading, after, ahead, _⟩ := round_inversion taken
  rw [finish, Cursor.atEnd_of_rest ahead]
  simp only [Bool.false_eq_true, ↓reduceIte]
  split
  · simp_all
  · rename_i other taken'
    rw [taken, Except.ok.injEq] at taken'
    rw [taken']

/-- A pass that finishes has taken all spans of what was left, and every pass finishes. -/
theorem finish_eq (pass : Pass) :
    pass.finish = .ok ((spans pass.cursor.rest).foldl
      (fun pass span => pass.absorb span (read span)) pass) := by
  generalize ahead : pass.cursor.rest = rest
  induction rest using source_induction generalizing pass with
  | empty => exact finish_of_end ahead
  | @span c body reading after cut ih =>
    rw [finish_of_round (round_eq cut ahead), cut.spans_eq, List.foldl_cons, cut.read_eq]
    exact ih _ (rest_absorb ahead)

/-- What a pass finds in spans are the tokens and diagnostics of their entries. -/
theorem foldl_absorb (spans : List (List Char)) (pass : Pass) :
    let last := spans.foldl (fun pass span => pass.absorb span (read span)) pass
    let entries := Entry.ofSpans pass.line spans
    last.tokens = pass.tokens ++ entries.filterMap Entry.token? ∧
      last.diagnostics = pass.diagnostics ++ entries.filterMap Entry.diagnostic? ∧
      last.errorCount = pass.errorCount + (entries.filterMap Entry.diagnostic?).length ∧
      last.line = pass.line + spans.flatten.count '\n' := by
  induction spans generalizing pass with
  | nil => simp [Entry.ofSpans]
  | cons span spans ih =>
    obtain ⟨tokens, diagnostics, count, line⟩ := ih (pass.absorb span (read span))
    simp only [List.foldl_cons, Entry.ofSpans, List.flatten_cons, List.count_append]
    refine ⟨?_, ?_, ?_, ?_⟩
    · rw [tokens]
      cases token : Entry.token? ⟨span, read span, pass.line + span.count '\n'⟩ <;>
        simp [absorb, token]
    · rw [diagnostics]
      cases diagnostic : Entry.diagnostic? ⟨span, read span, pass.line + span.count '\n'⟩ <;>
        simp [absorb, diagnostic]
    · rw [count]
      cases diagnostic : Entry.diagnostic? ⟨span, read span, pass.line + span.count '\n'⟩ <;>
        simp [absorb, diagnostic, Nat.add_assoc, Nat.add_comm 1]
    · rw [line, line_absorb, Nat.add_assoc]

end Pass

/-- A source and what was found in it. -/
structure Scan where
  source : List Char
  /-- The tokens of the source, closed by the token for its end. -/
  tokens : List Token
  /-- What is wrong with the source. -/
  diagnostics : List Diagnostic
  /-- The counter of errors at the end of the source. -/
  errorCount : Nat
  /-- The line counter at the end of the source. -/
  lastLine : Nat
deriving DecidableEq

namespace Scan

/-- Scans a source, the lines of which are counted from one. -/
def ofSource (source : List Char) : Scan :=
  match finished : (Pass.start source).finish with
  | .ok pass =>
    { source
      tokens := pass.tokens ++ [Token.endOfInput pass.line]
      diagnostics := pass.diagnostics
      errorCount := pass.errorCount
      lastLine := pass.line }
  | .error _ => absurd finished (by simp [Pass.finish_eq])

theorem ofSource_of_finish {source : List Char} {last : Pass}
    (finished : (Pass.start source).finish = .ok last) :
    ofSource source = {
      source
      tokens := last.tokens ++ [Token.endOfInput last.line]
      diagnostics := last.diagnostics
      errorCount := last.errorCount
      lastLine := last.line } := by
  unfold ofSource
  split
  · rename_i other finished'
    rw [finished, Except.ok.injEq] at finished'
    rw [finished']
  · simp_all

/-- A scan holds the entries of the spans of its source, told apart into tokens and
diagnostics. The token that closes them stands on the last line of the source. -/
theorem ofSource_eq (source : List Char) :
    let entries := Entry.ofSpans 1 (spans source)
    ofSource source = {
      source
      tokens := entries.filterMap Entry.token? ++ [.endOfInput (1 + source.count '\n')]
      diagnostics := entries.filterMap Entry.diagnostic?
      errorCount := (entries.filterMap Entry.diagnostic?).length
      lastLine := 1 + source.count '\n' } := by
  have finished := Pass.finish_eq (.start source)
  have found := Pass.foldl_absorb (spans source) (.start source)
  change (Pass.start source).finish = .ok ((spans source).foldl _ _) at finished
  generalize (spans source).foldl _ _ = last at finished found
  obtain ⟨tokens, diagnostics, count, line⟩ := found
  rw [flatten_spans] at line
  rw [ofSource_of_finish finished, tokens, diagnostics, count, line]
  simp [Pass.start]

end Scan

end ScriptLexer
