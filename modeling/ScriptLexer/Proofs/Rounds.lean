import Mathlib.Data.List.Chain
import ScriptLexer.Source.Scan

/-! The rounds of a pass in their order. What one round keeps holds at the head of
every round, what one round does holds of all of them, and the scan of a source is
what the pass holds after the last. -/
namespace ScriptLexer.Pass

open Source

variable {pass next last : Pass} {source span after : List Char}

/-- The pass as it stands at the head of each round, and once more when nothing is
left to begin a round with. A round that failed would break the list off. -/
def heads (pass : Pass) : List Pass :=
  if pass.cursor.atEnd then [pass]
  else
    match _taken : pass.round with
    | .error _ => [pass]
    | .ok next => pass :: next.heads
termination_by pass.cursor.rest.length
decreasing_by exact round_shortens _taken

/-- What holds at the end of a source, and before a round if it holds after it, holds
at all times: no round fails, and each leaves less of the source. -/
theorem round_induction {motive : Pass → Prop}
    (ended : ∀ pass, pass.cursor.rest = [] → motive pass)
    (rounds : ∀ pass next, pass.round = .ok next → motive next → motive pass)
    (pass : Pass) : motive pass := by
  cases ahead : pass.cursor.rest with
  | nil => exact ended pass ahead
  | cons c rest =>
    obtain ⟨body, reading, after, rfl, cut⟩ := exists_cut c rest
    have taken := round_eq cut ahead
    exact rounds pass _ taken (round_induction ended rounds _)
termination_by pass.cursor.rest.length
decreasing_by exact round_shortens taken

theorem heads_of_end (ended : pass.cursor.rest = []) : pass.heads = [pass] := by
  rw [heads, if_pos (Cursor.atEnd_iff.mpr ended)]

theorem heads_of_round (taken : pass.round = .ok next) : pass.heads = pass :: next.heads := by
  obtain ⟨c, body, reading, after, ahead, _⟩ := round_inversion taken
  rw [heads, Cursor.atEnd_of_rest ahead]
  simp only [Bool.false_eq_true, ↓reduceIte]
  split
  · simp_all
  · rename_i other taken'
    rw [taken, Except.ok.injEq] at taken'
    rw [taken']

theorem head?_heads (pass : Pass) : pass.heads.head? = some pass := by
  induction pass using round_induction with
  | ended pass ended => simp [heads_of_end ended]
  | rounds pass next taken ih => simp [heads_of_round taken]

/-- The last head is where the pass finishes. -/
theorem getLast?_heads (finished : pass.finish = .ok last) : pass.heads.getLast? = some last := by
  induction pass using round_induction with
  | ended pass ended =>
    rw [finish_of_end ended, Except.ok.injEq] at finished
    rw [heads_of_end ended, finished, List.getLast?_singleton]
  | rounds pass next taken ih =>
    rw [finish_of_round taken] at finished
    simp [heads_of_round taken, List.getLast?_cons, ih finished]

/-- A pass finishes only with its whole source taken. -/
theorem rest_of_finish (finished : pass.finish = .ok last) : last.cursor.rest = [] := by
  induction pass using round_induction with
  | ended pass ended =>
    rw [finish_of_end ended, Except.ok.injEq] at finished
    rw [← finished, ended]
  | rounds pass next taken ih => exact ih (by rw [← finish_of_round taken, finished])

/-- What each round keeps holds at every head, if it holds at the first. -/
theorem heads_keep {Kept : Pass → Prop} (first : Kept pass)
    (step : ∀ before after, Kept before → before.round = .ok after → Kept after) :
    ∀ head ∈ pass.heads, Kept head := by
  induction pass using round_induction with
  | ended pass ended => simpa [heads_of_end ended] using first
  | rounds pass next taken ih =>
    rw [heads_of_round taken]
    intro head member
    rcases List.mem_cons.mp member with rfl | later
    · exact first
    · exact ih (step pass next first taken) head later

/-- What a round does wherever an invariant holds, every round of the pass does. -/
theorem heads_chain {Kept : Pass → Prop} {Does : Pass → Pass → Prop} (first : Kept pass)
    (step : ∀ before after, Kept before → before.round = .ok after → Kept after)
    (does : ∀ before after, Kept before → before.round = .ok after → Does before after) :
    pass.heads.IsChain Does := by
  induction pass using round_induction with
  | ended pass ended => simp [heads_of_end ended]
  | rounds pass next taken ih =>
    have later := ih (step pass next first taken)
    rw [heads_of_round taken]
    cases shape : next.heads with
    | nil => simp
    | cons head heads =>
      have same : head = next := by
        have begins := head?_heads next
        simpa [shape] using begins
      rw [shape] at later
      exact List.isChain_cons_cons.mpr ⟨same ▸ does pass next first taken, later⟩

/-- What the rounds of a pass give, one after another, where each gives what `gives`
reads off the pass before it and after it. -/
def gather {α : Type} (gives : Pass → Pass → List α) (pass : Pass) : List α :=
  (pass.heads.zipWith gives pass.heads.tail).flatten

theorem gather_of_end {α : Type} {gives : Pass → Pass → List α}
    (ended : pass.cursor.rest = []) : pass.gather gives = [] := by
  simp [gather, heads_of_end ended]

theorem gather_of_round {α : Type} {gives : Pass → Pass → List α}
    (taken : pass.round = .ok next) :
    pass.gather gives = gives pass next ++ next.gather gives := by
  obtain ⟨later, shape⟩ := List.head?_eq_some_iff.mp (head?_heads next)
  simp [gather, heads_of_round taken, shape]

/-- The rounds of a pass take the spans of what is left of its source, in their order. -/
theorem lexemes_heads (pass : Pass) :
    pass.heads.tail.map (·.cursor.lexeme) = spans pass.cursor.rest := by
  induction pass using round_induction with
  | ended pass ended =>
    rw [heads_of_end ended, ended]
    rfl
  | rounds pass next taken ih =>
    obtain ⟨later, shape⟩ := List.head?_eq_some_iff.mp (head?_heads next)
    obtain ⟨c, body, reading, behind, ahead, cut, rfl⟩ := round_inversion taken
    rw [shape, List.tail_cons, rest_absorb ahead] at ih
    rw [heads_of_round taken, List.tail_cons, shape, List.map_cons, ih, lexeme_absorb ahead,
      ahead, cut.spans_eq]

/-- A pass goes through blanks and line ends and finds nothing in them. -/
theorem finish_of_blanks {blanks : List Char}
    (blank : ∀ d ∈ blanks, isPadding d = true ∨ d = '\n')
    (ahead : pass.cursor.rest = blanks ++ after) :
    ∃ moved : Pass, pass.finish = moved.finish ∧ moved.cursor.rest = after ∧
      moved.line = pass.line + blanks.count '\n' ∧ moved.tokens = pass.tokens ∧
      moved.diagnostics = pass.diagnostics := by
  induction blanks generalizing pass with
  | nil => exact ⟨pass, rfl, ahead, rfl, rfl, rfl⟩
  | cons d blanks ih =>
    obtain ⟨first, others⟩ := List.forall_mem_cons.mp blank
    have cut : Cut d [] .trivia (blanks ++ after) := by
      rcases first with padding | rfl
      · exact .padding padding
      · exact .lineEnd
    have taken : pass.round = .ok (pass.absorb [d] .trivia) := round_eq cut ahead
    have behind : (pass.absorb [d] .trivia).cursor.rest = blanks ++ after := rest_absorb ahead
    obtain ⟨tokens, diagnostics⟩ := absorb_trivia [d] pass
    obtain ⟨moved, finished, rest, line, tokens', diagnostics'⟩ :=
      ih others behind
    refine ⟨moved, (finish_of_round taken).trans finished, rest, ?_, tokens'.trans tokens,
      diagnostics'.trans diagnostics⟩
    rw [line, line_absorb, Nat.add_assoc, ← List.count_append]
    rfl

/-- The counter of errors tells how many diagnostics a pass has. -/
def Counted (pass : Pass) : Prop := pass.errorCount = pass.diagnostics.length

/-- A round adds no diagnostic that it does not count. -/
theorem Counted.round (counted : pass.Counted) (taken : pass.round = .ok next) : next.Counted := by
  obtain ⟨c, body, reading, after, _, _, rfl⟩ := round_inversion taken
  rw [Counted] at counted
  simp [Counted, absorb, counted]

theorem heads_counted (source : List Char) : ∀ head ∈ (start source).heads, head.Counted :=
  heads_keep rfl fun _ _ counted taken => counted.round taken

/-- A pass that stands somewhere in a source, or at its end. -/
structure Within (source : List Char) (pass : Pass) : Prop where
  source_eq : pass.cursor.source = source.toArray
  current_le : pass.cursor.current ≤ source.length

theorem within_start (source : List Char) : Within source (start source) :=
  ⟨rfl, Nat.zero_le _⟩

theorem Within.rest_eq (within : Within source pass) :
    pass.cursor.rest = source.drop pass.cursor.current := by
  rw [Cursor.rest, within.source_eq]

theorem Within.room (within : Within source pass) (ahead : pass.cursor.rest = span ++ after) :
    pass.cursor.current + span.length ≤ source.length := by
  have bound := within.current_le
  have length := congrArg List.length (ahead.symm.trans within.rest_eq)
  simp at length
  omega

/-- A round moves on by the span it takes, and the span is part of the source. -/
theorem Within.round (within : Within source pass) (taken : pass.round = .ok next) :
    Within source next := by
  obtain ⟨c, body, reading, after, ahead, _, rfl⟩ := round_inversion taken
  exact ⟨within.source_eq, within.room ahead⟩

theorem heads_within (source : List Char) : ∀ head ∈ (start source).heads, Within source head :=
  heads_keep (within_start source) fun _ _ within taken => within.round taken

end ScriptLexer.Pass

namespace ScriptLexer.Scan

open Pass

/-- What a scan has counted are its diagnostics. -/
theorem errorCount_eq (source : List Char) :
    (ofSource source).errorCount = (ofSource source).diagnostics.length := by
  have finished := finish_eq (start source)
  have counted := heads_counted source _ (List.mem_of_getLast? (getLast?_heads finished))
  rw [ofSource_of_finish finished]
  exact counted

end ScriptLexer.Scan
