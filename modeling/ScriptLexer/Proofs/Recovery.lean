import Mathlib.Data.List.Forall2
import ScriptLexer.Proofs.Rounds

/-! Recovery from faults. A source is repaired by putting spaces in the place of what
was reported. Nothing else depends on what stood there: the repaired source has no
faults, and exactly the tokens of the source that it came from. -/
namespace ScriptLexer

open Source

variable {c : Char} {body span text after later : List Char} {reading : Reading}
  {pass next last other : Pass}

namespace Source

/-- A line end stays, and any other character becomes a space. -/
def blank (c : Char) : Char := if c = '\n' then c else ' '

/-- What may stand in a repaired source in the place of a character. -/
def Masked (c replaced : Char) : Prop := replaced = c ∨ c ≠ '\n' ∧ replaced = ' '

theorem masked_blank (c : Char) : Masked c (blank c) := by
  unfold blank
  split
  · exact .inl rfl
  · exact .inr ⟨‹_›, rfl⟩

theorem masked_self (text : List Char) : List.Forall₂ Masked text text := by
  rw [List.forall₂_same]
  intro c _
  exact .inl rfl

theorem masked_map_blank (text : List Char) : List.Forall₂ Masked text (text.map blank) := by
  rw [List.forall₂_map_right_iff, List.forall₂_same]
  intro c _
  exact masked_blank c

theorem blank_blanks (text : List Char) :
    ∀ d ∈ text.map blank, isPadding d = true ∨ d = '\n' := by
  intro d member
  obtain ⟨c, _, rfl⟩ := List.mem_map.mp member
  by_cases lineEnd : c = '\n'
  · right
    simp [blank, lineEnd]
  · left
    simp [blank, lineEnd, isPadding]

/-- Repairing a text keeps its line ends. -/
theorem count_map_blank (text : List Char) : (text.map blank).count '\n' = text.count '\n' := by
  induction text with
  | nil => rfl
  | cons c text ih => by_cases lineEnd : c = '\n' <;> simp [blank, lineEnd, ih]

theorem Masked.of_ne_space {replaced : Char} (masked : Masked c replaced) (kept : replaced ≠ ' ') :
    c = replaced := by
  rcases masked with same | ⟨_, space⟩
  · exact same.symm
  · exact absurd space kept

/-- No span reaches further when what follows it is repaired. -/
theorem yields_of_masked (masked : List.Forall₂ Masked after later) : Yields after later where
  head := by
    cases masked with
    | nil => simp
    | cons first others =>
      rcases first with rfl | ⟨_, rfl⟩
      · simp
      · simp [separators]
  point := by
    rintro d rest rfl digit
    cases masked with
    | cons point masked =>
      cases masked with
      | cons places masked =>
        have notSpace : d ≠ ' ' := by rintro rfl; cases digit
        exact ⟨_, by rw [point.of_ne_space (by decide), places.of_ne_space notSpace]⟩
  lineEnd := by
    intro stops
    cases masked with
    | nil => simp
    | cons first others =>
      rcases first with rfl | ⟨notLineEnd, _⟩
      · exact stops
      · exact absurd (stops _ rfl) notLineEnd

end Source

namespace Pass

/-- What stands in the repaired source for the span of a round: a space for a character
that was reported, blanks for a string that was, and otherwise the span. -/
def repair (before after : Pass) : List Char :=
  match after.diagnostics.drop before.diagnostics.length with
  | [] => after.cursor.lexeme
  | .unterminatedString _ :: _ => after.cursor.lexeme.map blank
  | _ :: _ => after.cursor.lexeme.map fun _ => ' '

/-- The source with everything that was reported about it masked by spaces. -/
def repaired (source : List Char) : List Char := (start source).gather repair

theorem repair_sound (ahead : pass.cursor.rest = c :: (body ++ after))
    (sound : ∀ fault, reading ≠ .fault fault) :
    repair pass (pass.absorb (c :: body) reading) = c :: body := by
  have lexeme : (pass.absorb (c :: body) reading).cursor.lexeme = c :: body := lexeme_absorb ahead
  cases reading with
  | token kind literal => simp [repair, (absorb_token (c :: body) kind literal pass).2, lexeme]
  | trivia => simp [repair, (absorb_trivia (c :: body) pass).2, lexeme]
  | fault fault => exact absurd rfl (sound fault)

theorem repair_fault {fault : Fault} (cut : Cut c body (.fault fault) after)
    (ahead : pass.cursor.rest = c :: (body ++ after)) :
    repair pass (pass.absorb (c :: body) (.fault fault)) = (c :: body).map blank := by
  have lexeme : (pass.absorb (c :: body) (.fault fault)).cursor.lexeme = c :: body :=
    lexeme_absorb ahead
  rw [repair, (absorb_fault (c :: body) fault pass).2, List.drop_left, lexeme]
  cases cut with
  | openString inside => rfl
  | nothing begins =>
    have notLineEnd : c ≠ '\n' := by rintro rfl; cases begins
    simp [Fault.diagnostic, blank, notLineEnd]

/-- A repaired source differs from its source in spaces only, none of them in the place
of a line end. -/
theorem masked_gather (pass : Pass) :
    List.Forall₂ Masked pass.cursor.rest (pass.gather repair) := by
  induction pass using round_induction with
  | ended pass ended => simp [gather_of_end ended, ended]
  | rounds pass next taken ih =>
    rw [gather_of_round taken]
    obtain ⟨c, body, reading, after, ahead, cut, rfl⟩ := round_inversion taken
    rw [rest_absorb ahead] at ih
    rw [ahead]
    cases reading with
    | fault fault =>
      rw [repair_fault cut ahead]
      exact List.rel_append (masked_map_blank (c :: body)) ih
    | token | trivia =>
      rw [repair_sound ahead (by simp)]
      exact List.rel_append (masked_self (c :: body)) ih

/-- `other` stands in a repaired source where `pass` stands in the source itself, on the
same line and with the same tokens, and has nothing to report. -/
structure Repairs (pass other : Pass) : Prop where
  rest_eq : other.cursor.rest = pass.gather repair
  line_eq : other.line = pass.line
  tokens_eq : other.tokens = pass.tokens
  sound : other.diagnostics = []

/-- A span that was not reported is a span of the repaired source as well. -/
theorem Repairs.sound_round (repairs : Repairs pass other) (cut : Cut c body reading after)
    (ahead : pass.cursor.rest = c :: (body ++ after)) (sound : ∀ fault, reading ≠ .fault fault) :
    ∃ moved : Pass, other.finish = moved.finish ∧
      Repairs (pass.absorb (c :: body) reading) moved := by
  -- The span sees what follows it after repair, so faults there must not lengthen it.
  have masked := masked_gather (pass.absorb (c :: body) reading)
  rw [rest_absorb ahead] at masked
  have cut' := cut.yield (yields_of_masked masked) (sound _)
  have ahead' : other.cursor.rest =
      c :: (body ++ (pass.absorb (c :: body) reading).gather repair) := by
    rw [repairs.rest_eq, gather_of_round (round_eq cut ahead), repair_sound ahead sound]
    rfl
  refine ⟨_, finish_of_round (round_eq cut' ahead'), rest_absorb ahead', ?_, ?_, ?_⟩
  · simp [repairs.line_eq]
  · simp [absorb, repairs.line_eq, repairs.tokens_eq]
  · cases reading with
    | token kind literal => exact (absorb_token _ kind literal other).2.trans repairs.sound
    | trivia => exact (absorb_trivia _ other).2.trans repairs.sound
    | fault fault => exact absurd rfl (sound fault)

/-- In the place of a span that was reported there are only blanks. -/
theorem Repairs.fault_round {fault : Fault} (repairs : Repairs pass other)
    (cut : Cut c body (.fault fault) after) (ahead : pass.cursor.rest = c :: (body ++ after)) :
    ∃ moved : Pass, other.finish = moved.finish ∧
      Repairs (pass.absorb (c :: body) (.fault fault)) moved := by
  have ahead' : other.cursor.rest =
      (c :: body).map blank ++ (pass.absorb (c :: body) (.fault fault)).gather repair := by
    rw [repairs.rest_eq, gather_of_round (round_eq cut ahead), repair_fault cut ahead]
  obtain ⟨moved, finished, rest, line, tokens, diagnostics⟩ :=
    finish_of_blanks (blank_blanks (c :: body)) ahead'
  refine ⟨moved, finished, rest, ?_, ?_, diagnostics.trans repairs.sound⟩
  · rw [line, count_map_blank, repairs.line_eq, line_absorb]
  · rw [tokens, repairs.tokens_eq, (absorb_fault _ _ pass).1]

theorem Repairs.finish (repairs : Repairs pass other) (finished : pass.finish = .ok last) :
    ∃ closing : Pass, other.finish = .ok closing ∧ Repairs last closing := by
  induction pass using round_induction generalizing other with
  | ended pass ended =>
    obtain rfl : pass = last := by simpa [finish_of_end ended] using finished
    exact ⟨other, finish_of_end (repairs.rest_eq.trans (gather_of_end ended)), repairs⟩
  | rounds pass next taken ih =>
    rw [finish_of_round taken] at finished
    obtain ⟨moved, same, repairs'⟩ :
        ∃ moved : Pass, other.finish = moved.finish ∧ Repairs next moved := by
      obtain ⟨c, body, reading, after, ahead, cut, rfl⟩ := round_inversion taken
      cases reading with
      | fault fault => exact repairs.fault_round cut ahead
      | token | trivia => exact repairs.sound_round cut ahead (by simp)
    rw [same]
    exact ih repairs' finished

/-- If each character that was reported is replaced by a space, and so is all but the line
ends of a string that is not closed, then there is nothing left to report, and the
tokens are those of the source: the same kinds, lexemes, literals and lines. -/
theorem recovery_keeps_tokens (source : List Char) :
    List.Forall₂ Masked source (repaired source) ∧
      (Scan.ofSource (repaired source)).diagnostics = [] ∧
      (Scan.ofSource (repaired source)).tokens = (Scan.ofSource source).tokens := by
  obtain ⟨last, finished⟩ : ∃ last, (start source).finish = .ok last := ⟨_, finish_eq _⟩
  have begins : Repairs (start source) (start (repaired source)) := ⟨rfl, rfl, rfl, rfl⟩
  obtain ⟨closing, finished', repairs⟩ := begins.finish finished
  refine ⟨masked_gather (start source), ?_, ?_⟩
  · rw [Scan.ofSource_of_finish finished', repairs.sound]
  · rw [Scan.ofSource_of_finish finished', Scan.ofSource_of_finish finished, repairs.tokens_eq,
      repairs.line_eq]

end Pass

end ScriptLexer
