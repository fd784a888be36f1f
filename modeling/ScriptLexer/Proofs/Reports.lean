import ScriptLexer.Proofs.Deliveries
import ScriptLexer.Proofs.LongestMatch
import ScriptLexer.Proofs.QuotePairs

/-! What a scan reports. A span is reported if it is a character that begins no lexical class
or a string that is not closed, once and at its place, and no other span is. A string that is
not closed takes the rest of the source, so nothing comes after it but the end. -/
namespace ScriptLexer

open Source

variable {c : Char} {body after source : List Char} {reading : Reading} {place : Nat}
  {diagnostic : Diagnostic}

/-- A character with which no text of any lexical class begins. -/
def Source.BeginsNothing (c : Char) : Prop := ∀ text reading, ¬Lexeme (c :: text) reading

/-- What is wrong with a span that ends on `line`. -/
inductive Source.Faulty (line : Nat) : (span : List Char) → Diagnostic → Prop
  | unexpected {c : Char} (foreign : BeginsNothing c) : Faulty line [c] (.unexpectedCharacter [c] line)
  | unterminated {text : List Char} (unquoted : '"' ∉ text) :
      Faulty line ('"' :: text) (.unterminatedString line)

namespace Source

theorem beginsNothing_iff : BeginsNothing c ↔ opening c = .nothing := by
  constructor
  · intro foreign
    obtain ⟨body, reading, after, _, cut⟩ := exists_cut c []
    by_cases sound : ∀ fault, reading ≠ .fault fault
    · exact absurd (cut_lexeme cut sound) (foreign body reading)
    · cases cut with
      | openString => exact absurd (Lexeme.string List.not_mem_nil) (foreign _ _)
      | nothing begins => exact begins
      | _ => exact absurd (fun _ => Reading.noConfusion) sound
  · intro begins text reading
    exact unmatched_nothing begins text _ reading List.prefix_rfl

/-- What is reported about a first span is what is wrong with it. -/
theorem Cut.diagnostic?_iff (cut : Cut c body reading after) (line : Nat) :
    Entry.diagnostic? ⟨c :: body, reading, line⟩ = some diagnostic ↔
      Faulty line (c :: body) diagnostic := by
  constructor
  · intro reported
    cases reading with
    | token kind literal => cases reported
    | trivia => cases reported
    | fault fault =>
      cases reported
      cases cut with
      | openString inside => exact .unterminated fun member => inside '"' member rfl
      | nothing begins => exact .unexpected (beginsNothing_iff.mpr begins)
  · intro faulty
    -- A reading is a matter of the text of the span, so it is the one of the faulty text.
    have same := cut.read_eq
    cases faulty with
    | unexpected foreign =>
      have read : read [c] = .fault (.unexpectedCharacter c) := by
        rw [Source.read, readFrom, beginsNothing_iff.mp foreign]
      rw [← same, read]
      rfl
    | unterminated unquoted =>
      have inside : ∀ d ∈ body, d ≠ '"' := fun d member quote => unquoted (quote ▸ member)
      rw [← same, (Cut.openString inside).read_eq]
      rfl

end Source

namespace Pass

variable {pass : Pass}

/-- What a round reports, with the place at which its span begins. -/
def reports (before after : Pass) : List (Nat × Diagnostic) :=
  (after.diagnostics.drop before.diagnostics.length).map (after.cursor.start, ·)

/-- What the rounds of a scan report, one after another. -/
def reported (source : List Char) : List (Nat × Diagnostic) := (start source).gather reports

theorem reports_absorb (span : List Char) (reading : Reading) (pass : Pass) :
    reports pass (pass.absorb span reading) =
      (Entry.diagnostic? ⟨span, reading, pass.line + span.count '\n'⟩).toList.map
        (pass.cursor.current, ·) := by
  simp [reports, absorb, Cursor.skip, Cursor.markStart]

/-- The rounds report the spans that are faulty, and no others. -/
theorem mem_gather_reports :
    (place, diagnostic) ∈ pass.gather reports ↔
      ∃ head ∈ pass.heads.tail, head.cursor.start = place ∧
        Faulty head.line head.cursor.lexeme diagnostic := by
  induction pass using round_induction with
  | ended pass ended => simp [gather_of_end ended, heads_of_end ended]
  | rounds pass next taken ih =>
    obtain ⟨later, shape⟩ := List.head?_eq_some_iff.mp (head?_heads next)
    rw [gather_of_round taken, heads_of_round taken, List.tail_cons, List.mem_append, ih, shape]
    simp only [List.tail_cons, List.mem_cons, exists_eq_or_imp]
    refine or_congr ?_ Iff.rfl
    obtain ⟨c, body, reading, after, ahead, cut, rfl⟩ := round_inversion taken
    have lexeme : (pass.absorb (c :: body) reading).cursor.lexeme = c :: body :=
      lexeme_absorb ahead
    rw [reports_absorb, lexeme, start_absorb, line_absorb, ← cut.diagnostic?_iff]
    simp [and_comm]

/-- Later rounds report at later places. -/
theorem gather_reports_ascending (pass : Pass) :
    ((pass.gather reports).map Prod.fst).Pairwise (· < ·) ∧
      ∀ report ∈ pass.gather reports, pass.cursor.current ≤ report.1 := by
  induction pass using round_induction with
  | ended pass ended => simp [gather_of_end ended]
  | rounds pass next taken ih =>
    obtain ⟨ascending, behind⟩ := ih
    obtain ⟨c, body, reading, after, ahead, cut, rfl⟩ := round_inversion taken
    rw [current_absorb, List.length_cons] at behind
    have here : ∀ report ∈ reports pass (pass.absorb (c :: body) reading),
        report.1 = pass.cursor.current := by
      intro report member
      rw [reports_absorb] at member
      obtain ⟨diagnostic, _, rfl⟩ := List.mem_map.mp member
      rfl
    have single : ((reports pass (pass.absorb (c :: body) reading)).map Prod.fst).Pairwise
        (· < ·) := by
      rw [reports_absorb]
      cases Entry.diagnostic? ⟨c :: body, reading, pass.line + (c :: body).count '\n'⟩ <;> simp
    rw [gather_of_round taken, List.map_append, List.pairwise_append]
    refine ⟨⟨single, ascending, ?_⟩, ?_⟩
    · intro first new second old
      obtain ⟨report, reported, rfl⟩ := List.mem_map.mp new
      obtain ⟨report', reported', rfl⟩ := List.mem_map.mp old
      have early := here report reported
      have late := behind report' reported'
      omega
    · intro report member
      rcases List.mem_append.mp member with new | old
      · exact Nat.le_of_eq (here report new).symm
      · have late := behind report old
        omega

/-- What the rounds report are the diagnostics among all that they find. -/
theorem gather_reports (pass : Pass) :
    (pass.gather reports).map Prod.snd =
      (found pass.line pass.cursor.rest).filterMap Finding.diagnostic? := by
  rw [← gather_findings_eq]
  induction pass using round_induction with
  | ended pass ended => rw [gather_of_end ended, gather_of_end ended]; rfl
  | rounds pass next taken ih =>
    rw [gather_of_round taken, gather_of_round taken, List.map_append, List.filterMap_append, ih]
    congr 1
    obtain ⟨c, body, reading, after, ahead, cut, rfl⟩ := round_inversion taken
    rw [reports_absorb, findings_absorb, List.map_map]
    cases reading <;> rfl

end Pass

/-! ### Counts -/

/-- No more can be found in a text than it has characters. -/
theorem length_found_le (line : Nat) (source : List Char) :
    (found line source).length ≤ source.length := by
  induction source using source_induction generalizing line with
  | empty => exact Nat.le_refl 0
  | @span c body reading after cut ih =>
    have single : (Entry.finding? ⟨c :: body, reading, line + (c :: body).count '\n'⟩).toList.length
        ≤ 1 := by
      cases reading <;> simp [Entry.finding?]
    have later := ih (line + (c :: body).count '\n')
    rw [cut.found_eq, List.length_append]
    simp only [List.length_cons, List.length_append]
    omega

/-- Everything found is either a token or a diagnostic. -/
theorem Finding.length_token?_add_length_diagnostic? (findings : List Finding) :
    (findings.filterMap token?).length + (findings.filterMap diagnostic?).length =
      findings.length := by
  induction findings with
  | nil => rfl
  | cons finding findings ih => cases finding <;> simp [List.filterMap_cons, token?, diagnostic?] <;> omega

namespace Scan

/-- The string tokens of a scan are the strings found in its source. -/
theorem countP_string (source : List Char) :
    (ofSource source).tokens.countP (·.kind == .string) =
      (found 1 source).countP Finding.isString := by
  rw [tokens_eq, List.countP_append, List.countP_filterMap]
  refine congrArg (List.countP · _) (funext fun finding => ?_)
  cases finding <;> rfl

/-- Apart from the end of the source, tokens are what is found and not reported. -/
theorem countP_inner_le (source : List Char) :
    (ofSource source).tokens.countP (·.kind != .endOfInput) + (ofSource source).diagnostics.length ≤
      source.length := by
  have inner : (ofSource source).tokens.countP (·.kind != .endOfInput) ≤
      ((found 1 source).filterMap Finding.token?).length := by
    rw [tokens_eq, List.countP_append]
    exact List.countP_le_length
  have all := Finding.length_token?_add_length_diagnostic? (found 1 source)
  have few := length_found_le 1 source
  rw [diagnostics_eq]
  omega

/-- Without adjacent slashes in a source, its quotes tell how many strings it has, and
whether the last one is left open. -/
theorem strings_of_quotes (plain : ¬['/', '/'] <:+: source) :
    (ofSource source).tokens.countP (·.kind == .string) = source.count '"' / 2 ∧
      ((∃ line, .unterminatedString line ∈ (ofSource source).diagnostics) ↔
        source.count '"' % 2 = 1) := by
  have quotes := count_quote_eq plain 1
  have single := countP_isOpenString_le 1 source
  have opens : (∃ line, .unterminatedString line ∈ (ofSource source).diagnostics) ↔
      0 < (found 1 source).countP Finding.isOpenString := by
    simp only [mem_diagnostics, List.countP_pos_iff, Finding.isOpenString_iff]
    constructor
    · rintro ⟨line, member⟩
      exact ⟨_, member, line, rfl⟩
    · rintro ⟨_, member, line, rfl⟩
      exact ⟨line, member⟩
  rw [countP_string, opens]
  omega

end Scan

/-- How the reports on a source account for its spans. Each report has the place at which its
span begins. -/
structure Accounts (source : List Char) (reports : List (Nat × Diagnostic)) : Prop where
  diagnostics : reports.map Prod.snd = (Scan.ofSource source).diagnostics
  /-- No two reports are about the same place. -/
  ascending : (reports.map Prod.fst).Pairwise (· < ·)
  faulty : ∀ place diagnostic, (place, diagnostic) ∈ reports ↔
    ∃ head ∈ (Pass.start source).heads.tail, head.cursor.start = place ∧
      Faulty head.line head.cursor.lexeme diagnostic
  /-- What is found and the end of the source, in the order of finding. -/
  chronicle : (Pass.chronicle source).filterMap Finding.token? = (Scan.ofSource source).tokens ∧
    (Pass.chronicle source).filterMap Finding.diagnostic? = (Scan.ofSource source).diagnostics
  unterminated : ∀ line, .unterminatedString line ∈ (Scan.ofSource source).diagnostics →
    ∃ earlier, Pass.chronicle source =
        earlier ++ [.diagnostic (.unterminatedString line), .token (.endOfInput line)] ∧
      ∀ line', .diagnostic (.unterminatedString line') ∉ earlier
  /-- At the head of every round the counter tells how many reports there were so far. -/
  counter : ∀ head ∈ (Pass.start source).heads, head.errorCount = head.diagnostics.length
  /-- The scanner counts all reports, whatever its reporter does with them. -/
  counted : ∀ reporter sinks, ∃ used after,
    (Scanner.ofSource source reporter).scanAll? sinks =
        some ((Scan.ofSource source).tokens, used, after) ∧
      used.errorCount = reports.length ∧
      Delivered (reporter.arrivals (reports.map Prod.snd)) sinks after
  few : (Scan.ofSource source).tokens.countP (·.kind != .endOfInput) + reports.length ≤
    source.length

/-- The reports on a source stand in the order of their places, one for each span that is
faulty and none for any other. A string that is not closed is reported last, at most once, and
only the token for the end of the source comes after it, on the same line. The scanner counts
the reports, and there are no more tokens and reports than characters. If no two slashes are
adjacent in the source, half its quotes, rounded down, is the number of its string tokens, and
a string is left open exactly if the number of quotes is odd. -/
theorem reports_account (source : List Char) :
    Accounts source (Pass.reported source) ∧
      (¬['/', '/'] <:+: source →
        (Scan.ofSource source).tokens.countP (·.kind == .string) = source.count '"' / 2 ∧
          ((∃ line, .unterminatedString line ∈ (Scan.ofSource source).diagnostics) ↔
            source.count '"' % 2 = 1)) := by
  have diagnostics : (Pass.reported source).map Prod.snd = (Scan.ofSource source).diagnostics := by
    rw [Scan.diagnostics_eq]
    exact Pass.gather_reports (.start source)
  have count : (Pass.reported source).length = (Scan.ofSource source).diagnostics.length := by
    rw [← diagnostics, List.length_map]
  refine ⟨⟨diagnostics, (Pass.gather_reports_ascending _).1,
    fun place diagnostic => Pass.mem_gather_reports, ?_, ?_, Pass.heads_counted source, ?_, ?_⟩,
    Scan.strings_of_quotes⟩
  · rw [Pass.chronicle_eq, List.filterMap_append, List.filterMap_append, Scan.tokens_eq,
      Scan.diagnostics_eq]
    exact ⟨rfl, List.append_nil _⟩
  · intro line reported
    obtain ⟨earlier, shape, last, others⟩ :=
      exists_before_open (Scan.mem_diagnostics.mp reported)
    refine ⟨earlier, ?_, fun line' member => others _ member rfl⟩
    rw [Pass.chronicle_eq, shape, Scan.lastLine_eq, last, List.append_assoc]
    rfl
  · intro reporter sinks
    refine ⟨_, _, rfl, (Scan.errorCount_eq source).trans count.symm, ?_⟩
    rw [diagnostics]
    exact Delivered.scan (Scan.ofSource source) reporter sinks
  · rw [count]
    exact Scan.countP_inner_le source

/-- A slash in a string, a numeral that can only go on with a name, and a string that is left
open behind a line end. -/
theorem reports_account_open :
    let source := "@\"a/b\"²\n\"x\n".toList
    ¬['/', '/'] <:+: source ∧
      Pass.reported source =
        [(0, .unexpectedCharacter ['@'] 1), (6, .unexpectedCharacter ['²'] 1),
          (8, .unterminatedString 3)] ∧
      (∃ earlier, Pass.chronicle source =
          earlier ++ [.diagnostic (.unterminatedString 3), .token (.endOfInput 3)] ∧
        ∀ line, .diagnostic (.unterminatedString line) ∉ earlier) ∧
      (Scan.ofSource source).tokens.countP (·.kind == .string) = 1 ∧
      ∃ line, .unterminatedString line ∈ (Scan.ofSource source).diagnostics := by
  intro source
  have plain : ¬['/', '/'] <:+: source := by
    simp [source, List.infix_cons_iff, List.prefix_cons_iff]
  obtain ⟨accounts, pairs⟩ := reports_account source
  obtain ⟨strings, opens⟩ := pairs plain
  have quotes : source.count '"' = 3 := by decide +kernel
  have member : .unterminatedString 3 ∈ (Scan.ofSource source).diagnostics := by decide +kernel
  rw [quotes] at strings opens
  exact ⟨plain, by decide +kernel, accounts.unterminated 3 member, strings, opens.mpr rfl⟩

end ScriptLexer
