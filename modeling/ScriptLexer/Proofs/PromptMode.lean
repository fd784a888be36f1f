import Mathlib.Data.List.TakeWhile
import ScriptLexer.Proofs.Deliveries
import ScriptLexer.Proofs.Outcomes

/-! Prompt mode over a whole session. Each line that is entered is answered with the scan
of that line alone, and the answers stand one after another with the prompt between them.
A blank line ends the session like the end of the input, so nothing behind it shows. -/
namespace ScriptLexer

open Text

/-- Nothing is left of a text without its white space exactly if there is nothing else. -/
theorem Text.trim_eq_nil_iff (text : List Char) : trim text = [] ↔ text.all isBlank = true := by
  rw [trim, List.reverse_eq_nil_iff, List.dropWhile_eq_nil_iff, List.all_eq_true]
  constructor
  · intro blank
    by_contra other
    have left : text.dropWhile isBlank ≠ [] := mt List.dropWhile_eq_nil_iff.mp other
    have first := List.head_dropWhile_not isBlank left
    rw [blank _ (List.mem_reverse.mpr (List.head_mem left))] at first
    cases first
  · intro blank c member
    exact blank c ((List.dropWhile_sublist _).mem (List.mem_reverse.mp member))

/-- What a scan reports is shown as a line number and a message. -/
theorem Scan.print_diagnostic {source : List Char} {diagnostic : Diagnostic}
    (reported : diagnostic ∈ (ofSource source).diagnostics) :
    diagnostic.print = "[line ".toList ++ signedDecimal diagnostic.line ++ "] Error: ".toList ++
      diagnostic.message := by
  obtain ⟨number, fault, rfl⟩ := exists_fault reported
  have nowhere : (fault.diagnostic number).place = [] := by cases fault <;> rfl
  have lead : "] Error".toList ++ ": ".toList = "] Error: ".toList := by decide
  unfold Diagnostic.print
  rw [nowhere, List.append_nil]
  exact congrArg (· ++ (fault.diagnostic number).message)
    ((List.append_assoc _ _ _).trans (congrArg (_ ++ ·) lead))

namespace Command

variable {arguments : List (List Char)} {environment : Environment} {prompt : List Char}

/-- The answer to a line shows its tokens, one on a line. -/
theorem standardOutput_answerLine (line : List Char) :
    (answerLine line).flatMap Event.standardOutput =
      onLines ((Scan.ofSource line).tokens.map Token.print) := by
  have delivered := Delivered.scan_single (Scan.ofSource line) .console Sinks.empty
  rw [answerLine, List.flatMap_append, standardOutput_tokenEvents]
  exact congrArg (· ++ onLines _) delivered.output

/-- The answer to a line shows what is wrong with it, each diagnostic on a line. -/
theorem standardError_answerLine (line : List Char) :
    (answerLine line).flatMap (Event.standardError false) =
      onLines ((Scan.ofSource line).diagnostics.map Diagnostic.print) := by
  have delivered := Delivered.scan_single (Scan.ofSource line) .console Sinks.empty
  have plain (diagnostic) (reported : diagnostic ∈ (Scan.ofSource line).diagnostics) :
      diagnostic.shownLine = diagnostic.print ++ ['\n'] := by
    rw [Diagnostic.shownLine, (Scan.printable_diagnostic reported).withoutControlSequences_eq]
  rw [answerLine, List.flatMap_append, standardError_tokenEvents, List.append_nil, onLines,
    List.flatMap_map, ← List.flatMap_congr plain]
  exact delivered.console

/-- The lines up to the first one that is blank. -/
def entered (lines : List (List Char)) : List (List Char) :=
  lines.takeWhile fun line => trim line ≠ []

/-- What a session at the prompt shows that ends without a failure: the prompt and, for
each line entered, the tokens of this line on a line each and the prompt again. -/
def session (prompt : List Char) (lines : List (List Char)) : Visible :=
  { exit := 0
    stdout := withoutControlSequences prompt ++ (entered lines).flatMap fun line =>
      onLines ((Scan.ofSource line).tokens.map Token.print) ++ withoutControlSequences prompt
    stderr := (entered lines).flatMap fun line =>
      onLines ((Scan.ofSource line).diagnostics.map Diagnostic.print) }

/-- The end of the input shows the prompt once. -/
theorem render_end (prompt : List Char) :
    (Outcome.done.after [promptEvent prompt]).render false = session prompt [] := by
  simp [Outcome.render, Outcome.after, Outcome.done, promptEvent, session, entered,
    Event.standardOutput, Event.standardError, ExitStatus.code]

/-- A blank line ends a session. -/
theorem session_blank {line : List Char} (blank : trim line = []) (later : List (List Char)) :
    session prompt (line :: later) = session prompt [] := by
  simp [session, entered, blank]

/-- Any other line is answered, and the session goes on as if it began behind it. -/
theorem session_cons {line : List Char} (solid : trim line ≠ []) (lines : List (List Char)) :
    session prompt (line :: lines) =
      { exit := (session prompt lines).exit
        stdout := withoutControlSequences prompt ++
          onLines ((Scan.ofSource line).tokens.map Token.print) ++ (session prompt lines).stdout
        stderr := onLines ((Scan.ofSource line).diagnostics.map Diagnostic.print) ++
          (session prompt lines).stderr } := by
  simp [session, entered, solid]

/-- A session shows its prompt first, and answers the first line unless it is blank. -/
theorem runPrompt_cons (prompt line : List Char) (lines : List (List Char))
    (failure : Option Failure) :
    runPrompt prompt ⟨line :: lines, failure⟩ =
      if trim line = [] then Outcome.done.after [promptEvent prompt]
      else (runPrompt prompt ⟨lines, failure⟩).after (promptEvent prompt :: answerLine line) := by
  have ends : endsSession line = true ↔ trim line = [] := (trim_eq_nil_iff line).symm
  unfold runPrompt converse
  rw [answer]
  simp only [← ends]
  cases endsSession line with
  | true => rfl
  | false => simp [Outcome.after, Input.ending]

/-- A session shows what its lines show, and is over at the end of the input. -/
theorem runPrompt_shows (prompt : List Char) (lines : List (List Char)) :
    (runPrompt prompt ⟨lines, none⟩).render false = session prompt lines := by
  induction lines with
  | nil => exact render_end prompt
  | cons line lines ih =>
    rw [runPrompt_cons]
    by_cases blank : trim line = []
    · rw [if_pos blank, render_end, session_blank blank]
    · rw [if_neg blank, session_cons blank, Outcome.render_after, List.flatMap_cons,
        List.flatMap_cons, standardOutput_answerLine, standardError_answerLine, ih]
      rfl

/-- Nothing behind a blank line makes a difference. -/
theorem runPrompt_blank {blank : List Char} (ends : trim blank = [])
    (before later : List (List Char)) (failure : Option Failure) :
    runPrompt prompt ⟨before ++ blank :: later, failure⟩ = runPrompt prompt ⟨before, none⟩ := by
  induction before with
  | nil =>
    rw [List.nil_append, runPrompt_cons, if_pos ends]
    rfl
  | cons line before ih => rw [List.cons_append, runPrompt_cons, runPrompt_cons, ih]

/-- Without verbose output, a run without scripts is a session at the prompt. Every
diagnostic in it takes one line that says where it belongs. Where a line is blank, the
session is over as it is at the end of the input. -/
theorem run_shows_session (asked : Asks arguments environment [] ⟨prompt, false⟩) :
    (∀ read lines, run arguments environment read ⟨lines, none⟩ = session prompt lines) ∧
    (∀ line, ∀ diagnostic ∈ (Scan.ofSource line).diagnostics,
      diagnostic.print = "[line ".toList ++ signedDecimal diagnostic.line ++
        "] Error: ".toList ++ diagnostic.message ∧ '\n' ∉ diagnostic.print) ∧
    (∀ read before blank later failure, trim blank = [] →
      run arguments environment read ⟨before ++ blank :: later, failure⟩ =
        run arguments environment read ⟨before, none⟩) := by
  refine ⟨?_, ?_, ?_⟩
  · intro read lines
    rw [asked.run_prompt]
    exact runPrompt_shows prompt lines
  · intro line diagnostic reported
    exact ⟨Scan.print_diagnostic reported, (Scan.printable_diagnostic reported).no_lineEnd⟩
  · intro read before blank later failure ends
    rw [asked.run_prompt, asked.run_prompt, runPrompt_blank ends]

/-- A string that is open at the end of its line does not reach into the next one, a line
of one ideographic space ends the session, and the prompt is shown without its color. -/
theorem run_shows_open_string_alone :
    let prompt := "\x1b[32m> ".toList
    let lines := ["\"a\n".toList, "b\n".toList]
    let later := ["\u3000\n".toList, "@".toList]
    let run := fun lines => run ["--prompt".toList, prompt] ⟨none, none⟩
      (fun _ => .error .missing) ⟨lines, none⟩
    run (lines ++ later) = run lines ∧ (run lines).exit = 0 ∧
      (run lines).stdout = "> Token(EOF, '', None, 2)\n".toList ++
        "> Token(IDENTIFIER, 'b', None, 1)\nToken(EOF, '', None, 2)\n> ".toList ∧
      (run lines).stderr = "[line 2] Error: Unterminated string\n".toList := by
  intro prompt lines later run
  obtain ⟨shows, _, stops⟩ := run_shows_session (asks_prompt prompt)
  have shown : run lines = session prompt lines := shows _ lines
  refine ⟨stops _ lines _ ["@".toList] none (by decide), ?_⟩
  rw [shown]
  decide +kernel

end Command

end ScriptLexer
