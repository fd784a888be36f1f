import ScriptLexer.Proofs.Deliveries
import ScriptLexer.Proofs.PromptMode
import ScriptLexer.Proofs.ScriptMode

/-! Tokens and the lines they are printed on. A printed token has no character that ends a
line anywhere or acts on a terminal, whatever stands in its lexeme or its literal. So what a
run prints for a source has one line for each token, and no source can add, merge or alter a
line. -/
namespace ScriptLexer

open Text

/-- The characters at which one reader or another ends a line. -/
def Text.lineSeparators : List Char :=
  ['\n', '\x0b', '\x0c', '\r', '\x1c', '\x1d', '\x1e', '\x85', '\u2028', '\u2029']

/-- Nothing printable ends a line. -/
theorem Text.Printable.disjoint_lineSeparators {text : List Char} (printable : Printable text) :
    text.Disjoint lineSeparators := by
  have unprintable : lineSeparators.any isPrintable = false := by decide +kernel
  intro c member separator
  exact List.any_eq_false.mp unprintable c separator (printable c member)

theorem Token.escape_not_mem_print (token : Token) : escape ∉ token.print := by
  intro member
  exact absurd (token.printable_print escape member) (by decide)

namespace Command

/-- Scans a source with a reporter for what is wrong with it and prints its tokens. -/
def scanAndPrint (source : List Char) (reporter : Reporter) (sinks : Sinks) : Sinks :=
  let scan := Scan.ofSource source
  (tokenEvents scan.tokens).foldl Sinks.write (scan.report reporter sinks)

/-- What the console has on the standard output. -/
def printed (sinks : Sinks) : List Char :=
  sinks.console.toList.flatMap Event.standardOutput

/-- The text has a line for each token and no other character that could end a line. -/
structure OneLineEach (tokens : List Token) (text : List Char) : Prop where
  lines : splitLines text = tokens.map fun token => token.print ++ ['\n']
  separators : ∀ c ∈ text, c = '\n' ∨ isPrintable c = true

theorem oneLineEach_onLines (tokens : List Token) :
    OneLineEach tokens (onLines (tokens.map Token.print)) where
  lines := by
    rw [splitLines_onLines, List.map_map]
    · rfl
    · intro text member
      obtain ⟨token, _, rfl⟩ := List.mem_map.mp member
      exact token.printable_print.no_lineEnd
  separators c member := by
    obtain ⟨text, inside, here⟩ := List.mem_flatMap.mp member
    obtain ⟨token, _, rfl⟩ := List.mem_map.mp inside
    rcases List.mem_append.mp here with shown | lineEnd
    · exact .inr (token.printable_print c shown)
    · exact .inl (List.mem_singleton.mp lineEnd)

/-- Events are written one after another. -/
theorem console_foldl_write (events : List Event) (sinks : Sinks) :
    (events.foldl Sinks.write sinks).console.toList = sinks.console.toList ++ events := by
  induction events generalizing sinks with
  | nil => simp
  | cons event events ih =>
    rw [List.foldl_cons, ih]
    simp [Sinks.write]

/-- Whatever the reporter does with diagnostics, only tokens are printed. -/
theorem printed_scanAndPrint (source : List Char) (reporter : Reporter) (sinks : Sinks) :
    printed (scanAndPrint source reporter sinks) =
      printed sinks ++ onLines ((Scan.ofSource source).tokens.map Token.print) := by
  have delivered := Delivered.scan (Scan.ofSource source) reporter sinks
  rw [printed, scanAndPrint, console_foldl_write, List.flatMap_append, standardOutput_tokenEvents,
    delivered.output, printed]

/-- An answer at the prompt is a scan that reports to the console. -/
theorem answerLine_eq (line : List Char) :
    answerLine line = (scanAndPrint line .console Sinks.empty).console.toList := by
  rw [scanAndPrint, console_foldl_write]
  rfl

/-- The run of a script is a scan that reports to a collector, with the verdict behind it. -/
theorem scanScript_begins (path : Path) (source : List Char) :
    (scanAndPrint source (.collector 0) Scan.freshCollector).console.toList <+:
      (scanScript path source).events := by
  rw [scanAndPrint, console_foldl_write]
  exact ⟨_, by rw [← List.append_assoc]; rfl⟩

/-- Every printed token is printable to its last character and leaves the program as it is.
What a run prints for a source, whatever becomes of its diagnostics, are the tokens of the
source, one on a line and nothing else; so it is at the prompt and for a script. -/
theorem tokens_take_one_line_each :
    (∀ token : Token, Printable token.print ∧ token.print.Disjoint lineSeparators ∧
      escape ∉ token.print ∧ withoutControlSequences token.print = token.print) ∧
    (∀ source reporter sinks, ∃ text,
      printed (scanAndPrint source reporter sinks) = printed sinks ++ text ∧
      OneLineEach (Scan.ofSource source).tokens text) ∧
    (∀ line, answerLine line = (scanAndPrint line .console Sinks.empty).console.toList ∧
      OneLineEach (Scan.ofSource line).tokens
        ((answerLine line).flatMap Event.standardOutput)) ∧
    (∀ path source verbose,
      (scanAndPrint source (.collector 0) Scan.freshCollector).console.toList <+:
        (scanScript path source).events ∧
      OneLineEach (Scan.ofSource source).tokens
        ((scanScript path source).render verbose).stdout) := by
  refine ⟨?_, ?_, ?_, ?_⟩
  · intro token
    have printable := token.printable_print
    exact ⟨printable, printable.disjoint_lineSeparators, token.escape_not_mem_print,
      printable.withoutControlSequences_eq⟩
  · intro source reporter sinks
    exact ⟨_, printed_scanAndPrint source reporter sinks, oneLineEach_onLines _⟩
  · intro line
    refine ⟨answerLine_eq line, ?_⟩
    rw [standardOutput_answerLine]
    exact oneLineEach_onLines _
  · intro path source verbose
    refine ⟨scanScript_begins path source, ?_⟩
    have shown : ((scanScript path source).render verbose).stdout =
        onLines ((Scan.ofSource source).tokens.map Token.print) :=
      (scanScript_shows path source).stdout
    rw [shown]
    exact oneLineEach_onLines _

end Command

end ScriptLexer
