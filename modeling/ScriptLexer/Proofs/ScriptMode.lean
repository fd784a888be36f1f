import ScriptLexer.Proofs.CollectorHistories
import ScriptLexer.Proofs.Deliveries
import ScriptLexer.Proofs.Outcomes
import ScriptLexer.Proofs.Utf8

/-! Script mode from the bytes of a file to what the command shows. The tokens of the
script are printed one on a line, whether anything is wrong with it or not; what is wrong
follows on the standard error stream as one report, and decides the exit status. Bytes
that are no text show nothing but an error, and the three line ends show the same. -/
namespace ScriptLexer

open Text

/-- Printable texts on several lines are written as they are. -/
theorem Text.withoutControlSequences_joinLines {texts : List (List Char)}
    (printable : ∀ text ∈ texts, Printable text) :
    withoutControlSequences (joinLines texts) = joinLines texts := by
  apply withoutControlSequences_of_not_mem
  intro member
  have within : escape ∈ onLines texts := by
    cases texts with
    | nil => exact absurd member List.not_mem_nil
    | cons text texts =>
      rw [← joinLines_lineEnd (List.cons_ne_nil _ _)]
      exact List.mem_append_left _ member
  obtain ⟨text, inside, here⟩ := List.mem_flatMap.mp within
  rcases List.mem_append.mp here with shown | lineEnd
  · exact absurd (printable text inside escape shown) (by decide)
  · exact absurd (List.mem_singleton.mp lineEnd) (by decide)

namespace Collector

/-- A collector without a limit fails with all that was reported, if anything was. -/
theorem failure?_unlimited (diagnostics : List Diagnostic) :
    failure? ⟨none, diagnostics.toArray, 0⟩ =
      if diagnostics = [] then none
      else some (.collected (diagnostics.map .located)
        (joinLines (diagnostics.map Diagnostic.print ++ [summary diagnostics.length]))) := by
  cases diagnostics with
  | nil => rfl
  | cons diagnostic diagnostics =>
    simp [failure?, hasErrors, count, reportText, droppedLines, countLine_eq_summary]

end Collector

namespace Command

variable {arguments : List (List Char)} {environment : Environment} {script prompt : List Char}
  {bytes : List UInt8}

/-- What a run says at its end about the diagnostics of a script: each of them on a line, and
on the last line how many there are. -/
def report (diagnostics : List Diagnostic) : List Char :=
  onLines (diagnostics.map Diagnostic.print ++ [Collector.summary diagnostics.length])

/-- The report on a scan is written as it is. -/
theorem withoutControlSequences_report (source : List Char) :
    let diagnostics := (Scan.ofSource source).diagnostics
    withoutControlSequences (joinLines
      (diagnostics.map Diagnostic.print ++ [Collector.summary diagnostics.length])) ++ ['\n'] =
        report diagnostics := by
  intro diagnostics
  rw [withoutControlSequences_joinLines, joinLines_lineEnd (by simp), report]
  intro text member
  rcases List.mem_append.mp member with printed | counted
  · obtain ⟨diagnostic, reported, rfl⟩ := List.mem_map.mp printed
    exact Scan.printable_diagnostic reported
  · rw [List.mem_singleton.mp counted]
    exact Collector.printable_summary _

/-- What a run shows of a script with this text: every token on a line of its own; then,
if anything is wrong, the diagnostics in the order of the script and how many there are. -/
structure ShowsScan (source : List Char) (shown : Visible) : Prop where
  stdout : shown.stdout = onLines ((Scan.ofSource source).tokens.map Token.print)
  sound : (Scan.ofSource source).diagnostics = [] → shown.stderr = [] ∧ shown.exit = 0
  faulty : (Scan.ofSource source).diagnostics ≠ [] →
    shown.stderr = report (Scan.ofSource source).diagnostics ∧ shown.exit = 65

/-- What a run shows of a script whose bytes are no text: one line, about the reason. -/
structure ShowsNoText (shown : Visible) : Prop where
  stdout : shown.stdout = []
  stderr : ∃ reason, '\n' ∉ reason ∧ shown.stderr = onLines ["Error: ".toList ++ reason]
  exit : shown.exit = 66

/-- A script that can be read is scanned, and the scan is shown. -/
theorem scanScript_shows (path : Path) (source : List Char) :
    ShowsScan source ((scanScript path source).render false) := by
  obtain ⟨collector, records, output⟩ := (Scan.ofSource source).collect_unlimited
  have tokens := standardOutput_tokenEvents (Scan.ofSource source).tokens
  have silent := standardError_tokenEvents (Scan.ofSource source).tokens false
  have failure := Collector.failure?_unlimited (Scan.ofSource source).diagnostics
  unfold scanScript
  simp only [Outcome.render_after, List.flatMap_append, collector, records, output, tokens, silent]
  by_cases sound : (Scan.ofSource source).diagnostics = []
  · rw [if_pos sound] at failure
    rw [failure]
    exact ⟨(List.append_nil _).trans (List.append_nil _), fun _ => ⟨rfl, rfl⟩,
      fun faulty => absurd sound faulty⟩
  · rw [if_neg sound] at failure
    rw [failure, Outcome.render_ofFailure (by simp)]
    exact ⟨(List.append_nil _).trans (List.append_nil _), fun faulty => absurd faulty sound,
      fun _ => ⟨withoutControlSequences_report source, rfl⟩⟩

/-- Every character of what is said about bytes that are no text is printable. -/
theorem DecodingError.printable_words (bytes : List UInt8) (fault : Utf8.Fault) :
    Printable (ofFault bytes fault).words := by
  have encoding : Printable ('\'' :: "utf-8".toList) := printable_of_all (by decide)
  have codec : Printable "' codec can't ".toList := printable_of_all (by decide)
  have attempt : Printable "decode byte".toList := printable_of_all (by decide)
  have hex : Printable " 0x".toList := printable_of_all (by decide)
  have one : Printable " in position ".toList := printable_of_all (by decide)
  have several : Printable "s in position ".toList := printable_of_all (by decide)
  have hyphen : Printable ['-'] := printable_of_all (by decide)
  have colon : Printable ": ".toList := printable_of_all (by decide)
  have start : Printable "invalid start byte".toList := printable_of_all (by decide)
  have continuation : Printable "invalid continuation byte".toList := printable_of_all (by decide)
  have unexpected : Printable "unexpected end of data".toList := printable_of_all (by decide)
  have reason : Printable (reasonOf fault.cause) := by
    cases fault.cause with
    | invalidStart => exact start
    | invalidContinuation => exact continuation
    | unexpectedEnd => exact unexpected
  unfold words encodingWords
  simp only [printable_append]
  refine ⟨⟨⟨⟨⟨encoding, codec⟩, attempt⟩, ?_⟩, colon⟩, reason⟩
  split
  · rename_i only found
    obtain ⟨byte, _, rfl⟩ := Option.map_eq_some_iff.mp found
    exact printable_append.mpr ⟨printable_append.mpr
      ⟨printable_append.mpr ⟨hex, printable_hexadecimal 2 _⟩, one⟩, printable_signedDecimal _⟩
  · simp only [printable_append]
    exact ⟨⟨⟨several, printable_signedDecimal _⟩, hyphen⟩, printable_signedDecimal _⟩

/-- Bytes that are no text are refused with a line about them. -/
theorem ofFailure_decoding_shows (fault : Utf8.Fault) (bytes : List UInt8) :
    ShowsNoText ((Outcome.ofFailure (.decoding (.ofFault bytes fault))).render false) := by
  have opening : Printable "Error: ".toList := printable_of_all (by decide)
  have words := DecodingError.printable_words bytes fault
  have line : Printable ("Error: ".toList ++ (DecodingError.ofFault bytes fault).words) :=
    printable_append.mpr ⟨opening, words⟩
  have shown : withoutControlSequences (Failure.decoding (.ofFault bytes fault)).message ++ ['\n'] =
      onLines ["Error: ".toList ++ (DecodingError.ofFault bytes fault).words] := by
    rw [onLines, List.flatMap_singleton]
    exact congrArg (· ++ ['\n']) line.withoutControlSequences_eq
  rw [Outcome.render_ofFailure (by simp), shown]
  exact ⟨rfl, ⟨_, words.no_lineEnd, rfl⟩, rfl⟩

theorem runScript_of_error {read : Path → Except ReadFault (List UInt8)} {path : Path}
    {failure : Failure} (failed : loadScript read path = .error failure) :
    runScript read path =
      (Outcome.ofFailure failure).after [.debug ("reading ".toList ++ path.print)] := by
  rw [runScript, failed]

theorem runScript_of_ok {read : Path → Except ReadFault (List UInt8)} {path : Path}
    {source : List Char} (loaded : loadScript read path = .ok source) :
    runScript read path =
      (scanScript path source).after [.debug ("reading ".toList ++ path.print)] := by
  rw [runScript, loaded]

/-- Where a script can be read, all that is shown comes of its text. -/
theorem render_runScript {read : Path → Except ReadFault (List UInt8)} {path : Path}
    (readable : read path = .ok bytes) :
    (runScript read path).render false =
      match decodeScript bytes with
      | .ok source => (scanScript path source).render false
      | .error failure => (Outcome.ofFailure failure).render false := by
  have loaded : loadScript read path = decodeScript bytes := by rw [loadScript, readable]
  unfold runScript
  rw [Outcome.render_after, loaded]
  cases decodeScript bytes <;> rfl

theorem decodeScript_encode (text : List Char) :
    decodeScript (Utf8.encode text) = .ok (foldLineEnds text) := by
  rw [decodeScript, Utf8.decode_encode]

theorem decodeScript_of_fault {fault : Utf8.Fault}
    (found : (Utf8.decode bytes).fault = some fault) :
    decodeScript bytes = .error (.decoding (.ofFault bytes fault)) := by
  rw [decodeScript, found]

/-- Without verbose output, a run with one script that can be read shows an error if its
bytes are no text, and otherwise its tokens and what is wrong with it. Which line ends are
in use cannot be seen from what is shown. -/
theorem run_shows_script (asked : Asks arguments environment [script] ⟨prompt, false⟩) :
    (∀ read input bytes, read (.ofText script) = .ok bytes → (∀ text, bytes ≠ Utf8.encode text) →
      ShowsNoText (run arguments environment read input)) ∧
    (∀ read input text, read (.ofText script) = .ok (Utf8.encode text) →
      ShowsScan (foldLineEnds text) (run arguments environment read input)) ∧
    (∀ read read' input input' text, '\r' ∉ text → ∀ first second : LineEnd,
      read (.ofText script) = .ok (Utf8.encode (first.write text)) →
      read' (.ofText script) = .ok (Utf8.encode (second.write text)) →
      run arguments environment read input = run arguments environment read' input') := by
  refine ⟨?_, ?_, ?_⟩
  · intro read input bytes readable foreign
    obtain ⟨fault, found⟩ : ∃ fault, (Utf8.decode bytes).fault = some fault := by
      rw [← Option.ne_none_iff_exists']
      intro sound
      obtain ⟨text, written⟩ := Utf8.fault_eq_none_iff.mp sound
      exact foreign text written
    rw [asked.run_script, render_runScript readable, decodeScript_of_fault found]
    exact ofFailure_decoding_shows fault bytes
  · intro read input text readable
    rw [asked.run_script, render_runScript readable, decodeScript_encode]
    exact scanScript_shows _ _
  · intro read read' input input' text plain first second readable readable'
    rw [asked.run_script, render_runScript readable, asked.run_script, render_runScript readable',
      decodeScript_encode, decodeScript_encode, first.foldLineEnds_write plain,
      second.foldLineEnds_write plain]

/-- A script with an unexpected character and a carriage return, a script with two errors, a
script with a byte that begins no character, and a script without errors in two versions. -/
theorem run_shows_scripts_of_tree :
    let tree : Tree :=
      ⟨[], [(["at".toList], [0x40, 0x0d]), (["two".toList], [0x40, 0x2e, 0x0d, 0x0a, 0x22]),
        (["byte".toList], [0xff]), (["dot".toList], [0x2e, 0x0a])]⟩
    let other : Tree := ⟨[], [(["dot".toList], [0x2e, 0x0d, 0x0a])]⟩
    let run := fun script (tree : Tree) => run [script] ⟨none, none⟩ (tree.read []) ⟨[], none⟩
    ShowsScan "@\n".toList (run "at".toList tree) ∧
      run "at".toList tree = ⟨65, "Token(EOF, '', None, 2)\n".toList,
        "[line 1] Error: Unexpected character\n1 error\n".toList⟩ ∧
      run "two".toList tree = ⟨65, "Token(DOT, '.', None, 1)\nToken(EOF, '', None, 2)\n".toList,
        "[line 1] Error: Unexpected character\n".toList ++
          "[line 2] Error: Unterminated string\n2 errors\n".toList⟩ ∧
      ShowsNoText (run "byte".toList tree) ∧
      run "dot".toList tree = run "dot".toList other := by
  intro tree other run
  have foreign (text : List Char) : [0xff] ≠ Utf8.encode text := by
    intro written
    have sound := Utf8.fault_eq_none_iff.mpr ⟨text, written⟩
    cases sound
  have single : ShowsScan "@\n".toList (run "at".toList tree) :=
    (run_shows_script (@asks_script "at".toList rfl)).2.1 (tree.read []) _ "@\r".toList rfl
  have several : ShowsScan "@.\n\"".toList (run "two".toList tree) :=
    (run_shows_script (@asks_script "two".toList rfl)).2.1 (tree.read []) _ "@.\r\n\"".toList rfl
  refine ⟨single, ?_, ?_, ?_, ?_⟩
  · obtain ⟨stderr, exit⟩ := single.faulty (by decide +kernel)
    rw [Visible.mk.injEq, exit, single.stdout, stderr]
    decide +kernel
  · obtain ⟨stderr, exit⟩ := several.faulty (by decide +kernel)
    rw [Visible.mk.injEq, exit, several.stdout, stderr]
    decide +kernel
  · exact (run_shows_script (@asks_script "byte".toList rfl)).1 (tree.read []) _ _ rfl foreign
  · exact (run_shows_script (@asks_script "dot".toList rfl)).2.2 (tree.read []) (other.read []) _ _
      ".\n".toList (by decide) .lineFeed .both rfl rfl

end Command

end ScriptLexer
