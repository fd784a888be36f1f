import ScriptLexer.Proofs.TokenLines
import ScriptLexer.Proofs.Traces

/-! Verbose runs. Every command line has a verbose version, which does the same: it ends
with the same status, prints the same, and on the standard error stream it adds records of
the log to what is shown there anyway, and the trace of an internal error if there is one. -/
namespace ScriptLexer.Command

open Text

variable {arguments arguments' scripts : List (List Char)}
  {environment environment' : Environment} {settings : Settings} {prompt : List Char}
  {read : Path → Except ReadFault (List UInt8)} {input : Input}

/-! ### Verbose versions of command lines -/

namespace Arguments

/-- The same arguments with the verbose switch on. -/
def verbosely (given : Arguments) : Arguments := { given with verbose := true }

theorem readCluster_verbosely (given : Arguments) (letters : List Char) :
    readCluster given.verbosely letters = (readCluster given letters).map verbosely := by
  fun_induction readCluster given letters with
  | case1 => rfl
  | case2 given letters ih => exact ih
  | case3 given letter letters other => rw [readCluster]; rfl; exact other

/-- The verbose switch can be on from the start: nothing turns it off, and no other argument
is read differently. -/
theorem readFrom_verbosely (given : Arguments) (arguments : List (List Char)) :
    readFrom given.verbosely arguments = (readFrom given arguments).map verbosely := by
  fun_induction readFrom given arguments with
  | case1 | case2 => rfl
  | case3 given argument rest separate option name value named divided ih
  | case4 given argument separate option name named value rest divided ih
  | case6 given argument rest separate option name named divided ih
  | case7 given argument rest separate option name wanted named divided ih =>
    rw [readFrom, if_neg separate, if_pos option, divided]
    simp only [named]
    exact ih
  | case5 given argument separate option name named divided
  | case8 given argument rest separate option name value named divided
  | case9 given argument rest separate option name wanted value named divided =>
    rw [readFrom, if_neg separate, if_pos option, divided]
    simp only [named]
    rfl
  | case10 given argument rest separate option name value divided unnamed long =>
    rw [readFrom, if_neg separate, if_pos option, divided]
    simp only [unnamed, if_pos long]
    rfl
  | case11 given argument rest separate option name value divided unnamed short next cluster ih =>
    rw [readFrom, if_neg separate, if_pos option, divided]
    simp only [unnamed, if_neg short, readCluster_verbosely, cluster]
    exact ih
  | case12 given argument rest separate option name value divided unnamed short fault cluster =>
    rw [readFrom, if_neg separate, if_pos option, divided]
    simp only [unnamed, if_neg short, readCluster_verbosely, cluster]
    rfl
  | case13 given argument rest separate plain ih =>
    rw [readFrom, if_neg separate, if_neg plain]
    exact ih

/-- An option that turns the verbose switch on changes nothing else. -/
theorem read_verbosely (arguments : List (List Char)) :
    Arguments.read ("-v".toList :: arguments) = (Arguments.read arguments).map verbosely :=
  readFrom_verbosely empty arguments

end Arguments

theorem Settings.resolve_verbosely {given : Arguments}
    (resolved : resolve given environment = .ok settings) :
    resolve given.verbosely environment = .ok { settings with verbose := true } := by
  have same : settings.prompt =
      (given.prompt.or (Environment.nonempty environment.prompt)).getD defaultPrompt := by
    simp only [resolve, bind, Except.bind] at resolved
    repeat' split at resolved
    all_goals cases resolved
    all_goals rfl
  rw [same]
  rfl

/-- Every command line has a verbose version. -/
theorem Asks.verbosely (asked : Asks arguments environment scripts settings) :
    Asks ("-v".toList :: arguments) environment scripts { settings with verbose := true } := by
  obtain ⟨given, followed, uninformed, named, resolved⟩ := asked
  refine ⟨given.verbosely, ?_, uninformed, named, Settings.resolve_verbosely resolved⟩
  rw [Arguments.read_verbosely, followed]
  rfl

/-- What is answered without reading anything is answered alike in the verbose version. -/
theorem run_verbosely
    (answered : ∀ given, Arguments.read arguments = .ok given → given.information ≠ none)
    (environment : Environment) (read : Path → Except ReadFault (List UInt8)) (input : Input) :
    run ("-v".toList :: arguments) environment read input =
      run arguments environment read input := by
  unfold run Plan.ofArguments
  rw [Arguments.read_verbosely]
  cases followed : Arguments.read arguments with
  | error fault => rfl
  | ok given =>
    obtain ⟨wanted, informed⟩ := Option.ne_none_iff_exists'.mp (answered given followed)
    have informed' : given.verbosely.information = some wanted := informed
    simp only [Except.map, informed, informed']

/-! ### Sessions -/

/-- The log of a session is the log of its lines, with nothing behind it but what is said
about a failure to read on. -/
theorem stretches_runPrompt (prompt : List Char) (lines : List (List Char))
    (failure : Option Failure) :
    ∃ ending, (failure = none → ending = []) ∧
      stretches (runPrompt prompt ⟨lines, failure⟩).events =
        (entered lines).flatMap lineLog ++ ending := by
  have silent : stretches [promptEvent prompt] = [] := rfl
  induction lines with
  | nil =>
    cases failure with
    | none => exact ⟨[], fun _ => rfl, rfl⟩
    | some failure => exact ⟨_, nofun, rfl⟩
  | cons line lines ih =>
    obtain ⟨ending, finished, log⟩ := ih
    rw [runPrompt_cons]
    by_cases blank : trim line = []
    · rw [if_pos blank]
      refine ⟨[], fun _ => rfl, ?_⟩
      simp [entered, blank]
      rfl
    · rw [if_neg blank]
      refine ⟨ending, finished, ?_⟩
      have first : entered (line :: lines) = line :: entered lines := by simp [entered, blank]
      rw [first, List.flatMap_cons, List.append_assoc, ← log, ← stretches_answerLine]
      exact stretches_append ([promptEvent prompt] ++ answerLine line) _

/-- A failure to read on is not said on the standard output. -/
theorem stdout_runPrompt (verbose : Bool) (prompt : List Char) (lines : List (List Char))
    (failure : Option Failure) :
    ((runPrompt prompt ⟨lines, failure⟩).render verbose).stdout =
      (session prompt lines).stdout := by
  induction lines with
  | nil =>
    have ended : _ = (session prompt []).stdout := congrArg Visible.stdout (render_end prompt)
    cases failure with
    | none => exact ended
    | some failure => cases failure <;> exact ended
  | cons line lines ih =>
    rw [runPrompt_cons]
    by_cases blank : trim line = []
    · rw [if_pos blank, session_blank blank, ← render_end]
      rfl
    · rw [if_neg blank, session_cons blank, Outcome.render_after, List.flatMap_cons,
        standardOutput_answerLine, ih]
      rfl

/-! ### Counts -/

/-- The counts of the log are right for a source, what is printed for it, and everyone who
counts its errors. -/
structure Tally.Counts (tally : Tally) (source printed : List Char) : Prop where
  characters : tally.characters = source.length
  tokens : tally.tokens = (splitLines printed).length
  lines : (Scan.ofSource source).tokens.getLast? = some (.endOfInput tally.lines)
  errors : tally.errors = (Scan.ofSource source).diagnostics.length
  scanner : ∀ reporter sinks, ∃ used after,
    (Scanner.ofSource source reporter).scanAll? sinks =
      some ((Scan.ofSource source).tokens, used, after) ∧ used.errorCount = tally.errors
  collector : ((Scan.ofSource source).collect none).1.count = tally.errors

theorem Tally.counts_ofSource (source : List Char) :
    (ofSource source).Counts source (onLines ((Scan.ofSource source).tokens.map Token.print)) where
  characters := rfl
  tokens := by
    rw [(oneLineEach_onLines (Scan.ofSource source).tokens).lines, List.length_map]
    rfl
  lines := by
    rw [ofSource, Scan.ofSource_eq]
    exact List.getLast?_concat
  errors := rfl
  scanner reporter sinks := ⟨_, _, rfl, Scan.errorCount_eq source⟩
  collector := by
    rw [(Scan.ofSource source).collect_unlimited.1]
    exact Nat.add_zero _

/-! ### Two runs -/

/-- An internal error with this trace ends the run: the path of its script holds a NUL, or the
lines of its session cannot be read on. -/
def EndsInternally (scripts : List (List Char)) (read : Path → Except ReadFault (List UInt8))
    (input : Input) (text : List Char) : Prop :=
  (∃ script, scripts = [script] ∧ read (.ofText script) = .error (.nulInPath text)) ∨
    scripts = [] ∧ ∃ description, input.failure = some (.internal description text)

/-- No file of a tree and no bytes at the prompt end a run so, unless there is a NUL among the
arguments. -/
theorem not_endsInternally (names : ∀ script ∈ scripts, '\x00' ∉ script) (tree : Tree)
    (trace : List Char) (blocks : List (List UInt8)) (text : List Char) :
    ¬EndsInternally scripts (tree.read trace) (.ofBlocks blocks) text := by
  rintro (⟨script, rfl, refused⟩ | ⟨_, description, failed⟩)
  · have absent := names script List.mem_cons_self
    rcases Path.mem_print (Tree.read_eq_nul_iff.mp ⟨text, refused⟩) with point | slash | member
    · cases point
    · cases slash
    · exact absent member
  · obtain ⟨error, same⟩ := Reader.decoding_of_readOn failed
    cases same

/-- Both runs have the same outcome, shown with and without the log. -/
theorem exists_outcome (quietly : Asks arguments environment scripts ⟨prompt, false⟩)
    (verbosely : Asks arguments' environment' scripts ⟨prompt, true⟩)
    (few : scripts.length ≤ 1) (read : Path → Except ReadFault (List UInt8)) (input : Input) :
    ∃ (outcome : Outcome) (trace : List Char),
      run arguments environment read input = outcome.render false ∧
      run arguments' environment' read input = outcome.render true ∧
      outcome.Leaves (EndsInternally scripts read input) trace := by
  match scripts with
  | [] =>
    obtain ⟨trace, leaves⟩ := runPrompt_leaves prompt input.lines input.failure
    exact ⟨_, trace, quietly.run_prompt read input, verbosely.run_prompt read input,
      leaves.imp fun text failed => .inr ⟨rfl, failed⟩⟩
  | [script] =>
    obtain ⟨trace, leaves⟩ := runScript_leaves read (.ofText script)
    exact ⟨_, trace, quietly.run_script read input, verbosely.run_script read input,
      leaves.imp fun text refused => .inl ⟨script, rfl, refused⟩⟩
  | _ :: _ :: _ => simp at few

/-- The two runs with a script whose text can be read. -/
theorem addsRecords_script {script text : List Char}
    (quietly : Asks arguments environment [script] ⟨prompt, false⟩)
    (verbosely : Asks arguments' environment' [script] ⟨prompt, true⟩)
    (readable : read (.ofText script) = .ok (Utf8.encode text)) (input : Input) :
    AddsRecords (scriptLog (Path.ofText script).print (foldLineEnds text)) []
      (run arguments environment read input) (run arguments' environment' read input) := by
  have loaded : loadScript read (.ofText script) = .ok (foldLineEnds text) := by
    rw [loadScript, readable]
    exact decodeScript_encode text
  have log : stretches (runScript read (.ofText script)).events =
      scriptLog (Path.ofText script).print (foldLineEnds text) := by
    rw [runScript_of_ok loaded, ← stretches_scanScript]
    rfl
  rw [quietly.run_script, verbosely.run_script, ← log]
  exact Outcome.addsRecords (traceless_runScript loaded).leavesTrace

/-- The two sessions at the prompt. -/
theorem addsRecords_session (quietly : Asks arguments environment [] ⟨prompt, false⟩)
    (verbosely : Asks arguments' environment' [] ⟨prompt, true⟩)
    (read : Path → Except ReadFault (List UInt8)) (input : Input) :
    ∃ ending trace, (input.failure = none → ending = [] ∧ trace = []) ∧
      AddsRecords ((entered input.lines).flatMap lineLog ++ ending) trace
        (run arguments environment read input) (run arguments' environment' read input) := by
  obtain ⟨ending, finished, log⟩ := stretches_runPrompt prompt input.lines input.failure
  obtain ⟨trace, leaves⟩ := runPrompt_leaves prompt input.lines input.failure
  refine ⟨ending, trace, fun sound => ⟨finished sound, ?_⟩, ?_⟩
  · by_contra something
    obtain ⟨text, ⟨description, failed⟩, _⟩ := leaves.origin something
    rw [sound] at failed
    cases failed
  · rw [quietly.run_prompt, verbosely.run_prompt, ← log]
    exact Outcome.addsRecords leaves.shown

theorem code_eq_software_iff {status : ExitStatus} :
    status.code = ExitStatus.software.code ↔ status = .software := by
  cases status <;> simp [ExitStatus.code]

/-- Verbose output only adds records of the log and, where an internal error ends the run, the
trace of that error behind everything else. Every command line for one script or for the
prompt has a verbose version, and one that is answered without reading anything is answered
alike in it. The two runs end with the same status and print the same; on the standard error
stream the verbose run shows what the other one shows and records besides. Which records
these are and where they stand depends on the text of the script or on the lines entered,
and their counts are right. No internal error comes of the files of a tree and of bytes at the
prompt, as long as no argument holds a NUL. -/
theorem verbose_adds_records (quietly : Asks arguments environment scripts ⟨prompt, false⟩)
    (verbosely : Asks arguments' environment' scripts ⟨prompt, true⟩)
    (few : scripts.length ≤ 1) (read : Path → Except ReadFault (List UInt8)) (input : Input) :
    let quiet := run arguments environment read input
    let verbose := run arguments' environment' read input
    (verbose.exit = quiet.exit ∧ verbose.stdout = quiet.stdout) ∧
    (∃ log trace, AddsRecords log trace quiet verbose ∧
      (trace = [] ↔ quiet.exit ≠ ExitStatus.software.code) ∧
      (trace ≠ [] → ∃ text, EndsInternally scripts read input text ∧ trace = text ++ ['\n'])) ∧
    (∀ tree text blocks, read = Tree.read tree text → input = .ofBlocks blocks →
      (∀ script ∈ scripts, '\x00' ∉ script) → ∃ log, AddsRecords log [] quiet verbose) ∧
    (∀ script text, scripts = [script] → read (.ofText script) = .ok (Utf8.encode text) →
      let source := foldLineEnds text
      AddsRecords (scriptLog (Path.ofText script).print source) [] quiet verbose ∧
        verbose.stdout = onLines ((Scan.ofSource source).tokens.map Token.print)) ∧
    (scripts = [] →
      (∃ ending trace, (input.failure = none → ending = [] ∧ trace = []) ∧
        AddsRecords ((entered input.lines).flatMap lineLog ++ ending) trace quiet verbose) ∧
      verbose.stdout = withoutControlSequences prompt ++ (entered input.lines).flatMap fun line =>
        onLines ((Scan.ofSource line).tokens.map Token.print) ++ withoutControlSequences prompt) ∧
    (∀ source, (Tally.ofSource source).Counts source
      (onLines ((Scan.ofSource source).tokens.map Token.print))) ∧
    Asks ("-v".toList :: arguments) environment scripts ⟨prompt, true⟩ ∧
    (∀ arguments environment,
      (∀ given, Arguments.read arguments = .ok given → given.information ≠ none) →
      run ("-v".toList :: arguments) environment read input =
        run arguments environment read input) := by
  intro quiet verbose
  obtain ⟨outcome, trace, shown, shown', leaves⟩ :=
    exists_outcome quietly verbosely few read input
  have quiet_eq : quiet = outcome.render false := shown
  have verbose_eq : verbose = outcome.render true := shown'
  have added : AddsRecords (stretches outcome.events) trace quiet verbose := by
    rw [quiet_eq, verbose_eq]
    exact Outcome.addsRecords leaves.shown
  have internal : trace = [] ↔ quiet.exit ≠ ExitStatus.software.code := by
    rw [leaves.nothing, quiet_eq, ne_eq, ne_eq, ← code_eq_software_iff]
    rfl
  refine ⟨⟨added.exit, added.stdout⟩, ⟨_, trace, added, internal, leaves.origin⟩, ?_, ?_, ?_,
    Tally.counts_ofSource, quietly.verbosely, ?_⟩
  · rintro tree text blocks rfl rfl names
    by_cases something : trace = []
    · exact ⟨_, something ▸ added⟩
    · obtain ⟨text, ended, _⟩ := leaves.origin something
      exact absurd ended (not_endsInternally names tree _ blocks text)
  · rintro script text rfl readable source
    have added := addsRecords_script quietly verbosely readable input
    have printed : quiet.stdout = onLines ((Scan.ofSource source).tokens.map Token.print) := by
      dsimp only [quiet]
      rw [quietly.run_script, render_runScript readable, decodeScript_encode]
      exact (scanScript_shows _ source).stdout
    exact ⟨added, added.stdout.trans printed⟩
  · rintro rfl
    refine ⟨addsRecords_session quietly verbosely read input, ?_⟩
    have printed := stdout_runPrompt true prompt input.lines input.failure
    rw [← verbosely.run_prompt read input] at printed
    exact printed
  · intro arguments environment answered
    exact run_verbosely answered environment read input

/-- A script with an unexpected character, and a session of one line with the same character
in front of a token, each with its verbose version. -/
theorem verbose_adds_records_for_character :
    let tree : Tree := ⟨[], [(["at".toList], [0x40, 0x0d])]⟩
    let run := fun arguments => run arguments ⟨none, none⟩ (tree.read [])
      (.ofBlocks [[0x40, 0x2e], [0x0a, 0x0a]])
    let session := ["--prompt".toList, "> ".toList]
    AddsRecords (scriptLog "at".toList "@\n".toList) [] (run ["at".toList])
        (run ["-v".toList, "at".toList]) ∧
      (scriptLog "at".toList "@\n".toList).flatMap Stretch.inVerbose =
        "DEBUG: reading at\nDEBUG: scanning 2 characters\n".toList ++
          "DEBUG: collected scan error at line 1: Unexpected character\n".toList ++
          "DEBUG: scanned 1 tokens over 2 lines, 1 errors\nDEBUG: at: 1 lexical errors\n".toList ++
          "[line 1] Error: Unexpected character\n1 error\n".toList ∧
      AddsRecords (lineLog "@.\n".toList) [] (run session) (run ("-v".toList :: session)) ∧
      (lineLog "@.\n".toList).flatMap Stretch.inVerbose =
        "DEBUG: scanning 3 characters\nDEBUG: scan error at line 1: Unexpected character\n".toList ++
          "[line 1] Error: Unexpected character\n".toList ++
          "DEBUG: scanned 2 tokens over 2 lines, 1 errors\n".toList := by
  intro tree run session
  have plainly := @asks_script "at".toList rfl
  have prompted := asks_prompt "> ".toList
  obtain ⟨_, _, _, script, _⟩ := verbose_adds_records plainly plainly.verbosely (by decide)
    (tree.read []) (.ofBlocks [[0x40, 0x2e], [0x0a, 0x0a]])
  obtain ⟨_, _, _, _, answered, _⟩ := verbose_adds_records prompted prompted.verbosely (by decide)
    (tree.read []) (.ofBlocks [[0x40, 0x2e], [0x0a, 0x0a]])
  have first : entered (Input.ofBlocks [[0x40, 0x2e], [0x0a, 0x0a]]).lines = ["@.\n".toList] := by
    decide +kernel
  obtain ⟨⟨ending, trace, finished, added⟩, _⟩ := answered rfl
  obtain ⟨nothing, untraced⟩ := finished (by decide +kernel)
  rw [nothing, untraced, first, List.flatMap_singleton, List.append_nil] at added
  exact ⟨(script _ "@\r".toList rfl rfl).1, by decide +kernel, added, by decide +kernel⟩

/-- The verbose version of a run with a NUL in its path shows the trace of an internal error,
which is no record of the log and which the other run does not show. -/
theorem run_with_nul_leaves_trace :
    let tree : Tree := ⟨[], []⟩
    let run := fun arguments => run arguments ⟨none, none⟩ (tree.read "in a path".toList) ⟨[], none⟩
    let quiet := run ["a\x00".toList]
    let verbose := run ["-v".toList, "a\x00".toList]
    quiet = ⟨70, [], "Internal error: embedded null byte\n".toList⟩ ∧
      verbose = ⟨70, [], "DEBUG: reading a\x00\n".toList ++
        "Internal error: embedded null byte\nin a path\n".toList⟩ ∧
      ¬∃ log, AddsRecords log [] quiet verbose := by
  intro tree run quiet verbose
  have silent : quiet = ⟨70, [], "Internal error: embedded null byte\n".toList⟩ := by
    decide +kernel
  have loud : verbose = ⟨70, [], "DEBUG: reading a\x00\n".toList ++
      "Internal error: embedded null byte\nin a path\n".toList⟩ := by
    decide +kernel
  refine ⟨silent, loud, ?_⟩
  rintro ⟨log, added⟩
  let rest := "EBUG: reading a\x00\nInternal error: embedded null byte\nin a path\n".toList
  have left : log.flatMap Stretch.inQuiet = "Internal error: embedded null byte\n".toList := by
    rw [← added.deleted, silent]
  have shown : log.flatMap Stretch.inVerbose = 'D' :: rest := by
    rw [← List.append_nil (log.flatMap _), ← added.stderr, loud]
    decide +kernel
  have unmarked : 'D' ∉ log.flatMap Stretch.inQuiet := by
    rw [left]
    decide +kernel
  have ending := inQuiet_suffix_of_marked shown (by decide +kernel) unmarked
  rw [left] at ending
  revert ending
  decide +kernel

end ScriptLexer.Command
