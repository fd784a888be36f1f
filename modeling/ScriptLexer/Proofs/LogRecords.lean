import ScriptLexer.Proofs.PromptMode
import ScriptLexer.Proofs.Rounds
import ScriptLexer.Proofs.ScriptMode

/-! Records of the log. The standard error stream of a run is made of stretches, of which
some are records of the log: these show in a verbose run only, and all the others in every
run. What a scan logs are its counts, before and behind what it reports, and a record for
each diagnostic. -/
namespace ScriptLexer

open Text

namespace Command

/-- A stretch of the standard error stream of a verbose run. -/
inductive Stretch
  /-- A record of the log. -/
  | record (text : List Char)
  | other (text : List Char)

namespace Stretch

def inVerbose : Stretch → List Char
  | record text => "DEBUG: ".toList ++ text ++ ['\n']
  | other text => text

/-- What is left of a stretch where the records are deleted. -/
def inQuiet : Stretch → List Char
  | record _ => []
  | other text => text

end Stretch

/-- The verbose run shows what the other one shows, the records of the log besides, and
`trace` behind it all. -/
structure AddsRecords (log : List Stretch) (trace : List Char) (quiet verbose : Visible) :
    Prop where
  exit : verbose.exit = quiet.exit
  stdout : verbose.stdout = quiet.stdout
  stderr : verbose.stderr = log.flatMap Stretch.inVerbose ++ trace
  deleted : quiet.stderr = log.flatMap Stretch.inQuiet

/-- Where the letter that opens a record does not stand, there is no record. -/
theorem flatMap_inVerbose_of_unmarked {log : List Stretch}
    (unmarked : 'D' ∉ log.flatMap Stretch.inVerbose) :
    log.flatMap Stretch.inVerbose = log.flatMap Stretch.inQuiet := by
  apply List.flatMap_congr
  intro stretch member
  cases stretch with
  | other text => rfl
  | record text =>
    have opens : 'D' ∈ (Stretch.record text).inVerbose := List.mem_cons_self
    exact absurd (List.mem_flatMap.mpr ⟨_, member, opens⟩) unmarked

/-- If the only such letter stands in front, all that is left without the records is an end of
what stands behind it. -/
theorem inQuiet_suffix_of_marked {log : List Stretch} {rest : List Char}
    (shown : log.flatMap Stretch.inVerbose = 'D' :: rest) (single : 'D' ∉ rest)
    (unmarked : 'D' ∉ log.flatMap Stretch.inQuiet) : log.flatMap Stretch.inQuiet <:+ rest := by
  induction log with
  | nil => cases shown
  | cons stretch log ih =>
    rw [List.flatMap_cons] at shown unmarked ⊢
    cases stretch with
    | record text =>
      have behind : "EBUG: ".toList ++ text ++ ['\n'] ++ log.flatMap Stretch.inVerbose = rest :=
        (List.cons.inj shown).2
      have free : 'D' ∉ log.flatMap Stretch.inVerbose := fun member =>
        single (behind ▸ List.mem_append_right _ member)
      rw [← behind, flatMap_inVerbose_of_unmarked free]
      exact List.suffix_append _ _
    | other text =>
      cases text with
      | nil => exact ih shown unmarked
      | cons c text =>
        have first : c = 'D' := (List.cons.inj shown).1
        exact absurd List.mem_cons_self (first ▸ unmarked)

/-- The stretches that events are on the standard error stream, apart from traces. -/
def stretches (events : List Event) : List Stretch :=
  events.filterMap fun
    | .debug record => some (.record record)
    | .error text => some (.other text)
    | .output _ | .trace _ => none

variable {events : List Event} {trace : List Char}

theorem flatMap_stretches (write : Stretch → List Char) (events : List Event) :
    (stretches events).flatMap write = events.flatMap fun
      | .debug record => write (.record record)
      | .error text => write (.other text)
      | .output _ | .trace _ => [] := by
  induction events with
  | nil => rfl
  | cons event events ih =>
    rw [List.flatMap_cons, ← ih]
    cases event <;> rfl

theorem standardError_quiet (events : List Event) :
    events.flatMap (Event.standardError false) = (stretches events).flatMap Stretch.inQuiet := by
  rw [flatMap_stretches]
  congr 1
  funext event
  cases event <;> rfl

/-- Among the events is no trace of an internal error. -/
def Traceless (events : List Event) : Prop := ∀ text, .trace text ∉ events

theorem traceless_append {events later : List Event} :
    Traceless (events ++ later) ↔ Traceless events ∧ Traceless later := by
  simp only [Traceless, List.mem_append, not_or, forall_and]

theorem traceless_debug (record : List Char) : Traceless [.debug record] := by
  simp [Traceless]

theorem traceless_tokenEvents (tokens : List Token) : Traceless (tokenEvents tokens) := by
  intro text member
  obtain ⟨token, _, same⟩ := List.mem_map.mp member
  cases same

/-- Only an internal error leaves a trace. -/
theorem traceless_ofFailure {failure : Failure}
    (outside : ∀ text trace, failure ≠ .internal text trace) :
    Traceless (Outcome.ofFailure failure).events := by
  cases failure with
  | internal text trace => exact absurd rfl (outside text trace)
  | lexical | system | decoding =>
    simp [Traceless, Outcome.ofFailure, Failure.events, Event.errorLine]

/-- In a verbose run the events show their stretches, and `trace` behind all of them. -/
def LeavesTrace (trace : List Char) (events : List Event) : Prop :=
  events.flatMap (Event.standardError true) = (stretches events).flatMap Stretch.inVerbose ++ trace

theorem Traceless.leavesTrace (traceless : Traceless events) : LeavesTrace [] events := by
  rw [LeavesTrace, List.append_nil, flatMap_stretches]
  apply List.flatMap_congr
  intro event member
  cases event with
  | trace text => exact absurd member (traceless text)
  | output | error | debug => rfl

@[simp] theorem stretches_append (events later : List Event) :
    stretches (events ++ later) = stretches events ++ stretches later :=
  List.filterMap_append

/-- What a run leaves at its end stays at the end behind other events. -/
theorem LeavesTrace.after {outcome : Outcome} (leaves : LeavesTrace trace outcome.events)
    (traceless : Traceless events) : LeavesTrace trace (outcome.after events).events := by
  have earlier := traceless.leavesTrace
  rw [LeavesTrace, List.append_nil] at earlier
  rw [LeavesTrace] at leaves ⊢
  rw [Outcome.after, List.flatMap_append, earlier, leaves, stretches_append, List.flatMap_append,
    List.append_assoc]

/-- What a verbose run shows of the trace of a failure. -/
def Failure.shownTrace : Failure → List Char
  | .internal _ trace => trace ++ ['\n']
  | .lexical _ | .system _ _ | .decoding _ => []

theorem leavesTrace_ofFailure (failure : Failure) :
    LeavesTrace failure.shownTrace (Outcome.ofFailure failure).events := by
  cases failure with
  | internal text trace =>
    have written : (Outcome.ofFailure (.internal text trace)).events =
        [.errorLine (Failure.internal text trace).message, .trace trace] := rfl
    have line (message : List Char) : stretches [.errorLine message, .trace trace] =
        [.other (withoutControlSequences message ++ ['\n'])] := rfl
    rw [LeavesTrace, written, line, List.flatMap_singleton, List.flatMap_cons,
      List.flatMap_singleton]
    rfl
  | lexical | system | decoding => exact (traceless_ofFailure (by simp)).leavesTrace

/-- Whether it is verbose or not, a run does the same and shows the same, apart from the records
and from what it leaves at its end. -/
theorem Outcome.addsRecords {outcome : Outcome} (leaves : LeavesTrace trace outcome.events) :
    AddsRecords (stretches outcome.events) trace (outcome.render false) (outcome.render true) where
  exit := rfl
  stdout := rfl
  stderr := leaves
  deleted := standardError_quiet outcome.events

/-! ### What a scan logs -/

/-- The counts that the log gives of a scan. -/
structure Tally where
  characters : Nat
  tokens : Nat
  lines : Nat
  errors : Nat

namespace Tally

def ofSource (source : List Char) : Tally where
  characters := source.length
  tokens := (Scan.ofSource source).tokens.length
  lines := (Scan.ofSource source).lastLine
  errors := (Scan.ofSource source).diagnostics.length

/-- The record in front of a scan. -/
def opening (tally : Tally) : List Char :=
  "scanning ".toList ++ decimal tally.characters ++ " characters".toList

/-- The record behind a scan. -/
def closing (tally : Tally) : List Char :=
  "scanned ".toList ++ decimal tally.tokens ++ " tokens over ".toList ++ decimal tally.lines ++
    " lines, ".toList ++ decimal tally.errors ++ " errors".toList

end Tally

/-- The record of a diagnostic, where `lead` says what became of it. -/
def noted (lead : String) (diagnostic : Diagnostic) : Stretch :=
  .record (lead.toList ++ " at line ".toList ++ signedDecimal diagnostic.line ++ ": ".toList ++
    diagnostic.message)

/-- What a run with a script shows on the standard error stream if it is verbose. -/
def scriptLog (path source : List Char) : List Stretch :=
  let tally := Tally.ofSource source
  let diagnostics := (Scan.ofSource source).diagnostics
  [.record ("reading ".toList ++ path), .record tally.opening] ++
    diagnostics.map (noted "collected scan error") ++
    [.record tally.closing,
      .record (path ++ ": ".toList ++ decimal tally.errors ++ " lexical errors".toList)] ++
    if diagnostics = [] then [] else [.other (report diagnostics)]

/-- What a line at the prompt makes the session show there if it is verbose. -/
def lineLog (line : List Char) : List Stretch :=
  let tally := Tally.ofSource line
  [.record tally.opening] ++
    (Scan.ofSource line).diagnostics.flatMap (fun diagnostic =>
      [noted "scan error" diagnostic, .other (diagnostic.print ++ ['\n'])]) ++
    [.record tally.closing]

end Command

/-- What a destination leaves on the console for a diagnostic. -/
def Destination.events : Destination → Diagnostic → List Event
  | collector _, diagnostic => [Reporter.record "collected scan error" diagnostic]
  | stream _, diagnostic => [Reporter.record "scan error" diagnostic]
  | console, diagnostic =>
    [Reporter.record "scan error" diagnostic, .errorLine diagnostic.print]

theorem Destination.console_report (destination : Destination) (diagnostic : Diagnostic)
    (sinks : Sinks) :
    (destination.reporter.report diagnostic sinks).console.toList =
      sinks.console.toList ++ destination.events diagnostic := by
  cases destination <;> simp [reporter, Reporter.report, Sinks.write, events]

theorem Destination.console_reports (destination : Destination) (diagnostics : List Diagnostic)
    (sinks : Sinks) :
    (diagnostics.foldl (fun sinks diagnostic => destination.reporter.report diagnostic sinks)
        sinks).console.toList =
      sinks.console.toList ++ diagnostics.flatMap destination.events := by
  induction diagnostics generalizing sinks with
  | nil => simp
  | cons diagnostic diagnostics ih =>
    rw [List.foldl_cons, ih, console_report, List.flatMap_cons, List.append_assoc]

namespace Command

/-- The console of a scan: its two records and, between them, what its destination leaves for
each diagnostic. -/
theorem console_scan (source : List Char) (destination : Destination) (sinks : Sinks) :
    ((Scan.ofSource source).report destination.reporter sinks).console.toList =
      sinks.console.toList ++ ([.debug (Tally.ofSource source).opening] ++
        (Scan.ofSource source).diagnostics.flatMap destination.events ++
        [.debug (Tally.ofSource source).closing]) := by
  have source_eq : (Scan.ofSource source).source = source := by rw [Scan.ofSource_eq]
  have reported := destination.console_reports (Scan.ofSource source).diagnostics
    (sinks.write (.debug (Tally.ofSource source).opening))
  have opened : (sinks.write (.debug (Tally.ofSource source).opening)).console.toList =
      sinks.console.toList ++ [.debug (Tally.ofSource source).opening] := Array.toList_push ..
  rw [opened, List.append_assoc] at reported
  rw [← List.append_assoc, ← reported]
  unfold Scan.report
  rw [source_eq, Scan.errorCount_eq]
  exact Array.toList_push ..

/-- No scan leaves a trace on the console. -/
theorem traceless_scan (source : List Char) (destination : Destination) (sinks : Sinks)
    (silent : sinks.console = #[]) :
    Traceless ((Scan.ofSource source).report destination.reporter sinks).console.toList := by
  rw [console_scan, silent]
  refine traceless_append.mpr ⟨fun _ => List.not_mem_nil, traceless_append.mpr
    ⟨traceless_append.mpr ⟨traceless_debug _, ?_⟩, traceless_debug _⟩⟩
  intro text member
  obtain ⟨diagnostic, _, here⟩ := List.mem_flatMap.mp member
  cases destination <;> simp [Destination.events, Reporter.record, Event.errorLine] at here

theorem traceless_scanScript (path : Path) (source : List Char) :
    Traceless (scanScript path source).events := by
  have records : Traceless ((Scan.ofSource source).collect none).2 :=
    traceless_scan source (.collector 0) Scan.freshCollector rfl
  unfold scanScript
  refine traceless_append.mpr ⟨traceless_append.mpr ⟨traceless_append.mpr
    ⟨records, traceless_tokenEvents _⟩, traceless_debug _⟩, ?_⟩
  split
  · exact fun _ => List.not_mem_nil
  · exact traceless_ofFailure (by simp)

theorem traceless_answerLine (line : List Char) : Traceless (answerLine line) :=
  traceless_append.mpr ⟨traceless_scan line .console Sinks.empty rfl, traceless_tokenEvents _⟩

@[simp] theorem stretches_debug (record : List Char) :
    stretches [.debug record] = [.record record] := rfl

@[simp] theorem stretches_tokenEvents (tokens : List Token) :
    stretches (tokenEvents tokens) = [] := by
  rw [stretches, tokenEvents, List.filterMap_map, List.filterMap_eq_nil_iff]
  exact fun _ _ => rfl

theorem stretches_flatMap (diagnostics : List Diagnostic) (events : Diagnostic → List Event) :
    stretches (diagnostics.flatMap events) = diagnostics.flatMap (stretches ∘ events) :=
  List.filterMap_flatMap ..

/-- The log of a scan that reports to a collector. -/
theorem stretches_collected (source : List Char) :
    stretches ((Scan.ofSource source).collect none).2 =
      [.record (Tally.ofSource source).opening] ++
        (Scan.ofSource source).diagnostics.map (noted "collected scan error") ++
        [.record (Tally.ofSource source).closing] := by
  have console : ((Scan.ofSource source).collect none).2 = _ :=
    console_scan source (.collector 0) Scan.freshCollector
  have noted_eq : stretches ∘ (Destination.collector 0).events =
      fun diagnostic => [noted "collected scan error" diagnostic] := rfl
  have silent : Scan.freshCollector.console.toList = [] := rfl
  rw [console, silent, List.nil_append]
  rw [stretches_append, stretches_append, stretches_flatMap, noted_eq, ← List.map_eq_flatMap]
  rfl

/-- A run that fails with collected errors shows their report. -/
theorem stretches_report (source : List Char) (errors : List LexicalError) :
    let diagnostics := (Scan.ofSource source).diagnostics
    stretches (Outcome.ofFailure (.lexical (.collected errors (joinLines
      (diagnostics.map Diagnostic.print ++ [Collector.summary diagnostics.length]))))).events =
        [.other (report diagnostics)] :=
  congrArg (fun text => [Stretch.other text]) (withoutControlSequences_report source)

/-- The log of a run with a script whose text has been read. -/
theorem stretches_scanScript (path : Path) (source : List Char) :
    .record ("reading ".toList ++ path.print) :: stretches (scanScript path source).events =
      scriptLog path.print source := by
  obtain ⟨collector, _⟩ := (Scan.ofSource source).collect_unlimited
  have failure := Collector.failure?_unlimited (Scan.ofSource source).diagnostics
  have count : ((Scan.ofSource source).collect none).1.count = (Tally.ofSource source).errors := by
    rw [collector]
    exact Nat.add_zero _
  unfold scanScript scriptLog
  simp only [Outcome.after, stretches_append, stretches_tokenEvents, stretches_debug,
    stretches_collected, count, List.append_nil]
  generalize Stretch.record ("reading ".toList ++ path.print) = reading
  rw [collector, failure]
  by_cases sound : (Scan.ofSource source).diagnostics = []
  · rw [if_pos sound, if_pos sound]
    simp only [List.append_assoc, List.cons_append, List.nil_append]
    rfl
  · rw [if_neg sound, if_neg sound, stretches_report]
    simp only [List.append_assoc, List.cons_append, List.nil_append]

/-- The log of the answer to a line. -/
theorem stretches_answerLine (line : List Char) : stretches (answerLine line) = lineLog line := by
  have console : ((Scan.ofSource line).report .console Sinks.empty).console.toList = _ :=
    console_scan line .console Sinks.empty
  have shown : (Scan.ofSource line).diagnostics.flatMap (stretches ∘ Destination.console.events) =
      (Scan.ofSource line).diagnostics.flatMap fun diagnostic =>
        [noted "scan error" diagnostic, .other (diagnostic.print ++ ['\n'])] := by
    apply List.flatMap_congr
    intro diagnostic reported
    have plain := (Scan.printable_diagnostic reported).withoutControlSequences_eq
    have line : stretches [Event.errorLine diagnostic.print] =
        [.other (diagnostic.print ++ ['\n'])] := by
      rw [Event.errorLine, plain]
      rfl
    exact congrArg (noted "scan error" diagnostic :: ·) line
  have silent : Sinks.empty.console.toList = [] := rfl
  unfold answerLine lineLog
  dsimp only
  rw [stretches_append, stretches_tokenEvents, List.append_nil, console, silent, List.nil_append,
    stretches_append, stretches_append, stretches_flatMap, shown, stretches_debug,
    stretches_debug]

end Command

end ScriptLexer
