import Mathlib.Data.List.Basic
import ScriptLexer.Proofs.Printable
import ScriptLexer.Reporting.Scanner

/-! Where reports arrive. A reporter stands for a list of destinations, in which a
destination occurs as often as the reporter holds it. To report is to hand a diagnostic
to each of them in turn; every destination keeps what arrives at it and nothing else, and
the log of a report goes nowhere but to the log. -/
namespace ScriptLexer

open Text

/-- A place where diagnostics end up. -/
inductive Destination
  | collector (index : Nat)
  | stream (index : Nat)
  /-- The standard error stream. -/
  | console
deriving DecidableEq

/-- The reporter that has one destination. -/
def Destination.reporter : Destination → Reporter
  | collector index => .collector index
  | stream index => .stream index
  | console => .console

namespace Reporter

mutual

/-- The destinations of a reporter, in the order in which a diagnostic reaches them. -/
def destinations : Reporter → List Destination
  | .collector index => [.collector index]
  | .stream index => [.stream index]
  | .console => [.console]
  | .tee parts => destinationsOfAll parts

def destinationsOfAll : List Reporter → List Destination
  | [] => []
  | part :: parts => destinations part ++ destinationsOfAll parts

end

/-- The copies of each diagnostic that reach a destination, when these are reported one
after another. -/
def arrivals (reporter : Reporter) (diagnostics : List Diagnostic) (destination : Destination) :
    List Diagnostic :=
  diagnostics.flatMap fun diagnostic =>
    List.replicate (reporter.destinations.count destination) diagnostic

mutual

/-- To report is to hand the diagnostic to each destination in turn. -/
theorem report_eq_foldl (diagnostic : Diagnostic) (reporter : Reporter) (sinks : Sinks) :
    reporter.report diagnostic sinks =
      reporter.destinations.foldl
        (fun sinks destination => destination.reporter.report diagnostic sinks) sinks := by
  cases reporter with
  | collector | stream | console => rfl
  | tee parts => exact reportToAll_eq_foldl diagnostic parts sinks

theorem reportToAll_eq_foldl (diagnostic : Diagnostic) (parts : List Reporter) (sinks : Sinks) :
    reportToAll diagnostic parts sinks =
      (destinationsOfAll parts).foldl
        (fun sinks destination => destination.reporter.report diagnostic sinks) sinks := by
  cases parts with
  | nil => rfl
  | cons part parts =>
    rw [reportToAll, destinationsOfAll, List.foldl_append, report_eq_foldl diagnostic part,
      reportToAll_eq_foldl diagnostic parts]

end

end Reporter

/-- A diagnostic on a line of its own, as it is written to a stream. -/
def Diagnostic.shownLine (diagnostic : Diagnostic) : List Char :=
  withoutControlSequences diagnostic.print ++ ['\n']

/-- What the console has on the standard error stream, apart from the log. -/
def Sinks.shown (sinks : Sinks) : List Char :=
  sinks.console.toList.flatMap (Event.standardError false)

/-- Between two states of the sinks, these diagnostics arrived at each destination, in
this order, and nothing else happened that shows outside the log. -/
structure Delivered (arrivals : Destination → List Diagnostic) (before after : Sinks) : Prop where
  collectors : ∀ index, after.collectors[index]? =
    before.collectors[index]?.map fun collector =>
      (arrivals (.collector index)).foldl Collector.report collector
  streams : ∀ index, after.streams[index]? =
    before.streams[index]?.map (· ++ (arrivals (.stream index)).map Diagnostic.shownLine)
  console : after.shown = before.shown ++ (arrivals .console).flatMap Diagnostic.shownLine
  output : after.console.toList.flatMap Event.standardOutput =
    before.console.toList.flatMap Event.standardOutput

namespace Delivered

variable {arrivals first second : Destination → List Diagnostic} {before between after : Sinks}

theorem refl (sinks : Sinks) : Delivered (fun _ => []) sinks sinks := by
  constructor <;> simp

theorem congr (delivered : Delivered first before after)
    (same : ∀ destination, first destination = second destination) :
    Delivered second before after := by
  rwa [← funext same]

theorem trans (early : Delivered first before between) (late : Delivered second between after) :
    Delivered (fun destination => first destination ++ second destination) before after where
  collectors index := by
    rw [late.collectors, early.collectors, Option.map_map]
    simp only [List.foldl_append, Function.comp_def]
  streams index := by
    rw [late.streams, early.streams, Option.map_map]
    simp only [List.map_append, Function.comp_def, List.append_assoc]
  console := by
    rw [late.console, early.console, List.flatMap_append, List.append_assoc]
  output := late.output.trans early.output

/-- A record of the log arrives nowhere. -/
theorem record (text : List Char) (sinks : Sinks) :
    Delivered (fun _ => []) sinks (sinks.write (.debug text)) := by
  constructor <;> simp [Sinks.write, Sinks.shown, Event.standardError, Event.standardOutput]

/-- What is handed to one destination arrives there and nowhere else. -/
theorem single (diagnostic : Diagnostic) (destination : Destination) (sinks : Sinks) :
    Delivered (fun other => if other = destination then [diagnostic] else []) sinks
      (destination.reporter.report diagnostic sinks) := by
  cases destination with
  | collector index =>
    constructor
    case collectors =>
      intro other
      simp only [Destination.reporter, Reporter.report, Sinks.write, List.getElem?_modify,
        Destination.collector.injEq]
      by_cases same : index = other
      · simp [same]
      · simp [same, Ne.symm same]
    all_goals simp [Destination.reporter, Reporter.report, Reporter.record, Sinks.write,
      Sinks.shown, Event.standardError, Event.standardOutput]
  | stream index =>
    constructor
    case streams =>
      intro other
      simp only [Destination.reporter, Reporter.report, Sinks.write, List.getElem?_modify,
        Destination.stream.injEq]
      by_cases same : index = other
      · simp [same, Diagnostic.shownLine]
      · simp [same, Ne.symm same]
    all_goals simp [Destination.reporter, Reporter.report, Reporter.record, Sinks.write,
      Sinks.shown, Event.standardError, Event.standardOutput]
  | console =>
    constructor <;> simp [Destination.reporter, Reporter.report, Reporter.record, Sinks.write,
      Sinks.shown, Event.standardError, Event.standardOutput, Event.errorLine,
      Diagnostic.shownLine]

/-- A diagnostic arrives at each destination as often as the reporter holds it. -/
theorem report (reporter : Reporter) (diagnostic : Diagnostic) (sinks : Sinks) :
    Delivered
      (fun destination => List.replicate (reporter.destinations.count destination) diagnostic)
      sinks (reporter.report diagnostic sinks) := by
  rw [Reporter.report_eq_foldl]
  induction reporter.destinations generalizing sinks with
  | nil => exact refl sinks
  | cons destination destinations ih =>
    apply ((single diagnostic destination sinks).trans (ih _)).congr
    intro other
    by_cases same : other = destination
    · simp [same, List.replicate_succ]
    · simp [same, List.count_cons_of_ne (Ne.symm same)]

/-- Diagnostics arrive in the order in which they are reported. -/
theorem reports (reporter : Reporter) (diagnostics : List Diagnostic) (sinks : Sinks) :
    Delivered (reporter.arrivals diagnostics) sinks
      (diagnostics.foldl (fun sinks diagnostic => reporter.report diagnostic sinks) sinks) := by
  induction diagnostics generalizing sinks with
  | nil => exact refl sinks
  | cons diagnostic diagnostics ih => exact (report reporter diagnostic sinks).trans (ih _)

/-- The diagnostics of a scan arrive in the order of the source. -/
theorem scan (scan : Scan) (reporter : Reporter) (sinks : Sinks) :
    Delivered (reporter.arrivals scan.diagnostics) sinks (scan.report reporter sinks) := by
  apply (((record _ sinks).trans (reports reporter scan.diagnostics _)).trans (record _ _)).congr
  intro destination
  rw [List.nil_append, List.append_nil]

/-- At a reporter with a single destination, everything arrives there as it is reported. -/
theorem scan_single (scan : Scan) (destination : Destination) (sinks : Sinks) :
    Delivered (fun other => if other = destination then scan.diagnostics else []) sinks
      (scan.report destination.reporter sinks) := by
  apply (Delivered.scan scan destination.reporter sinks).congr
  intro other
  have alone : destination.reporter.destinations = [destination] := by cases destination <;> rfl
  rw [Reporter.arrivals, alone]
  by_cases same : other = destination
  · simp [same]
  · simp [same, Ne.symm same]

end Delivered

/-! ### Collectors without a limit -/

/-- A collector without a limit keeps everything. -/
theorem Collector.foldl_report_unlimited (diagnostics : List Diagnostic)
    (stored : Array Diagnostic) :
    diagnostics.foldl Collector.report ⟨none, stored, 0⟩ = ⟨none, stored ++ diagnostics, 0⟩ := by
  induction diagnostics generalizing stored with
  | nil => simp
  | cons diagnostic diagnostics ih =>
    rw [List.foldl_cons]
    simp [report, isFull, ih]

namespace Scan

/-- One collector without a limit, to which nothing was reported. -/
def freshCollector : Sinks := ⟨[Collector.empty none], [], #[]⟩

/-- Such a collector keeps all that a scan reports. -/
theorem collectors_report (scan : Scan) :
    (scan.report (.collector 0) freshCollector).collectors =
      [⟨none, scan.diagnostics.toArray, 0⟩] := by
  have delivered : Delivered _ freshCollector _ := .scan_single scan (.collector 0) freshCollector
  have kept : scan.diagnostics.foldl Collector.report (Collector.empty none) =
      ⟨none, scan.diagnostics.toArray, 0⟩ :=
    (Collector.foldl_report_unlimited scan.diagnostics #[]).trans (by simp)
  apply List.ext_getElem?
  intro index
  refine (delivered.collectors index).trans ?_
  cases index with
  | zero => exact congrArg some kept
  | succ index => rfl

/-- A collector of its own keeps all that a scan reports, and besides the log nothing is
written. -/
theorem collect_unlimited (scan : Scan) :
    (scan.collect none).1 = ⟨none, scan.diagnostics.toArray, 0⟩ ∧
      (scan.collect none).2.flatMap (Event.standardError false) = [] ∧
      (scan.collect none).2.flatMap Event.standardOutput = [] := by
  have delivered : Delivered _ freshCollector _ := .scan_single scan (.collector 0) freshCollector
  have kept : (scan.collect none).1 =
      (scan.report (.collector 0) freshCollector).collectors.headD (Collector.empty none) := rfl
  rw [kept, collectors_report]
  exact ⟨rfl, delivered.console, delivered.output⟩

end Scan

end ScriptLexer
