import ScriptLexer.Reporting.Collector
import ScriptLexer.Reporting.Console

/-! Reporters: where diagnostics go. A reporter names its destinations and holds no
state of its own, so one collector or stream can stand behind any number of
reporters. The destinations change together, as one value. -/
namespace ScriptLexer

open Text

/-- A destination of diagnostics, or several. -/
inductive Reporter
  /-- Keeps diagnostics in the collector of this number. -/
  | collector (index : Nat)
  /-- Writes diagnostics to the stream of this number. -/
  | stream (index : Nat)
  /-- Writes diagnostics to the standard error stream. -/
  | console
  /-- Passes each diagnostic to every part, in order. -/
  | tee (parts : List Reporter)

/-- All destinations with what they have received. -/
structure Sinks where
  collectors : List Collector
  /-- What was written to each stream, piece by piece. -/
  streams : List (List (List Char))
  console : Array Event
deriving DecidableEq

namespace Sinks

/-- No destination but the console, to which nothing was written. -/
def empty : Sinks := ⟨[], [], #[]⟩

/-- Writes to the console. -/
def write (sinks : Sinks) (event : Event) : Sinks :=
  { sinks with console := sinks.console.push event }

/-- A new collector, and the reporter that fills it. -/
def addCollector (sinks : Sinks) (limit : Option Int) : Reporter × Sinks :=
  (.collector sinks.collectors.length,
    { sinks with collectors := sinks.collectors ++ [Collector.empty limit] })

/-- A new stream, and the reporter that writes to it. -/
def addStream (sinks : Sinks) : Reporter × Sinks :=
  (.stream sinks.streams.length, { sinks with streams := sinks.streams ++ [[]] })

end Sinks

namespace Reporter

/-- The record that a reporter leaves in the log for a diagnostic. -/
def record (lead : String) (diagnostic : Diagnostic) : Event :=
  .debug (lead.toList ++ " at line ".toList ++ signedDecimal diagnostic.line ++ ": ".toList ++
    diagnostic.message)

mutual

/-- Reports a diagnostic. -/
def report (diagnostic : Diagnostic) : Reporter → Sinks → Sinks
  | .collector index, sinks =>
    let noted := sinks.write (record "collected scan error" diagnostic)
    { noted with collectors := noted.collectors.modify index (·.report diagnostic) }
  | .stream index, sinks =>
    let noted := sinks.write (record "scan error" diagnostic)
    { noted with
      streams := noted.streams.modify index
        (· ++ [withoutControlSequences diagnostic.print ++ ['\n']]) }
  | .console, sinks =>
    (sinks.write (record "scan error" diagnostic)).write (.errorLine diagnostic.print)
  | .tee parts, sinks => reportToAll diagnostic parts sinks

/-- Reports a diagnostic to each of several reporters in turn. -/
def reportToAll (diagnostic : Diagnostic) : List Reporter → Sinks → Sinks
  | [], sinks => sinks
  | part :: parts, sinks => reportToAll diagnostic parts (report diagnostic part sinks)

end

end Reporter

end ScriptLexer
