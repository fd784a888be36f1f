import ScriptLexer.Reporting.Reporter
import ScriptLexer.Source.Scan

/-! Scanners: a source, a reporter for its diagnostics, and the scan once it has
been made. A scanner scans its source once. -/
namespace ScriptLexer

open Text

/-- Reports a scan: each diagnostic in the order of the source, between the two
records of the log that frame it. -/
def Scan.report (scan : Scan) (reporter : Reporter) (sinks : Sinks) : Sinks :=
  let opening : Event := .debug ("scanning ".toList ++ decimal scan.source.length ++
    " characters".toList)
  let closing : Event := .debug ("scanned ".toList ++ decimal scan.tokens.length ++
    " tokens over ".toList ++ decimal scan.lastLine ++ " lines, ".toList ++
    decimal scan.errorCount ++ " errors".toList)
  (scan.diagnostics.foldl (fun sinks diagnostic => reporter.report diagnostic sinks)
    (sinks.write opening)).write closing

/-- Reports a scan to a collector of its own. Gives the collector and what was
written to the console. -/
def Scan.collect (scan : Scan) (limit : Option Int) : Collector × List Event :=
  let (reporter, fresh) := Sinks.empty.addCollector limit
  let reported := scan.report reporter fresh
  (reported.collectors.headD (Collector.empty limit), reported.console.toList)

/-- A source to be scanned, or scanned already. -/
structure Scanner where
  source : List Char
  reporter : Reporter
  /-- The scan, from the time it is made. -/
  scan? : Option Scan

namespace Scanner

/-- A scanner that has not been used. -/
def ofSource (source : List Char) (reporter : Reporter) : Scanner := ⟨source, reporter, none⟩

/-- The tokens found so far. -/
def tokens (scanner : Scanner) : List Token :=
  match scanner.scan? with
  | none => []
  | some scan => scan.tokens

/-- The line counter, which is one before the scan. -/
def line (scanner : Scanner) : Nat :=
  match scanner.scan? with
  | none => 1
  | some scan => scan.lastLine

/-- The counter of errors, which is zero before the scan. It counts what was reported,
whatever became of it. -/
def errorCount (scanner : Scanner) : Nat :=
  match scanner.scan? with
  | none => 0
  | some scan => scan.errorCount

/-- Scans the source and reports what is wrong with it. A scanner that was used
before gives nothing and changes nothing. -/
def scanAll? (scanner : Scanner) (sinks : Sinks) : Option (List Token × Scanner × Sinks) :=
  match scanner.scan? with
  | some _ => none
  | none =>
    let scan := Scan.ofSource scanner.source
    some (scan.tokens, { scanner with scan? := some scan },
      scan.report scanner.reporter sinks)

/-- Why a scanner refuses a second scan. -/
def usedMessage : List Char := "Scanner.scan_all() can only be called once".toList

end Scanner

end ScriptLexer
