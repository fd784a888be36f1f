import ScriptLexer.Diagnostic
import ScriptLexer.Text.Lines

/-! A collector keeps diagnostics for a report. It can have a limit, past which
diagnostics are counted and no longer kept. -/
namespace ScriptLexer

open Text

/-- Diagnostics reported so far. -/
structure Collector where
  /-- At most so many are kept. A limit below zero keeps as many as zero does. -/
  limit : Option Int
  stored : Array Diagnostic
  /-- How many were reported after the limit was reached. -/
  dropped : Nat
deriving DecidableEq

namespace Collector

/-- A collector to which nothing has been reported. -/
def empty (limit : Option Int) : Collector := ⟨limit, #[], 0⟩

/-- Whether no further diagnostic is kept. -/
def isFull (collector : Collector) : Bool :=
  match collector.limit with
  | none => false
  | some limit => limit ≤ collector.stored.size

/-- Keeps a diagnostic, or counts it if the collector is full. -/
def report (collector : Collector) (diagnostic : Diagnostic) : Collector :=
  if collector.isFull then { collector with dropped := collector.dropped + 1 }
  else { collector with stored := collector.stored.push diagnostic }

/-- How many diagnostics were reported, kept or not. -/
def count (collector : Collector) : Nat := collector.stored.size + collector.dropped

def hasErrors (collector : Collector) : Bool := 0 < collector.count

/-- Forgets everything reported so far. -/
def clear (collector : Collector) : Collector := empty collector.limit

/-- The line that says how many diagnostics are not shown, if there are any. -/
def droppedLines (dropped : Nat) : List (List Char) :=
  if dropped = 0 then []
  else ["... ".toList ++ decimal dropped ++ " more not shown".toList]

/-- The line that counts all diagnostics. -/
def countLine (count : Nat) : List Char :=
  decimal count ++ (if count = 1 then " error".toList else " errors".toList)

/-- The diagnostics kept, the number of the others, and the number of all, on a
line each. -/
def reportText (collector : Collector) : List Char :=
  joinLines (collector.stored.toList.map Diagnostic.print ++ droppedLines collector.dropped ++
    [countLine collector.count])

/-- The error made of everything reported, if anything was. -/
def failure? (collector : Collector) : Option LexicalError :=
  if collector.hasErrors then
    some (.collected (collector.stored.toList.map .located) collector.reportText)
  else none

end Collector

end ScriptLexer
