import ScriptLexer.Text.TerminalEscape

/-! The console: what a run writes, in order. Whether the records of the log and
the traces of internal errors show is decided when the events are rendered, so a
run does the same whether it is verbose or not. -/
namespace ScriptLexer

open Text

/-- One piece written to the console. -/
inductive Event
  /-- Text on the standard output. -/
  | output (text : List Char)
  /-- Text on the standard error stream. -/
  | error (text : List Char)
  /-- A record of the log. -/
  | debug (record : List Char)
  /-- What is known about the origin of an internal error. -/
  | trace (text : List Char)
deriving DecidableEq

namespace Event

/-- A line of standard output, as it leaves the program. -/
def outputLine (text : List Char) : Event := .output (withoutControlSequences text ++ ['\n'])

/-- A line on the standard error stream, as it leaves the program. -/
def errorLine (text : List Char) : Event := .error (withoutControlSequences text ++ ['\n'])

/-- What an event adds to the standard output. -/
def standardOutput : Event → List Char
  | output text => text
  | error _ | debug _ | trace _ => []

/-- What an event adds to the standard error stream. Records and traces are shown
in a verbose run only, and records are marked as such. -/
def standardError (verbose : Bool) : Event → List Char
  | output _ => []
  | error text => text
  | debug record => if verbose then "DEBUG: ".toList ++ record ++ ['\n'] else []
  | trace text => if verbose then text ++ ['\n'] else []

end Event

end ScriptLexer
