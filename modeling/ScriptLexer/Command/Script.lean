import ScriptLexer.Command.Outcome
import ScriptLexer.Command.Tree
import ScriptLexer.Reporting.Scanner

/-! Scripts: a file is read and scanned as a whole. Its tokens are printed one on a
line, and what is wrong with it follows as one report. A file that cannot be read
leaves nothing to print but the reason. -/
namespace ScriptLexer.Command

open Text

/-- Tokens as they are printed, one on a line. -/
def tokenEvents (tokens : List Token) : List Event :=
  tokens.map fun token => .outputLine token.print

/-- The failure of a script that cannot be read. -/
def readFailure (path : List Char) : ReadFault → Failure
  | .system code description =>
    let details := [.number code, .text description, .text path]
    .system (SystemError.ofDetails details) details
  | .nulInPath trace => .internal "embedded null byte".toList trace

/-- The text of a script: its bytes as UTF-8, with line ends folded. -/
def decodeScript (bytes : List UInt8) : Except Failure (List Char) :=
  let decoded := Utf8.decode bytes
  match decoded.fault with
  | none => .ok (foldLineEnds decoded.text)
  | some fault => .error (.decoding (.ofFault bytes fault))

/-- The text of the script at a path. -/
def loadScript (read : Path → Except ReadFault (List UInt8)) (path : Path) :
    Except Failure (List Char) :=
  match read path with
  | .ok bytes => decodeScript bytes
  | .error fault => .error (readFailure path.print fault)

/-- Scans the text of a script and prints its tokens, then the report on its
errors if it has any. -/
def scanScript (path : Path) (source : List Char) : Outcome :=
  let scan := Scan.ofSource source
  let (collector, records) := scan.collect none
  let summary : Event := .debug (path.print ++ ": ".toList ++ decimal collector.count ++
    " lexical errors".toList)
  let verdict : Outcome :=
    match collector.failure? with
    | none => .done
    | some error => .ofFailure (.lexical error)
  verdict.after (records ++ tokenEvents scan.tokens ++ [summary])

/-- Scans the script at a path, if it can be read. -/
def runScript (read : Path → Except ReadFault (List UInt8)) (path : Path) : Outcome :=
  let outcome :=
    match loadScript read path with
    | .ok source => scanScript path source
    | .error failure => .ofFailure failure
  outcome.after [.debug ("reading ".toList ++ path.print)]

end ScriptLexer.Command
