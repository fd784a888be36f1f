import ScriptLexer.Command.Input
import ScriptLexer.Command.Script
import ScriptLexer.Text.Blank

/-! The prompt: lines are read, scanned and answered one at a time. Every line is a
source of its own, and what is wrong with it is reported before its tokens are
printed. A blank line or the end of the input ends the session. -/
namespace ScriptLexer.Command

open Text

/-- The prompt, as it is shown. -/
def promptEvent (prompt : List Char) : Event := .output (withoutControlSequences prompt)

/-- The answer to one line of the prompt. The line is scanned on its own. -/
def answerLine (line : List Char) : List Event :=
  let scan := Scan.ofSource line
  (scan.report .console Sinks.empty).console.toList ++ tokenEvents scan.tokens

/-- Whether a line ends the session. -/
def endsSession (line : List Char) : Bool := line.all isBlank

/-- Answers lines one after another, each with the prompt for the next one behind it, up to
a blank line. Tells whether the session goes on behind the lines. -/
def answer (prompt : List Char) : List (List Char) → List Event × Bool
  | [] => ([], true)
  | line :: lines =>
    if endsSession line then ([], false)
    else
      let (later, goesOn) := answer prompt lines
      (answerLine line ++ promptEvent prompt :: later, goesOn)

/-- The failure of an input that cannot be read on. Unlike a script, it has no name. -/
def inputFailure : ReadFault → Failure
  | .system code description =>
    let details := [.number code, .text description]
    .system (SystemError.ofDetails details) details
  | .nulInPath trace => readFailure [] (.nulInPath trace)

/-- How a session ends that has no lines any more. -/
def Input.ending (input : Input) : Outcome :=
  match input.failure with
  | none => .done
  | some failure => .ofFailure failure

/-- What follows the first prompt of a session. -/
def converse (prompt : List Char) (input : Input) : Outcome :=
  let (events, goesOn) := answer prompt input.lines
  (if goesOn then input.ending else .done).after events

/-- A session at the prompt. -/
def runPrompt (prompt : List Char) (input : Input) : Outcome :=
  (converse prompt input).after [promptEvent prompt]

/-- What comes of one block of the input. -/
inductive Turn
  /-- The block is answered, and the next one can be read. -/
  | goesOn (events : List Event) (reader : Reader)
  | ends (outcome : Outcome)

/-- Answers the lines that a block completes. -/
def turn (prompt : List Char) (reader : Reader) (block : List UInt8) : Turn :=
  match reader.feed block with
  | .error failure => .ends (.ofFailure failure)
  | .ok (lines, next) =>
    match answer prompt lines with
    | (events, true) => .goesOn events next
    | (events, false) => .ends (Outcome.done.after events)

end ScriptLexer.Command
