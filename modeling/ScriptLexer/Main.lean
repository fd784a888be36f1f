import ScriptLexer.Command.Run

/-! The program: it gives the command its arguments, its environment, the content of
the script it asks for and the blocks of the standard input, and writes what the
command answers. All else is decided by the library. -/
namespace ScriptLexer.Program

open ScriptLexer.Command

/-- An error of the system by its number, in the words that are customary for it.
Some layers give the number as a negative one. -/
def systemFault (code : UInt32) (description : String) : ReadFault :=
  let number := if code < 0x80000000 then code.toNat else 0x100000000 - code.toNat
  match number with
  | 2 => .missing
  | 13 => .denied
  | 20 => .notDirectory
  | 21 => .isDirectory
  | 36 => .nameTooLong
  | _ => .system number description.toList

/-- The fault of an error that reading a file has raised. -/
def readFault : IO.Error → ReadFault
  | .noFileOrDirectory _ code text | .permissionDenied _ code text
  | .inappropriateType _ code text | .noSuchThing _ code text
  | .resourceExhausted _ code text | .invalidArgument _ code text
  | .alreadyExists _ code text | .interrupted _ code text
  | .otherError code text | .resourceBusy code text | .resourceVanished code text
  | .unsupportedOperation code text | .hardwareFault code text
  | .unsatisfiedConstraints code text | .illegalOperation code text
  | .protocolError code text | .timeExpired code text => systemFault code text
  | .unexpectedEof => .system 5 "Input/output error".toList
  | .userError text => .system 5 text.toList

/-- The content of the file at a path. -/
def readScript (path : Path) : IO (Except ReadFault (List UInt8)) := do
  if path.print.contains '\x00' then return .error (.nulInPath "in the path of a script".toList)
  try
    let content ← IO.FS.readBinFile (String.ofList path.print)
    return .ok content.toList
  catch error => return .error (readFault error)

/-- How many bytes of the standard input are read at once. -/
def blockSize : USize := 8192

/-- The next block of the standard input: a line of a terminal, or some bytes of anything
else. Nothing is left behind an empty one. -/
def readBlock : IO (Except ReadFault (List UInt8)) := do
  let input ← IO.getStdin
  try
    let block ← if ← input.isTty then pure (← input.getLine).toUTF8 else input.read blockSize
    return .ok block.toList
  catch error => return .error (readFault error)

/-- Writes what can be seen of a run and gives its exit status. -/
def present (visible : Visible) : IO UInt32 := do
  (← IO.getStdout).putStr (String.ofList visible.stdout)
  (← IO.getStdout).flush
  (← IO.getStderr).putStr (String.ofList visible.stderr)
  return visible.exit.toUInt32

/-- Shows events as they happen. -/
def presentEvents (isVerbose : Bool) (events : List Event) : IO Unit := do
  discard (present ((Outcome.done.after events).render isVerbose))

/-- A session behind its first prompt. Each block is answered before the next is read. -/
partial def converse (prompt : List Char) (isVerbose : Bool) (reader : Reader) : IO UInt32 := do
  match ← readBlock with
  | .error fault => present ((Outcome.ofFailure (inputFailure fault)).render isVerbose)
  | .ok [] => present ((Command.converse prompt reader.finish).render isVerbose)
  | .ok block =>
    match turn prompt reader block with
    | .ends outcome => present (outcome.render isVerbose)
    | .goesOn events next =>
      presentEvents isVerbose events
      converse prompt isVerbose next

/-- Does what a command line asks for. -/
def carryOut (plan : Plan) : IO UInt32 := do
  match plan with
  | .answer _ => present (plan.carryOut (fun _ => .error .missing) ⟨[], none⟩)
  | .script path _ =>
    let content ← readScript path
    present (plan.carryOut (fun _ => content) ⟨[], none⟩)
  | .prompt shown isVerbose =>
    presentEvents isVerbose [promptEvent shown]
    converse shown isVerbose .fresh

end ScriptLexer.Program

def main (arguments : List String) : IO UInt32 := do
  let environment : ScriptLexer.Command.Environment :=
    { prompt := (← IO.getEnv "KRAB_PROMPT").map String.toList
      verbose := (← IO.getEnv "KRAB_VERBOSE").map String.toList }
  ScriptLexer.Program.carryOut
    (ScriptLexer.Command.Plan.ofArguments (arguments.map String.toList) environment)
