import ScriptLexer.Command.EncodingError
import ScriptLexer.Command.ExitStatus
import ScriptLexer.Command.SystemError
import ScriptLexer.Diagnostic
import ScriptLexer.Reporting.Console

/-! Failures: what can end the command early, what is said about it and with which
status the command then ends. -/
namespace ScriptLexer.Command

/-- What ends the command early. -/
inductive Failure
  | lexical (error : LexicalError)
  | system (error : SystemError) (details : List Detail)
  | decoding (error : DecodingError)
  /-- Anything else is an error inside the program, known by the trace it leaves. -/
  | internal (description trace : List Char)

namespace Failure

/-- The status with which the command ends. What keeps the input from being read
is told apart from other errors of the system. -/
def status : Failure → ExitStatus
  | lexical _ => .dataError
  | system .missing _ | system .denied _ | system .isDirectory _ => .noInput
  | system .other _ => .ioError
  | decoding _ => .noInput
  | internal _ _ => .software

/-- What is said about a failure. Lexical errors bring their own report. -/
def message : Failure → List Char
  | lexical error => error.print
  | system _ details => "Error: ".toList ++ Detail.systemWords details
  | decoding error => "Error: ".toList ++ error.words
  | internal description _ => "Internal error: ".toList ++ description

/-- What a failure writes to the console. -/
def events (failure : Failure) : List Event :=
  .errorLine failure.message ::
    match failure with
    | internal _ trace => [.trace trace]
    | lexical _ | system _ _ | decoding _ => []

end Failure

end ScriptLexer.Command
