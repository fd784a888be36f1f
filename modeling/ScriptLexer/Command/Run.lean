import ScriptLexer.Command.Arguments
import ScriptLexer.Command.Prompt

/-! The whole command: what a command line asks for, and what comes of it. A line
can ask for one script, for the prompt, or for something that is answered without
reading any input. -/
namespace ScriptLexer.Command

open Text

/-- The version of the command, as it tells it. -/
def versionText : List Char := "krab, version 0.1.0\n".toList

/-- The help of the command. -/
def helpText : List Char :=
  ("Usage: krab [OPTIONS] [SCRIPT]...\n" ++
    "\n" ++
    "  Scan Krab source code and print its tokens.\n" ++
    "\n" ++
    "  With no SCRIPT, starts an interactive prompt that scans one line at a time\n" ++
    "  until a blank line is entered. With one SCRIPT, scans that file.\n" ++
    "\n" ++
    "  Exit status:\n" ++
    "      0   success\n" ++
    "      64  wrong number of arguments\n" ++
    "      65  the script had lexical errors\n" ++
    "      66  the script could not be read\n" ++
    "\n" ++
    "Options:\n" ++
    "  --prompt TEXT  Prompt shown in interactive mode  [default: > ]\n" ++
    "  -v, --verbose  Verbose output\n" ++
    "  --version      Show the version and exit.\n" ++
    "  --help         Show this message and exit.\n").toList

/-- What the command tells about itself. -/
def inform : Information → List Char
  | .version => versionText
  | .help => helpText

/-- What a command line asks for. -/
inductive Plan
  /-- The command line is answered without reading anything. -/
  | answer (outcome : Outcome)
  | script (path : Path) (verbose : Bool)
  | prompt (prompt : List Char) (verbose : Bool)

/-- The answer to options that cannot be followed. -/
def Plan.refuse (fault : Arguments.Fault) : Plan :=
  .answer ⟨[.errorLine fault.message], .badOption⟩

/-- What a command line asks for in an environment. -/
def Plan.ofArguments (arguments : List (List Char)) (environment : Environment) : Plan :=
  match Arguments.read arguments with
  | .error fault => .refuse fault
  | .ok given =>
    match given.information with
    | some wanted => .answer ⟨[.output (inform wanted)], .success⟩
    | none =>
      match Settings.resolve given environment with
      | .error fault => .refuse fault
      | .ok settings =>
        match given.scripts with
        | [] => .prompt settings.prompt settings.verbose
        | [path] => .script (.ofText path) settings.verbose
        | _ => .answer ⟨[.outputLine "Usage: krab [script]".toList], .usage⟩

/-- Carries out a plan, where `read` gives the content of files and `input` the
lines for the prompt. -/
def Plan.carryOut (read : Path → Except ReadFault (List UInt8)) (input : Input) :
    Plan → Visible
  | .answer outcome => outcome.render false
  | .script path isVerbose => (runScript read path).render isVerbose
  | .prompt shown isVerbose => (runPrompt shown input).render isVerbose

/-- Runs the command. -/
def run (arguments : List (List Char)) (environment : Environment)
    (read : Path → Except ReadFault (List UInt8)) (input : Input) : Visible :=
  (Plan.ofArguments arguments environment).carryOut read input

end ScriptLexer.Command
