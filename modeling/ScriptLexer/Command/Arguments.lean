import ScriptLexer.Command.Outcome
import ScriptLexer.Text.Blank

/-! The command line: options, scripts and the settings that follow from them and
from the environment. Arguments are read from left to right and the first fault
decides; a request for information comes before any fault of the environment. -/
namespace ScriptLexer.Command

open Text

/-- What the command can tell about itself. -/
inductive Information
  | version
  | help
deriving DecidableEq

/-- The options that have a long name. -/
inductive LongOption
  | prompt
  | verbose
  | information (wanted : Information)
deriving DecidableEq

namespace LongOption

def ofName? (name : List Char) : Option LongOption :=
  if name = "--prompt".toList then some prompt
  else if name = "--verbose".toList then some verbose
  else if name = "--version".toList then some (information .version)
  else if name = "--help".toList then some (information .help)
  else none

end LongOption

/-- What the arguments say. -/
structure Arguments where
  scripts : List (List Char)
  /-- The prompt that was given last. -/
  prompt : Option (List Char)
  verbose : Bool
  /-- The information that was asked for first. -/
  information : Option Information
deriving DecidableEq

/-- The words that turn a switch on or off, in the order in which they are listed
for the user. No word at all turns it off. -/
def switchWords : List (List Char × Bool) :=
  [([], false), ("0".toList, false), ("1".toList, true), ("f".toList, false),
   ("false".toList, false), ("n".toList, false), ("no".toList, false), ("off".toList, false),
   ("on".toList, true), ("t".toList, true), ("true".toList, true), ("y".toList, true),
   ("yes".toList, true)]

namespace Arguments

/-- What is wrong with the options. -/
inductive Fault
  | unknownOption (name : List Char)
  | missingValue (name : List Char)
  | unexpectedValue (name : List Char)
  /-- The environment sets the verbose switch to neither on nor off. -/
  | invalidSwitch (value : List Char)
deriving DecidableEq

/-- The arguments of a command line that is empty. -/
def empty : Arguments := ⟨[], none, false, none⟩

/-- Asks for information, unless some was asked for before. -/
def askFor (given : Arguments) (wanted : Information) : Arguments :=
  { given with information := given.information.or (some wanted) }

/-- Reads a cluster of short options, of which there is one. -/
def readCluster (given : Arguments) : List Char → Except Fault Arguments
  | [] => .ok given
  | 'v' :: letters => readCluster { given with verbose := true } letters
  | letter :: _ => .error (.unknownOption ['-', letter])

/-- The name of an option, and the value after an equals sign if there is one. -/
def splitValue (argument : List Char) : List Char × Option (List Char) :=
  let name := argument.takeWhile (· != '=')
  match argument.drop name.length with
  | _ :: value => (name, some value)
  | [] => (name, none)

/-- Whether an argument is an option. A lone minus sign is a script. -/
def isOption : List Char → Bool
  | '-' :: _ :: _ => true
  | _ => false

/-- Reads arguments after those that were read already. Two minus signs end the
options; a prompt can be any argument, also one that looks like an option. -/
def readFrom (given : Arguments) : List (List Char) → Except Fault Arguments
  | [] => .ok given
  | argument :: rest =>
    if argument = "--".toList then .ok { given with scripts := given.scripts ++ rest }
    else if isOption argument then
      let (name, value?) := splitValue argument
      match LongOption.ofName? name, value? with
      | some .prompt, some value => readFrom { given with prompt := some value } rest
      | some .prompt, none =>
        match rest with
        | value :: rest => readFrom { given with prompt := some value } rest
        | [] => .error (.missingValue name)
      | some .verbose, none => readFrom { given with verbose := true } rest
      | some (.information wanted), none => readFrom (given.askFor wanted) rest
      | some .verbose, some _ | some (.information _), some _ => .error (.unexpectedValue name)
      | none, _ =>
        if "--".toList.isPrefixOf argument then .error (.unknownOption name)
        else match readCluster given (argument.drop 1) with
          | .ok given => readFrom given rest
          | .error fault => .error fault
    else readFrom { given with scripts := given.scripts ++ [argument] } rest

/-- Reads the arguments of a command line. -/
def read (arguments : List (List Char)) : Except Fault Arguments := readFrom empty arguments

namespace Fault

/-- The two lines that show how the command is used. -/
def usageLines : List Char :=
  "Usage: krab [OPTIONS] [SCRIPT]...\nTry 'krab --help' for help.\n\n".toList

/-- What is said about a fault. Where the form of an option is wrong, its own
message is enough. -/
def message : Fault → List Char
  | unknownOption name => usageLines ++ "Error: No such option ".toList ++ quoted name ++ ['.']
  | missingValue name => "Error: Option ".toList ++ quoted name ++ " requires an argument.".toList
  | unexpectedValue name =>
    "Error: Option ".toList ++ quoted name ++ " does not take a value.".toList
  | invalidSwitch value =>
    usageLines ++ "Error: Invalid value for '-v' / '--verbose': ".toList ++ quoted value ++
      " is not a valid boolean. Recognized values: ".toList ++
      ", ".toList.intercalate (switchWords.map (·.1))

end Fault

end Arguments

/-- What the environment sets. A setting that is empty counts as not made. -/
structure Environment where
  prompt : Option (List Char)
  verbose : Option (List Char)
deriving DecidableEq

namespace Environment

/-- A switch of the environment: on or off, with blanks around it and in any case
of letters. -/
def switch (value : List Char) : Except Arguments.Fault Bool :=
  match switchWords.lookup ((trim value).map Char.toLower) with
  | some isOn => .ok isOn
  | none => .error (.invalidSwitch value)

/-- A setting, unless it is empty. -/
def nonempty (setting : Option (List Char)) : Option (List Char) :=
  setting.filter fun value => !value.isEmpty

end Environment

/-- The settings of a run. -/
structure Settings where
  prompt : List Char
  verbose : Bool
deriving DecidableEq

namespace Settings

def defaultPrompt : List Char := "> ".toList

/-- The settings of a command line in an environment. An option that was given
comes before what the environment sets. -/
def resolve (given : Arguments) (environment : Environment) : Except Arguments.Fault Settings := do
  let prompt :=
    (given.prompt.or (Environment.nonempty environment.prompt)).getD defaultPrompt
  let verbose ←
    if given.verbose then .ok true
    else match Environment.nonempty environment.verbose with
      | some value => Environment.switch value
      | none => .ok false
  return { prompt, verbose }

end Settings

end ScriptLexer.Command
