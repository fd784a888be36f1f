/-! Exit statuses of the command. Those above 63 follow the customary numbers for
system programs; a fault in the arguments has a lower one. -/
namespace ScriptLexer.Command

/-- How the command ends. -/
inductive ExitStatus
  | success
  /-- An option is unknown or wrongly used. -/
  | badOption
  /-- The wrong number of scripts was given. -/
  | usage
  /-- The script has lexical errors. -/
  | dataError
  /-- The input cannot be read. -/
  | noInput
  /-- An error inside the program. -/
  | software
  /-- Any other error of the system. -/
  | ioError
deriving DecidableEq

namespace ExitStatus

/-- The number handed to the system. -/
def code : ExitStatus → Nat
  | success => 0
  | badOption => 2
  | usage => 64
  | dataError => 65
  | noInput => 66
  | software => 70
  | ioError => 74

/-- The statuses of the command itself with their names, in the order of their
numbers. The status for a fault in the options has no name. -/
def named : List (ExitStatus × List Char) :=
  [(success, "SUCCESS".toList), (usage, "USAGE".toList), (dataError, "DATA_ERROR".toList),
   (noInput, "NO_INPUT".toList), (software, "SOFTWARE".toList), (ioError, "IO_ERROR".toList)]

end ExitStatus

end ScriptLexer.Command
