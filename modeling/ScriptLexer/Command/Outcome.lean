import ScriptLexer.Command.Failure

/-! Outcomes: everything a run of the command wrote, in order, and how it ended. -/
namespace ScriptLexer.Command

/-- A finished run. -/
structure Outcome where
  events : List Event
  status : ExitStatus
deriving DecidableEq

/-- What can be seen of a run from outside. -/
structure Visible where
  exit : Nat
  stdout : List Char
  stderr : List Char
deriving DecidableEq

namespace Outcome

/-- A run that ends well and writes nothing. -/
def done : Outcome := ⟨[], .success⟩

/-- A run that does nothing but fail. -/
def ofFailure (failure : Failure) : Outcome := ⟨failure.events, failure.status⟩

/-- The same run after other events. -/
def after (outcome : Outcome) (earlier : List Event) : Outcome :=
  { outcome with events := earlier ++ outcome.events }

/-- A run as it is seen from outside, verbose or not. -/
def render (verbose : Bool) (outcome : Outcome) : Visible :=
  { exit := outcome.status.code
    stdout := outcome.events.flatMap Event.standardOutput
    stderr := outcome.events.flatMap (Event.standardError verbose) }

end Outcome

end ScriptLexer.Command
