import ScriptLexer.Proofs.Blocks
import ScriptLexer.Proofs.LogRecords
import ScriptLexer.Proofs.UnreadableScripts

/-! Traces of internal errors. A run leaves one at its end if such an error ends it, and no other
run leaves any. With a script this is a path that holds a NUL; at the prompt it is a failure to
read on that is neither one of the system nor one of decoding, which no bytes lead to. -/
namespace ScriptLexer.Command

open Text

variable {events : List Event} {outcome : Outcome} {trace : List Char}
  {origin wider : List Char → Prop} {read : Path → Except ReadFault (List UInt8)} {path : Path}

/-- What a verbose run leaves at its end: nothing, unless it ends with an internal error, and then
the trace of that, which is a text of this origin on a line. -/
structure Outcome.Leaves (outcome : Outcome) (origin : List Char → Prop) (trace : List Char) :
    Prop where
  shown : LeavesTrace trace outcome.events
  nothing : trace = [] ↔ outcome.status ≠ .software
  origin : trace ≠ [] → ∃ text, origin text ∧ trace = text ++ ['\n']

theorem Traceless.leaves (traceless : Traceless outcome.events)
    (outside : outcome.status ≠ .software) : outcome.Leaves origin [] :=
  ⟨traceless.leavesTrace, iff_of_true rfl outside, fun something => absurd rfl something⟩

theorem Outcome.Leaves.imp (leaves : outcome.Leaves origin trace)
    (within : ∀ text, origin text → wider text) : outcome.Leaves wider trace where
  shown := leaves.shown
  nothing := leaves.nothing
  origin something := by
    obtain ⟨text, here, same⟩ := leaves.origin something
    exact ⟨text, within text here, same⟩

/-- What happens before makes no difference to the end. -/
theorem Outcome.Leaves.after (leaves : outcome.Leaves origin trace) (traceless : Traceless events) :
    (outcome.after events).Leaves origin trace :=
  ⟨leaves.shown.after traceless, leaves.nothing, leaves.origin⟩

theorem leaves_ofFailure (failure : Failure) :
    (Outcome.ofFailure failure).Leaves
      (fun text => ∃ description, failure = .internal description text) failure.shownTrace where
  shown := leavesTrace_ofFailure failure
  nothing := by
    cases failure with
    | internal description text =>
      simp [Failure.shownTrace, Outcome.ofFailure, Failure.status]
    | lexical | decoding => simp [Failure.shownTrace, Outcome.ofFailure, Failure.status]
    | system error details =>
      cases error <;> simp [Failure.shownTrace, Outcome.ofFailure, Failure.status]
  origin something := by
    cases failure with
    | internal description text => exact ⟨text, ⟨description, rfl⟩, rfl⟩
    | lexical | system | decoding => exact absurd rfl something

/-! ### Scripts -/

theorem nulInPath_of_loadScript {description text : List Char}
    (failed : loadScript read path = .error (.internal description text)) :
    read path = .error (.nulInPath text) := by
  cases content : read path with
  | ok bytes =>
    rw [loadScript, content] at failed
    cases found : (Utf8.decode bytes).fault <;> simp [decodeScript, found] at failed
  | error fault =>
    rw [loadScript_of_refused content] at failed
    cases fault with
    | system code description => cases failed
    | nulInPath trace =>
      cases failed
      rfl

theorem traceless_runScript {source : List Char} (loaded : loadScript read path = .ok source) :
    Traceless (runScript read path).events := by
  rw [runScript_of_ok loaded]
  exact traceless_append.mpr ⟨traceless_debug _, traceless_scanScript _ _⟩

theorem runScript_leaves (read : Path → Except ReadFault (List UInt8)) (path : Path) :
    ∃ trace,
      (runScript read path).Leaves (fun text => read path = .error (.nulInPath text)) trace := by
  cases loaded : loadScript read path with
  | ok source =>
    have outside : (runScript read path).status ≠ .software := by
      rcases status_runScript_of_ok loaded with ended | ended <;> rw [ended] <;> nofun
    exact ⟨[], (traceless_runScript loaded).leaves outside⟩
  | error failure =>
    rw [runScript_of_error loaded]
    refine ⟨failure.shownTrace, ((leaves_ofFailure failure).after (traceless_debug _)).imp ?_⟩
    rintro text ⟨description, rfl⟩
    exact nulInPath_of_loadScript loaded

/-! ### The prompt -/

theorem traceless_prompt (prompt : List Char) : Traceless [promptEvent prompt] := by
  simp [Traceless, promptEvent]

theorem runPrompt_leaves (prompt : List Char) (lines : List (List Char))
    (failure : Option Failure) :
    ∃ trace, (runPrompt prompt ⟨lines, failure⟩).Leaves
      (fun text => ∃ description, failure = some (.internal description text)) trace := by
  have prompted := traceless_prompt prompt
  induction lines with
  | nil =>
    cases failure with
    | none => exact ⟨[], Traceless.leaves prompted nofun⟩
    | some failure =>
      refine ⟨failure.shownTrace, ((leaves_ofFailure failure).after prompted).imp ?_⟩
      rintro text ⟨description, rfl⟩
      exact ⟨description, rfl⟩
  | cons line lines ih =>
    rw [runPrompt_cons]
    split
    · exact ⟨[], Traceless.leaves prompted nofun⟩
    · obtain ⟨trace, leaves⟩ := ih
      exact ⟨trace, leaves.after (traceless_append.mpr ⟨prompted, traceless_answerLine line⟩)⟩

/-- Bytes can fail to be text, and in no other way. -/
theorem Reader.decoding_of_readOn {failure : Failure} {blocks : List (List UInt8)} {reader : Reader}
    (failed : (reader.readOn blocks).failure = some failure) :
    ∃ error, failure = .decoding error := by
  induction blocks generalizing reader with
  | nil =>
    unfold readOn finish at failed
    dsimp only at failed
    split at failed <;> cases failed
    exact ⟨_, rfl⟩
  | cons block blocks ih =>
    rw [readOn] at failed
    cases fed : reader.feed block with
    | error other =>
      rw [fed] at failed
      cases failed
      unfold feed at fed
      dsimp only at fed
      repeat' split at fed
      all_goals cases fed
      exact ⟨_, rfl⟩
    | ok delivered =>
      rw [fed] at failed
      exact ih failed

end ScriptLexer.Command
