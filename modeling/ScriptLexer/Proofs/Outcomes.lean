import ScriptLexer.Command.Run
import ScriptLexer.Proofs.LineEnds
import ScriptLexer.Proofs.Printable

/-! What runs show. A command line that asks for a script or for the prompt is carried out
as such; what is shown of a run is what its events show one after another, and a run that
only fails shows what it says about the failure. -/
namespace ScriptLexer.Command

open Text

variable {arguments scripts : List (List Char)} {environment : Environment} {settings : Settings}
  {script : List Char}

/-- The command line can be followed and asks for no information. It names these scripts,
and in this environment it comes with these settings. -/
def Asks (arguments : List (List Char)) (environment : Environment) (scripts : List (List Char))
    (settings : Settings) : Prop :=
  ∃ given, Arguments.read arguments = .ok given ∧ given.information = none ∧
    given.scripts = scripts ∧ Settings.resolve given environment = .ok settings

theorem Asks.run_script (asked : Asks arguments environment [script] settings)
    (read : Path → Except ReadFault (List UInt8)) (input : Input) :
    run arguments environment read input =
      (runScript read (.ofText script)).render settings.verbose := by
  obtain ⟨given, followed, uninformed, named, resolved⟩ := asked
  simp [run, Plan.ofArguments, followed, uninformed, named, resolved, Plan.carryOut]

theorem Asks.run_prompt (asked : Asks arguments environment [] settings)
    (read : Path → Except ReadFault (List UInt8)) (input : Input) :
    run arguments environment read input =
      (runPrompt settings.prompt input).render settings.verbose := by
  obtain ⟨given, followed, uninformed, named, resolved⟩ := asked
  simp [run, Plan.ofArguments, followed, uninformed, named, resolved, Plan.carryOut]

/-- A lone argument that is no option names a script, and no environment means no verbose
output. -/
theorem asks_script (plain : Arguments.isOption script = false) :
    Asks [script] ⟨none, none⟩ [script] ⟨Settings.defaultPrompt, false⟩ := by
  have separate : script ≠ "--".toList := by
    rintro rfl
    cases plain
  refine ⟨⟨[script], none, false, none⟩, ?_, rfl, rfl, rfl⟩
  rw [Arguments.read, Arguments.readFrom, if_neg separate, plain]
  rfl

/-- Any text can be asked for as the prompt. -/
theorem asks_prompt (prompt : List Char) :
    Asks ["--prompt".toList, prompt] ⟨none, none⟩ [] ⟨prompt, false⟩ :=
  ⟨⟨[], some prompt, false, none⟩, rfl, rfl, rfl, rfl⟩

/-- What happens before shows before. -/
theorem Outcome.render_after (verbose : Bool) (outcome : Outcome) (earlier : List Event) :
    (outcome.after earlier).render verbose =
      { exit := (outcome.render verbose).exit
        stdout := earlier.flatMap Event.standardOutput ++ (outcome.render verbose).stdout
        stderr :=
          earlier.flatMap (Event.standardError verbose) ++ (outcome.render verbose).stderr } := by
  simp [render, after]

/-- Tokens are printed one on a line. -/
theorem standardOutput_tokenEvents (tokens : List Token) :
    (tokenEvents tokens).flatMap Event.standardOutput = onLines (tokens.map Token.print) := by
  rw [tokenEvents, onLines, List.flatMap_map, List.flatMap_map]
  congr 1
  funext token
  rw [Event.outputLine, token.printable_print.withoutControlSequences_eq]
  rfl

theorem standardError_tokenEvents (tokens : List Token) (verbose : Bool) :
    (tokenEvents tokens).flatMap (Event.standardError verbose) = [] := by
  rw [tokenEvents, List.flatMap_map, List.flatMap_eq_nil_iff]
  exact fun _ _ => rfl

/-- A run that does nothing but fail shows nothing but what it says about the failure. -/
theorem Outcome.render_ofFailure {failure : Failure}
    (outside : ∀ text trace, failure ≠ .internal text trace) (verbose : Bool) :
    (ofFailure failure).render verbose =
      ⟨failure.status.code, [], withoutControlSequences failure.message ++ ['\n']⟩ := by
  cases failure with
  | internal text trace => exact absurd rfl (outside text trace)
  | lexical | system | decoding =>
    simp [ofFailure, render, Failure.events, Event.errorLine, Event.standardOutput,
      Event.standardError]

end ScriptLexer.Command
