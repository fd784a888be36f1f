import ScriptLexer.Proofs.SafeRounds
import ScriptLexer.Reporting.Scanner

/-! A scan that hands over its reports as it goes, to anything that takes a report or refuses
it. Where nothing is refused, the scan goes through: its rounds are safe and bring it to the
end of its source, all that it finds is handed over in order, and its tokens are those of the
source with the token for the end behind them. -/
namespace ScriptLexer

variable {σ ε : Type} {report : Diagnostic → σ → Except ε σ} {source : List Char} {state : σ}

/-- What takes reports refuses none, whatever it was told before. -/
def Accepting (report : Diagnostic → σ → Except ε σ) : Prop :=
  ∀ diagnostic state, ∃ next, report diagnostic state = .ok next

/-- Hands over diagnostics one after another, as long as none is refused. -/
def reportInTurn (report : Diagnostic → σ → Except ε σ) (diagnostics : List Diagnostic)
    (state : σ) : Except ε σ :=
  diagnostics.foldlM (fun state diagnostic => report diagnostic state) state

theorem reportInTurn_append {first second : List Diagnostic} {next : σ}
    (reported : reportInTurn report first state = .ok next) :
    reportInTurn report (first ++ second) state = reportInTurn report second next := by
  rw [reportInTurn, List.foldlM_append]
  change reportInTurn report first state >>= _ = _
  rw [reported]
  rfl

/-- Where no report is refused, none of several is. -/
theorem exists_reportInTurn (accepting : Accepting report) (diagnostics : List Diagnostic)
    (state : σ) : ∃ next, reportInTurn report diagnostics state = .ok next := by
  induction diagnostics generalizing state with
  | nil => exact ⟨state, rfl⟩
  | cons diagnostic diagnostics ih =>
    obtain ⟨next, taken⟩ := accepting diagnostic state
    obtain ⟨last, later⟩ := ih next
    refine ⟨last, ?_⟩
    rw [reportInTurn, List.foldlM_cons, taken]
    exact later

namespace Pass

/-- Goes on round after round to the end of the source, and hands over what each round found
before the next begins. Either the cursor or the one who takes the reports may make it fail. -/
def finishReporting (report : Diagnostic → σ → Except ε σ) (pass : Pass) (state : σ) :
    Except (Cursor.Fault ⊕ ε) (Pass × σ) :=
  if pass.cursor.atEnd then .ok (pass, state)
  else
    match _taken : pass.round with
    | .error fault => .error (.inl fault)
    | .ok next =>
      match reportInTurn report (next.diagnostics.drop pass.diagnostics.length) state with
      | .error refusal => .error (.inr refusal)
      | .ok state => next.finishReporting report state
termination_by pass.cursor.rest.length
decreasing_by exact round_shortens _taken

variable {pass next : Pass}

theorem finishReporting_of_end (ended : pass.cursor.rest = []) (state : σ) :
    pass.finishReporting report state = .ok (pass, state) := by
  rw [finishReporting, if_pos (Cursor.atEnd_iff.mpr ended)]

theorem finishReporting_of_round {found : List Diagnostic} {state' : σ}
    (taken : pass.round = .ok next) (finds : next.diagnostics = pass.diagnostics ++ found)
    (reported : reportInTurn report found state = .ok state') :
    pass.finishReporting report state = next.finishReporting report state' := by
  obtain ⟨c, body, reading, after, ahead, _⟩ := round_inversion taken
  rw [finishReporting, Cursor.atEnd_of_rest ahead, if_neg Bool.false_ne_true]
  split
  · simp_all
  · rename_i other taken'
    rw [taken, Except.ok.injEq] at taken'
    subst taken'
    rw [finds, List.drop_left, reported]

/-- A pass whose reports are taken finishes as it does without them, and what it finds from
here on is handed over. -/
theorem exists_finishReporting (accepting : Accepting report) (pass : Pass) (state : σ) :
    ∃ last final found, pass.finishReporting report state = .ok (last, final) ∧
      pass.finish = .ok last ∧ last.diagnostics = pass.diagnostics ++ found ∧
      reportInTurn report found state = .ok final := by
  induction pass using round_induction generalizing state with
  | ended pass ended =>
    exact ⟨pass, state, [], finishReporting_of_end ended state, finish_of_end ended,
      (List.append_nil _).symm, rfl⟩
  | rounds pass next taken ih =>
    obtain ⟨c, body, reading, after, _, _, absorbed⟩ := round_inversion taken
    obtain ⟨new, finds⟩ : ∃ new, next.diagnostics = pass.diagnostics ++ new :=
      ⟨_, congrArg Pass.diagnostics absorbed⟩
    obtain ⟨between, reported⟩ := exists_reportInTurn accepting new state
    obtain ⟨last, final, found, finishes, finished, diagnostics, later⟩ := ih between
    refine ⟨last, final, new ++ found, ?_, ?_, ?_, ?_⟩
    · rw [finishReporting_of_round taken finds reported, finishes]
    · rw [finish_of_round taken, finished]
    · rw [diagnostics, finds, List.append_assoc]
    · rw [reportInTurn_append reported, later]

end Pass

namespace Scan

/-- A scan that went through, and left what takes its reports in the state `final`. -/
structure GoesThrough (report : Diagnostic → σ → Except ε σ) (source : List Char) (state : σ)
    (last : Pass) (final : σ) : Prop where
  finished : (Pass.start source).finishReporting report state = .ok (last, final)
  reported : reportInTurn report (ofSource source).diagnostics state = .ok final
  /-- The tokens of the scan, closed by the one for the end. -/
  tokens_eq : (ofSource source).tokens = last.tokens ++ [.endOfInput last.line]
  current_eq : last.cursor.current = source.length
  last_head : (Pass.start source).heads.getLast? = some last
  rounds : (Pass.start source).heads.IsChain (SafeRound source)
  turns_le : (Pass.start source).heads.length +
      ((Pass.start source).gather fun pass _ => (Traced.round pass).actions).countP
        Action.isTurn ≤
    source.length + 1
  /-- A scanner that is used for the first time gives these tokens, whatever it reports to. -/
  scanAll : ∀ reporter sinks, ∃ used, (Scanner.ofSource source reporter).scanAll? sinks =
    some ((ofSource source).tokens, used, (ofSource source).report reporter sinks)

/-- No source makes a scan fail. Where no report is refused, the scan goes through: every
round is safe and brings the cursor on, no loop goes on past the end of the source, all that
is wrong is reported in order, and the tokens are given with the one for the end behind them. -/
theorem exists_goesThrough (report : Diagnostic → σ → Except ε σ)
    (accepting : Accepting report) (source : List Char) (state : σ) :
    ∃ last final, GoesThrough report source state last final := by
  have within := Pass.within_start source
  obtain ⟨last, final, found, finishes, finished, diagnostics, reported⟩ :=
    Pass.exists_finishReporting accepting (.start source) state
  have scan := ofSource_of_finish finished
  have turns := within.turns_le
  have last_head := Pass.getLast?_heads finished
  have stands := Pass.heads_within source last (List.mem_of_getLast? last_head)
  refine ⟨last, final, finishes, ?_, ?_, ?_, last_head, ?_, ?_, ?_⟩
  · rw [scan, diagnostics]
    exact reported
  · rw [scan]
  · have ended := congrArg List.length (stands.rest_eq.symm.trans (Pass.rest_of_finish finished))
    have bound := stands.current_le
    rw [List.length_drop, List.length_nil] at ended
    omega
  · exact Pass.heads_chain within (fun _ _ within taken => within.round taken)
      fun _ _ within taken => within.safeRound taken
  · rw [← Nat.zero_add (List.length _)]
    exact turns
  · intro reporter sinks
    exact ⟨_, rfl⟩

/-- Takes every report and keeps it behind those before it. -/
def keeping (diagnostic : Diagnostic) (kept : List Diagnostic) : Except Empty (List Diagnostic) :=
  .ok (kept ++ [diagnostic])

/-- A number before a point that nothing follows, a string with a line end in it, a slash, a
character that has no place and, at the end, a comment without a text. -/
theorem exists_goesThrough_keeping :
    let source := "1.2.\"a\n\"/ @ //".toList
    Accepting keeping ∧
      ∃ last, GoesThrough keeping source [] last [.unexpectedCharacter ['@'] 2] ∧
        last.tokens.map (·.kind) = [.number, .dot, .string, .slash] := by
  intro source
  have accepting : Accepting keeping := fun _ _ => ⟨_, rfl⟩
  obtain ⟨last, final, through⟩ := exists_goesThrough keeping accepting source []
  have found : (ofSource source).diagnostics = [.unexpectedCharacter ['@'] 2] := by
    decide +kernel
  have kinds : (ofSource source).tokens.dropLast.map (·.kind) =
      [.number, .dot, .string, .slash] := by decide +kernel
  have reported := through.reported
  rw [found] at reported
  obtain rfl : [.unexpectedCharacter ['@'] 2] = final := Except.ok.inj reported
  rw [through.tokens_eq, List.dropLast_concat] at kinds
  exact ⟨accepting, last, through, kinds⟩

end Scan

end ScriptLexer
