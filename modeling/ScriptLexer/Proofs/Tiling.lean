import ScriptLexer.Proofs.Grammar
import ScriptLexer.Proofs.Rounds

/-! The spans of a pass tile its source: each follows the one before without a gap,
none is empty, and together they are the source. What becomes of a span is settled
once for all in its own round, which adds one token, or reports one diagnostic, or
passes over what does not matter to the language. -/
namespace ScriptLexer.Pass

open Source

variable {c : Char} {body after' : List Char} {kind : Kind} {literal : Option Literal}
  {source : List Char} {before after last : Pass}

/-- One of three things holds, and neither of the others. -/
def ExactlyOne (first second third : Prop) : Prop :=
  (first ∧ ¬second ∧ ¬third) ∨ (¬first ∧ second ∧ ¬third) ∨ (¬first ∧ ¬second ∧ third)

/-- A blank, a line end or a comment. -/
def Insignificant (span : List Char) : Prop :=
  span ∈ [[' '], ['\t'], ['\r'], ['\n']] ∨ ∃ text, span = '/' :: '/' :: text ∧ '\n' ∉ text

/-- A round adds one token, the lexeme of which is exactly its span. -/
def AddsToken (before after : Pass) : Prop :=
  ∃ kind literal, kind ≠ .endOfInput ∧
    after.tokens = before.tokens ++ [⟨kind, after.cursor.lexeme, literal, after.line⟩] ∧
    after.diagnostics = before.diagnostics

/-- A round reports one diagnostic and adds no token. -/
def AddsDiagnostic (before after : Pass) : Prop :=
  ∃ diagnostic, after.diagnostics = before.diagnostics ++ [diagnostic] ∧
    after.tokens = before.tokens

/-- A round neither adds a token nor reports anything, and its span does not matter to
the language. -/
def AddsNothing (before after : Pass) : Prop :=
  Insignificant after.cursor.lexeme ∧ after.tokens = before.tokens ∧
    after.diagnostics = before.diagnostics

/-- A round of a pass over `source` and the span it takes. The span begins where the
last one ended, holds a character at least, lies in the source, and has one outcome. -/
structure Tiles (source : List Char) (before after : Pass) : Prop where
  taken : before.round = .ok after
  adjacent : after.cursor.start = before.cursor.current
  nonempty : after.cursor.start < after.cursor.current
  inside : after.cursor.current ≤ source.length
  span : after.cursor.lexeme =
    (source.drop after.cursor.start).take (after.cursor.current - after.cursor.start)
  outcome : ExactlyOne (AddsToken before after) (AddsDiagnostic before after)
    (AddsNothing before after)

/-- The kind that closes all tokens is the kind of no span. -/
theorem cut_kind (cut : Cut c body (.token kind literal) after') : kind ≠ .endOfInput := by
  intro closing
  cases cut with
  | mark begins => simpa [marks, closing] using mem_marks_of_loneMark begins
  | bare begins | extended begins =>
    simpa [operators, closing] using mem_operators_of_extensibleMark begins
  | name begins inside stops =>
    unfold Kind.ofWord at closing
    split at closing <;> cases closing
  | _ => cases closing

theorem cut_insignificant (cut : Cut c body .trivia after') : Insignificant (c :: body) := by
  cases cut with
  | comment inside stops =>
    right
    refine ⟨_, rfl, ?_⟩
    intro member
    exact inside '\n' member rfl
  | padding begins =>
    left
    rcases eq_of_isPadding begins with rfl | rfl | rfl <;> simp
  | lineEnd =>
    left
    simp

theorem AddsToken.tokens_ne (adds : AddsToken before after) : after.tokens ≠ before.tokens := by
  obtain ⟨kind, literal, _, tokens, _⟩ := adds
  simp [tokens]

theorem AddsDiagnostic.diagnostics_ne (adds : AddsDiagnostic before after) :
    after.diagnostics ≠ before.diagnostics := by
  obtain ⟨diagnostic, diagnostics, _⟩ := adds
  simp [diagnostics]

/-- The reading of its span settles what a round adds. -/
theorem round_outcome (taken : before.round = .ok after) :
    ExactlyOne (AddsToken before after) (AddsDiagnostic before after)
      (AddsNothing before after) := by
  obtain ⟨c, body, reading, later, ahead, cut, rfl⟩ := round_inversion taken
  have lexeme : (before.absorb (c :: body) reading).cursor.lexeme = c :: body :=
    lexeme_absorb ahead
  cases reading with
  | token kind literal =>
    obtain ⟨tokens, diagnostics⟩ := absorb_token (c :: body) kind literal before
    have adds : AddsToken before (before.absorb (c :: body) (.token kind literal)) :=
      ⟨kind, literal, cut_kind cut, by rw [lexeme]; exact tokens, diagnostics⟩
    refine .inl ⟨adds, ?_, ?_⟩
    · rintro ⟨diagnostic, _, unchanged⟩
      exact adds.tokens_ne unchanged
    · rintro ⟨_, unchanged, _⟩
      exact adds.tokens_ne unchanged
  | fault fault =>
    obtain ⟨tokens, diagnostics⟩ := absorb_fault (c :: body) fault before
    have adds : AddsDiagnostic before (before.absorb (c :: body) (.fault fault)) :=
      ⟨_, diagnostics, tokens⟩
    refine .inr (.inl ⟨?_, adds, ?_⟩)
    · intro other
      exact other.tokens_ne tokens
    · rintro ⟨_, _, unchanged⟩
      exact adds.diagnostics_ne unchanged
  | trivia =>
    obtain ⟨tokens, diagnostics⟩ := absorb_trivia (c :: body) before
    refine .inr (.inr ⟨?_, ?_, ?_, tokens, diagnostics⟩)
    · intro other
      exact other.tokens_ne tokens
    · intro other
      exact other.diagnostics_ne diagnostics
    · rw [lexeme]
      exact cut_insignificant cut

theorem round_tiles (within : Within source before) (taken : before.round = .ok after) :
    Tiles source before after := by
  have outcome := round_outcome taken
  have inside := (within.round taken).current_le
  obtain ⟨c, body, reading, later, ahead, _, rfl⟩ := round_inversion taken
  refine ⟨taken, rfl, by simp, inside, ?_, outcome⟩
  have behind : source.drop before.cursor.current = c :: (body ++ later) := by
    rw [← within.rest_eq, ahead]
  rw [lexeme_absorb ahead, start_absorb, current_absorb, behind]
  simp

/-- The spans from a head on are what is left of the source there. -/
theorem flatten_lexemes (pass : Pass) :
    (pass.heads.tail.map (·.cursor.lexeme)).flatten = pass.cursor.rest := by
  rw [lexemes_heads, flatten_spans]

/-- No round adds the token that closes all tokens. -/
theorem no_endOfInput (source : List Char) :
    ∀ head ∈ (start source).heads, ∀ token ∈ head.tokens, token.kind ≠ .endOfInput := by
  apply heads_keep
  · simp [start]
  · intro before after kept taken
    rcases round_outcome taken with ⟨adds, _⟩ | ⟨_, adds, _⟩ | ⟨_, _, adds⟩
    · obtain ⟨kind, literal, notEnd, tokens, _⟩ := adds
      rw [tokens]
      intro token member
      rcases List.mem_append.mp member with earlier | new
      · exact kept token earlier
      · rw [List.mem_singleton.mp new]
        exact notEnd
    · obtain ⟨_, _, unchanged⟩ := adds
      rwa [unchanged]
    · rwa [adds.2.1]

/-- The spans of the rounds of a scan tile its source from the beginning to the end, and
each round has exactly one of three outcomes. The tokens that the rounds add are the
tokens of the scan, up to a single one for the end of the input, which comes last. -/
theorem rounds_tile_source (source : List Char) :
    ∃ last, (start source).finish = .ok last ∧
      (start source).heads.head? = some (start source) ∧
      (start source).heads.getLast? = some last ∧
      (start source).heads.IsChain (Tiles source) ∧
      (start source).cursor.current = 0 ∧ last.cursor.current = source.length ∧
      ((start source).heads.tail.map (·.cursor.lexeme)).flatten = source ∧
      (Scan.ofSource source).tokens = last.tokens ++ [⟨.endOfInput, [], none, last.line⟩] ∧
      (∀ token ∈ last.tokens, token.kind ≠ .endOfInput) ∧
      (Scan.ofSource source).diagnostics = last.diagnostics := by
  have finished := finish_eq (start source)
  generalize (spans (start source).cursor.rest).foldl _ (start source) = last at finished
  have reached : (start source).heads.getLast? = some last := getLast?_heads finished
  have member : last ∈ (start source).heads := List.mem_of_getLast? reached
  have within : Within source last := heads_within source last member
  have ended : last.cursor.current = source.length := by
    have nothing := rest_of_finish finished
    rw [within.rest_eq, List.drop_eq_nil_iff] at nothing
    exact Nat.le_antisymm within.current_le nothing
  refine ⟨last, finished, head?_heads _, reached, ?_, rfl, ended, flatten_lexemes _, ?_, ?_, ?_⟩
  · apply heads_chain (within_start source)
    · intro before after within taken
      exact within.round taken
    · intro before after within taken
      exact round_tiles within taken
  · rw [Scan.ofSource_of_finish finished]
    rfl
  · exact no_endOfInput source last member
  · rw [Scan.ofSource_of_finish finished]

end ScriptLexer.Pass
