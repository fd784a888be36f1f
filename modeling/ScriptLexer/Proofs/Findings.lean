import ScriptLexer.Proofs.Lines

/-! What a text holds, as a function of the text and of the line on which it begins:
its tokens and diagnostics in one sequence. A text holds what its first span is and
then what the rest holds, and a scan finds just what its source holds; so scans of
different sources are compared by the spans of the sources alone. -/
namespace ScriptLexer

open Source

theorem Finding.filterMap_token?_map (tokens : List Token) :
    (tokens.map Finding.token).filterMap Finding.token? = tokens := by
  rw [List.filterMap_map]
  exact List.filterMap_some

theorem Finding.filterMap_diagnostic?_map (tokens : List Token) :
    (tokens.map Finding.token).filterMap Finding.diagnostic? = [] := by
  rw [List.filterMap_map, List.filterMap_eq_nil_iff]
  exact fun _ _ => rfl

/-- The token or the diagnostic that a span is, if it is one of them. -/
def Entry.finding? (entry : Entry) : Option Finding :=
  match entry.reading with
  | .token kind literal => some (.token ⟨kind, entry.span, literal, entry.line⟩)
  | .fault fault => some (.diagnostic (fault.diagnostic entry.line))
  | .trivia => none

theorem Entry.bind_token? (entry : Entry) :
    entry.finding?.bind Finding.token? = entry.token? := by
  cases entry with | mk span reading line => cases reading <;> rfl

theorem Entry.bind_diagnostic? (entry : Entry) :
    entry.finding?.bind Finding.diagnostic? = entry.diagnostic? := by
  cases entry with | mk span reading line => cases reading <;> rfl

/-- The tokens and diagnostics of a text that begins on `line`, in the order of the text. -/
def found (line : Nat) (text : List Char) : List Finding :=
  (Entry.ofSpans line (spans text)).filterMap Entry.finding?

variable {c : Char} {body after : List Char} {reading : Reading} {kind : Kind}
  {literal : Option Literal} {fault : Fault}

theorem found_nil (line : Nat) : found line [] = [] := rfl

/-- A text holds what its first span is, and then what follows the span holds. -/
theorem Source.Cut.found_eq (cut : Cut c body reading after) (line : Nat) :
    found line (c :: (body ++ after)) =
      (Entry.finding? ⟨c :: body, reading, line + (c :: body).count '\n'⟩).toList ++
        found (line + (c :: body).count '\n') after := by
  rw [found, cut.spans_eq, Entry.ofSpans, cut.read_eq, List.filterMap_cons]
  cases reading <;> rfl

theorem Source.Cut.found_token (cut : Cut c body (.token kind literal) after) (line : Nat) :
    found line (c :: (body ++ after)) =
      .token ⟨kind, c :: body, literal, (line + (c :: body).count '\n' : Nat)⟩ ::
        found (line + (c :: body).count '\n') after :=
  cut.found_eq line

theorem Source.Cut.found_fault (cut : Cut c body (.fault fault) after) (line : Nat) :
    found line (c :: (body ++ after)) =
      .diagnostic (fault.diagnostic (line + (c :: body).count '\n')) ::
        found (line + (c :: body).count '\n') after :=
  cut.found_eq line

theorem Source.Cut.found_trivia (cut : Cut c body .trivia after) (line : Nat) :
    found line (c :: (body ++ after)) = found (line + (c :: body).count '\n') after :=
  cut.found_eq line

/-- A separator is a span of its own wherever a span begins. -/
theorem cut_separator (separator : c ∈ separators) (after : List Char) :
    Cut c [] .trivia after := by
  simp only [separators, List.mem_cons, List.not_mem_nil, or_false] at separator
  rcases separator with rfl | rfl | rfl | rfl
  · exact .padding rfl
  · exact .padding rfl
  · exact .padding rfl
  · exact .lineEnd

/-- Nothing is found in separators, but their line ends count. -/
theorem found_separators {blanks : List Char} (blank : ∀ d ∈ blanks, d ∈ separators) (line : Nat)
    (after : List Char) :
    found line (blanks ++ after) = found (line + blanks.count '\n') after := by
  induction blanks generalizing line with
  | nil => rfl
  | cons d blanks ih =>
    obtain ⟨first, others⟩ := List.forall_mem_cons.mp blank
    have cut : Cut d [] .trivia (blanks ++ after) := cut_separator first _
    calc
      found line (d :: (blanks ++ after)) = found (line + [d].count '\n') (blanks ++ after) :=
        cut.found_trivia line
      _ = found (line + [d].count '\n' + blanks.count '\n') after := ih others _
      _ = found (line + (d :: blanks).count '\n') after := by
        rw [Nat.add_assoc, ← List.count_append, List.singleton_append]

/-- The rounds of a pass find what the rest of its source holds. -/
theorem Pass.gather_findings_eq (pass : Pass) :
    pass.gather findings = found pass.line pass.cursor.rest := by
  induction pass using round_induction with
  | ended pass ended => rw [gather_of_end ended, ended, found_nil]
  | rounds pass next taken ih =>
    rw [gather_of_round taken, ih]
    obtain ⟨c, body, reading, after, ahead, cut, rfl⟩ := round_inversion taken
    rw [findings_absorb, rest_absorb ahead, line_absorb, ahead, cut.found_eq]
    cases reading <;> rfl

/-- In the order of finding, a scan finds what its source holds and then the end of it. -/
theorem Pass.chronicle_eq (source : List Char) :
    chronicle source =
      found 1 source ++ [.token (.endOfInput (Scan.ofSource source).lastLine)] := by
  rw [chronicle, gather_findings_eq]
  rfl

namespace Scan

/-- A scan holds what its source holds, told apart into tokens and diagnostics, and closes the
tokens on the last line. -/
theorem ofSource_eq_found (source : List Char) :
    ofSource source = {
      source
      tokens := (found 1 source).filterMap Finding.token? ++
        [.endOfInput (1 + source.count '\n' : Nat)]
      diagnostics := (found 1 source).filterMap Finding.diagnostic?
      errorCount := ((found 1 source).filterMap Finding.diagnostic?).length
      lastLine := 1 + source.count '\n' } := by
  rw [ofSource_eq, found, List.filterMap_filterMap, List.filterMap_filterMap]
  simp only [Entry.bind_token?, Entry.bind_diagnostic?]
  rfl

theorem lastLine_eq (source : List Char) : (ofSource source).lastLine = 1 + source.count '\n' := by
  rw [ofSource_eq_found]

/-- The tokens of a scan are those that its source holds, and the token for its end. -/
theorem tokens_eq (source : List Char) :
    (ofSource source).tokens =
      (found 1 source).filterMap Finding.token? ++ [.endOfInput (ofSource source).lastLine] := by
  rw [ofSource_eq_found]

/-- The tokens of a scan without the token for the end. -/
theorem dropLast_tokens (source : List Char) :
    (ofSource source).tokens.dropLast = (found 1 source).filterMap Finding.token? := by
  rw [tokens_eq, List.dropLast_concat]

/-- The diagnostics of a scan are those that its source holds. -/
theorem diagnostics_eq (source : List Char) :
    (ofSource source).diagnostics = (found 1 source).filterMap Finding.diagnostic? := by
  rw [ofSource_eq_found]

theorem mem_diagnostics {source : List Char} {diagnostic : Diagnostic} :
    diagnostic ∈ (ofSource source).diagnostics ↔ .diagnostic diagnostic ∈ found 1 source := by
  rw [diagnostics_eq, List.mem_filterMap]
  constructor
  · rintro ⟨finding, member, same⟩
    cases finding with
    | token => cases same
    | diagnostic => cases same; exact member
  · intro member
    exact ⟨_, member, rfl⟩

theorem mem_tokens {source : List Char} {token : Token} (inner : token.kind ≠ .endOfInput) :
    token ∈ (ofSource source).tokens ↔ .token token ∈ found 1 source := by
  rw [tokens_eq, List.mem_append, List.mem_filterMap]
  constructor
  · rintro (⟨finding, member, same⟩ | closing)
    · cases finding with
      | token => cases same; exact member
      | diagnostic => cases same
    · rw [List.mem_singleton.mp closing] at inner
      exact absurd rfl inner
  · intro member
    exact .inl ⟨_, member, rfl⟩

end Scan

end ScriptLexer
