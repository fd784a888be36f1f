import ScriptLexer.Proofs.Trivia

/-! Sources joined by a line end. A line end stops every span but a string, so a source
in which all strings are closed is scanned before a line end as it is scanned alone,
and what follows is scanned as a source of its own, further down by the lines of the
first. -/
namespace ScriptLexer

open Source

variable {c : Char} {body after first second : List Char} {reading : Reading} {line : Nat}

/-- The same token in a source that has `lines` more lines before it. -/
def Token.moveDown (lines : Nat) (token : Token) : Token :=
  { token with line := token.line + lines }

/-- The same diagnostic in a source that has `lines` more lines before it. -/
def Diagnostic.moveDown (lines : Nat) : Diagnostic → Diagnostic
  | general message line place => general message (line + lines) place
  | unterminatedString line => unterminatedString (line + lines)
  | unexpectedCharacter found line => unexpectedCharacter found (line + lines)

def Finding.moveDown (lines : Nat) : Finding → Finding
  | token found => token (found.moveDown lines)
  | diagnostic found => diagnostic (found.moveDown lines)

/-- What a span is does not depend on its line. -/
theorem finding?_moveDown (span : List Char) (reading : Reading) (line lines : Nat) :
    Entry.finding? ⟨span, reading, line + lines⟩ =
      (Entry.finding? ⟨span, reading, line⟩).map (.moveDown lines) := by
  cases reading with
  | token kind literal => rfl
  | fault fault => cases fault <;> rfl
  | trivia => rfl

/-- What a text holds does not depend on the line on which it begins. -/
theorem found_moveDown (line lines : Nat) (text : List Char) :
    found (line + lines) text = (found line text).map (.moveDown lines) := by
  induction text using source_induction generalizing line with
  | empty => rfl
  | @span c body reading after cut ih =>
    have onward : line + lines + (c :: body).count '\n' =
        line + (c :: body).count '\n' + lines := by omega
    rw [cut.found_eq, cut.found_eq, onward, finding?_moveDown, ih, List.map_append,
      Option.toList_map]

theorem Finding.filterMap_token?_moveDown (lines : Nat) (findings : List Finding) :
    (findings.map (moveDown lines)).filterMap token? =
      (findings.filterMap token?).map (.moveDown lines) := by
  rw [List.filterMap_map, List.map_filterMap]
  congr 1
  funext finding
  cases finding <;> rfl

theorem Finding.filterMap_diagnostic?_moveDown (lines : Nat) (findings : List Finding) :
    (findings.map (moveDown lines)).filterMap diagnostic? =
      (findings.filterMap diagnostic?).map (.moveDown lines) := by
  rw [List.filterMap_map, List.map_filterMap]
  congr 1
  funext finding
  cases finding <;> rfl

/-- All strings of a source are closed: its scan reports none that is not. -/
def Closed (source : List Char) : Prop :=
  ∀ line, .unterminatedString line ∉ (Scan.ofSource source).diagnostics

/-- What a closer stands in front of lengthens no span, whatever was there before. -/
theorem spares_append {closer : Char} (closes : closer ∈ closers) (after second : List Char) :
    Spares after (after ++ closer :: second) where
  head := by
    cases after with
    | nil => simp [closes]
    | cons d after => simp
  point := by
    intro d rest shape digit
    have foreign : closers.any Char.isDigit = false := by decide
    cases after with
    | nil =>
      obtain rfl : closer = '.' := (List.cons.inj shape).1
      exact absurd closes (by decide)
    | cons first after =>
      cases after with
      | nil =>
        obtain ⟨_, rfl, _⟩ : first = '.' ∧ closer = d ∧ second = rest := by simpa using shape
        exact absurd digit (List.any_eq_false.mp foreign _ closes)
      | cons next after =>
        obtain ⟨rfl, rfl, _⟩ : first = '.' ∧ next = d ∧ _ := by simpa using shape
        exact ⟨after, rfl⟩

/-- A span sees no difference between a line end and the end of the source. -/
theorem yields_lineEnd (after second : List Char) : Yields after (after ++ '\n' :: second) where
  head := by
    cases after with
    | nil => simp [separators]
    | cons d after => simp
  point := (spares_append (by decide) after second).point
  lineEnd := by
    cases after with
    | nil => simp
    | cons d after => simp

/-- If no span of `first` goes on into what follows, both texts hold what they hold alone. A
comment at the end of `first` goes on up to a line end. -/
theorem found_append (spares : ∀ after, Spares after (after ++ second))
    (closed : ∀ line', .diagnostic (.unterminatedString line') ∉ found line first)
    (ending : ∀ span ∈ (spans first).getLast?, Comment span → ∀ d ∈ second.head?, d = '\n') :
    found line (first ++ second) =
      found line first ++ found (line + first.count '\n') second := by
  induction first using source_induction generalizing line with
  | empty => rfl
  | @span c body reading after cut ih =>
    rw [cut.found_eq] at closed ⊢
    rw [cut.spans_eq, List.getLast?_cons] at ending
    -- An open string goes on into everything, and it would be found here.
    have sound : reading ≠ .fault .unterminatedString := by
      rintro rfl
      exact closed _ (List.mem_append_left _ (List.mem_singleton_self _))
    have cut' : Cut c body reading (after ++ second) := by
      refine cut.keep (spares after) sound ?_
      rintro rfl rfl stops
      cases after with
      | nil => exact ending _ rfl (cut_comment cut)
      | cons d after => exact stops
    have others : ∀ span ∈ (spans after).getLast?, Comment span → ∀ d ∈ second.head?, d = '\n' := by
      intro span last
      rw [last] at ending
      exact ending span rfl
    have rest := ih (fun line' member => closed line' (List.mem_append_right _ member)) others
    have shape : c :: (body ++ after) ++ second = c :: (body ++ (after ++ second)) := by simp
    rw [shape, cut'.found_eq, rest, List.append_assoc, ← List.cons_append, List.count_append,
      Nat.add_assoc]

theorem found_joined (closed : ∀ line', .diagnostic (.unterminatedString line') ∉ found line first)
    (second : List Char) :
    found line (first ++ '\n' :: second) =
      found line first ++ (found line second).map (.moveDown (first.count '\n' + 1)) := by
  have lineEnd : Cut '\n' [] .trivia second := .lineEnd
  have spares (after : List Char) : Spares after (after ++ '\n' :: second) :=
    spares_append (by decide) after second
  rw [found_append spares closed (by simp), ← found_moveDown]
  exact congrArg _ (lineEnd.found_trivia _)

/-- If all strings of a source are closed, then a line end and another source behind it
change nothing of what is found in it. The other source is scanned as if alone, but
with every line further down by the last line of the first. -/
theorem joined_by_lineEnd (closed : Closed first) (second : List Char) :
    let joined := Scan.ofSource (first ++ '\n' :: second)
    let above := Scan.ofSource first
    let below := Scan.ofSource second
    joined.tokens = above.tokens.dropLast ++ below.tokens.map (.moveDown above.lastLine) ∧
      joined.diagnostics =
        above.diagnostics ++ below.diagnostics.map (.moveDown above.lastLine) ∧
      joined.lastLine = above.lastLine + below.lastLine := by
  intro joined above below
  have same : found 1 (first ++ '\n' :: second) =
      found 1 first ++ (found 1 second).map (.moveDown above.lastLine) := by
    have above_lines : above.lastLine = first.count '\n' + 1 := by
      rw [Scan.lastLine_eq, Nat.add_comm]
    rw [above_lines]
    exact found_joined (fun line member => closed line (Scan.mem_diagnostics.mpr member)) second
  have lines : joined.lastLine = above.lastLine + below.lastLine := by
    simp only [joined, above, below, Scan.lastLine_eq, List.count_append, List.count_cons_self]
    omega
  refine ⟨?_, ?_, lines⟩
  · have closing : Token.endOfInput joined.lastLine =
        (Token.endOfInput below.lastLine).moveDown above.lastLine := by
      simp [Token.endOfInput, Token.moveDown, lines, Int.add_comm]
    have split : below.tokens = (found 1 second).filterMap Finding.token? ++
        [.endOfInput below.lastLine] := Scan.tokens_eq second
    calc
      joined.tokens = (found 1 (first ++ '\n' :: second)).filterMap Finding.token? ++
          [.endOfInput joined.lastLine] := Scan.tokens_eq _
      _ = above.tokens.dropLast ++ below.tokens.map (.moveDown above.lastLine) := by
        rw [same, closing, split, List.filterMap_append, Finding.filterMap_token?_moveDown,
          ← Scan.dropLast_tokens, List.append_assoc, List.map_append, List.map_singleton]
  · rw [Scan.diagnostics_eq, same, List.filterMap_append, Finding.filterMap_diagnostic?_moveDown,
      ← Scan.diagnostics_eq, ← Scan.diagnostics_eq]

/-- A comment at the end of a source does not swallow what is joined to it, nor does a
quote in it open a string. -/
theorem joined_below_comment :
    let joined := Scan.ofSource ("@ x // \"".toList ++ '\n' :: "= \"\n".toList)
    Closed "@ x // \"".toList ∧
      joined.tokens = [⟨.identifier, ['x'], none, 1⟩, ⟨.equal, ['='], none, 2⟩, .endOfInput 3] ∧
      joined.diagnostics = [.unexpectedCharacter ['@'] 1, .unterminatedString 3] := by
  have closed : Closed "@ x // \"".toList := by
    have reported : (Scan.ofSource "@ x // \"".toList).diagnostics =
        [.unexpectedCharacter ['@'] 1] := by decide +kernel
    intro line member
    rw [reported, List.mem_singleton] at member
    cases member
  obtain ⟨tokens, diagnostics, _⟩ := joined_by_lineEnd closed "= \"\n".toList
  exact ⟨closed, tokens.trans (by decide +kernel), diagnostics.trans (by decide +kernel)⟩

end ScriptLexer
