import ScriptLexer.Proofs.Joining

/-! Strings anywhere in a source. A string has no escapes, so every text without quotes can
stand in one, and its quotes keep it apart from what surrounds it: the source before it is
scanned as if it ended there, unless it ends in a comment or in a string itself, and the
source behind it as if it began there. -/
namespace ScriptLexer

open Source

variable {line lines : Nat} {source text first second : List Char} {middle : List Token}

/-- Between quotes a text is one token, and nothing in it is anything else. -/
theorem found_string (unquoted : '"' ∉ text) (line : Nat) (later : List Char) :
    found line ('"' :: (text ++ ['"'] ++ later)) =
      .token ⟨.string, '"' :: (text ++ ['"']), some (.text text), (line + text.count '\n' : Nat)⟩ ::
        found (line + text.count '\n') later := by
  have inside : ∀ d ∈ text, d ≠ '"' := fun d member same => unquoted (same ▸ member)
  have cut : Cut '"' (text ++ ['"']) (.token .string (some (.text text))) later := .string inside
  have lineEnds : ('"' :: (text ++ ['"'])).count '\n' = text.count '\n' := by
    simp
  rw [cut.found_token, lineEnds]

/-- A source that holds what `first` holds, then some tokens, and then what `second` holds
further down, is scanned to all of this. -/
theorem Scan.of_found
    (same : found 1 source =
      found 1 first ++ (middle.map .token ++ (found 1 second).map (.moveDown lines)))
    (onward : (ofSource source).lastLine = (ofSource second).lastLine + lines) :
    (ofSource source).tokens =
        (ofSource first).tokens.dropLast ++
          (middle ++ (ofSource second).tokens.map (.moveDown lines)) ∧
      (ofSource source).diagnostics =
        (ofSource first).diagnostics ++ (ofSource second).diagnostics.map (.moveDown lines) := by
  constructor
  · have closing : Token.endOfInput (ofSource source).lastLine =
        (Token.endOfInput (ofSource second).lastLine).moveDown lines := by
      simp [Token.endOfInput, Token.moveDown, onward]
    rw [tokens_eq source, tokens_eq second, dropLast_tokens, closing, same, List.filterMap_append,
      List.filterMap_append, Finding.filterMap_token?_map, Finding.filterMap_token?_moveDown,
      List.map_append, List.map_singleton, List.append_assoc, List.append_assoc]
  · rw [diagnostics_eq, same, List.filterMap_append, List.filterMap_append,
      Finding.filterMap_diagnostic?_map, Finding.filterMap_diagnostic?_moveDown, List.nil_append,
      ← diagnostics_eq, ← diagnostics_eq]

/-- A text without quotes, put between quotes behind a source that ends in no comment and
leaves no string open, is a string token whose value is the text. What was found before is
still found before it, and another source behind it is scanned as if alone, but with every
line further down by the line ends of the first source and of the text. -/
theorem string_embedded (unquoted : '"' ∉ text) (closed : Closed first)
    (uncommented : ∀ span ∈ ((Pass.start first).heads.tail.map (·.cursor.lexeme)).getLast?,
      ¬ Comment span)
    (second : List Char) :
    let joined := Scan.ofSource (first ++ '"' :: (text ++ ['"'] ++ second))
    let above := Scan.ofSource first
    let below := Scan.ofSource second
    let lines := first.count '\n' + text.count '\n'
    let token : Token := ⟨.string, '"' :: (text ++ ['"']), some (.text text),
      (above.lastLine + text.count '\n' : Nat)⟩
    joined.tokens = above.tokens.dropLast ++ token :: below.tokens.map (.moveDown lines) ∧
      joined.diagnostics = above.diagnostics ++ below.diagnostics.map (.moveDown lines) ∧
      joined.lastLine = below.lastLine + lines := by
  intro joined above below lines token
  rw [Pass.lexemes_heads] at uncommented
  have apart : ∀ line, .diagnostic (.unterminatedString line) ∉ found 1 first :=
    fun line member => closed line (Scan.mem_diagnostics.mpr member)
  have spares (after : List Char) : Spares after (after ++ '"' :: (text ++ ['"'] ++ second)) :=
    spares_append (by decide) after _
  have before := found_append spares apart
    fun span last comment => absurd comment (uncommented span last)
  have above_line : 1 + first.count '\n' = above.lastLine := (Scan.lastLine_eq first).symm
  have below_line : above.lastLine + text.count '\n' = 1 + lines := by
    rw [← above_line, Nat.add_assoc]
  have same : found 1 (first ++ '"' :: (text ++ ['"'] ++ second)) =
      found 1 first ++ ([token].map .token ++ (found 1 second).map (.moveDown lines)) := by
    rw [before, above_line, found_string unquoted, below_line, found_moveDown, ← below_line]
    rfl
  have onward : joined.lastLine = below.lastLine + lines := by
    simp [joined, below, lines, Scan.lastLine_eq]
    omega
  obtain ⟨tokens, diagnostics⟩ := Scan.of_found same onward
  exact ⟨tokens, diagnostics, onward⟩

/-- A number that ends with the source is not joined to the string, slashes and line ends in
the string are text, and a string that is open behind it is open still. -/
theorem string_behind_number :
    let first := "@\n1".toList
    let text := "//\n\\".toList
    let joined := Scan.ofSource (first ++ '"' :: (text ++ ['"'] ++ ".2\"".toList))
    '"' ∉ text ∧ Closed first ∧
      (∀ span ∈ ((Pass.start first).heads.tail.map (·.cursor.lexeme)).getLast?, ¬ Comment span) ∧
      joined.tokens = [⟨.number, ['1'], some (.number (.ofDecimal ['1'])), 2⟩,
        ⟨.string, "\"//\n\\\"".toList, some (.text text), 3⟩, ⟨.dot, ['.'], none, 3⟩,
        ⟨.number, ['2'], some (.number (.ofDecimal ['2'])), 3⟩, .endOfInput 3] ∧
      joined.diagnostics = [.unexpectedCharacter ['@'] 1, .unterminatedString 3] := by
  intro first text joined
  have unquoted : '"' ∉ text := by decide
  have closed : Closed first := by
    have reported : (Scan.ofSource first).diagnostics = [.unexpectedCharacter ['@'] 1] := by
      decide +kernel
    intro line member
    rw [reported, List.mem_singleton] at member
    cases member
  have uncommented : ∀ span ∈ ((Pass.start first).heads.tail.map (·.cursor.lexeme)).getLast?,
      ¬ Comment span := by
    have last : ((Pass.start first).heads.tail.map (·.cursor.lexeme)).getLast? = some ['1'] := by
      decide +kernel
    rintro span member ⟨inside, rfl, _⟩
    rw [last] at member
    cases member
  obtain ⟨tokens, diagnostics, _⟩ := string_embedded unquoted closed uncommented ".2\"".toList
  exact ⟨unquoted, closed, uncommented, tokens.trans (by decide +kernel),
    diagnostics.trans (by decide +kernel)⟩

end ScriptLexer
