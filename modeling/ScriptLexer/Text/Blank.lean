import ScriptLexer.Text.Ranges

/-! The characters that count as white space at the ends of a text and that make
a line blank. This set serves the prompt and the settings; the lexer itself
skips only spaces, tabs and line ends. -/
namespace ScriptLexer.Text

/-- The code points that are white space or one of the separators U+001C to
U+001F. -/
def blankRanges : List Range :=
  [⟨0x9, 0xd⟩, ⟨0x1c, 0x20⟩, ⟨0x85, 0x85⟩, ⟨0xa0, 0xa0⟩, ⟨0x1680, 0x1680⟩, ⟨0x2000, 0x200a⟩,
   ⟨0x2028, 0x2029⟩, ⟨0x202f, 0x202f⟩, ⟨0x205f, 0x205f⟩, ⟨0x3000, 0x3000⟩]

/-- White space of any kind. -/
def isBlank (c : Char) : Bool := Range.anyCovers blankRanges c

/-- All that is white space in ASCII is blank. -/
theorem isBlank_of_isWhitespace {c : Char} (white : c.isWhitespace) : isBlank c := by
  simp only [Char.isWhitespace, Bool.or_eq_true, decide_eq_true_eq] at white
  rcases white with ((white | white) | white) | white <;> subst white <;> decide

/-- The text without the white space at its two ends. -/
def trim (text : List Char) : List Char :=
  ((text.dropWhile isBlank).reverse.dropWhile isBlank).reverse

end ScriptLexer.Text
