import Mathlib.Data.List.Nodup
import ScriptLexer.Proofs.BitPatterns
import ScriptLexer.Proofs.PrintedNumbers
import ScriptLexer.Proofs.QuotedTexts
import ScriptLexer.Token.Basic

/-! The text of a token tells the token. Each of its four fields shows where it ends, so one
can be told from the next whatever a lexeme or a literal holds, and each field shows what it
stands for. -/
namespace ScriptLexer

open Text

/-! ### Kinds and lines -/

/-- Kinds are found by their names. -/
theorem Kind.ofName?_name (kind : Kind) : ofName? kind.name = some kind := by
  cases kind with
  | reserved word => cases word <;> decide
  | _ => decide

theorem Kind.name_inj {kind other : Kind} (same : kind.name = other.name) : kind = other := by
  rw [← Option.some_inj, ← ofName?_name, same, ofName?_name]

theorem Kind.comma_not_mem_name (kind : Kind) : ',' ∉ kind.name := by
  cases kind with
  | reserved word => cases word <;> decide
  | _ => decide

theorem signedDecimal_inj {n m : Int} (same : signedDecimal n = signedDecimal m) : n = m := by
  rw [← Decimal.readInteger_signedDecimal n, same, Decimal.readInteger_signedDecimal]

theorem closing_not_mem_signedDecimal (n : Int) : ')' ∉ signedDecimal n := by
  cases n with
  | ofNat n => exact (digits_decimal n).absent (by decide)
  | negSucc n =>
    rw [signedDecimal, List.mem_cons, not_or]
    exact ⟨by decide, (digits_decimal (n + 1)).absent (by decide)⟩

/-! ### Numbers -/

/-- What is written without a comma and without a mark of quotation. -/
def Bare (text : List Char) : Prop := ',' ∉ text ∧ '\'' ∉ text ∧ '"' ∉ text

instance (text : List Char) : Decidable (Bare text) :=
  inferInstanceAs (Decidable (_ ∧ _ ∧ _))

theorem NumberText.bare {text : List Char} (parts : NumberText text) : Bare text := by
  have absent {c : Char} (foreign : isNumberPart c = false) : c ∉ text :=
    fun member => Bool.false_ne_true (foreign.symm.trans (parts c member))
  exact ⟨absent (by decide), absent (by decide), absent (by decide)⟩

theorem Binary64.bare_print (number : Binary64) : Bare number.print := by
  cases number with
  | nan => decide
  | infinite negative => cases negative <;> decide
  | finite negative magnitude =>
    have sign : NumberText (if negative then ['-'] else []) := by
      cases negative <;> exact List.all_eq_true.mp (by decide)
    exact (numberText_append.mpr ⟨sign, magnitude.numberText_print⟩).bare

/-! ### Literals -/

namespace Token

/-- The literals that are shown by a word. -/
def wordLiterals : List (Option Literal) :=
  [none, some (.boolean true), some (.boolean false), some .nil]

theorem literal_cases (literal : Option Literal) : literal ∈ wordLiterals ∨
    (∃ number, literal = some (.number number)) ∨ ∃ text, literal = some (.text text) := by
  cases literal with
  | none => exact .inl (by decide)
  | some literal =>
    cases literal with
    | boolean value => cases value <;> exact .inl (by decide)
    | nil => exact .inl (by decide)
    | number number => exact .inr (.inl ⟨number, rfl⟩)
    | text text => exact .inr (.inr ⟨text, rfl⟩)

variable {literal other : Option Literal}

theorem word_inj (word : literal ∈ wordLiterals) (word' : other ∈ wordLiterals)
    (same : printLiteral literal = printLiteral other) : literal = other :=
  List.inj_on_of_nodup_map (by decide) word word' same

theorem bare_word : ∀ literal ∈ wordLiterals, Bare (printLiteral literal) := by decide

/-- No word is the text of a number: there is no digit in it, and it is not one of the words
for the numbers that are not finite. -/
theorem word_ne_number (word : literal ∈ wordLiterals) (number : Binary64) :
    printLiteral literal ≠ number.print := by
  have wordless : ∀ literal ∈ wordLiterals, (printLiteral literal).any Char.isDigit = false := by
    decide
  have notNan : ∀ literal ∈ wordLiterals, printLiteral literal ≠ Binary64.nan.print := by decide
  have notInfinite : ∀ literal ∈ wordLiterals, ∀ negative,
      printLiteral literal ≠ (Binary64.infinite negative).print := by decide
  cases number with
  | nan => exact notNan literal word
  | infinite negative => exact notInfinite literal word negative
  | finite negative magnitude =>
    intro same
    have digit := (Binary64.any_isDigit_print _).mpr ⟨negative, magnitude, rfl⟩
    rw [← same, wordless literal word] at digit
    cases digit

theorem not_bare_quoted (text : List Char) : ¬ Bare (quoted text) := by
  have mark : quoteMark text ∈ quoted text := List.mem_cons_self ..
  rintro ⟨_, noSingle, noDouble⟩
  rcases quoteMark_eq text with single | double
  · exact noSingle (single ▸ mark)
  · exact noDouble (double ▸ mark)

theorem quoted_ne_bare (text rest rest' : List Char) {bare : List Char} (plain : Bare bare) :
    quoted text ++ rest ≠ bare ++ ',' :: rest' := by
  intro same
  have mark : quoteMark text ∈ bare ++ [','] := by
    cases bare <;> exact (List.cons.inj same).1 ▸ List.mem_cons_self ..
  rw [List.mem_append] at mark
  rcases quoteMark_eq text with single | double
  · rw [single] at mark
    exact mark.elim plain.2.1 (by decide)
  · rw [double] at mark
    exact mark.elim plain.2.2 (by decide)

theorem bare_inj (bare : Bare (printLiteral literal)) (bare' : Bare (printLiteral other))
    (same : printLiteral literal = printLiteral other) : literal = other := by
  rcases literal_cases literal with word | ⟨number, rfl⟩ | ⟨text, rfl⟩
  · rcases literal_cases other with word' | ⟨number', rfl⟩ | ⟨text', rfl⟩
    · exact word_inj word word' same
    · exact absurd same (word_ne_number word number')
    · exact absurd bare' (not_bare_quoted text')
  · rcases literal_cases other with word' | ⟨number', rfl⟩ | ⟨text', rfl⟩
    · exact absurd same.symm (word_ne_number word' number)
    · rw [Binary64.print_inj same]
    · exact absurd bare' (not_bare_quoted text')
  · exact absurd bare (not_bare_quoted text)

theorem bare_or_text (literal : Option Literal) : Bare (printLiteral literal) ∨
    ∃ text, literal = some (.text text) := by
  rcases literal_cases literal with word | ⟨number, rfl⟩ | text
  · exact .inl (bare_word literal word)
  · exact .inl number.bare_print
  · exact .inr text

/-- A literal is told in front of a comma, which nothing but a quoted text can contain. -/
theorem literal_before_comma {rest rest' : List Char}
    (same : printLiteral literal ++ ',' :: rest = printLiteral other ++ ',' :: rest') :
    literal = other ∧ rest = rest' := by
  rcases bare_or_text literal with bare | ⟨text, rfl⟩
  · rcases bare_or_text other with bare' | ⟨text', rfl⟩
    · obtain ⟨written, behind⟩ := before_stop bare.1 bare'.1 same
      exact ⟨bare_inj bare bare' written, behind⟩
    · exact absurd same.symm (quoted_ne_bare text' _ _ bare)
  · rcases bare_or_text other with bare' | ⟨text', rfl⟩
    · exact absurd same (quoted_ne_bare text _ _ bare')
    · obtain ⟨rfl, behind⟩ := quoted_selfDelimiting same
      exact ⟨rfl, (List.cons.inj behind).2⟩

/-! ### Tokens -/

/-- The text of a token tells where it ends and which token it is. -/
theorem print_selfDelimiting : SelfDelimiting print := by
  intro token other rest rest' same
  obtain ⟨opening, shape⟩ : ∃ opening : List Char, ∀ (token : Token) (rest : List Char),
      token.print ++ rest = opening ++ (token.kind.name ++ ',' :: ' ' :: (quoted token.lexeme ++
        ',' :: ' ' :: (printLiteral token.literal ++ ',' :: ' ' :: (signedDecimal token.line ++
          ')' :: rest)))) := by
    refine ⟨"Token(".toList, fun token rest => ?_⟩
    unfold print
    generalize "Token(".toList = opening
    generalize comma : ", ".toList = separator
    have separator_eq : separator = [',', ' '] := comma.symm
    simp [separator_eq]
  rw [shape, shape] at same
  obtain ⟨names, same⟩ := before_stop token.kind.comma_not_mem_name
    other.kind.comma_not_mem_name (List.append_cancel_left same)
  obtain ⟨lexemes, same⟩ := quoted_selfDelimiting (List.cons.inj same).2
  obtain ⟨literals, same⟩ := literal_before_comma (List.cons.inj (List.cons.inj same).2).2
  obtain ⟨lines, behind⟩ := before_stop (closing_not_mem_signedDecimal token.line)
    (closing_not_mem_signedDecimal other.line) (List.cons.inj same).2
  obtain ⟨kind, lexeme, literal, line⟩ := token
  obtain ⟨kind', lexeme', literal', line'⟩ := other
  cases Kind.name_inj names
  cases lexemes
  cases literals
  cases signedDecimal_inj lines
  exact ⟨rfl, behind⟩

/-- Tokens are printed alike only if they agree in each of their fields, and numbers among
their literals only if they agree in each of their bits, what is no number apart. -/
theorem text_tells_token :
    (∀ token other : Token, token.print = other.print ↔
      token.kind = other.kind ∧ token.lexeme = other.lexeme ∧ token.literal = other.literal ∧
        token.line = other.line) ∧
      ∀ bits bits' : UInt64, Binary64.ofBits bits = Binary64.ofBits bits' ↔
        bits = bits' ∨ Binary64.ofBits bits = .nan ∧ Binary64.ofBits bits' = .nan := by
  refine ⟨fun token other => ⟨fun same => ?_, ?_⟩, Binary64.ofBits_eq_iff⟩
  · have extended : token.print ++ [] = other.print ++ [] := by rw [same]
    obtain ⟨rfl, _⟩ := print_selfDelimiting extended
    exact ⟨rfl, rfl, rfl, rfl⟩
  · obtain ⟨kind, lexeme, literal, line⟩ := token
    obtain ⟨kind', lexeme', literal', line'⟩ := other
    rintro ⟨rfl, rfl, rfl, rfl⟩
    rfl

/-- The two zeros are printed with their signs. -/
example : (Binary64.ofBits 0).print = "0.0".toList ∧
    (Binary64.ofBits 0x8000000000000000).print = "-0.0".toList := by decide

end Token

end ScriptLexer
