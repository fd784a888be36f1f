import Mathlib.Data.List.Basic
import ScriptLexer.Proofs.NumberTexts
import ScriptLexer.Source.Scan
import ScriptLexer.Text.TerminalEscape

/-! What is printed is printable. Every character of a printed token is one that a quoted
text can show as it is, whatever the token holds, and so is every character of a printed
diagnostic of a scan: there is no line end among them and no escape character. So each
takes exactly one line, and nothing of it is lost where control sequences are left out. -/
namespace ScriptLexer

namespace Text

variable {c : Char} {first second text : List Char}

/-- A text of printable characters only. -/
def Printable (text : List Char) : Prop := ∀ c ∈ text, isPrintable c = true

@[simp] theorem printable_nil : Printable [] := by simp [Printable]

@[simp] theorem printable_cons : Printable (c :: text) ↔ isPrintable c = true ∧ Printable text :=
  List.forall_mem_cons

@[simp] theorem printable_append :
    Printable (first ++ second) ↔ Printable first ∧ Printable second :=
  List.forall_mem_append

theorem isPrintable_of_visible (above : 0x20 ≤ c.toNat) (below : c.toNat < 0x7f) :
    isPrintable c = true := by
  obtain ⟨others, table⟩ : ∃ others, unprintableRanges = ⟨0x0, 0x1f⟩ :: ⟨0x7f, 0xa0⟩ :: others :=
    ⟨_, rfl⟩
  have beyond : ¬ c.toNat ≤ 0x1f := by omega
  simp [isPrintable, table, Range.anyCovers, beyond, below]

theorem printable_of_all (all : text.all isPrintable = true) : Printable text :=
  List.all_eq_true.mp all

theorem printable_replicate (count : Nat) (printable : isPrintable c = true) :
    Printable (List.replicate count c) := by
  intro d member
  rw [List.eq_of_mem_replicate member]
  exact printable

/-- Nothing printable begins a control sequence. -/
theorem Printable.withoutControlSequences_eq (printable : Printable text) :
    withoutControlSequences text = text := by
  apply withoutControlSequences_of_not_mem
  intro member
  exact absurd (printable escape member) (by decide)

theorem Printable.no_lineEnd (printable : Printable text) : '\n' ∉ text := by
  intro member
  exact absurd (printable '\n' member) (by decide)

/-! ### Digits -/

theorem printable_toDigits {base : Nat} (lower : 1 < base) (upper : base ≤ 16) (n : Nat) :
    Printable (Nat.toDigits base n) := by
  have digits : (List.range 16).all (fun digit => isPrintable digit.digitChar) = true := by decide
  have single (digit : Nat) (below : digit < base) : isPrintable digit.digitChar = true :=
    List.all_eq_true.mp digits digit (List.mem_range.mpr (by omega))
  induction n using Nat.strongRecOn with
  | ind n ih =>
    rw [Nat.toDigits_eq_if lower]
    split
    · rename_i below
      simpa using single n below
    · have shorter : n / base < n := Nat.div_lt_self (by omega) lower
      simp [ih _ shorter, single _ (Nat.mod_lt n (by omega))]

theorem printable_decimal (n : Nat) : Printable (decimal n) :=
  printable_toDigits (by decide) (by decide) n

theorem printable_signedDecimal (n : Int) : Printable (signedDecimal n) := by
  cases n with
  | ofNat n => exact printable_decimal n
  | negSucc n => exact printable_cons.mpr ⟨by decide, printable_decimal (n + 1)⟩

theorem printable_leftpad (width : Nat) (printable : Printable text) :
    Printable (text.leftpad width '0') :=
  printable_append.mpr ⟨printable_replicate _ (by decide), printable⟩

theorem printable_hexadecimal (width n : Nat) : Printable (hexadecimal width n) :=
  printable_leftpad width (printable_toDigits (by decide) (by decide) n)

/-! ### Quoted texts -/

theorem printable_numberedChar (c : Char) : Printable (numberedChar c) := by
  unfold numberedChar
  split
  · simpa using ⟨by decide, by decide, printable_hexadecimal 2 _⟩
  · split
    · simpa using ⟨by decide, by decide, printable_hexadecimal 4 _⟩
    · simpa using ⟨by decide, by decide, printable_hexadecimal 8 _⟩

theorem isPrintable_quoteMark (text : List Char) : isPrintable (quoteMark text) = true := by
  unfold quoteMark
  split <;> decide

theorem printable_quotedChar {mark : Char} (printable : isPrintable mark = true) (c : Char) :
    Printable (quotedChar isPrintable mark c) := by
  unfold quotedChar
  split
  · rename_i escaped
    rcases escaped with rfl | rfl
    · simpa using ⟨by decide, printable⟩
    · exact printable_of_all (by decide)
  repeat' split
  · exact printable_of_all (by decide)
  · exact printable_of_all (by decide)
  · exact printable_of_all (by decide)
  · simpa
  · exact printable_numberedChar c

/-- The quoted form of any text is printable. -/
theorem printable_quoted (text : List Char) : Printable (quoted text) := by
  have mark := isPrintable_quoteMark text
  have inner : Printable (text.flatMap (quotedChar isPrintable (quoteMark text))) := by
    intro d member
    obtain ⟨c, _, shown⟩ := List.mem_flatMap.mp member
    exact printable_quotedChar mark c d shown
  simp [quoted, quotedWith, mark, inner]

end Text

open Text

/-! ### Numbers -/

/-- Every part of a number is a character of ASCII above the controls. -/
theorem NumberText.printable {text : List Char} (parts : NumberText text) : Printable text := by
  intro c member
  have among := parts c member
  simp only [isNumberPart, Bool.or_eq_true, beq_iff_eq] at among
  rcases among with (((digit | rfl) | rfl) | rfl) | rfl
  · have bounds := Source.isDigit_bounds digit
    exact isPrintable_of_visible (by omega) (by omega)
  all_goals decide

namespace Binary64

theorem printable_print (number : Binary64) : Printable number.print := by
  have sign (negative : Bool) : Printable (if negative then ['-'] else []) := by
    cases negative <;> exact printable_of_all (by decide)
  cases number with
  | nan => exact printable_of_all (by decide)
  | infinite negative => exact printable_append.mpr ⟨sign negative, printable_of_all (by decide)⟩
  | finite negative magnitude =>
    exact printable_append.mpr ⟨sign negative, magnitude.numberText_print.printable⟩

end Binary64

/-! ### Tokens -/

theorem Kind.printable_name (kind : Kind) : Printable kind.name := by
  cases kind with
  | reserved word => cases word <;> exact printable_of_all (by decide)
  | _ => exact printable_of_all (by decide)

theorem Literal.printable_print (literal : Literal) : Printable literal.print := by
  cases literal with
  | boolean value => cases value <;> exact printable_of_all (by decide)
  | nil => exact printable_of_all (by decide)
  | number value => exact value.printable_print
  | text value => exact printable_quoted value

theorem Token.printable_printLiteral (literal : Option Literal) :
    Printable (printLiteral literal) := by
  cases literal with
  | none => exact printable_of_all (by decide)
  | some literal => exact literal.printable_print

/-- Every character of a printed token is printable. -/
theorem Token.printable_print (token : Token) : Printable token.print := by
  have opening : Printable "Token(".toList := printable_of_all (by decide)
  have comma : Printable ", ".toList := printable_of_all (by decide)
  have closing : Printable [')'] := printable_of_all (by decide)
  have kind := token.kind.printable_name
  have lexeme := printable_quoted token.lexeme
  have literal := printable_printLiteral token.literal
  have line := printable_signedDecimal token.line
  unfold print
  simp only [printable_append]
  exact ⟨⟨⟨⟨⟨⟨⟨⟨opening, kind⟩, comma⟩, lexeme⟩, comma⟩, literal⟩, comma⟩, line⟩, closing⟩

/-! ### Diagnostics -/

/-- What a scan reports is about a fault in its source. -/
theorem Scan.exists_fault {source : List Char} {diagnostic : Diagnostic}
    (reported : diagnostic ∈ (ofSource source).diagnostics) :
    ∃ line fault, diagnostic = Source.Fault.diagnostic line fault := by
  rw [ofSource_eq] at reported
  obtain ⟨⟨span, reading, line⟩, _, shown⟩ := List.mem_filterMap.mp reported
  cases reading with
  | fault fault => exact ⟨line, fault, (Option.some.inj shown).symm⟩
  | token | trivia => cases shown

/-- Every character of a printed diagnostic of a scan is printable. -/
theorem Scan.printable_diagnostic {source : List Char} {diagnostic : Diagnostic}
    (reported : diagnostic ∈ (ofSource source).diagnostics) : Printable diagnostic.print := by
  obtain ⟨line, fault, rfl⟩ := exists_fault reported
  have opening : Printable "[line ".toList := printable_of_all (by decide)
  have closing : Printable "] Error".toList := printable_of_all (by decide)
  have colon : Printable ": ".toList := printable_of_all (by decide)
  have number := printable_signedDecimal (fault.diagnostic line).line
  have place : Printable (fault.diagnostic line).place := by cases fault <;> exact printable_nil
  have unterminated : Printable "Unterminated string".toList := printable_of_all (by decide)
  have unexpected : Printable "Unexpected character".toList := printable_of_all (by decide)
  have message : Printable (fault.diagnostic line).message := by
    cases fault with
    | unterminatedString => exact unterminated
    | unexpectedCharacter found => exact unexpected
  unfold Diagnostic.print
  simp only [printable_append]
  exact ⟨⟨⟨⟨⟨opening, number⟩, closing⟩, place⟩, colon⟩, message⟩

end ScriptLexer
