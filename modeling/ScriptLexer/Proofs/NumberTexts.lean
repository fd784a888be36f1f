import Mathlib.Data.List.DropRight
import ScriptLexer.Number.Printed

/-! What the text of a number is made of: digits, a point, the letter in front of a power of
ten, and signs. It begins with a digit unless the number is negative. -/
namespace ScriptLexer

open Text

/-! ### Digits -/

/-- A text of decimal digits only. -/
def Digits (text : List Char) : Prop := ∀ c ∈ text, c.isDigit = true

theorem Digits.absent {text : List Char} {c : Char} (digits : Digits text)
    (foreign : c.isDigit = false) : c ∉ text :=
  fun member => Bool.false_ne_true (foreign.symm.trans (digits c member))

theorem Digits.append {first second : List Char} (digits : Digits first)
    (digits' : Digits second) : Digits (first ++ second) :=
  fun c member => (List.mem_append.mp member).elim (digits c) (digits' c)

theorem Digits.subset {part text : List Char} (digits : Digits text) (among : part ⊆ text) :
    Digits part :=
  fun c member => digits c (among member)

theorem digits_zeros (zeros : Nat) : Digits (List.replicate zeros '0') := by
  intro c member
  rw [List.eq_of_mem_replicate member]
  rfl

theorem Digits.leftpad {text : List Char} (digits : Digits text) (width : Nat) :
    Digits (text.leftpad width '0') :=
  (digits_zeros _).append digits

theorem Digits.rightpad {text : List Char} (digits : Digits text) (width : Nat) :
    Digits (text.rightpad width '0') :=
  digits.append (digits_zeros _)

theorem digits_decimal (n : Nat) : Digits (decimal n) :=
  fun _ member => Nat.isDigit_of_mem_toDigits (by decide) (by decide) member

/-- What the texts of numbers are made of. -/
def isNumberPart (c : Char) : Bool := c.isDigit || c == '.' || c == 'e' || c == '+' || c == '-'

/-- A text of parts of numbers only. -/
def NumberText (text : List Char) : Prop := ∀ c ∈ text, isNumberPart c = true

theorem Digits.numberText {text : List Char} (digits : Digits text) : NumberText text := by
  intro c member
  rw [isNumberPart, digits c member]
  rfl

theorem numberText_cons {c : Char} {text : List Char} :
    NumberText (c :: text) ↔ isNumberPart c = true ∧ NumberText text :=
  List.forall_mem_cons

theorem numberText_append {first second : List Char} :
    NumberText (first ++ second) ↔ NumberText first ∧ NumberText second :=
  List.forall_mem_append

namespace Scientific

variable {number : Scientific} {digits : List Char}

/-- Digits, and at least one. -/
structure Significant (digits : List Char) : Prop where
  nonempty : digits ≠ []
  all : Digits digits

theorem Significant.length_pos (significant : Significant digits) : 0 < digits.length :=
  List.length_pos_iff.mpr significant.nonempty

/-- The zeros at the end are left out, and nothing but them. -/
theorem exists_zeros (number : Decimal) : ∃ zeros,
    decimal number.coefficient = (ofDecimal number).digits ++ List.replicate zeros '0' := by
  let text := decimal number.coefficient
  have ends : text.rtakeWhile (· == '0') =
      List.replicate (text.rtakeWhile (· == '0')).length '0' := by
    refine List.eq_replicate_of_mem fun c member => ?_
    have zero := List.mem_rtakeWhile_imp member
    exact eq_of_beq zero
  refine ⟨(text.rtakeWhile (· == '0')).length, ?_⟩
  rw [← ends]
  exact List.rdropWhile_append_rtakeWhile.symm

theorem digits_ofDecimal (number : Decimal) : Digits (ofDecimal number).digits := by
  obtain ⟨zeros, text⟩ := exists_zeros number
  refine (digits_decimal number.coefficient).subset ?_
  rw [text]
  exact List.subset_append_left _ _

theorem significant_ofDecimal {number : Decimal} (positive : number.coefficient ≠ 0) :
    Significant (ofDecimal number).digits := by
  obtain ⟨zeros, text⟩ := exists_zeros number
  refine ⟨fun none => positive ?_, digits_ofDecimal number⟩
  rw [none, List.nil_append] at text
  rw [← Nat.ofDigitChars_ten_toDigits (n := number.coefficient), ← decimal, text,
    Nat.ofDigitChars_replicate_zero, Nat.mul_zero]

/-! ### Parts -/

theorem numberText_positional (digits : Digits number.digits) :
    NumberText number.positional := by
  unfold positional
  split
  · rename_i exponent _
    have whole := digits.subset (List.take_subset (exponent + 1) _)
    have fraction := digits.subset (List.drop_subset (exponent + 1) _)
    have filled := whole.rightpad (exponent + 1)
    refine numberText_append.mpr ⟨filled.numberText, numberText_cons.mpr ⟨by decide, ?_⟩⟩
    split
    · exact (digits_zeros 1).numberText
    · exact fraction.numberText
  · rename_i zeros _
    have places := (digits_zeros zeros).append digits
    exact numberText_cons.mpr ⟨by decide, numberText_cons.mpr ⟨by decide, places.numberText⟩⟩

theorem numberText_exponential (digits : Digits number.digits) :
    NumberText number.exponential := by
  have first := digits.subset (List.take_subset 1 _)
  have places := digits.subset (List.drop_subset 1 _)
  have power := (digits_decimal number.exponent.natAbs).leftpad 2
  refine numberText_append.mpr ⟨numberText_append.mpr ⟨first.numberText, ?_⟩,
    numberText_cons.mpr ⟨by decide, numberText_cons.mpr ⟨?_, power.numberText⟩⟩⟩
  · split
    · exact (digits_zeros 0).numberText
    · exact numberText_cons.mpr ⟨by decide, places.numberText⟩
  · split <;> decide

theorem numberText_print (digits : Digits number.digits) : NumberText number.print := by
  unfold print
  split
  · exact numberText_positional digits
  · exact numberText_exponential digits

/-! ### Beginnings -/

theorem print_begins (significant : Significant number.digits) :
    ∃ c rest, number.print = c :: rest ∧ c.isDigit = true := by
  obtain ⟨digits, exponent⟩ := number
  obtain ⟨c, rest, rfl⟩ := List.exists_cons_of_ne_nil significant.nonempty
  have digit : c.isDigit = true := significant.all c (List.mem_cons_self ..)
  unfold print
  split
  · cases exponent with
    | ofNat exponent => exact ⟨c, _, rfl, digit⟩
    | negSucc zeros => exact ⟨'0', _, rfl, by decide⟩
  · exact ⟨c, _, rfl, digit⟩

end Scientific

namespace Binary64.Magnitude

theorem numberText_print (magnitude : Magnitude) : NumberText magnitude.print := by
  unfold print
  split
  · exact List.all_eq_true.mp (by decide)
  · exact Scientific.numberText_print (Scientific.digits_ofDecimal _)

end Binary64.Magnitude

end ScriptLexer
