import Mathlib.Algebra.Field.Rat
import Mathlib.Tactic.NormNum
import Mathlib.Tactic.Ring
import ScriptLexer.Proofs.NumberTexts
import ScriptLexer.Text.Delimited

/-! Decimals and their texts. A text of digits, with a point among them or not and with a
power of ten behind them or not, stands for a fraction, and the text that is printed for a
decimal stands for the fraction that the decimal stands for. -/
namespace ScriptLexer

open Text

/-! ### What a text stands for -/

theorem ofDigitChars_zeros_before (zeros : Nat) (digits : List Char) :
    Nat.ofDigitChars 10 (List.replicate zeros '0' ++ digits) 0 =
      Nat.ofDigitChars 10 digits 0 := by
  rw [Nat.ofDigitChars_append, Nat.ofDigitChars_replicate_zero, Nat.mul_zero]

theorem ofDigitChars_zeros_behind (digits : List Char) (zeros : Nat) :
    Nat.ofDigitChars 10 (digits ++ List.replicate zeros '0') 0 =
      Nat.ofDigitChars 10 digits 0 * 10 ^ zeros := by
  rw [Nat.ofDigitChars_append, Nat.ofDigitChars_replicate_zero, Nat.mul_comm]

namespace Decimal

/-- The fraction that a decimal stands for. -/
def value (number : Decimal) : ℚ := number.coefficient * 10 ^ number.exponent

/-- Zeros at the end of a coefficient are powers of ten. -/
theorem value_shift (coefficient zeros : Nat) (exponent : Int) :
    value ⟨coefficient * 10 ^ zeros, exponent⟩ = value ⟨coefficient, exponent + zeros⟩ := by
  have ten : (10 : ℚ) ≠ 0 := by norm_num
  rw [value, value, zpow_add₀ ten, zpow_natCast]
  push_cast
  ring

/-- The integer of some digits, behind a sign or not. -/
def readInteger : List Char → Int
  | '-' :: digits => -(Nat.ofDigitChars 10 digits 0 : Nat)
  | '+' :: digits => (Nat.ofDigitChars 10 digits 0 : Nat)
  | digits => (Nat.ofDigitChars 10 digits 0 : Nat)

theorem readInteger_digits {digits : List Char} (all : Digits digits) :
    readInteger digits = (Nat.ofDigitChars 10 digits 0 : Nat) := by
  unfold readInteger
  split
  · exact absurd (all '-' (List.mem_cons_self ..)) (by decide)
  · exact absurd (all '+' (List.mem_cons_self ..)) (by decide)
  · rfl

/-- Integers are read back. -/
theorem readInteger_signedDecimal (n : Int) : readInteger (signedDecimal n) = n := by
  cases n with
  | ofNat n =>
    rw [signedDecimal, readInteger_digits (digits_decimal n), decimal,
      Nat.ofDigitChars_ten_toDigits]
    rfl
  | negSucc n =>
    rw [signedDecimal, readInteger, decimal, Nat.ofDigitChars_ten_toDigits]
    rfl

/-- The decimal of some digits, of which those behind a point are places. -/
def ofMantissa (text : List Char) : Decimal :=
  let whole := text.takeWhile (· != '.')
  let places := text.drop (whole.length + 1)
  ⟨Nat.ofDigitChars 10 (whole ++ places) 0, -places.length⟩

/-- The decimal that a text stands for. -/
def ofText (text : List Char) : Decimal :=
  let mantissa := text.takeWhile (· != 'e')
  let number := ofMantissa mantissa
  ⟨number.coefficient, number.exponent + readInteger (text.drop (mantissa.length + 1))⟩

variable {whole places mantissa : List Char}

theorem ofMantissa_whole (digits : Digits whole) :
    ofMantissa whole = ⟨Nat.ofDigitChars 10 whole 0, 0⟩ := by
  have all := takeWhile_absent (digits.absent (c := '.') (by decide))
  have nothing : whole.drop (whole.length + 1) = [] := List.drop_eq_nil_of_le (by omega)
  simp [ofMantissa, all, nothing]

theorem ofMantissa_point (digits : Digits whole) (places : List Char) :
    ofMantissa (whole ++ '.' :: places) =
      ⟨Nat.ofDigitChars 10 (whole ++ places) 0, -places.length⟩ := by
  have before := takeWhile_stop (digits.absent (c := '.') (by decide)) places
  simp only [ofMantissa, before, drop_stop]

theorem ofText_mantissa (inside : 'e' ∉ mantissa) : ofText mantissa = ofMantissa mantissa := by
  have nothing : mantissa.drop (mantissa.length + 1) = [] := List.drop_eq_nil_of_le (by omega)
  have zero : readInteger [] = 0 := rfl
  simp only [ofText, takeWhile_absent inside, nothing, zero, Int.add_zero]

theorem ofText_power (inside : 'e' ∉ mantissa) (power : List Char) :
    ofText (mantissa ++ 'e' :: power) =
      ⟨(ofMantissa mantissa).coefficient, (ofMantissa mantissa).exponent + readInteger power⟩ := by
  simp only [ofText, takeWhile_stop inside, drop_stop]

theorem e_not_mem_mantissa (digits : Digits whole) (digits' : Digits places) :
    'e' ∉ whole ++ '.' :: places := by
  rw [List.mem_append, List.mem_cons, not_or, not_or]
  exact ⟨digits.absent (by decide), by decide, digits'.absent (by decide)⟩

/-- Digits around a point. -/
theorem ofText_point (digits : Digits whole) (digits' : Digits places) :
    ofText (whole ++ '.' :: places) =
      ⟨Nat.ofDigitChars 10 (whole ++ places) 0, -places.length⟩ := by
  rw [ofText_mantissa (e_not_mem_mantissa digits digits'), ofMantissa_point digits]

end Decimal

/-! ### What is printed stands for what is meant -/

namespace Scientific

open Decimal

variable {digits : List Char}

/-- The significant digits as a coefficient. -/
def toDecimal (number : Scientific) : Decimal :=
  ⟨Nat.ofDigitChars 10 number.digits 0, number.exponent - (number.digits.length - 1 : Nat)⟩

/-- Zeros that fill up the digits before the point make the coefficient longer. -/
theorem ofText_filled (significant : Significant digits) {exponent : Nat}
    (short : digits.length ≤ exponent + 1) :
    (ofText (positional ⟨digits, .ofNat exponent⟩)).value =
      (toDecimal ⟨digits, .ofNat exponent⟩).value := by
  have size := significant.length_pos
  have whole : Digits (digits.rightpad (exponent + 1) '0') := significant.all.rightpad _
  have place : Digits ['0'] := digits_zeros 1
  have written : digits.rightpad (exponent + 1) '0' ++ ['0'] =
      digits ++ List.replicate (exponent + 2 - digits.length) '0' := by
    rw [List.rightpad, List.append_assoc, ← List.replicate_succ', Nat.succ_sub short]
  unfold positional
  dsimp only
  rw [List.drop_eq_nil_of_le short, List.take_of_length_le short, List.isEmpty_nil, if_pos rfl,
    ofText_point whole place, List.length_singleton, written, ofDigitChars_zeros_behind,
    value_shift, toDecimal]
  congr 2
  simp only [Int.ofNat_eq_natCast]
  omega

/-- The point stands among the digits. -/
theorem ofText_divided (all : Digits digits) {exponent : Nat}
    (long : exponent + 1 < digits.length) :
    ofText (positional ⟨digits, .ofNat exponent⟩) = toDecimal ⟨digits, .ofNat exponent⟩ := by
  have whole : Digits (digits.take (exponent + 1)) := all.subset (List.take_subset _ _)
  have places : Digits (digits.drop (exponent + 1)) := all.subset (List.drop_subset _ _)
  have before : (digits.take (exponent + 1)).length = exponent + 1 :=
    List.length_take_of_le long.le
  have behind : (digits.drop (exponent + 1)).isEmpty = false := by simpa using long
  have exact : (digits.take (exponent + 1)).rightpad (exponent + 1) '0' =
      digits.take (exponent + 1) := by
    rw [List.rightpad, before, Nat.sub_self, List.replicate_zero, List.append_nil]
  unfold positional
  dsimp only
  rw [exact, behind, if_neg Bool.false_ne_true, ofText_point whole places,
    List.take_append_drop, List.length_drop, toDecimal]
  congr 1
  simp only [Int.ofNat_eq_natCast]
  omega

theorem ofText_below (significant : Significant digits) (zeros : Nat) :
    ofText (positional ⟨digits, .negSucc zeros⟩) = toDecimal ⟨digits, .negSucc zeros⟩ := by
  have size := significant.length_pos
  have places : Digits (List.replicate zeros '0' ++ digits) :=
    (digits_zeros zeros).append significant.all
  have coefficient := ofDigitChars_zeros_before (zeros + 1) digits
  have read := ofText_point (digits_zeros 1) places
  rw [← List.append_assoc, ← List.replicate_add, Nat.add_comm, coefficient,
    List.length_append, List.length_replicate] at read
  refine read.trans ?_
  rw [toDecimal]
  congr 1
  simp only [Int.negSucc_eq]
  omega

theorem readInteger_power (exponent : Int) :
    readInteger ((if exponent < 0 then '-' else '+') ::
      (decimal exponent.natAbs).leftpad 2 '0') = exponent := by
  have digits : Nat.ofDigitChars 10 ((decimal exponent.natAbs).leftpad 2 '0') 0 =
      exponent.natAbs := by
    rw [List.leftpad, ofDigitChars_zeros_before, decimal, Nat.ofDigitChars_ten_toDigits]
  split
  · rw [readInteger, digits]
    omega
  · rw [readInteger, digits]
    omega

theorem ofText_exponential (significant : Significant digits) (exponent : Int) :
    ofText (exponential ⟨digits, exponent⟩) = toDecimal ⟨digits, exponent⟩ := by
  obtain ⟨first, places, rfl⟩ := List.exists_cons_of_ne_nil significant.nonempty
  have leading : Digits [first] := significant.all.subset (by simp)
  have behind : Digits places := significant.all.subset (List.subset_cons_self _ _)
  unfold exponential toDecimal
  simp only [List.take_succ_cons, List.take_zero, List.drop_one, List.tail_cons]
  by_cases alone : places = []
  · subst alone
    have inside : 'e' ∉ [first] := leading.absent (by decide)
    rw [List.isEmpty_nil, if_pos rfl, List.append_nil, ofText_power inside,
      ofMantissa_whole leading, readInteger_power]
    simp
  · rw [List.isEmpty_eq_false_iff.mpr alone, if_neg Bool.false_ne_true,
      ofText_power (e_not_mem_mantissa leading behind), ofMantissa_point leading, readInteger_power,
      List.singleton_append, List.length_cons, Nat.add_sub_cancel, Int.add_comm,
      Int.sub_eq_add_neg]

/-- The printed text of a decimal stands for the decimal. -/
theorem ofText_print (number : Scientific) (significant : Significant number.digits) :
    (ofText number.print).value = number.toDecimal.value := by
  obtain ⟨digits, exponent⟩ := number
  unfold print
  split
  · cases exponent with
    | ofNat exponent =>
      rcases Nat.lt_or_ge (exponent + 1) digits.length with long | short
      · exact congrArg value (ofText_divided significant.all long)
      · exact ofText_filled significant short
    | negSucc zeros => exact congrArg value (ofText_below significant zeros)
  · exact congrArg value (ofText_exponential significant exponent)

/-- The zeros that are left out are made up for by the exponent. -/
theorem value_ofDecimal {number : Decimal} (positive : number.coefficient ≠ 0) :
    (ofDecimal number).toDecimal.value = number.value := by
  have size := (significant_ofDecimal positive).length_pos
  obtain ⟨zeros, text⟩ := exists_zeros number
  have length := congrArg List.length text
  have coefficient : number.coefficient =
      Nat.ofDigitChars 10 (ofDecimal number).digits 0 * 10 ^ zeros := by
    rw [← ofDigitChars_zeros_behind, ← text, decimal, Nat.ofDigitChars_ten_toDigits]
  calc (ofDecimal number).toDecimal.value
      = value ⟨Nat.ofDigitChars 10 (ofDecimal number).digits 0, number.exponent + zeros⟩ := by
        have exponent : (ofDecimal number).exponent =
          number.exponent + ((decimal number.coefficient).length - 1 : Nat) := rfl
        rw [List.length_append, List.length_replicate] at length
        rw [toDecimal, exponent, length]
        congr 2
        omega
    _ = value ⟨number.coefficient, number.exponent⟩ := by rw [coefficient, value_shift]

end Scientific

end ScriptLexer
