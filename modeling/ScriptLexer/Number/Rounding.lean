import ScriptLexer.Number.Binary64

/-! Rounding a fraction to the nearest number of the format. A fraction halfway
between two neighbours goes to the one that is an even multiple of their
distance, and a fraction that rounds beyond the largest finite number is
infinite. -/
namespace ScriptLexer

/-- The whole number nearest to `num / den`; of two that are equally near, the
even one. -/
def roundHalfEven (num den : Nat) : Nat :=
  let quotient := num / den
  let twice := 2 * (num % den)
  if twice < den ∨ (twice = den ∧ quotient % 2 = 0) then quotient else quotient + 1

/-- Rounding moves a quotient up by one at most. -/
theorem roundHalfEven_le (num den : Nat) : roundHalfEven num den ≤ num / den + 1 := by
  unfold roundHalfEven
  grind

namespace Binary64

/-- The multiple of the local spacing nearest to `num / den`, in units. -/
def nearestUnits (num den : Nat) : Nat :=
  let scaled := num * unitsPerOne
  let distance := spacing (scaled / den)
  roundHalfEven scaled (den * distance) * distance

/-- Rounding to the spacing below a fraction gives a magnitude of the format also
when it reaches the power of two where a wider spacing begins. -/
theorem spacing_dvd_nearestUnits (num den : Nat) :
    spacing (nearestUnits num den) ∣ nearestUnits num den := by
  refine spacing_dvd (Nat.le_trans (roundHalfEven_le _ _) ?_) _
  rw [two_mul_fractions]
  simp only [spacing, Nat.pow_eq]
  rw [← Nat.div_div_eq_div_mul, Nat.succ_le_iff,
    Nat.div_lt_iff_lt_mul (Nat.two_pow_pos _), ← Nat.pow_add]
  exact Nat.lt_of_lt_of_le Nat.lt_log2_self (Nat.pow_le_pow_right (by decide) (by omega))

/-- The magnitude nearest to `num / den`, if it is finite. -/
def Magnitude.nearest? (num den : Nat) : Option Magnitude :=
  if finite : nearestUnits num den < overflow then
    some ⟨nearestUnits num den, finite, spacing_dvd_nearestUnits num den⟩
  else none

/-- The number nearest to `num / den`. -/
def ofRatio (num den : Nat) : Binary64 :=
  match Magnitude.nearest? num den with
  | some magnitude => .finite false magnitude
  | none => .infinite false

/-- The number nearest to a decimal: digits, of which those after the point, if
there is one, are decimal places. -/
def ofDecimal (text : List Char) : Binary64 :=
  let whole := text.takeWhile (· != '.')
  let places := text.drop (whole.length + 1)
  ofRatio (Nat.ofDigitChars 10 (whole ++ places) 0) (Nat.pow 10 places.length)

end Binary64

end ScriptLexer
