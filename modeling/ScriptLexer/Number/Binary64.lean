/-! The binary floating point numbers of 64 bits. Every finite one is a whole
number of units of `2 ^ -1074`, the smallest positive number of the format, so a
magnitude is held as that natural number and all arithmetic on it is exact. Powers
are written `Nat.pow`, which means the same wherever a definition is read. -/
namespace ScriptLexer

namespace Binary64

/-- How many units make one. -/
def unitsPerOne : Nat := Nat.pow 2 1074

/-- The first power of two above all finite magnitudes, `2 ^ 1024`, in units. -/
def overflow : Nat := Nat.pow 2 2098

/-- The distance, in units, between neighbouring magnitudes from the power of two
at or below a magnitude up to the next power of two. A magnitude has at most 53
significant binary digits, and below `2 ^ 53` units each unit counts. -/
def spacing (units : Nat) : Nat := Nat.pow 2 (units.log2 - 52)

/-- The number `2 ^ 52` of fractions between a power of two and the next. -/
def fractions : Nat := 0x10000000000000

theorem two_mul_fractions : 2 * fractions = Nat.pow 2 53 := by decide

/-- A number of 53 binary digits, moved to the left by any number of places, is a
multiple of the spacing that holds where it lands. -/
theorem spacing_dvd {significand : Nat} (small : significand ≤ 2 * fractions) (places : Nat) :
    spacing (significand * Nat.pow 2 places) ∣ significand * Nat.pow 2 places := by
  rw [two_mul_fractions] at small
  simp only [spacing, Nat.pow_eq] at small ⊢
  rcases Nat.eq_or_lt_of_le small with top | below
  · subst top
    rw [← Nat.pow_add, Nat.log2_two_pow]
    exact Nat.pow_dvd_pow 2 (by omega)
  · refine Nat.dvd_trans (Nat.pow_dvd_pow 2 ?_) (Nat.dvd_mul_left _ significand)
    by_cases zero : significand * 2 ^ places = 0
    · simp [zero]
    · have bound : significand * 2 ^ places < 2 ^ (53 + places) := by
        rw [Nat.pow_add]
        exact Nat.mul_lt_mul_of_pos_right below (Nat.two_pow_pos places)
      have := (Nat.log2_lt zero).2 bound
      omega

private theorem two_pow_le_overflow {places : Nat} (near : places ≤ 2098) :
    Nat.pow 2 places ≤ overflow := by
  delta overflow
  generalize 2098 = top at *
  exact Nat.pow_le_pow_right Nat.zero_lt_two near

/-- A number of 53 binary digits is finite as long as it is moved to the left by
no more than 2045 places. -/
theorem lt_overflow {significand places : Nat} (small : significand < 2 * fractions)
    (near : places ≤ 2045) : significand * Nat.pow 2 places < overflow := by
  refine Nat.lt_of_lt_of_le (Nat.mul_lt_mul_of_pos_right small (Nat.two_pow_pos places)) ?_
  rw [two_mul_fractions]
  simp only [Nat.pow_eq, ← Nat.pow_add]
  exact two_pow_le_overflow (by omega)

/-- The size of a finite number, in units. -/
structure Magnitude where
  units : Nat
  units_lt : units < overflow
  spacing_dvd_units : spacing units ∣ units
deriving DecidableEq

end Binary64

/-- A binary floating point number of 64 bits. The numbers that are not finite
carry no more than printing and comparing them asks for: all bit patterns that
stand for no number are one. -/
inductive Binary64
  | nan
  | infinite (negative : Bool)
  | finite (negative : Bool) (magnitude : Binary64.Magnitude)
deriving DecidableEq

namespace Binary64

/-- The number of an exponent field and a fraction field. The largest exponent
stands for the infinities and for what is no number, the smallest for the numbers
whose leading digit is not implied. -/
def ofFields (negative : Bool) (exponent : Fin 2048) (fraction : Fin fractions) : Binary64 :=
  if largest : exponent = 2047 then
    if fraction.val = 0 then .infinite negative else .nan
  else
    match split : exponent.val with
    | 0 => .finite negative
        { units := fraction * Nat.pow 2 0
          units_lt := lt_overflow (by omega) (by omega)
          spacing_dvd_units := spacing_dvd (by omega) 0 }
    | places + 1 => .finite negative
        { units := (fractions + fraction) * Nat.pow 2 places
          units_lt := lt_overflow (by omega) (by omega)
          spacing_dvd_units := spacing_dvd (by omega) places }

/-- The number that 64 bits encode: a sign, eleven bits of exponent and 52 bits of
fraction. -/
def ofBits (bits : UInt64) : Binary64 :=
  ofFields (bits.toNat / 0x8000000000000000 == 1) (Fin.ofNat _ (bits.toNat / fractions))
    ⟨bits.toNat % fractions, Nat.mod_lt _ (by decide)⟩

/-- Whether two numbers are equal as numbers: both zeros are, and what is no
number equals nothing. -/
def equals : Binary64 → Binary64 → Bool
  | .nan, _ | _, .nan => false
  | .infinite negative, .infinite negative' => negative == negative'
  | .finite negative magnitude, .finite negative' magnitude' =>
    magnitude.units == magnitude'.units && (negative == negative' || magnitude.units == 0)
  | _, _ => false

end Binary64

end ScriptLexer
