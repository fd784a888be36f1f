import Mathlib.Algebra.Order.Field.Rat
import Mathlib.Data.Nat.Prime.Basic
import Mathlib.Data.Rat.Lemmas
import ScriptLexer.Proofs.DecimalTexts

/-! Printed numbers can be read back. The shortest decimal of a magnitude rounds to it, so
the fraction that its text stands for does, and no two numbers are printed alike. -/
namespace ScriptLexer

/-! ### Rounding looks at the fraction only -/

theorem roundHalfEven_scale {factor : Nat} (positive : 0 < factor) (num den : Nat) :
    roundHalfEven (factor * num) (factor * den) = roundHalfEven num den := by
  have twice : 2 * (factor * (num % den)) = factor * (2 * (num % den)) := Nat.mul_left_comm ..
  have below : factor * (2 * (num % den)) < factor * den ↔ 2 * (num % den) < den :=
    Nat.mul_lt_mul_left positive
  have halfway : factor * (2 * (num % den)) = factor * den ↔ 2 * (num % den) = den :=
    Nat.mul_right_inj positive.ne'
  simp only [roundHalfEven, Nat.mul_div_mul_left _ _ positive, Nat.mul_mod_mul_left, twice, below,
    halfway]

theorem roundHalfEven_exact {den : Nat} (positive : 0 < den) (quotient : Nat) :
    roundHalfEven (quotient * den) den = quotient := by
  simp [roundHalfEven, Nat.mul_div_cancel _ positive, positive]

namespace Binary64

theorem unitsPerOne_pos : 0 < unitsPerOne := by
  delta unitsPerOne
  generalize 1074 = top
  exact Nat.two_pow_pos top

theorem spacing_pos (units : Nat) : 0 < spacing units := Nat.two_pow_pos _

theorem nearestUnits_scale {factor : Nat} (positive : 0 < factor) (num den : Nat) :
    nearestUnits (factor * num) (factor * den) = nearestUnits num den := by
  simp only [nearestUnits, Nat.mul_assoc, Nat.mul_div_mul_left _ _ positive,
    roundHalfEven_scale positive]

namespace Magnitude

variable {magnitude : Magnitude}

/-- The magnitude nearest to a fraction, if it is finite. -/
def nearestTo? (fraction : ℚ) : Option Magnitude :=
  nearest? fraction.num.toNat fraction.den

/-- Rounding gives the same for all ways to write a fraction. -/
theorem nearest?_eq_nearestTo? (num : Nat) {den : Nat} (positive : 0 < den) :
    nearest? num den = nearestTo? ((num : ℚ) / den) := by
  obtain ⟨factor, top, bottom⟩ := Rat.exists_eq_mul_div_num_and_eq_mul_div_den num
    (Int.natCast_ne_zero.mpr positive.ne')
  rw [Int.cast_natCast, Int.cast_natCast] at top bottom
  generalize fraction_eq : (num : ℚ) / den = fraction at top bottom
  have natural : 0 ≤ fraction.num := by
    rw [Rat.num_nonneg, ← fraction_eq]
    exact div_nonneg num.cast_nonneg den.cast_nonneg
  have scales : 0 < factor := by
    have reduced : (0 : Int) < fraction.den := Int.natCast_pos.mpr fraction.den_pos
    have whole : (0 : Int) < factor * fraction.den := by omega
    exact pos_of_mul_pos_left whole reduced.le
  lift factor to Nat using scales.le
  rw [← Int.toNat_of_nonneg natural] at top
  have top : num = factor * fraction.num.toNat := by exact_mod_cast top
  have bottom : den = factor * fraction.den := by exact_mod_cast bottom
  have same : nearestUnits num den = nearestUnits fraction.num.toNat fraction.den := by
    rw [top, bottom, nearestUnits_scale (by omega)]
  simp only [nearestTo?, nearest?, same]

/-- A magnitude is nearest to itself. -/
theorem nearest?_exact (magnitude : Magnitude) :
    nearest? magnitude.units unitsPerOne = some magnitude := by
  obtain ⟨quotient, multiple⟩ := magnitude.spacing_dvd_units
  have distance : 0 < unitsPerOne * spacing magnitude.units :=
    Nat.mul_pos unitsPerOne_pos (spacing_pos _)
  have exact : nearestUnits magnitude.units unitsPerOne = magnitude.units := by
    have scaled : magnitude.units * unitsPerOne =
        quotient * (unitsPerOne * spacing magnitude.units) := by
      rw [Nat.mul_left_comm, Nat.mul_comm quotient, ← multiple, Nat.mul_comm]
    rw [nearestUnits, Nat.mul_div_cancel _ unitsPerOne_pos, scaled,
      roundHalfEven_exact distance, Nat.mul_comm, ← multiple]
  obtain ⟨units, finite, whole⟩ := magnitude
  simp only [nearest?, exact, finite, dif_pos]

/-- A magnitude has as many decimal places as it has binary places. -/
theorem unitsPerOne_dvd_places (units : Nat) :
    unitsPerOne ∣ units * Nat.pow 10 (1074 - (Nat.gcd units unitsPerOne).log2) := by
  delta unitsPerOne
  generalize 1074 = top
  simp only [Nat.pow_eq]
  obtain ⟨zeros, few, common⟩ :=
    (Nat.dvd_prime_pow Nat.prime_two).mp (Nat.gcd_dvd_right units (2 ^ top))
  have even : 2 ^ zeros ∣ units := common ▸ Nat.gcd_dvd_left units (2 ^ top)
  have rest : 2 ^ (top - zeros) ∣ 10 ^ (top - zeros) := pow_dvd_pow_of_dvd (by decide) _
  rw [common, Nat.log2_two_pow, ← Nat.add_sub_of_le few, Nat.pow_add, Nat.add_sub_cancel_left]
  exact Nat.mul_dvd_mul even rest

theorem lastPlaces_mul (magnitude : Magnitude) :
    magnitude.lastPlaces * unitsPerOne = magnitude.units * 10 ^ magnitude.decimalPlaces :=
  Nat.div_mul_cancel (unitsPerOne_dvd_places magnitude.units)

/-- A decimal of some grid as a fraction of the finest grid. -/
theorem value_grid (coefficient dropped places : Nat) :
    Decimal.value ⟨coefficient, dropped - places⟩ =
      ((coefficient * 10 ^ dropped : Nat) : ℚ) / (10 ^ places : Nat) := by
  have ten : (10 : ℚ) ≠ 0 := by norm_num
  rw [Decimal.value, zpow_sub₀ ten, zpow_natCast, zpow_natCast]
  push_cast
  ring

theorem nearestTo?_neighbour {dropped : Nat} {number : Decimal}
    (found : magnitude.neighbour? dropped = some number) :
    nearestTo? number.value = some magnitude := by
  simp only [neighbour?, Option.map_eq_some_iff] at found
  obtain ⟨coefficient, chosen, rfl⟩ := found
  have back := List.find?_some chosen
  rw [decide_eq_true_eq] at back
  have finest : 0 < 10 ^ magnitude.decimalPlaces := Nat.pow_pos (by decide)
  rw [value_grid, ← nearest?_eq_nearestTo? _ finest]
  exact back

theorem nearestTo?_exact (magnitude : Magnitude) :
    nearestTo? (Decimal.value ⟨magnitude.lastPlaces, -magnitude.decimalPlaces⟩) =
      some magnitude := by
  have places : ((10 ^ magnitude.decimalPlaces : Nat) : ℚ) ≠ 0 :=
    Nat.cast_ne_zero.mpr (Nat.pow_pos (by decide)).ne'
  have units : (unitsPerOne : ℚ) ≠ 0 := Nat.cast_ne_zero.mpr unitsPerOne_pos.ne'
  have value := value_grid magnitude.lastPlaces 0 magnitude.decimalPlaces
  rw [Int.natCast_zero, Int.zero_sub, Nat.pow_zero, Nat.mul_one] at value
  have exact : (magnitude.lastPlaces : ℚ) / (10 ^ magnitude.decimalPlaces : Nat) =
      magnitude.units / unitsPerOne := by
    rw [div_eq_div_iff places units]
    exact_mod_cast magnitude.lastPlaces_mul
  rw [value, exact, ← nearest?_eq_nearestTo? _ unitsPerOne_pos, nearest?_exact]

/-- The shortest decimal rounds to its magnitude. -/
theorem nearestTo?_shortest (magnitude : Magnitude) :
    nearestTo? magnitude.shortest.value = some magnitude := by
  dsimp only [shortest]
  cases chosen : (List.range (Text.decimal magnitude.lastPlaces).length).reverse.findSome?
      magnitude.neighbour? with
  | none => exact magnitude.nearestTo?_exact
  | some number =>
    obtain ⟨dropped, _, found⟩ := List.exists_of_findSome?_eq_some chosen
    exact nearestTo?_neighbour found

/-- Only zero rounds to zero when it is written exactly. -/
theorem nearestTo?_zero_iff : nearestTo? 0 = some magnitude ↔ magnitude.units = 0 := by
  have nothing : nearestUnits 0 1 = 0 := by
    simp [nearestUnits, roundHalfEven, spacing_pos]
  have rounds : nearestTo? 0 = nearest? 0 1 := rfl
  constructor
  · intro zero
    rw [rounds, nearest?] at zero
    split at zero
    · rw [← Option.some.inj zero]
      exact nothing
    · cases zero
  · intro zero
    have exact := magnitude.nearest?_exact
    rwa [zero, nearest?_eq_nearestTo? _ unitsPerOne_pos, Nat.cast_zero, zero_div] at exact

theorem shortest_coefficient_ne_zero (positive : magnitude.units ≠ 0) :
    magnitude.shortest.coefficient ≠ 0 := by
  intro zero
  have rounds := magnitude.nearestTo?_shortest
  rw [Decimal.value, zero, Nat.cast_zero, zero_mul] at rounds
  exact positive (nearestTo?_zero_iff.mp rounds)

/-- The text of a magnitude stands for a fraction that rounds to it. -/
theorem nearestTo?_print (magnitude : Magnitude) :
    nearestTo? (Decimal.ofText magnitude.print).value = some magnitude := by
  unfold print
  split
  · rename_i zero
    have read : Decimal.ofText "0.0".toList = ⟨0, -1⟩ := by decide
    rw [read, Decimal.value, Nat.cast_zero, zero_mul]
    exact nearestTo?_zero_iff.mpr zero
  · rename_i positive
    have coefficient := shortest_coefficient_ne_zero positive
    rw [Scientific.ofText_print _ (Scientific.significant_ofDecimal coefficient),
      Scientific.value_ofDecimal coefficient, nearestTo?_shortest]

/-- No two magnitudes are printed alike. -/
theorem print_inj {magnitude' : Magnitude} (same : magnitude.print = magnitude'.print) :
    magnitude = magnitude' := by
  have rounds := magnitude.nearestTo?_print
  rw [same, nearestTo?_print] at rounds
  exact (Option.some.inj rounds).symm

theorem print_begins (magnitude : Magnitude) :
    ∃ c rest, magnitude.print = c :: rest ∧ c.isDigit = true := by
  unfold print
  split
  · exact ⟨'0', _, rfl, by decide⟩
  · rename_i positive
    exact Scientific.print_begins
      (Scientific.significant_ofDecimal (shortest_coefficient_ne_zero positive))

end Magnitude

/-! ### Signs and words -/

/-- Digits tell the finite numbers from the words for the others. -/
theorem any_isDigit_print (number : Binary64) : number.print.any Char.isDigit = true ↔
    ∃ negative magnitude, number = .finite negative magnitude := by
  cases number with
  | nan => exact ⟨fun digit => absurd digit (by decide), by rintro ⟨_, _, ⟨⟩⟩⟩
  | infinite negative =>
    refine ⟨fun digit => absurd digit ?_, by rintro ⟨_, _, ⟨⟩⟩⟩
    cases negative <;> decide
  | finite negative magnitude =>
    obtain ⟨c, rest, text, digit⟩ := magnitude.print_begins
    refine ⟨fun _ => ⟨negative, magnitude, rfl⟩, fun _ => ?_⟩
    rw [print, List.any_append, text, List.any_cons, digit, Bool.true_or, Bool.or_true]

/-- The sign is shown in front of the digits, and the digits tell the magnitude. -/
theorem print_finite_inj {negative negative' : Bool} {magnitude magnitude' : Magnitude}
    (same : (finite negative magnitude).print = (finite negative' magnitude').print) :
    negative = negative' ∧ magnitude = magnitude' := by
  obtain ⟨c, rest, text, digit⟩ := magnitude.print_begins
  obtain ⟨c', rest', text', digit'⟩ := magnitude'.print_begins
  have unsigned {d : Char} (digit : d.isDigit = true) : d ≠ '-' := by
    rintro rfl
    exact absurd digit (by decide)
  cases negative <;> cases negative'
  · exact ⟨rfl, Magnitude.print_inj same⟩
  · rw [print, print, text] at same
    exact absurd (List.cons.inj same).1 (unsigned digit)
  · rw [print, print, text'] at same
    exact absurd (List.cons.inj same).1.symm (unsigned digit')
  · exact ⟨rfl, Magnitude.print_inj (List.cons.inj same).2⟩

/-- No two numbers are printed alike, the two zeros included. -/
theorem print_inj {number other : Binary64} (same : number.print = other.print) :
    number = other := by
  have alike := any_isDigit_print number
  rw [same, any_isDigit_print other] at alike
  cases number with
  | finite negative magnitude =>
    obtain ⟨negative', magnitude', rfl⟩ := alike.mpr ⟨negative, magnitude, rfl⟩
    obtain ⟨rfl, rfl⟩ := print_finite_inj same
    rfl
  | nan =>
    cases other with
    | nan => rfl
    | infinite negative => cases negative <;> exact absurd same (by decide)
    | finite negative magnitude => obtain ⟨_, _, ⟨⟩⟩ := alike.mp ⟨negative, magnitude, rfl⟩
  | infinite negative =>
    cases other with
    | nan => cases negative <;> exact absurd same (by decide)
    | infinite negative' =>
      cases negative <;> cases negative' <;> first | rfl | exact absurd same (by decide)
    | finite negative' magnitude => obtain ⟨_, _, ⟨⟩⟩ := alike.mp ⟨negative', magnitude, rfl⟩

end Binary64

end ScriptLexer
