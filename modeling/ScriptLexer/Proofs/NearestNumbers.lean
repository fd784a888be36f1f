import ScriptLexer.Proofs.NearestUnits

/-! Numbers nearest to fractions. What the finite numbers of the format are and to which of
them a fraction rounds is said here without a word on how it is computed: a significand and a
power of two, the smallest distance, and an even significand where two distances are the same.
The computed magnitude is the one magnitude that is meant, and from one half of a spacing above
the largest finite number on there is none. -/
namespace ScriptLexer.Binary64

variable {units significand places : Nat}

/-! ### Rounding as it is meant -/

/-- A significand of 53 binary digits and a sign, times a power of two from `2 ^ -1074` to
`2 ^ 971`: the finite numbers of the format. -/
def Representable (x : ℚ) : Prop :=
  ∃ significand exponent : ℤ, |significand| < 2 ^ 53 ∧ -1074 ≤ exponent ∧ exponent ≤ 971 ∧
    x = significand * 2 ^ exponent

/-- The last digit of the significand is zero when it has all its 53 digits, or as many as
the smallest power of two leaves it. -/
def EvenSignificand (x : ℚ) : Prop :=
  ∃ significand exponent : ℤ, Even significand ∧ |significand| < 2 ^ 53 ∧
    (2 ^ 52 ≤ |significand| ∨ exponent = -1074) ∧ -1074 ≤ exponent ∧ exponent ≤ 971 ∧
    x = significand * 2 ^ exponent

/-- The fraction that a magnitude is. -/
def Magnitude.value (magnitude : Magnitude) : ℚ := magnitude.units / unitsPerOne

/-- Half a spacing above the largest finite number. From there on, fractions round to
infinity. -/
def infinityBound : ℚ := 2 ^ 1024 - 2 ^ 970

/-- A fraction rounds to the magnitude: it is not too large, no finite number is nearer to
it, and if another one is as near, the significand of the magnitude is even. -/
structure RoundsTo (fraction : ℚ) (magnitude : Magnitude) : Prop where
  finite : fraction < infinityBound
  nearest : ∀ x, Representable x → |fraction - magnitude.value| ≤ |fraction - x|
  even : ∀ x, Representable x → x ≠ magnitude.value →
    |fraction - x| = |fraction - magnitude.value| → EvenSignificand magnitude.value

theorem unitsPerOne_cast : (unitsPerOne : ℚ) = 2 ^ (1074 : ℤ) := by
  have natural : (1074 : ℤ) = (1074 : ℕ) := rfl
  rw [natural, zpow_natCast]
  delta unitsPerOne
  generalize 1074 = top
  exact Nat.cast_pow 2 top

theorem unitsPerOne_cast_pos : (0 : ℚ) < unitsPerOne := Nat.cast_pos.mpr unitsPerOne_pos

/-- The finite numbers are whole units. -/
theorem units_div (significand places : Nat) :
    ((significand * 2 ^ places : Nat) : ℚ) / unitsPerOne =
      (significand : ℤ) * 2 ^ (places - 1074 : ℤ) := by
  rw [unitsPerOne_cast, zpow_sub₀ two_ne_zero, zpow_natCast, Nat.cast_mul, Nat.cast_pow,
    mul_div_assoc, Nat.cast_ofNat, Int.cast_natCast]

theorem abs_mul_two_zpow (significand : ℤ) {exponent : ℤ} (least : -1074 ≤ exponent) :
    |(significand : ℚ) * 2 ^ exponent| =
      ((significand.natAbs * 2 ^ (exponent + 1074).toNat : Nat) : ℚ) / unitsPerOne := by
  have places : ((exponent + 1074).toNat - 1074 : ℤ) = exponent := by omega
  have power : (0 : ℚ) < 2 ^ exponent := zpow_pos two_pos exponent
  rw [units_div, places, abs_mul, abs_of_pos power, Int.natCast_natAbs, Int.cast_abs]

namespace Magnitude

variable {magnitude magnitude' : Magnitude} {x : ℚ}

theorem value_nonneg (magnitude : Magnitude) : 0 ≤ magnitude.value :=
  div_nonneg magnitude.units.cast_nonneg unitsPerOne.cast_nonneg

theorem value_inj : magnitude.value = magnitude'.value ↔ magnitude = magnitude' := by
  constructor
  · intro same
    have units := (div_left_inj' unitsPerOne_cast_pos.ne').mp same
    cases magnitude
    cases magnitude'
    simpa using units
  · rintro rfl
    rfl

theorem log2_units_lt (positive : magnitude.units ≠ 0) : magnitude.units.log2 < 2098 := by
  have below := magnitude.units_lt
  revert below
  delta overflow
  generalize 2098 = top
  exact (Nat.log2_lt positive).mpr

theorem exists_normalized (magnitude : Magnitude) : ∃ significand places,
    Normalized significand places ∧ places ≤ 2045 ∧ magnitude.units = significand * 2 ^ places := by
  have normalized := normalized_div magnitude.units
  refine ⟨_, _, normalized, ?_, (Nat.div_mul_cancel magnitude.spacing_dvd_units).symm⟩
  by_cases zero : magnitude.units = 0
  · rw [zero, Nat.log2_zero]
    omega
  · have small := log2_units_lt zero
    omega

/-- The magnitude of a significand that is moved to the left by some places. -/
def ofSignificand (significand places : Nat) (small : significand < 2 * fractions)
    (near : places ≤ 2045) : Magnitude :=
  ⟨significand * Nat.pow 2 places, lt_overflow small near, spacing_dvd small.le places⟩

theorem value_ofSignificand (small : significand < 2 * fractions) (near : places ≤ 2045) :
    (ofSignificand significand places small near).value =
      (significand : ℤ) * 2 ^ (places - 1074 : ℤ) :=
  units_div significand places

theorem exists_value_eq_abs (representable : Representable x) :
    ∃ magnitude : Magnitude, magnitude.value = |x| := by
  obtain ⟨significand, exponent, small, least, most, rfl⟩ := representable
  have below : significand.natAbs < 2 * fractions := by
    rw [two_mul_fractions]
    zify
    exact small
  have near : (exponent + 1074).toNat ≤ 2045 := by omega
  exact ⟨ofSignificand _ _ below near, (abs_mul_two_zpow significand least).symm⟩

theorem representable_value (magnitude : Magnitude) : Representable magnitude.value := by
  obtain ⟨significand, places, normalized, near, units⟩ := magnitude.exists_normalized
  refine ⟨significand, places - 1074, ?_, by omega, by omega, ?_⟩
  · rw [Nat.abs_cast]
    exact_mod_cast normalized.small
  · rw [value, units, units_div]

/-- Whether the significand of a magnitude is even. -/
theorem evenSignificand_iff :
    EvenSignificand magnitude.value ↔ Even (magnitude.units / spacing magnitude.units) := by
  constructor
  · rintro ⟨significand, exponent, even, small, full, least, most, value_eq⟩
    have normalized : Normalized significand.natAbs (exponent + 1074).toNat := by
      constructor
      · zify
        exact small
      · rcases full with full | unmoved
        · left
          zify
          exact full
        · right
          omega
    have units : magnitude.units = significand.natAbs * 2 ^ (exponent + 1074).toNat := by
      have size := abs_mul_two_zpow significand least
      rw [← value_eq, abs_of_nonneg magnitude.value_nonneg] at size
      exact_mod_cast (div_left_inj' unitsPerOne_cast_pos.ne').mp size
    rw [units, normalized.div_spacing]
    exact Int.natAbs_even.mpr even
  · intro even
    obtain ⟨significand, places, normalized, near, units⟩ := magnitude.exists_normalized
    rw [units, normalized.div_spacing] at even
    refine ⟨significand, places - 1074, by exact_mod_cast even, ?_, ?_, by omega, by omega, ?_⟩
    · rw [Nat.abs_cast]
      exact_mod_cast normalized.small
    · rw [Nat.abs_cast]
      rcases normalized.full with full | unmoved
      · left
        exact_mod_cast full
      · right
        omega
    · rw [value, units, units_div]

end Magnitude

/-! ### Rounding fractions -/

variable {fraction : ℚ}

/-- The units that a fraction is rounded to, which may be more than any finite number has. -/
def roundedUnits (fraction : ℚ) : Nat := nearestUnits fraction.num.toNat fraction.den

theorem roundedUnits_nearest (natural : 0 ≤ fraction) (grid : spacing units ∣ units)
    (different : units ≠ roundedUnits fraction) :
    let rounded := roundedUnits fraction
    |fraction - rounded / unitsPerOne| < |fraction - units / unitsPerOne| ∨
      |fraction - rounded / unitsPerOne| = |fraction - units / unitsPerOne| ∧
        Even (rounded / spacing rounded) ∧ ¬Even (units / spacing units) := by
  intro rounded
  have whole : ((fraction.num.toNat * unitsPerOne : Nat) : ℚ) / fraction.den =
      fraction * unitsPerOne := by
    have num : ((fraction.num.toNat : Nat) : ℚ) = fraction.num := by
      exact_mod_cast Int.toNat_of_nonneg (Rat.num_nonneg.mpr natural)
    rw [Nat.cast_mul, num, mul_div_right_comm, Rat.num_div_den]
  have scaled (n : ℚ) :
      |fraction - n / unitsPerOne| = |fraction * unitsPerOne - n| / unitsPerOne := by
    rw [← abs_of_pos unitsPerOne_cast_pos, ← abs_div, abs_of_pos unitsPerOne_cast_pos, sub_div,
      mul_div_cancel_right₀ _ unitsPerOne_cast_pos.ne']
  have nearest := nearestUnits_nearest fraction.num.toNat fraction.den_pos grid different
  rw [whole] at nearest
  rw [scaled, scaled, div_lt_div_iff_of_pos_right unitsPerOne_cast_pos,
    div_left_inj' unitsPerOne_cast_pos.ne']
  exact nearest

theorem overflow_eq : overflow = 2 ^ 52 * 2 ^ 2046 := by
  have places : 2098 = 52 + 2046 := rfl
  delta overflow
  rw [places]
  generalize 2046 = top
  exact Nat.pow_add 2 52 top

theorem spacing_overflow_dvd : spacing overflow ∣ overflow := by
  rw [overflow_eq]
  generalize 2046 = places
  exact spacing_dvd (by decide) places

theorem even_overflow : Even (overflow / spacing overflow) := by
  rw [overflow_eq]
  generalize 2046 = places
  rw [even_significand (by decide) (.inl le_rfl)]
  decide

/-- The power of two above all finite numbers. -/
theorem overflow_div : (overflow : ℚ) / unitsPerOne = 2 ^ 54 * 2 ^ 970 := by
  have exponent : ((2046 : Nat) - 1074 : ℤ) = (2 + 970 : Nat) := rfl
  rw [overflow_eq, units_div, exponent, zpow_natCast, pow_add]
  generalize (2 : ℚ) ^ 970 = half
  push_cast
  ring

theorem infinityBound_eq : infinityBound = (2 ^ 54 - 1) * 2 ^ 970 := by
  rw [infinityBound, sub_mul, one_mul, ← pow_add]

/-- The largest finite number is half its spacing below the bound of the finite numbers. -/
theorem exists_largest : ∃ largest : Nat, spacing largest ∣ largest ∧ largest < overflow ∧
    (∀ units, spacing units ∣ units → units < overflow → units ≤ largest) ∧
    (largest : ℚ) / unitsPerOne = (2 ^ 54 - 2) * 2 ^ 970 := by
  obtain ⟨top, top_eq⟩ : ∃ top : Nat, top = 2045 := ⟨_, rfl⟩
  refine ⟨(2 ^ 53 - 1) * 2 ^ top, spacing_dvd (by decide) top, lt_overflow (by decide) top_eq.le,
    ?_, ?_⟩
  · intro units grid finite
    obtain ⟨significand, places, normalized, near, units_eq⟩ :=
      Magnitude.exists_normalized ⟨units, finite, grid⟩
    have shape : units = significand * 2 ^ places := units_eq
    have small : significand ≤ 2 ^ 53 - 1 := Nat.le_pred_of_lt normalized.small
    rw [shape]
    exact Nat.mul_le_mul small (Nat.pow_le_pow_right two_pos (top_eq ▸ near))
  · have exponent : (top - 1074 : ℤ) = (1 + 970 : Nat) := top_eq ▸ rfl
    rw [units_div, exponent, zpow_natCast, pow_add]
    generalize (2 : ℚ) ^ 970 = half
    push_cast
    ring

/-- Exactly the fractions from the bound on are rounded beyond the finite numbers. -/
theorem roundedUnits_lt_overflow_iff (natural : 0 ≤ fraction) :
    roundedUnits fraction < overflow ↔ fraction < infinityBound := by
  obtain ⟨largest, largest_dvd, largest_lt, le_largest, largest_div⟩ := exists_largest
  have half_pos : (0 : ℚ) < 2 ^ 970 := by positivity
  have smaller {first second : Nat} (below : first ≤ second) :
      (first : ℚ) / unitsPerOne ≤ second / unitsPerOne :=
    div_le_div_of_nonneg_right (Nat.cast_le.mpr below) unitsPerOne_cast_pos.le
  rw [infinityBound_eq]
  constructor
  · intro finite
    by_contra above
    have nearest := roundedUnits_nearest natural spacing_overflow_dvd finite.ne'
    have rounded_le := smaller (le_largest _ (spacing_dvd_nearestUnits ..) finite)
    rw [overflow_div] at nearest
    rw [largest_div] at rounded_le
    -- the power of two above the finite numbers would win a tie
    have near := nearest.resolve_right fun tie => tie.2.2 even_overflow
    generalize (2 : ℚ) ^ 970 = half at *
    rw [← roundedUnits] at rounded_le
    generalize (roundedUnits fraction : ℚ) / unitsPerOne = rounded at *
    rw [abs_of_nonneg (by linarith)] at near
    rcases abs_cases (fraction - 2 ^ 54 * half) with ⟨far, _⟩ | ⟨far, _⟩ <;> linarith
  · intro below
    by_contra infinite
    have nearest := roundedUnits_nearest natural largest_dvd (by omega)
    have le_rounded := smaller (Nat.le_of_not_lt infinite)
    rw [overflow_div] at le_rounded
    rw [largest_div] at nearest
    have near : |fraction - roundedUnits fraction / unitsPerOne| ≤
        |fraction - (2 ^ 54 - 2) * 2 ^ 970| := nearest.elim le_of_lt fun tie => tie.1.le
    generalize (2 : ℚ) ^ 970 = half at *
    generalize (roundedUnits fraction : ℚ) / unitsPerOne = rounded at *
    rw [abs_of_nonpos (by linarith)] at near
    rcases abs_cases (fraction - (2 ^ 54 - 2) * half) with ⟨far, _⟩ | ⟨far, _⟩ <;> linarith

namespace Magnitude

variable {magnitude : Magnitude}

theorem nearestTo?_eq_some_iff_units :
    nearestTo? fraction = some magnitude ↔ magnitude.units = roundedUnits fraction := by
  unfold nearestTo? nearest?
  split
  · rw [Option.some.injEq]
    constructor
    · rintro rfl
      rfl
    · intro same
      cases magnitude
      cases same
      rfl
  · rename_i infinite
    exact ⟨fun found => (by cases found),
      fun same => absurd (lt_of_eq_of_lt same.symm magnitude.units_lt) infinite⟩

/-- A fraction has no nearest magnitude exactly from the bound on. -/
theorem nearestTo?_eq_none_iff (natural : 0 ≤ fraction) :
    nearestTo? fraction = none ↔ infinityBound ≤ fraction := by
  rw [← not_lt, ← roundedUnits_lt_overflow_iff natural]
  unfold nearestTo? nearest?
  split
  · rename_i finite
    exact ⟨fun missing => (by cases missing), fun infinite => absurd finite infinite⟩
  · rename_i infinite
    exact ⟨fun _ => infinite, fun _ => rfl⟩

/-- Nothing representable stands better than what a fraction is rounded to. -/
theorem nearer_or_even (natural : 0 ≤ fraction) (units : magnitude.units = roundedUnits fraction)
    {x : ℚ} (representable : Representable x) (other : x ≠ magnitude.value) :
    |fraction - magnitude.value| < |fraction - x| ∨
      |fraction - magnitude.value| = |fraction - x| ∧ EvenSignificand magnitude.value := by
  have among {x : ℚ} (representable : Representable x) (unsigned : 0 ≤ x)
      (other : x ≠ magnitude.value) : |fraction - magnitude.value| < |fraction - x| ∨
        |fraction - magnitude.value| = |fraction - x| ∧ EvenSignificand magnitude.value := by
    obtain ⟨second, value⟩ := exists_value_eq_abs representable
    rw [abs_of_nonneg unsigned] at value
    subst value
    have different : second.units ≠ roundedUnits fraction := fun same =>
      other (by rw [value, value, same, units])
    have nearest := roundedUnits_nearest natural second.spacing_dvd_units different
    rw [← units] at nearest
    exact nearest.imp_right fun tie => ⟨tie.1, evenSignificand_iff.mpr tie.2.1⟩
  rcases le_or_gt 0 x with unsigned | negative
  · exact among representable unsigned other
  · -- zero is nearer than anything below it
    left
    have zero : Representable 0 := ⟨0, 0, by decide, by decide, by decide, by simp⟩
    have standing : |fraction - magnitude.value| ≤ |fraction - 0| := by
      by_cases same : 0 = magnitude.value
      · rw [same]
      · exact (among zero le_rfl same).elim le_of_lt fun tie => tie.1.le
    rw [sub_zero, abs_of_nonneg natural] at standing
    rw [abs_of_nonneg (by linarith : 0 ≤ fraction - x)]
    linarith

/-- What a fraction is rounded to is what it is meant to be rounded to, and nothing else is. -/
theorem nearestTo?_eq_some_iff (natural : 0 ≤ fraction) :
    nearestTo? fraction = some magnitude ↔ RoundsTo fraction magnitude := by
  rw [nearestTo?_eq_some_iff_units]
  constructor
  · intro units
    have finite : fraction < infinityBound :=
      (roundedUnits_lt_overflow_iff natural).mp (units ▸ magnitude.units_lt)
    refine ⟨finite, fun x representable => ?_, fun x representable other tie => ?_⟩
    · by_cases same : x = magnitude.value
      · rw [same]
      · exact (nearer_or_even natural units representable same).elim le_of_lt fun tie => tie.1.le
    · exact ((nearer_or_even natural units representable other).resolve_left
        (not_lt.mpr tie.le)).2
  · intro rounds
    by_contra other_ne
    have finite := (roundedUnits_lt_overflow_iff natural).mpr rounds.finite
    let rounded : Magnitude := ⟨roundedUnits fraction, finite, spacing_dvd_nearestUnits ..⟩
    have rounded_ne : rounded.value ≠ magnitude.value := fun same =>
      other_ne (congrArg units (value_inj.mp same)).symm
    have nearest := rounds.nearest _ rounded.representable_value
    rcases roundedUnits_nearest natural magnitude.spacing_dvd_units other_ne with
      nearer | ⟨same, _, odd⟩
    · exact absurd nearer (not_lt.mpr nearest)
    · exact odd (evenSignificand_iff.mp
        (rounds.even _ rounded.representable_value rounded_ne same))

end Magnitude

end ScriptLexer.Binary64
