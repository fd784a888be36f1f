import Mathlib.Algebra.Order.Field.Basic
import Mathlib.Algebra.Order.Ring.Abs
import Mathlib.Algebra.Ring.Parity
import Mathlib.Data.Nat.Cast.Order.Field
import Mathlib.Tactic.Linarith
import Mathlib.Tactic.Positivity
import ScriptLexer.Proofs.PrintedNumbers

/-! Rounding on the grid of magnitudes. The multiples of the spacing at a fraction are all the
magnitudes from the largest one below it on, so the nearest of them is the nearest magnitude.
Two neighbours have significands of which one is even and one is odd, also where the spacing
changes between them. -/
namespace ScriptLexer

/-! ### Whole numbers -/

/-- Rounding moves a quotient by a half at most, and by a half only to an even number. -/
theorem abs_sub_roundHalfEven {den : Nat} (positive : 0 < den) (num : Nat) :
    |(num : ℚ) / den - roundHalfEven num den| ≤ 1 / 2 ∧
      (|(num : ℚ) / den - roundHalfEven num den| = 1 / 2 → Even (roundHalfEven num den)) := by
  have fraction : (0 : ℚ) < den := Nat.cast_pos.mpr positive
  have divided : (num : ℚ) / den = (num / den : Nat) + ((num % den : Nat) : ℚ) / den := by
    rw [eq_comm, add_div' _ _ _ fraction.ne', ← Nat.cast_mul, ← Nat.cast_add, Nat.mul_comm,
      Nat.div_add_mod]
  have twice : 2 * (((num % den : Nat) : ℚ) / den) = ((2 * (num % den) : Nat) : ℚ) / den := by
    rw [Nat.cast_mul, Nat.cast_ofNat, mul_div_assoc]
  have start : 0 ≤ ((num % den : Nat) : ℚ) / den := by positivity
  have next : ((num % den : Nat) : ℚ) / den < 1 :=
    (div_lt_one fraction).mpr (Nat.cast_lt.mpr (Nat.mod_lt num positive))
  unfold roundHalfEven
  dsimp only
  rw [divided]
  generalize ((num % den : Nat) : ℚ) / den = part at *
  by_cases down : 2 * (num % den) < den ∨ 2 * (num % den) = den ∧ num / den % 2 = 0
  · have half : 2 * part ≤ 1 := by
      rw [twice, div_le_one fraction, Nat.cast_le]
      omega
    rw [if_pos down, add_sub_cancel_left, abs_of_nonneg start]
    refine ⟨by linarith, fun halfway => ?_⟩
    have whole : 2 * part = 1 := by linarith
    rw [twice, div_eq_one_iff_eq fraction.ne', Nat.cast_inj] at whole
    exact Nat.even_iff.mpr (by omega)
  · have half : 1 ≤ 2 * part := by
      rw [twice, one_le_div fraction, Nat.cast_le]
      omega
    rw [if_neg down, Nat.cast_add, Nat.cast_one, add_sub_add_left_eq_sub,
      abs_of_nonpos (by linarith)]
    refine ⟨by linarith, fun halfway => ?_⟩
    have whole : 2 * part = 1 := by linarith
    rw [twice, div_eq_one_iff_eq fraction.ne', Nat.cast_inj] at whole
    exact Nat.even_iff.mpr (by omega)

theorem le_roundHalfEven (num den : Nat) : num / den ≤ roundHalfEven num den := by
  unfold roundHalfEven
  dsimp only
  split <;> omega

/-- No whole number is nearer to a quotient than the one it is rounded to, and if another one
is as near, the one it is rounded to is even and the other one odd. -/
theorem roundHalfEven_nearest {den : Nat} (positive : 0 < den) (num : Nat) {other : Nat}
    (different : other ≠ roundHalfEven num den) :
    let x := (num : ℚ) / den
    let rounded := roundHalfEven num den
    |x - rounded| < |x - other| ∨
      |x - rounded| = |x - other| ∧ Even rounded ∧ ¬Even other := by
  intro x rounded
  obtain ⟨near, even⟩ : |x - rounded| ≤ 1 / 2 ∧ (|x - rounded| = 1 / 2 → Even rounded) :=
    abs_sub_roundHalfEven positive num
  obtain ⟨lower, upper⟩ := abs_le.mp near
  have far : 1 / 2 ≤ |x - other| ∧
      (|x - other| = 1 / 2 → other = rounded + 1 ∨ rounded = other + 1) := by
    rcases Nat.lt_or_gt_of_ne different with below | above
    · have step : (other : ℚ) + 1 ≤ rounded := by exact_mod_cast below
      rw [abs_of_nonneg (by linarith)]
      refine ⟨by linarith, fun halfway => .inr ?_⟩
      have close : (rounded : ℚ) ≤ other + 1 := by linarith
      exact Nat.le_antisymm (by exact_mod_cast close) below
    · have step : (rounded : ℚ) + 1 ≤ other := by exact_mod_cast above
      rw [abs_of_nonpos (by linarith)]
      refine ⟨by linarith, fun halfway => .inl ?_⟩
      have close : (other : ℚ) ≤ rounded + 1 := by linarith
      exact Nat.le_antisymm (by exact_mod_cast close) above
  rcases lt_or_eq_of_le (near.trans far.1) with nearer | same
  · exact .inl nearer
  · have halfway : |x - rounded| = 1 / 2 := le_antisymm near (same ▸ far.1)
    refine .inr ⟨same, even halfway, ?_⟩
    have rounded_even := Nat.even_iff.mp (even halfway)
    rw [Nat.even_iff]
    rcases far.2 (same ▸ halfway) with next | next <;> omega

/-- The whole part of a quotient is less than one below it. -/
theorem lt_div_add_one {den : Nat} (positive : 0 < den) (num : Nat) :
    (num : ℚ) / den < (num / den : Nat) + 1 := by
  rw [div_lt_iff₀ (Nat.cast_pos.mpr positive), mul_comm]
  exact_mod_cast Nat.lt_mul_div_succ num positive

section Multiples

variable {den distance other : Nat}

/-- No multiple of a distance is nearer to a quotient than the one it is rounded to, and
another one that is as near is an odd multiple, not above the first one beyond the quotient. -/
theorem roundHalfEven_mul_nearest (positive : 0 < den) (apart : 0 < distance) (num : Nat)
    (different : other ≠ roundHalfEven num (den * distance)) :
    let x := (num : ℚ) / den
    let rounded := roundHalfEven num (den * distance)
    |x - (rounded * distance : Nat)| < |x - (other * distance : Nat)| ∨
      |x - (rounded * distance : Nat)| = |x - (other * distance : Nat)| ∧
        Even rounded ∧ ¬Even other ∧ other ≤ num / den / distance + 1 := by
  intro x rounded
  have unit : (0 : ℚ) < distance := Nat.cast_pos.mpr apart
  have whole : 0 < den * distance := Nat.mul_pos positive apart
  let multiple := (num : ℚ) / (den * distance : Nat)
  have measured (n : Nat) : |x - (n * distance : Nat)| = |multiple - n| * distance := by
    have scaled : x = multiple * distance := by
      rw [div_mul_eq_mul_div, Nat.cast_mul den, mul_div_mul_right _ _ unit.ne']
    rw [scaled, Nat.cast_mul, ← sub_mul, abs_mul, abs_of_pos unit]
  rw [measured, measured, mul_lt_mul_iff_left₀ unit, mul_left_inj' unit.ne']
  refine (roundHalfEven_nearest whole num different).imp_right fun ⟨same, even, odd⟩ => ?_
  have near : |multiple - other| ≤ 1 / 2 := same ▸ (abs_sub_roundHalfEven whole num).1
  have close : (other : ℚ) < (num / (den * distance) : Nat) + 1 + 1 := by
    have beyond : multiple < (num / (den * distance) : Nat) + 1 := lt_div_add_one whole num
    have reach := (abs_le.mp near).1
    linarith
  have bound : other < num / (den * distance) + 1 + 1 := by exact_mod_cast close
  rw [Nat.div_div_eq_div_mul]
  exact ⟨same, even, odd, by omega⟩

/-- Below the last multiple of a distance that is not above a quotient, nothing is as near. -/
theorem roundHalfEven_mul_nearer (positive : 0 < den) (apart : 0 < distance) (num : Nat)
    (below : other < num / den / distance * distance) :
    |(num : ℚ) / den - (roundHalfEven num (den * distance) * distance : Nat)| <
      |(num : ℚ) / den - other| := by
  let floor := num / den / distance
  let x := (num : ℚ) / den
  have standing : |x - (roundHalfEven num (den * distance) * distance : Nat)| ≤
      |x - (floor * distance : Nat)| := by
    by_cases same : floor = roundHalfEven num (den * distance)
    · rw [same]
    · exact (roundHalfEven_mul_nearest positive apart num same).elim le_of_lt
        fun tie => tie.1.le
  have floor_le : ((floor * distance : Nat) : ℚ) ≤ x :=
    (Nat.cast_le.mpr (Nat.div_mul_le_self ..)).trans Nat.cast_div_le
  have lower : (other : ℚ) < (floor * distance : Nat) := Nat.cast_lt.mpr below
  calc |x - (roundHalfEven num (den * distance) * distance : Nat)|
      ≤ |x - (floor * distance : Nat)| := standing
    _ = x - (floor * distance : Nat) := abs_of_nonneg (by linarith)
    _ < x - other := by linarith
    _ = |x - other| := (abs_of_nonneg (by linarith)).symm

end Multiples

namespace Binary64

/-! ### The grid of magnitudes -/

/-- A significand of 53 binary digits, moved to the left by some places. Where it is moved,
all the digits are in use. -/
structure Normalized (significand places : Nat) : Prop where
  small : significand < 2 ^ 53
  full : 2 ^ 52 ≤ significand ∨ places = 0

variable {units significand places : Nat}

theorem Normalized.spacing_eq (normalized : Normalized significand places) :
    spacing (significand * 2 ^ places) = 2 ^ places := by
  have exponent : (significand * 2 ^ places).log2 - 52 = places := by
    rcases normalized.full with full | unmoved
    · have log2 : (significand * 2 ^ places).log2 = 52 + places := by
        have positive : significand * 2 ^ places ≠ 0 :=
          Nat.mul_ne_zero (by omega) (Nat.two_pow_pos places).ne'
        rw [Nat.log2_eq_iff positive, Nat.pow_add, Nat.add_right_comm, Nat.pow_add]
        exact ⟨Nat.mul_le_mul_right _ full,
          Nat.mul_lt_mul_of_pos_right normalized.small (Nat.two_pow_pos places)⟩
      omega
    · subst unmoved
      have bound : (significand * 2 ^ 0).log2 < 53 := by
        rw [Nat.pow_zero, Nat.mul_one]
        by_cases zero : significand = 0
        · rw [zero, Nat.log2_zero]
          decide
        · exact (Nat.log2_lt zero).mpr normalized.small
      omega
  rw [spacing, exponent]
  rfl

/-- Whether a significand is even can be told from the units. -/
theorem Normalized.div_spacing (normalized : Normalized significand places) :
    significand * 2 ^ places / spacing (significand * 2 ^ places) = significand := by
  rw [normalized.spacing_eq, Nat.mul_div_cancel _ (Nat.two_pow_pos places)]

/-- Every number of units has a significand, below which it may have more binary digits. -/
theorem normalized_div (units : Nat) : Normalized (units / spacing units) (units.log2 - 52) where
  small := by
    rw [Nat.div_lt_iff_lt_mul (spacing_pos units), spacing, Nat.pow_eq, ← Nat.pow_add]
    exact Nat.lt_of_lt_of_le Nat.lt_log2_self (Nat.pow_le_pow_right (by decide) (by omega))
  full := by
    by_cases unmoved : units.log2 ≤ 52
    · exact .inr (by omega)
    · left
      have positive : units ≠ 0 := by
        rintro rfl
        exact unmoved (by decide)
      rw [Nat.le_div_iff_mul_le (spacing_pos units), spacing, Nat.pow_eq, ← Nat.pow_add]
      have exponent : 52 + (units.log2 - 52) = units.log2 := by omega
      rw [exponent]
      exact Nat.log2_self_le positive

theorem spacing_mono {units units' : Nat} (above : units ≤ units') :
    spacing units ∣ spacing units' := by
  have digits : units.log2 ≤ units'.log2 := by
    by_cases zero : units = 0
    · rw [zero, Nat.log2_zero]
      exact Nat.zero_le _
    · exact (Nat.le_log2 (by omega)).mpr ((Nat.log2_self_le zero).trans above)
  exact Nat.pow_dvd_pow 2 (by omega)

/-- From the largest magnitude that is not above some units, all magnitudes are multiples of
the spacing there. -/
theorem spacing_dvd_of_floor_le {magnitude : Nat} (grid : spacing magnitude ∣ magnitude)
    (above : units / spacing units * spacing units ≤ magnitude) : spacing units ∣ magnitude := by
  have floor : spacing (units / spacing units * spacing units) = spacing units :=
    (normalized_div units).spacing_eq
  exact (floor ▸ spacing_mono above).trans grid

/-- The significand is as even as the number it is made from, also where this has a digit
more than a significand. -/
theorem even_significand (small : significand ≤ 2 ^ 53)
    (full : 2 ^ 52 ≤ significand ∨ places = 0) :
    Even (significand * 2 ^ places / spacing (significand * 2 ^ places)) ↔ Even significand := by
  rcases small.lt_or_eq with below | rfl
  · rw [Normalized.div_spacing ⟨below, full⟩]
  · have carried : 2 ^ 53 * 2 ^ places = 2 ^ 52 * 2 ^ (places + 1) := by
      rw [← Nat.pow_add, ← Nat.pow_add]
      congr 1
      omega
    have normalized : Normalized (2 ^ 52) (places + 1) := ⟨by decide, .inl le_rfl⟩
    rw [carried, normalized.div_spacing]
    decide

/-- No magnitude is nearer to a fraction than the units it is rounded to, and if another one
is as near, its significand is odd and theirs is even. -/
theorem nearestUnits_nearest (num : Nat) {den magnitude : Nat} (positive : 0 < den)
    (grid : spacing magnitude ∣ magnitude) (different : magnitude ≠ nearestUnits num den) :
    let units := ((num * unitsPerOne : Nat) : ℚ) / den
    let rounded := nearestUnits num den
    |units - rounded| < |units - magnitude| ∨ |units - rounded| = |units - magnitude| ∧
      Even (rounded / spacing rounded) ∧ ¬Even (magnitude / spacing magnitude) := by
  intro units rounded
  let scaled := num * unitsPerOne
  let distance := spacing (scaled / den)
  let floor := scaled / den / distance
  let quotient := roundHalfEven scaled (den * distance)
  have apart : 0 < distance := spacing_pos _
  rcases Nat.lt_or_ge magnitude (floor * distance) with below | above
  · exact .inl (roundHalfEven_mul_nearer positive apart scaled below)
  · obtain ⟨other, rfl⟩ : ∃ other, magnitude = other * distance := by
      obtain ⟨other, multiple⟩ := spacing_dvd_of_floor_le grid above
      exact ⟨other, multiple.trans (Nat.mul_comm ..)⟩
    have unequal : other ≠ quotient := fun same => different (same ▸ rfl)
    refine (roundHalfEven_mul_nearest positive apart scaled unequal).imp_right
      fun ⟨same, even, odd, most⟩ => ?_
    have normalized := normalized_div (scaled / den)
    have parity {n : Nat} (least : floor ≤ n) (most : n ≤ floor + 1) :
        Even (n * distance / spacing (n * distance)) ↔ Even n :=
      even_significand (most.trans normalized.small) (normalized.full.imp_left least.trans')
    have least : floor ≤ other := Nat.le_of_mul_le_mul_right above apart
    have floor_eq : floor = scaled / (den * distance) := Nat.div_div_eq_div_mul ..
    have quotient_le : quotient ≤ floor + 1 := floor_eq ▸ roundHalfEven_le scaled (den * distance)
    have le_quotient : floor ≤ quotient := floor_eq ▸ le_roundHalfEven scaled (den * distance)
    exact ⟨same, (parity le_quotient quotient_le).mpr even, mt (parity least most).mp odd⟩

end Binary64

end ScriptLexer
