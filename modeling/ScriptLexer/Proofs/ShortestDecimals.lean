import ScriptLexer.Proofs.NearestNumbers

/-! Shortest decimals. The decimals that round to a magnitude lie around it without a gap, so
if one with so many significant digits does, then one of the two neighbours of the magnitude on
the grid of such decimals does too. The search meets these neighbours before those with more
digits, so nothing shorter than what it finds rounds to the magnitude. -/
namespace ScriptLexer

open Text

/-- Fractions that can be written with so many significant digits. Zeros in front of these
digits and behind them do not count. -/
def HasDigits (count : Nat) (fraction : ℚ) : Prop :=
  ∃ (coefficient : Nat) (exponent : ℤ), coefficient < 10 ^ count ∧
    fraction = coefficient * 10 ^ exponent

theorem HasDigits.mono {count more : Nat} {fraction : ℚ} (written : HasDigits count fraction)
    (less : count ≤ more) : HasDigits more fraction := by
  obtain ⟨coefficient, exponent, small, same⟩ := written
  exact ⟨coefficient, exponent, small.trans_le (Nat.pow_le_pow_right (by decide) less), same⟩

/-- A number is below the power of ten that has a digit more. -/
theorem lt_ten_pow_length (n : Nat) : n < 10 ^ (decimal n).length :=
  (Nat.length_toDigits_le_iff (by decide) Nat.length_toDigits_pos).mp le_rfl

/-- A number is not below the power of ten with as many digits. -/
theorem ten_pow_length_le {n : Nat} (positive : n ≠ 0) : 10 ^ ((decimal n).length - 1) ≤ n := by
  by_cases single : (decimal n).length - 1 = 0
  · rw [single]
    exact Nat.pos_of_ne_zero positive
  · by_contra below
    have fewer := (Nat.length_toDigits_le_iff (by decide) (Nat.pos_of_ne_zero single)).mpr
      (Nat.lt_of_not_le below)
    rw [← decimal] at fewer
    omega

namespace Decimal

variable {number : Decimal} {places : Nat}

/-- Decimals that end at the same place are ordered like their coefficients. -/
theorem value_le_value {coefficient other : Nat} {exponent : ℤ} :
    value ⟨coefficient, exponent⟩ ≤ value ⟨other, exponent⟩ ↔ coefficient ≤ other := by
  have unit : (0 : ℚ) < 10 ^ exponent := zpow_pos (by norm_num) _
  rw [value, value, mul_le_mul_iff_left₀ unit, Nat.cast_le]

theorem value_ten_pow (places : Nat) (exponent : ℤ) :
    value ⟨10 ^ places, exponent⟩ = 10 ^ (places + exponent : ℤ) := by
  rw [value, zpow_add₀ (by norm_num), zpow_natCast, Nat.cast_pow, Nat.cast_ofNat]

theorem ten_pow_le_value :
    10 ^ (places + number.exponent : ℤ) ≤ number.value ↔ 10 ^ places ≤ number.coefficient := by
  rw [← value_ten_pow, value_le_value]

theorem value_le_ten_pow :
    number.value ≤ 10 ^ (places + number.exponent : ℤ) ↔ number.coefficient ≤ 10 ^ places := by
  rw [← value_ten_pow, value_le_value]

theorem value_lt_ten_pow :
    number.value < 10 ^ (places + number.exponent : ℤ) ↔ number.coefficient < 10 ^ places := by
  rw [← not_le, ten_pow_le_value, not_le]

end Decimal

namespace Binary64

variable {fraction other : ℚ} {magnitude : Magnitude}

theorem roundsTo_value (magnitude : Magnitude) : RoundsTo magnitude.value magnitude := by
  rw [← Magnitude.nearestTo?_eq_some_iff magnitude.value_nonneg, Magnitude.value,
    ← Magnitude.nearest?_eq_nearestTo? _ unitsPerOne_pos]
  exact magnitude.nearest?_exact

/-- What lies between a fraction and the number it rounds to rounds to this number. -/
theorem RoundsTo.between (rounds : RoundsTo fraction magnitude)
    (between : fraction ≤ other ∧ other ≤ magnitude.value ∨
      magnitude.value ≤ other ∧ other ≤ fraction) : RoundsTo other magnitude := by
  have split : |fraction - magnitude.value| = |fraction - other| + |other - magnitude.value| := by
    rcases between with ⟨above, below⟩ | ⟨above, below⟩
    · rw [abs_of_nonpos (by linarith), abs_of_nonpos (by linarith), abs_of_nonpos (by linarith)]
      ring
    · rw [abs_of_nonneg (by linarith), abs_of_nonneg (by linarith), abs_of_nonneg (by linarith)]
      ring
  have detour (x : ℚ) : |fraction - x| ≤ |fraction - other| + |other - x| := abs_sub_le ..
  constructor
  · rcases between with ⟨_, below⟩ | ⟨_, below⟩
    · exact below.trans_lt (roundsTo_value magnitude).finite
    · exact below.trans_lt rounds.finite
  · intro x representable
    linarith [rounds.nearest x representable, detour x]
  · intro x representable different tie
    refine rounds.even x representable different (le_antisymm ?_ (rounds.nearest x representable))
    linarith [detour x]

end Binary64

/-- A function is tried from the largest argument below a count on downwards. -/
theorem findSome?_reverse_range {α : Type} (f : Nat → Option α) (count : Nat) :
    (List.range count).reverse.findSome? f = none ∧ (∀ place < count, f place = none) ∨
      ∃ largest < count, ∃ value, f largest = some value ∧
        (List.range count).reverse.findSome? f = some value ∧
        ∀ later, largest < later → later < count → f later = none := by
  induction count with
  | zero => exact .inl ⟨rfl, nofun⟩
  | succ count ih =>
    rw [List.range_succ, List.reverse_append, List.reverse_singleton, List.singleton_append,
      List.findSome?_cons]
    cases here : f count with
    | some value => exact .inr ⟨count, by omega, value, here, rfl, fun later _ _ => by omega⟩
    | none =>
      have at_last {later : Nat} (below : later < count + 1) (ends : ¬later < count) :
          f later = none := by
        obtain rfl : later = count := by omega
        exact here
      rcases ih with ⟨nothing, empty⟩ | ⟨largest, below, value, found, chosen, later_none⟩
      · refine .inl ⟨nothing, fun place below => ?_⟩
        by_cases earlier : place < count
        · exact empty place earlier
        · exact at_last below earlier
      · refine .inr ⟨largest, by omega, value, found, chosen, fun later after below => ?_⟩
        by_cases earlier : later < count
        · exact later_none later after earlier
        · exact at_last below earlier

namespace Binary64.Magnitude

/-- How many digits the exact decimal of a magnitude has. -/
def exactDigits (magnitude : Magnitude) : Nat := (decimal magnitude.lastPlaces).length

/-- A decimal that does without the last `dropped` places of a magnitude: the one right below
the magnitude or the one above it. -/
structure Neighbour (magnitude : Magnitude) (dropped : Nat) (number : Decimal) : Prop where
  exponent : number.exponent = dropped - magnitude.decimalPlaces
  coefficient : number.coefficient = magnitude.lastPlaces / 10 ^ dropped ∨
    number.coefficient = magnitude.lastPlaces / 10 ^ dropped + 1

variable {magnitude : Magnitude} {dropped : Nat} {number : Decimal}

theorem nearestTo?_value : nearestTo? number.value = some magnitude ↔
    RoundsTo number.value magnitude :=
  nearestTo?_eq_some_iff (mul_nonneg number.coefficient.cast_nonneg (zpow_nonneg (by norm_num) _))

/-- Both neighbours are tried, whichever is nearer. -/
theorem mem_tried_iff (exact distance coefficient : Nat) :
    let nearer := roundHalfEven exact distance
    coefficient ∈ [nearer, if nearer = exact / distance then exact / distance + 1
      else exact / distance] ↔
        coefficient = exact / distance ∨ coefficient = exact / distance + 1 := by
  intro nearer
  have least : exact / distance ≤ nearer := le_roundHalfEven ..
  have most : nearer ≤ exact / distance + 1 := roundHalfEven_le ..
  rw [List.mem_cons, List.mem_singleton]
  split <;> omega

/-- A decimal that is found is a neighbour that rounds to the magnitude. -/
theorem neighbour_of_some (found : magnitude.neighbour? dropped = some number) :
    magnitude.Neighbour dropped number ∧ RoundsTo number.value magnitude := by
  refine ⟨?_, nearestTo?_value.mp (nearestTo?_neighbour found)⟩
  simp only [neighbour?, Option.map_eq_some_iff] at found
  obtain ⟨coefficient, chosen, rfl⟩ := found
  exact ⟨rfl, (mem_tried_iff ..).mp (List.mem_of_find?_eq_some chosen)⟩

/-- If none is found, neither neighbour rounds to the magnitude. -/
theorem not_roundsTo_of_none (nothing : magnitude.neighbour? dropped = none)
    (neighbour : magnitude.Neighbour dropped number) : ¬RoundsTo number.value magnitude := by
  obtain ⟨coefficient, exponent⟩ := number
  obtain ⟨rfl, near⟩ := neighbour
  simp only [neighbour?, Option.map_eq_none_iff] at nothing
  have finest : 0 < 10 ^ magnitude.decimalPlaces := Nat.pow_pos (by decide)
  have missed := List.find?_eq_none.mp nothing coefficient ((mem_tried_iff ..).mpr near)
  rw [decide_eq_true_eq, Nat.pow_eq, Nat.pow_eq, nearest?_eq_nearestTo? _ finest, ← value_grid,
    nearestTo?_value] at missed
  exact missed

theorem exactDigits_pos (magnitude : Magnitude) : 0 < magnitude.exactDigits :=
  Nat.length_toDigits_pos

/-- The shortest decimal is a neighbour that rounds to the magnitude, and without more of the
last places no neighbour does. -/
theorem shortest_spec (magnitude : Magnitude) : ∃ dropped < magnitude.exactDigits,
    magnitude.Neighbour dropped magnitude.shortest ∧
      ∀ later, dropped < later → later < magnitude.exactDigits →
        magnitude.neighbour? later = none := by
  unfold shortest
  dsimp only
  rw [← exactDigits]
  rcases findSome?_reverse_range magnitude.neighbour? magnitude.exactDigits with
    ⟨nothing, none⟩ | ⟨dropped, below, number, found, chosen, longer⟩
  · rw [nothing]
    exact ⟨0, magnitude.exactDigits_pos, ⟨by simp, .inl (by simp)⟩, fun later _ => none later⟩
  · rw [chosen]
    exact ⟨dropped, below, (neighbour_of_some found).1, longer⟩

theorem roundsTo_shortest (magnitude : Magnitude) :
    RoundsTo magnitude.shortest.value magnitude :=
  nearestTo?_value.mp magnitude.nearestTo?_shortest

/-- The exact decimal of a magnitude. -/
theorem value_eq (magnitude : Magnitude) :
    magnitude.value = Decimal.value ⟨magnitude.lastPlaces, -magnitude.decimalPlaces⟩ := by
  have places : ((10 : ℚ) ^ magnitude.decimalPlaces) ≠ 0 := by positivity
  rw [value, Decimal.value, zpow_neg, zpow_natCast, ← div_eq_mul_inv,
    div_eq_div_iff unitsPerOne_cast_pos.ne' places]
  exact_mod_cast magnitude.lastPlaces_mul.symm

theorem lastPlaces_ne_zero (positive : magnitude.units ≠ 0) : magnitude.lastPlaces ≠ 0 := by
  intro zero
  have exact := magnitude.lastPlaces_mul
  have units : 0 < magnitude.units * 10 ^ magnitude.decimalPlaces :=
    Nat.mul_pos (Nat.pos_of_ne_zero positive) (Nat.pow_pos (by decide))
  rw [zero, Nat.zero_mul] at exact
  exact units.ne exact

namespace Neighbour

theorem coefficient_le (neighbour : magnitude.Neighbour dropped number)
    (below : dropped < magnitude.exactDigits) :
    number.coefficient ≤ 10 ^ (magnitude.exactDigits - dropped) := by
  have floor : magnitude.lastPlaces / 10 ^ dropped < 10 ^ (magnitude.exactDigits - dropped) := by
    rw [Nat.div_lt_iff_lt_mul (Nat.pow_pos (by decide)), ← Nat.pow_add, Nat.sub_add_cancel below.le]
    exact lt_ten_pow_length magnitude.lastPlaces
  rcases neighbour.coefficient with same | same <;> omega

theorem le_coefficient (neighbour : magnitude.Neighbour dropped number)
    (below : dropped < magnitude.exactDigits) (positive : magnitude.units ≠ 0) :
    10 ^ (magnitude.exactDigits - 1 - dropped) ≤ number.coefficient := by
  have floor : 10 ^ (magnitude.exactDigits - 1 - dropped) ≤
      magnitude.lastPlaces / 10 ^ dropped := by
    rw [Nat.le_div_iff_mul_le (Nat.pow_pos (by decide)), ← Nat.pow_add,
      Nat.sub_add_cancel (by omega)]
    exact ten_pow_length_le (lastPlaces_ne_zero positive)
  rcases neighbour.coefficient with same | same <;> omega

/-- The last places that a neighbour does without are digits that it saves. -/
theorem hasDigits (neighbour : magnitude.Neighbour dropped number)
    (below : dropped < magnitude.exactDigits) :
    HasDigits (magnitude.exactDigits - dropped) number.value := by
  rcases (neighbour.coefficient_le below).lt_or_eq with fits | carried
  · exact ⟨_, _, fits, rfl⟩
  · refine ⟨1, number.exponent + (magnitude.exactDigits - dropped : Nat),
      Nat.one_lt_pow (by omega) (by decide), ?_⟩
    rw [Decimal.value, carried, zpow_add₀ (by norm_num), zpow_natCast]
    push_cast
    ring

end Neighbour

/-- The two neighbours with the magnitude between them. -/
theorem exists_neighbours (magnitude : Magnitude) (dropped : Nat) :
    ∃ lower upper, magnitude.Neighbour dropped lower ∧ magnitude.Neighbour dropped upper ∧
      upper.coefficient = lower.coefficient + 1 ∧
      lower.value ≤ magnitude.value ∧ magnitude.value ≤ upper.value := by
  let floor := magnitude.lastPlaces / 10 ^ dropped
  let exponent : ℤ := dropped - magnitude.decimalPlaces
  refine ⟨⟨floor, exponent⟩, ⟨floor + 1, exponent⟩, ⟨rfl, .inl rfl⟩, ⟨rfl, .inr rfl⟩, rfl, ?_⟩
  have refined (coefficient : Nat) : Decimal.value ⟨coefficient, exponent⟩ =
      Decimal.value ⟨coefficient * 10 ^ dropped, -magnitude.decimalPlaces⟩ := by
    have same : exponent = -magnitude.decimalPlaces + dropped := by omega
    rw [same, Decimal.value_shift]
  rw [value_eq, refined, refined, Decimal.value_le_value, Decimal.value_le_value]
  constructor
  · exact Nat.div_mul_le_self ..
  · rw [Nat.mul_comm]
    exact (Nat.lt_mul_div_succ _ (Nat.pow_pos (by decide))).le

/-- If a decimal with fewer digits than the exact one rounds to the magnitude, so does a
neighbour with as many digits. -/
theorem exists_neighbour {x : ℚ} {count : Nat} (positive : magnitude.units ≠ 0)
    (some : 0 < count) (fewer : count < magnitude.exactDigits) (written : HasDigits count x)
    (rounds : RoundsTo x magnitude) :
    ∃ number, magnitude.Neighbour (magnitude.exactDigits - count) number ∧
      RoundsTo number.value magnitude := by
  obtain ⟨lower, upper, below, above, next, lower_le, le_upper⟩ :=
    magnitude.exists_neighbours (magnitude.exactDigits - count)
  obtain ⟨coefficient, exponent, small, rfl⟩ := written
  by_cases coarse : lower.exponent ≤ exponent
  · -- the decimal is on the grid of the neighbours, so none of these is farther away
    obtain ⟨zeros, shift⟩ := Int.le.dest coarse
    have refined : (coefficient : ℚ) * 10 ^ exponent =
        Decimal.value ⟨coefficient * 10 ^ zeros, lower.exponent⟩ := by
      rw [Decimal.value_shift, shift, Decimal.value]
    rcases le_or_gt (coefficient * 10 ^ zeros) lower.coefficient with left | right
    · refine ⟨lower, below, rounds.between (.inl ⟨?_, lower_le⟩)⟩
      rw [refined]
      exact Decimal.value_le_value.mpr left
    · refine ⟨upper, above, rounds.between (.inr ⟨le_upper, ?_⟩)⟩
      have aligned : upper.exponent = lower.exponent := above.exponent.trans below.exponent.symm
      rw [refined, ← aligned]
      exact Decimal.value_le_value.mpr (next ▸ right)
  · -- the decimal is smaller than the first power of ten on that grid
    refine ⟨lower, below, rounds.between (.inl ⟨?_, lower_le⟩)⟩
    have leading : 10 ^ (count - 1) ≤ lower.coefficient := by
      have digits : magnitude.exactDigits - 1 - (magnitude.exactDigits - count) = count - 1 := by
        omega
      exact digits ▸ below.le_coefficient (by omega) positive
    calc Decimal.value ⟨coefficient, exponent⟩
        ≤ 10 ^ (count + exponent : ℤ) := Decimal.value_le_ten_pow.mpr small.le
      _ ≤ 10 ^ ((count - 1 : Nat) + lower.exponent : ℤ) :=
        zpow_le_zpow_right₀ (by norm_num) (by omega)
      _ ≤ lower.value := Decimal.ten_pow_le_value.mpr leading

/-- However few digits a decimal needs that rounds to the magnitude, the shortest decimal
needs no more. -/
theorem hasDigits_shortest {x : ℚ} {count : Nat} (positive : magnitude.units ≠ 0)
    (written : HasDigits count x) (rounds : RoundsTo x magnitude) :
    HasDigits count magnitude.shortest.value := by
  obtain ⟨dropped, below, neighbour, longer⟩ := magnitude.shortest_spec
  refine (neighbour.hasDigits below).mono ?_
  by_contra saved
  have some : 0 < count := by
    refine Nat.pos_of_ne_zero fun none => positive ?_
    obtain ⟨coefficient, exponent, small, rfl⟩ := written
    obtain rfl : coefficient = 0 := by
      rw [none] at small
      omega
    rw [Nat.cast_zero, zero_mul, ← nearestTo?_eq_some_iff le_rfl] at rounds
    exact nearestTo?_zero_iff.mp rounds
  obtain ⟨number, other, back⟩ :=
    exists_neighbour positive some (by omega) written rounds
  exact not_roundsTo_of_none (longer _ (by omega) (by omega)) other back

end Binary64.Magnitude

end ScriptLexer
