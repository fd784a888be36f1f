import ScriptLexer.Number.Binary64

/-! Numbers and their bits. Different patterns of bits stand for different numbers, those
that stand for no number apart. -/
namespace ScriptLexer.Binary64

/-- The units that an exponent field and a fraction field of a finite number stand for. -/
def unitsOf (exponent : Nat) (fraction : Fin fractions) : Nat :=
  match exponent with
  | 0 => fraction
  | places + 1 => (fractions + fraction) * Nat.pow 2 places

variable {exponent exponent' : Fin 2048} {fraction fraction' : Fin fractions}
  {negative negative' : Bool}

/-- A larger exponent makes a larger number, whatever the fractions are. -/
theorem unitsOf_lt {exponent exponent' : Nat} (below : exponent < exponent')
    (fraction fraction' : Fin fractions) :
    unitsOf exponent fraction < unitsOf exponent' fraction' := by
  obtain ⟨places', rfl⟩ := Nat.exists_eq_add_of_lt below
  have most : unitsOf exponent fraction < fractions * 2 ^ exponent := by
    cases exponent with
    | zero => simp [unitsOf]
    | succ places =>
      have room : fractions + fraction < fractions * 2 := by omega
      rw [unitsOf, Nat.pow_succ', ← Nat.mul_assoc]
      exact Nat.mul_lt_mul_of_pos_right room (Nat.two_pow_pos places)
  have least : fractions * 2 ^ (exponent + places') ≤
      unitsOf (exponent + places' + 1) fraction' :=
    Nat.mul_le_mul_right _ (Nat.le_add_right ..)
  have wider : fractions * 2 ^ exponent ≤ fractions * 2 ^ (exponent + places') :=
    Nat.mul_le_mul_left _ (Nat.pow_le_pow_right (by decide) (Nat.le_add_right ..))
  omega

theorem unitsOf_inj {exponent exponent' : Nat}
    (same : unitsOf exponent fraction = unitsOf exponent' fraction') :
    exponent = exponent' ∧ fraction = fraction' := by
  rcases Nat.lt_trichotomy exponent exponent' with below | rfl | above
  · exact absurd same (Nat.ne_of_lt (unitsOf_lt below _ _))
  · refine ⟨rfl, Fin.ext ?_⟩
    cases exponent with
    | zero => exact same
    | succ places =>
      have significands := Nat.eq_of_mul_eq_mul_right (Nat.two_pow_pos places) same
      omega
  · exact absurd same (Nat.ne_of_gt (unitsOf_lt above _ _))

theorem ofFields_largest (negative : Bool) (fraction : Fin fractions) :
    ofFields negative 2047 fraction = if fraction.val = 0 then .infinite negative else .nan :=
  dif_pos rfl

theorem ofFields_finite (smaller : exponent ≠ 2047) : ∃ magnitude : Magnitude,
    magnitude.units = unitsOf exponent fraction ∧
      ofFields negative exponent fraction = .finite negative magnitude := by
  unfold ofFields
  rw [dif_neg smaller]
  split
  · rename_i smallest
    have read := congrArg (unitsOf · fraction) smallest
    exact ⟨_, (Nat.mul_one _).trans read.symm, rfl⟩
  · rename_i places normal
    have read := congrArg (unitsOf · fraction) normal
    exact ⟨_, read.symm, rfl⟩

/-- The fields of a number are told from all others. -/
theorem ofFields_inj (number : ofFields negative exponent fraction ≠ .nan)
    (same : ofFields negative exponent fraction = ofFields negative' exponent' fraction') :
    negative = negative' ∧ exponent = exponent' ∧ fraction = fraction' := by
  by_cases largest : exponent = 2047
  · subst largest
    rw [ofFields_largest] at number same
    by_cases infinite : fraction.val = 0
    · rw [if_pos infinite] at same
      by_cases largest' : exponent' = 2047
      · subst largest'
        rw [ofFields_largest] at same
        split at same
        · rename_i infinite'
          cases same
          exact ⟨rfl, rfl, Fin.ext (infinite.trans infinite'.symm)⟩
        · cases same
      · obtain ⟨magnitude', _, finite'⟩ := ofFields_finite largest'
        rw [finite'] at same
        cases same
    · exact absurd (if_neg infinite) number
  · obtain ⟨magnitude, units, finite⟩ := ofFields_finite largest
    rw [finite] at same
    by_cases largest' : exponent' = 2047
    · subst largest'
      rw [ofFields_largest] at same
      split at same <;> cases same
    · obtain ⟨magnitude', units', finite'⟩ := ofFields_finite largest'
      rw [finite'] at same
      cases same
      rw [units] at units'
      obtain ⟨exponents, fractions⟩ := unitsOf_inj units'
      exact ⟨rfl, Fin.ext exponents, fractions⟩

/-- Different bits stand for different numbers, unless both stand for no number. -/
theorem ofBits_eq_iff (bits bits' : UInt64) : ofBits bits = ofBits bits' ↔
    bits = bits' ∨ ofBits bits = .nan ∧ ofBits bits' = .nan := by
  constructor
  · intro same
    by_cases number : ofBits bits = .nan
    · exact .inr ⟨number, same ▸ number⟩
    · left
      obtain ⟨signs, exponents, fractions⟩ := ofFields_inj number same
      have size := bits.toNat_lt
      have size' := bits'.toNat_lt
      have upper := congrArg Fin.val exponents
      have lower := congrArg Fin.val fractions
      simp only [Fin.ofNat, Binary64.fractions] at upper lower
      have top : bits.toNat / 0x8000000000000000 = 1 ↔ bits'.toNat / 0x8000000000000000 = 1 := by
        rw [← beq_iff_eq, signs, beq_iff_eq]
      exact UInt64.toNat_inj.mp (by omega)
  · rintro (rfl | ⟨none, none'⟩)
    · rfl
    · rw [none, none']

end ScriptLexer.Binary64
