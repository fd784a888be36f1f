import ScriptLexer.Proofs.NumberLiterals
import ScriptLexer.Proofs.ShortestDecimals

/-! Printed numbers are read back. What is printed for a number rounds to the number, and no
decimal with fewer digits does. Where it is written without a power of ten, it is a source of
one token whose value is the number; and so it is written for zero and from a ten-thousandth
up to, but without, `10 ^ 16`. -/
namespace ScriptLexer

open Text Source

/-- The first significant digit of a decimal stands at its exponent. -/
theorem Scientific.exponent_bounds {number : Decimal} (positive : number.coefficient ≠ 0) :
    10 ^ (ofDecimal number).exponent ≤ number.value ∧
      number.value < 10 ^ ((ofDecimal number).exponent + 1) := by
  have length : 0 < (decimal number.coefficient).length := Nat.length_toDigits_pos
  have first : (ofDecimal number).exponent =
      ((decimal number.coefficient).length - 1 : Nat) + number.exponent := Int.add_comm ..
  have next : (ofDecimal number).exponent + 1 =
      (decimal number.coefficient).length + number.exponent := by omega
  rw [next, first]
  exact ⟨Decimal.ten_pow_le_value.mpr (ten_pow_length_le positive),
    Decimal.value_lt_ten_pow.mpr (lt_ten_pow_length _)⟩

/-- Digits with a point among them, and digits on either side of it. -/
def Pointed (text : List Char) : Prop :=
  ∃ whole places, text = whole ++ '.' :: places ∧ whole ≠ [] ∧ Digits whole ∧
    places ≠ [] ∧ Digits places

theorem Scientific.pointed_positional {number : Scientific}
    (significant : Significant number.digits) : Pointed number.positional := by
  unfold positional
  split
  · rename_i exponent _
    have whole := (significant.all.subset (List.take_subset (exponent + 1) _)).rightpad
      (exponent + 1)
    refine ⟨_, _, rfl, ?_, whole, ?_, ?_⟩
    · rw [← List.length_pos_iff, List.length_rightpad]
      omega
    · split
      · exact List.cons_ne_nil _ _
      · rename_i digits
        exact fun none => digits (List.isEmpty_iff.mpr none)
    · split
      · exact digits_zeros 1
      · exact significant.all.subset (List.drop_subset (exponent + 1) _)
  · rename_i zeros _
    exact ⟨['0'], _, rfl, List.cons_ne_nil _ _, digits_zeros 1, by simp [significant.nonempty],
      (digits_zeros zeros).append significant.all⟩

namespace Binary64

/-- The first whole power of ten that is not printed digit by digit is a number of the
format. -/
theorem representable_ten_pow : Representable (10 ^ (16 : ℤ)) :=
  ⟨5 ^ 16, 16, by decide, by decide, by decide, by norm_num⟩

namespace Magnitude

variable {magnitude : Magnitude}

/-- Between which powers of ten a magnitude and its shortest decimal lie. Only the decimal can
be as large as the second one. -/
theorem exists_decade (positive : magnitude.units ≠ 0) : ∃ exponent : ℤ,
    10 ^ exponent ≤ magnitude.value ∧ magnitude.value < 10 ^ (exponent + 1) ∧
      10 ^ exponent ≤ magnitude.shortest.value ∧
      magnitude.shortest.value ≤ 10 ^ (exponent + 1) := by
  obtain ⟨dropped, below, neighbour, _⟩ := magnitude.shortest_spec
  have digits := magnitude.exactDigits_pos
  have exponent := neighbour.exponent
  have exact : magnitude.lastPlaces ≠ 0 := lastPlaces_ne_zero positive
  have least := Decimal.ten_pow_le_value.mpr (neighbour.le_coefficient below positive)
  have most := Decimal.value_le_ten_pow.mpr (neighbour.coefficient_le below)
  refine ⟨(magnitude.exactDigits - 1 : Nat) - magnitude.decimalPlaces, ?_, ?_, ?_, ?_⟩
  · rw [value_eq]
    exact Decimal.ten_pow_le_value.mpr (ten_pow_length_le exact)
  · rw [value_eq]
    have bound : Decimal.value ⟨magnitude.lastPlaces, -magnitude.decimalPlaces⟩ <
        10 ^ (magnitude.exactDigits + -magnitude.decimalPlaces : ℤ) :=
      Decimal.value_lt_ten_pow.mpr (lt_ten_pow_length _)
    refine bound.trans_eq (congrArg _ ?_)
    omega
  · refine le_of_eq_of_le (congrArg _ ?_) least
    omega
  · refine most.trans_eq (congrArg _ ?_)
    omega

/-- From a ten-thousandth up to the first power of ten with seventeen digits, the shortest
decimal is printed digit by digit. -/
theorem shortest_exponent_bounds (least : 10 ^ (-4 : ℤ) ≤ magnitude.value)
    (below : magnitude.value < 10 ^ (16 : ℤ)) :
    -4 ≤ (Scientific.ofDecimal magnitude.shortest).exponent ∧
      (Scientific.ofDecimal magnitude.shortest).exponent < 16 := by
  let exponent := (Scientific.ofDecimal magnitude.shortest).exponent
  have ten : (1 : ℚ) < 10 := by norm_num
  have positive : magnitude.units ≠ 0 := by
    intro zero
    have power : (0 : ℚ) < 10 ^ (-4 : ℤ) := zpow_pos (by norm_num) _
    rw [value, zero, Nat.cast_zero, zero_div] at least
    exact absurd least (not_le.mpr power)
  obtain ⟨decade, above, less, shortest_above, shortest_le⟩ := exists_decade positive
  obtain ⟨first, next⟩ : 10 ^ exponent ≤ magnitude.shortest.value ∧
      magnitude.shortest.value < 10 ^ (exponent + 1) :=
    Scientific.exponent_bounds (shortest_coefficient_ne_zero positive)
  show -4 ≤ exponent ∧ exponent < 16
  constructor
  · have low := (zpow_lt_zpow_iff_right₀ ten).mp (least.trans_lt less)
    have high := (zpow_lt_zpow_iff_right₀ ten).mp (shortest_above.trans_lt next)
    omega
  · have low := (zpow_lt_zpow_iff_right₀ ten).mp (above.trans_lt below)
    have most : magnitude.shortest.value ≤ 10 ^ (16 : ℤ) :=
      shortest_le.trans (zpow_le_zpow_right₀ ten.le (by omega))
    -- the power of ten is a number itself, so nothing smaller is nearest to it
    have different : magnitude.shortest.value ≠ 10 ^ (16 : ℤ) := by
      intro same
      have nearest := magnitude.roundsTo_shortest.nearest _ representable_ten_pow
      rw [same, sub_self, abs_zero, abs_nonpos_iff, sub_eq_zero] at nearest
      exact below.ne nearest.symm
    exact (zpow_lt_zpow_iff_right₀ ten).mp (first.trans_lt (lt_of_le_of_ne most different))

/-- Where a magnitude is printed digit by digit. -/
theorem pointed_print (printed : magnitude.value = 0 ∨
      10 ^ (-4 : ℤ) ≤ magnitude.value ∧ magnitude.value < 10 ^ (16 : ℤ)) :
    Pointed magnitude.print := by
  unfold print
  by_cases zero : magnitude.units = 0
  · rw [if_pos zero]
    exact ⟨['0'], ['0'], rfl, List.cons_ne_nil _ _, digits_zeros 1, List.cons_ne_nil _ _,
      digits_zeros 1⟩
  · have nonzero : magnitude.value ≠ 0 :=
      div_ne_zero (Nat.cast_ne_zero.mpr zero) unitsPerOne_cast_pos.ne'
    obtain ⟨least, below⟩ := printed.resolve_left nonzero
    have coefficient := shortest_coefficient_ne_zero zero
    rw [if_neg zero, Scientific.print, if_pos (shortest_exponent_bounds least below)]
    exact Scientific.pointed_positional (Scientific.significant_ofDecimal coefficient)

/-- What is printed for a magnitude rounds to the magnitude. -/
theorem roundsTo_print (magnitude : Magnitude) :
    RoundsTo (Decimal.ofText magnitude.print).value magnitude :=
  nearestTo?_value.mp magnitude.nearestTo?_print

/-- However few digits a decimal needs that rounds to the magnitude, the printed one needs no
more. -/
theorem hasDigits_print {x : ℚ} {count : Nat} (written : HasDigits count x)
    (rounds : RoundsTo x magnitude) :
    HasDigits count (Decimal.ofText magnitude.print).value := by
  unfold print
  by_cases zero : magnitude.units = 0
  · have read : Decimal.ofText "0.0".toList = ⟨0, -1⟩ := by decide
    rw [if_pos zero, read]
    exact ⟨0, 0, Nat.pow_pos (by decide), by rw [Decimal.value, Nat.cast_zero, zero_mul, zero_mul]⟩
  · have coefficient := shortest_coefficient_ne_zero zero
    rw [if_neg zero, Scientific.ofText_print _ (Scientific.significant_ofDecimal coefficient),
      Scientific.value_ofDecimal coefficient]
    exact hasDigits_shortest zero written rounds

end Magnitude

end Binary64

/-- A text of digits with a point is a source of one token. -/
theorem Pointed.scan {text : List Char} (pointed : Pointed text) :
    (Scan.ofSource text).tokens =
        [⟨.number, text, some (.number (.ofDecimal text)), 1⟩, .endOfInput 1] ∧
      (Scan.ofSource text).diagnostics = [] := by
  obtain ⟨whole, places, rfl, nonempty, digits, precise, behind⟩ := pointed
  obtain ⟨c, rest, rfl⟩ := List.exists_cons_of_ne_nil nonempty
  obtain ⟨begins, inside⟩ := List.forall_mem_cons.mp digits
  have cut : Cut c (rest ++ '.' :: places) _ [] :=
    .fraction begins inside precise behind (by simp)
  have one_line : (c :: (rest ++ '.' :: places)).count '\n' = 0 := by
    have points : '\n' ∉ '.' :: places :=
      List.not_mem_cons_of_ne_of_not_mem (by decide) (behind.absent (by decide))
    exact List.count_eq_zero.mpr (List.not_mem_append (digits.absent (by decide)) points)
  have held := cut.found_token 1
  rw [List.append_nil, one_line] at held
  rw [List.cons_append, Scan.tokens_eq, Scan.diagnostics_eq, Scan.lastLine_eq, held, one_line]
  exact ⟨rfl, rfl⟩

/-- A magnitude that is printed digit by digit is read back. -/
theorem Binary64.Magnitude.ofDecimal_print {magnitude : Magnitude}
    (pointed : Pointed magnitude.print) :
    ofDecimal magnitude.print = .finite false magnitude := by
  obtain ⟨whole, places, text, nonempty, digits, precise, behind⟩ := pointed
  have plain : 'e' ∉ magnitude.print := text ▸ Decimal.e_not_mem_mantissa digits behind
  rw [ofDecimal_eq plain, nearestTo?_print]
  rfl

variable {token : Token} {source : List Char} {negative : Bool} {magnitude : Binary64.Magnitude}

/-- What is printed for the finite value of a number token rounds to this value, and no decimal
with fewer significant digits does. For zero, and from a ten-thousandth up to the first power of
ten with seventeen digits, the printed text is a source without errors that holds the number
and nothing else, so that scanning it and printing the value again gives the same text. -/
theorem printed_numbers_read_back (member : token ∈ (Scan.ofSource source).tokens)
    (number : token.kind = .number)
    (finite : token.literal = some (.number (.finite negative magnitude))) :
    let value : Literal := .number (.finite negative magnitude)
    let decimal := (Decimal.ofText value.print).value
    negative = false ∧ Binary64.RoundsTo decimal magnitude ∧
      (∀ count x, HasDigits count x → Binary64.RoundsTo x magnitude → HasDigits count decimal) ∧
      (magnitude.value = 0 ∨
          10 ^ (-4 : ℤ) ≤ magnitude.value ∧ magnitude.value < 10 ^ (16 : ℤ) →
        (Scan.ofSource value.print).tokens =
            [⟨.number, value.print, some value, 1⟩, .endOfInput 1] ∧
          (Scan.ofSource value.print).diagnostics = []) := by
  obtain rfl : negative = false := by
    have lexeme := lexeme_of_found ((Scan.mem_tokens (number ▸ nofun)).mp member)
    rw [number, finite] at lexeme
    have read := Literal.number.inj (Option.some.inj lexeme.number.2)
    rcases Binary64.ofDecimal_unsigned token.lexeme with infinite | ⟨other, unsigned⟩
    · rw [infinite] at read
      cases read
    · rw [unsigned] at read
      cases read
      rfl
  refine ⟨rfl, magnitude.roundsTo_print, fun count x => Binary64.Magnitude.hasDigits_print,
    fun printed => ?_⟩
  have pointed := Binary64.Magnitude.pointed_print printed
  have scan := pointed.scan
  rw [Binary64.Magnitude.ofDecimal_print pointed] at scan
  exact scan

/-- Two and a half, written with a zero behind it, is printed without the zero and read back. -/
theorem printed_numbers_read_back_half :
    let magnitude : Binary64.Magnitude := .ofSignificand 5 1073 (by decide) (by decide)
    let value : Literal := .number (.finite false magnitude)
    let token : Token := ⟨.number, "2.50".toList, some value, 1⟩
    token ∈ (Scan.ofSource "2.50".toList).tokens ∧ token.kind = .number ∧
      token.literal = some value ∧ value.print = "2.5".toList ∧
      (10 ^ (-4 : ℤ) ≤ magnitude.value ∧ magnitude.value < 10 ^ (16 : ℤ)) ∧
      (Scan.ofSource value.print).tokens =
        [⟨.number, value.print, some value, 1⟩, .endOfInput 1] := by
  intro magnitude value token
  have member : token ∈ (Scan.ofSource "2.50".toList).tokens := by decide +kernel
  have size : magnitude.value = 5 / 2 := by
    rw [Binary64.Magnitude.value_ofSignificand]
    norm_num
  have within : 10 ^ (-4 : ℤ) ≤ magnitude.value ∧ magnitude.value < 10 ^ (16 : ℤ) := by
    rw [size]
    norm_num
  have printed : value.print = "2.5".toList := by decide +kernel
  obtain ⟨_, _, _, back⟩ := printed_numbers_read_back member rfl rfl
  exact ⟨member, rfl, rfl, printed, within, (back (.inr within)).1⟩

end ScriptLexer
