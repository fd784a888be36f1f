import ScriptLexer.Proofs.Grammar
import ScriptLexer.Proofs.NearestNumbers
import ScriptLexer.Proofs.WrittenTokens

/-! Literals of numbers. The lexeme of a number token is a text of digits, with a point among
them or not and of any length. The value of the token is the number nearest to the fraction
that these digits denote, which is never anything but a number without a sign. -/
namespace ScriptLexer

open Text Source

/-- What digits denote, with a point among them or not. -/
inductive Denotes : List Char → ℚ → Prop
  | whole {digits : List Char} (nonempty : digits ≠ []) (all : Digits digits) :
      Denotes digits (Nat.ofDigitChars 10 digits 0 : Nat)
  | point {whole places : List Char} (nonempty : whole ≠ []) (all : Digits whole)
      (precise : places ≠ []) (behind : Digits places) :
      Denotes (whole ++ '.' :: places)
        ((Nat.ofDigitChars 10 whole 0 : Nat) +
          (Nat.ofDigitChars 10 places 0 : Nat) / 10 ^ places.length)

variable {text : List Char} {fraction : ℚ} {token : Token} {source : List Char}

namespace Denotes

theorem nonneg (denotes : Denotes text fraction) : 0 ≤ fraction := by
  cases denotes <;> positivity

/-- Without a power of ten, a decimal text stands for what it denotes. -/
theorem value_ofText (denotes : Denotes text fraction) :
    (Decimal.ofText text).value = fraction := by
  cases denotes with
  | whole nonempty all =>
    rw [Decimal.ofText_mantissa (all.absent (by decide)), Decimal.ofMantissa_whole all,
      Decimal.value, zpow_zero, mul_one]
  | @point whole places nonempty all precise behind =>
    have ten : (10 : ℚ) ^ places.length ≠ 0 := by positivity
    rw [Decimal.ofText_point all behind, Decimal.value, Nat.ofDigitChars_append,
      Nat.ofDigitChars_eq_ofDigitChars_zero, zpow_neg, zpow_natCast, ← div_eq_mul_inv,
      Nat.cast_add, Nat.cast_mul, add_div, Nat.cast_pow, Nat.cast_ofNat, mul_div_cancel_left₀ _ ten]

/-- There is no power of ten in what denotes a fraction. -/
theorem e_not_mem (denotes : Denotes text fraction) : 'e' ∉ text := by
  cases denotes with
  | whole nonempty all => exact all.absent (by decide)
  | point nonempty all precise behind => exact Decimal.e_not_mem_mantissa all behind

end Denotes

namespace Binary64

theorem ofRatio_eq (num den : Nat) : ofRatio num den =
    (Magnitude.nearest? num den).elim (.infinite false) (.finite false) := by
  -- unfolded with its arguments, the match would be evaluated as far as the powers of two go
  have unfolded := (by delta ofRatio; exact Eq.refl _ : ofRatio = _)
  rw [unfolded]
  beta_reduce
  generalize Magnitude.nearest? num den = answer
  cases answer <;> rfl

/-- A decimal is read as the number nearest to the fraction that it stands for. -/
theorem ofDecimal_eq (plain : 'e' ∉ text) :
    ofDecimal text =
      (Magnitude.nearestTo? (Decimal.ofText text).value).elim (.infinite false)
        (.finite false) := by
  have positive (places : Nat) : 0 < 10 ^ places := Nat.pow_pos (by decide)
  rw [Decimal.ofText_mantissa plain, Decimal.ofMantissa, Decimal.value, zpow_neg, zpow_natCast,
    ← div_eq_mul_inv, ofDecimal, ofRatio_eq]
  dsimp only
  rw [Nat.pow_eq, Magnitude.nearest?_eq_nearestTo? _ (positive _), Nat.cast_pow, Nat.cast_ofNat]

/-- The number nearest to a fraction: infinite exactly from the bound on, and otherwise a
magnitude that is meant, without a sign. -/
theorem ofDecimal_nearest (denotes : Denotes text fraction) :
    (ofDecimal text = .infinite false ↔ infinityBound ≤ fraction) ∧
      (fraction < infinityBound →
        ∃ magnitude, ofDecimal text = .finite false magnitude ∧ RoundsTo fraction magnitude) := by
  have natural := denotes.nonneg
  rw [ofDecimal_eq denotes.e_not_mem, denotes.value_ofText]
  cases nearest : Magnitude.nearestTo? fraction with
  | none =>
    have large := (Magnitude.nearestTo?_eq_none_iff natural).mp nearest
    exact ⟨⟨fun _ => large, fun _ => rfl⟩, fun small => absurd small (not_lt.mpr large)⟩
  | some magnitude =>
    have rounds := (Magnitude.nearestTo?_eq_some_iff natural).mp nearest
    exact ⟨⟨nofun, fun large => absurd rounds.finite (not_lt.mpr large)⟩,
      fun _ => ⟨magnitude, rfl, rounds⟩⟩

/-- What is read is always a number, and one without a sign. -/
theorem ofDecimal_unsigned (text : List Char) :
    ofDecimal text = .infinite false ∨ ∃ magnitude, ofDecimal text = .finite false magnitude := by
  rw [ofDecimal, ofRatio_eq]
  cases Magnitude.nearest? _ _ with
  | none => exact .inl rfl
  | some magnitude => exact .inr ⟨magnitude, rfl⟩

/-- Only what is no number differs from itself. -/
theorem equals_self {number : Binary64} (ordinary : number ≠ .nan) :
    number.equals number = true := by
  cases number with
  | nan => exact absurd rfl ordinary
  | infinite negative => simp [equals]
  | finite negative magnitude => simp [equals]

end Binary64

namespace Source.Lexeme

variable {kind : Kind} {literal : Option Literal}

/-- The text of a number denotes a fraction, and its digits are read as the number. -/
theorem number (lexeme : Lexeme text (.token .number literal)) :
    (∃ fraction, Denotes text fraction) ∧ literal = some (.number (.ofDecimal text)) := by
  generalize reading : Reading.token .number literal = read at lexeme
  cases lexeme with
  | whole nonempty digits =>
    cases reading
    exact ⟨⟨_, .whole nonempty digits⟩, rfl⟩
  | fraction nonempty digits precise behind =>
    cases reading
    exact ⟨⟨_, .point nonempty digits precise behind⟩, rfl⟩
  | mark listed =>
    cases reading
    have other : ∀ entry ∈ marks, entry.2 ≠ .number := by decide
    exact absurd rfl (other _ listed)
  | bare listed =>
    cases reading
    have other : ∀ entry ∈ operators, entry.2.1 ≠ .number := by decide
    exact absurd rfl (other _ listed)
  | extended listed =>
    cases reading
    have other : ∀ entry ∈ operators, entry.2.2 ≠ .number := by decide
    exact absurd rfl (other _ listed)
  | comment | blank | string | keyword | identifier => cases reading

/-- The literal of a lexeme equals itself. -/
theorem equals_self (lexeme : Lexeme text (.token kind literal)) :
    ∀ value ∈ literal, value.equals value = true := by
  cases lexeme with
  | mark | bare | extended | keyword | identifier => simp
  | string => simp [Literal.equals]
  | whole | fraction =>
    intro value member
    have numbers (number : Binary64) :
        Literal.equals (.number number) (.number number) = number.equals number := rfl
    rw [← Option.mem_some_iff.mp member, numbers]
    rcases Binary64.ofDecimal_unsigned _ with infinite | ⟨magnitude, finite⟩
    · exact Binary64.equals_self (infinite ▸ nofun)
    · exact Binary64.equals_self (finite ▸ nofun)

end Source.Lexeme

theorem lexeme_of_found {line : Nat} (member : .token token ∈ found line source) :
    Lexeme token.lexeme (.token token.kind token.literal) := by
  obtain ⟨c, body, after, shape, cut⟩ := exists_cut_of_found member
  rw [shape]
  exact cut_lexeme cut nofun

/-- Every token that a scan emits equals itself. -/
theorem Token.equals_self (member : token ∈ (Scan.ofSource source).tokens) :
    token.equals token = true := by
  have same : ∀ value ∈ token.literal, value.equals value = true := by
    rw [Scan.tokens_eq, List.mem_append] at member
    rcases member with inside | closing
    · obtain ⟨finding, within, shape⟩ := List.mem_filterMap.mp inside
      cases finding with
      | token => exact (lexeme_of_found (Option.some.inj shape ▸ within)).equals_self
      | diagnostic => cases shape
    · rw [List.mem_singleton.mp closing]
      simp [endOfInput]
  cases token with
  | mk kind lexeme literal line =>
    cases literal with
    | none => simp [equals]
    | some value => simp [equals, same value rfl]

/-- The value of every number token is the binary floating point number nearest to the fraction
that the lexeme denotes, with ties to the even significand. It is infinite exactly from half a
spacing above the largest finite number on; it is always a number and has no sign. So every
token equals itself. -/
theorem number_tokens_nearest (member : token ∈ (Scan.ofSource source).tokens) :
    token.equals token = true ∧
    (token.kind = .number → (∃ fraction, Denotes token.lexeme fraction) ∧
      ∀ fraction, Denotes token.lexeme fraction →
        (token.literal = some (.number (.infinite false)) ↔
          Binary64.infinityBound ≤ fraction) ∧
        (fraction < Binary64.infinityBound → ∃ magnitude,
          token.literal = some (.number (.finite false magnitude)) ∧
            Binary64.RoundsTo fraction magnitude)) := by
  refine ⟨Token.equals_self member, fun number => ?_⟩
  have lexeme := lexeme_of_found ((Scan.mem_tokens (number ▸ nofun)).mp member)
  rw [number] at lexeme
  obtain ⟨denoted, literal⟩ := lexeme.number
  refine ⟨denoted, fun fraction denotes => ?_⟩
  rw [literal, Option.some.injEq, Literal.number.injEq]
  obtain ⟨infinite, finite⟩ := Binary64.ofDecimal_nearest denotes
  refine ⟨infinite, fun small => ?_⟩
  obtain ⟨magnitude, value, rounds⟩ := finite small
  exact ⟨magnitude, by rw [value], rounds⟩

/-- The first whole number between two neighbours of the format is rounded to the one below,
whose significand is even. -/
theorem number_tokens_nearest_halfway :
    let lexeme := "9007199254740993".toList
    let token : Token := ⟨.number, lexeme, some (.number (.ofDecimal "9007199254740992".toList)), 1⟩
    token ∈ (Scan.ofSource lexeme).tokens ∧ token.kind = .number ∧
      Denotes lexeme 9007199254740993 ∧ (9007199254740993 : ℚ) < Binary64.infinityBound ∧
      ∃ magnitude, token.literal = some (.number (.finite false magnitude)) ∧
        Binary64.RoundsTo 9007199254740993 magnitude := by
  intro lexeme token
  have member : token ∈ (Scan.ofSource lexeme).tokens := by decide +kernel
  have denotes : Denotes lexeme 9007199254740993 := by
    have digits : Nat.ofDigitChars 10 lexeme 0 = 9007199254740993 := by decide
    have whole : Denotes lexeme (Nat.ofDigitChars 10 lexeme 0 : Nat) :=
      .whole (by decide) (List.all_eq_true.mp (by decide))
    rw [digits] at whole
    exact_mod_cast whole
  have small : (9007199254740993 : ℚ) < Binary64.infinityBound := by
    have power : (1 : ℚ) ≤ 2 ^ 970 := one_le_pow₀ one_le_two
    rw [Binary64.infinityBound_eq]
    calc (9007199254740993 : ℚ) < 2 ^ 54 - 1 := by norm_num
      _ ≤ (2 ^ 54 - 1) * 2 ^ 970 := le_mul_of_one_le_right (by norm_num) power
  exact ⟨member, rfl, denotes, small, (((number_tokens_nearest member).2 rfl).2 _ denotes).2 small⟩

end ScriptLexer
