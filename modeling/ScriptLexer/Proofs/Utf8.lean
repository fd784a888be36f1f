import Mathlib.Data.List.Forall2
import ScriptLexer.Text.Utf8

/-! Decoding against encoding. The bytes of a text decode to the text, and bytes that
decode without a fault are the bytes of the text they decode to; so decoding finds a
fault in an input exactly when no text has these bytes. -/
namespace ScriptLexer.Text.Utf8

open String (utf8EncodeChar)

variable {lead byte : UInt8} {begun : Sequence} {tail rest bytes : List UInt8}
  {position value : Nat} {text : List Char} {c : Char}

/-- The number that is spelled by bytes behind those that spell `value`. -/
def spelled (value : Nat) (tail : List UInt8) : Nat :=
  tail.foldl (fun value byte => value * 64 + byte.toNat % 64) value

/-- A sequence in progress is brought to its end by these bytes. -/
def Sequence.EndsWith (begun : Sequence) (tail : List UInt8) : Prop :=
  List.Forall₂ (fun range byte => range.covers byte = true) (begun.next :: begun.later) tail

/-- The bytes that end a sequence give one character. -/
theorem decodeFrom_tail (ends : begun.EndsWith tail) (position : Nat) (rest : List UInt8) :
    decodeFrom position (some begun) (tail ++ rest) =
      (decodeFrom (position + tail.length) none rest).cons
        (Char.ofNat (spelled begun.value tail)) := by
  induction tail generalizing begun position with
  | nil => cases ends
  | cons byte tail ih =>
    obtain ⟨bytes, value, next, later⟩ := begun
    obtain ⟨covered, others⟩ := List.forall₂_cons.mp ends
    cases later with
    | nil =>
      cases others
      simp [decodeFrom, covered, spelled]
    | cons range later =>
      have onward : Sequence.EndsWith
          ⟨bytes ++ [byte], value * 64 + byte.toNat % 64, range, later⟩ tail := others
      simp only [List.cons_append, decodeFrom, covered, ↓reduceIte]
      rw [ih onward, List.length_cons, Nat.add_assoc, Nat.add_comm 1]
      rfl

/-- A sequence in which no fault is found comes to its end. -/
theorem exists_tail (sound : (decodeFrom position (some begun) bytes).fault = none) :
    ∃ tail rest, bytes = tail ++ rest ∧ begun.EndsWith tail := by
  induction bytes generalizing begun position with
  | nil => simp [decodeFrom] at sound
  | cons byte bytes ih =>
    obtain ⟨read, value, next, later⟩ := begun
    cases covered : next.covers byte with
    | false => simp [decodeFrom, covered] at sound
    | true =>
      cases later with
      | nil => exact ⟨[byte], bytes, rfl, .cons covered .nil⟩
      | cons range later =>
        simp only [decodeFrom, covered, ↓reduceIte] at sound
        obtain ⟨tail, rest, rfl, ends⟩ := ih sound
        exact ⟨byte :: tail, rest, rfl, .cons covered ends⟩

/-- The second bytes after a byte that begins a sequence of three. -/
def secondOfThree (lead : UInt8) : ByteRange :=
  ⟨if lead = 0xe0 then 0xa0 else 0x80, if lead = 0xed then 0x9f else 0xbf⟩

/-- The second bytes after a byte that begins a sequence of four. -/
def secondOfFour (lead : UInt8) : ByteRange :=
  ⟨if lead = 0xf0 then 0x90 else 0x80, if lead = 0xf4 then 0x8f else 0xbf⟩

theorem covers_iff {range : ByteRange} :
    range.covers byte = true ↔ range.first.toNat ≤ byte.toNat ∧ byte.toNat ≤ range.last.toNat := by
  simp [ByteRange.covers, UInt8.le_iff_toNat_le]

theorem ofByte_ascii (bound : lead.toNat ≤ 0x7f) :
    Opening.ofByte lead = .character (Char.ofNat lead.toNat) := by
  simp [Opening.ofByte, UInt8.le_iff_toNat_le, bound]

theorem ofByte_two (low : 0xc2 ≤ lead.toNat) (high : lead.toNat ≤ 0xdf) :
    Opening.ofByte lead = .sequence ⟨[lead], lead.toNat % 32, continuation, []⟩ := by
  have notAscii : ¬lead.toNat ≤ 0x7f := by omega
  have notLow : ¬lead.toNat < 0xc2 := by omega
  simp [Opening.ofByte, UInt8.le_iff_toNat_le, UInt8.lt_iff_toNat_lt, notAscii, notLow, high]

theorem ofByte_three (low : 0xe0 ≤ lead.toNat) (high : lead.toNat ≤ 0xef) :
    Opening.ofByte lead =
      .sequence ⟨[lead], lead.toNat % 16, secondOfThree lead, [continuation]⟩ := by
  have notAscii : ¬lead.toNat ≤ 0x7f := by omega
  have notLow : ¬lead.toNat < 0xc2 := by omega
  have notTwo : ¬lead.toNat ≤ 0xdf := by omega
  by_cases overlong : lead = 0xe0
  · subst overlong; rfl
  by_cases surrogates : lead = 0xed
  · subst surrogates; rfl
  simp [Opening.ofByte, UInt8.le_iff_toNat_le, UInt8.lt_iff_toNat_lt, notAscii, notLow, notTwo,
    high, overlong, surrogates, secondOfThree, continuation]

theorem ofByte_four (low : 0xf0 ≤ lead.toNat) (high : lead.toNat ≤ 0xf4) :
    Opening.ofByte lead =
      .sequence ⟨[lead], lead.toNat % 8, secondOfFour lead, [continuation, continuation]⟩ := by
  have notAscii : ¬lead.toNat ≤ 0x7f := by omega
  have notLow : ¬lead.toNat < 0xc2 := by omega
  have notTwo : ¬lead.toNat ≤ 0xdf := by omega
  have notThree : ¬lead.toNat ≤ 0xef := by omega
  by_cases overlong : lead = 0xf0
  · subst overlong; rfl
  by_cases last : lead = 0xf4
  · subst last; rfl
  have inner : lead.toNat ≤ 0xf3 := by
    have other : lead.toNat ≠ 0xf4 := fun same => last (UInt8.toNat_inj.mp same)
    omega
  have e0 : lead ≠ 0xe0 := by rintro rfl; simp at low
  have ed : lead ≠ 0xed := by rintro rfl; simp at low
  simp [Opening.ofByte, UInt8.le_iff_toNat_le, UInt8.lt_iff_toNat_lt, notAscii, notLow, notTwo,
    notThree, inner, overlong, last, e0, ed, secondOfFour, continuation]

theorem ofByte_invalid (notAscii : 0x7f < lead.toNat)
    (outside : lead.toNat < 0xc2 ∨ 0xf4 < lead.toNat) : Opening.ofByte lead = .invalid := by
  have high : ¬lead.toNat ≤ 0x7f := by omega
  rcases outside with low | outside
  · simp [Opening.ofByte, UInt8.le_iff_toNat_le, UInt8.lt_iff_toNat_lt, high, low]
  · have bounds : ¬lead.toNat < 0xc2 ∧ ¬lead.toNat ≤ 0xdf ∧ ¬lead.toNat ≤ 0xef ∧
        ¬lead.toNat ≤ 0xf3 := by omega
    have others : lead ≠ 0xe0 ∧ lead ≠ 0xed ∧ lead ≠ 0xf0 ∧ lead ≠ 0xf4 := by
      refine ⟨?_, ?_, ?_, ?_⟩ <;> rintro rfl <;> simp at outside
    simp [Opening.ofByte, UInt8.le_iff_toNat_le, UInt8.lt_iff_toNat_lt, high, bounds, others]

theorem toNat_ofNat (valid : value.isValidChar) : (Char.ofNat value).toNat = value := by
  rw [Char.ofNat, dif_pos valid]
  rfl

theorem ofNat_eq_byte (byte : UInt8) (same : value % 256 = byte.toNat) :
    UInt8.ofNat value = byte :=
  UInt8.toNat_inj.mp (by simpa using same)

theorem continuation_covers_iff :
    continuation.covers byte = true ↔ 0x80 ≤ byte.toNat ∧ byte.toNat ≤ 0xbf := covers_iff

theorem secondOfThree_covers_iff :
    (secondOfThree lead).covers byte = true ↔ 0x80 ≤ byte.toNat ∧ byte.toNat ≤ 0xbf ∧
      (lead.toNat = 0xe0 → 0xa0 ≤ byte.toNat) ∧ (lead.toNat = 0xed → byte.toNat ≤ 0x9f) := by
  simp only [covers_iff, secondOfThree, apply_ite UInt8.toNat, ← UInt8.toNat_inj,
    UInt8.reduceToNat]
  split <;> split <;> omega

theorem secondOfFour_covers_iff :
    (secondOfFour lead).covers byte = true ↔ 0x80 ≤ byte.toNat ∧ byte.toNat ≤ 0xbf ∧
      (lead.toNat = 0xf0 → 0x90 ≤ byte.toNat) ∧ (lead.toNat = 0xf4 → byte.toNat ≤ 0x8f) := by
  simp only [covers_iff, secondOfFour, apply_ite UInt8.toNat, ← UInt8.toNat_inj,
    UInt8.reduceToNat]
  split <;> split <;> omega

theorem encodeChar_two {second : UInt8} (low : 0xc2 ≤ lead.toNat) (high : lead.toNat ≤ 0xdf)
    (covered : continuation.covers second = true) :
    utf8EncodeChar (Char.ofNat (lead.toNat % 32 * 64 + second.toNat % 64)) = [lead, second] := by
  have bounds := continuation_covers_iff.mp covered
  generalize spells : lead.toNat % 32 * 64 + second.toNat % 64 = value
  have valid : value.isValidChar := .inl (by omega)
  simp only [utf8EncodeChar, Char.toNat_val, toNat_ofNat valid]
  rw [if_neg (by omega), if_pos (by omega), ofNat_eq_byte lead (by omega),
    ofNat_eq_byte second (by omega)]

theorem encodeChar_three {second third : UInt8} (low : 0xe0 ≤ lead.toNat)
    (high : lead.toNat ≤ 0xef) (covered : (secondOfThree lead).covers second = true)
    (covered' : continuation.covers third = true) :
    utf8EncodeChar (Char.ofNat
        ((lead.toNat % 16 * 64 + second.toNat % 64) * 64 + third.toNat % 64)) =
      [lead, second, third] := by
  have bounds := secondOfThree_covers_iff.mp covered
  have bounds' := continuation_covers_iff.mp covered'
  generalize spells : (lead.toNat % 16 * 64 + second.toNat % 64) * 64 + third.toNat % 64 = value
  have valid : value.isValidChar := by unfold Nat.isValidChar; omega
  simp only [utf8EncodeChar, Char.toNat_val, toNat_ofNat valid]
  rw [if_neg (by omega), if_neg (by omega), if_pos (by omega),
    ofNat_eq_byte lead (by omega), ofNat_eq_byte second (by omega),
    ofNat_eq_byte third (by omega)]

theorem encodeChar_four {second third fourth : UInt8} (low : 0xf0 ≤ lead.toNat)
    (high : lead.toNat ≤ 0xf4) (covered : (secondOfFour lead).covers second = true)
    (covered' : continuation.covers third = true) (covered'' : continuation.covers fourth = true) :
    utf8EncodeChar (Char.ofNat
        (((lead.toNat % 8 * 64 + second.toNat % 64) * 64 + third.toNat % 64) * 64 +
          fourth.toNat % 64)) =
      [lead, second, third, fourth] := by
  have bounds := secondOfFour_covers_iff.mp covered
  have bounds' := continuation_covers_iff.mp covered'
  have bounds'' := continuation_covers_iff.mp covered''
  generalize spells : ((lead.toNat % 8 * 64 + second.toNat % 64) * 64 + third.toNat % 64) * 64 +
    fourth.toNat % 64 = value
  have valid : value.isValidChar := by unfold Nat.isValidChar; omega
  simp only [utf8EncodeChar, Char.toNat_val, toNat_ofNat valid]
  rw [if_neg (by omega), if_neg (by omega), if_neg (by omega),
    ofNat_eq_byte lead (by omega), ofNat_eq_byte second (by omega),
    ofNat_eq_byte third (by omega), ofNat_eq_byte fourth (by omega)]

/-- Every character beyond ASCII is written as a sequence that comes to its end. -/
theorem exists_sequence (beyond : 0x7f < c.toNat) :
    ∃ lead begun tail, utf8EncodeChar c = lead :: tail ∧ Opening.ofByte lead = .sequence begun ∧
      begun.EndsWith tail ∧ spelled begun.value tail = c.toNat := by
  have valid : c.toNat.isValidChar := c.valid
  unfold Nat.isValidChar at valid
  -- The last byte is the same in all three widths, and the one before it in two of them.
  have last : continuation.covers (.ofNat (c.toNat % 64 + 128)) = true := by
    simp only [continuation_covers_iff, UInt8.toNat_ofNat']
    omega
  have butLast : continuation.covers (.ofNat (c.toNat / 64 % 64 + 128)) = true := by
    simp only [continuation_covers_iff, UInt8.toNat_ofNat']
    omega
  by_cases two : c.toNat ≤ 0x7ff
  · refine ⟨_, _, [_], ?_, @ofByte_two (.ofNat (c.toNat / 64 % 32 + 192)) ?_ ?_,
      .cons last .nil, ?_⟩
    · simp only [utf8EncodeChar, Char.toNat_val]
      rw [if_neg (by omega), if_pos two]
    all_goals
      simp only [spelled, List.foldl, UInt8.toNat_ofNat']
      omega
  by_cases three : c.toNat ≤ 0xffff
  · refine ⟨_, _, [.ofNat (c.toNat / 64 % 64 + 128), _], ?_,
      @ofByte_three (.ofNat (c.toNat / 4096 % 16 + 224)) ?_ ?_,
      .cons (secondOfThree_covers_iff.mpr ?_) (.cons last .nil), ?_⟩
    · simp only [utf8EncodeChar, Char.toNat_val]
      rw [if_neg (by omega), if_neg two, if_pos three]
    all_goals
      simp only [spelled, List.foldl, UInt8.toNat_ofNat']
      omega
  · refine ⟨_, _, [.ofNat (c.toNat / 4096 % 64 + 128), _, _], ?_,
      @ofByte_four (.ofNat (c.toNat / 262144 % 8 + 240)) ?_ ?_,
      .cons (secondOfFour_covers_iff.mpr ?_) (.cons butLast (.cons last .nil)), ?_⟩
    · simp only [utf8EncodeChar, Char.toNat_val]
      rw [if_neg (by omega), if_neg two, if_neg three]
    all_goals
      simp only [spelled, List.foldl, UInt8.toNat_ofNat']
      omega

/-- The bytes of a character give the character. -/
theorem decodeFrom_encodeChar (position : Nat) (c : Char) (rest : List UInt8) :
    decodeFrom position none (utf8EncodeChar c ++ rest) =
      (decodeFrom (position + (utf8EncodeChar c).length) none rest).cons c := by
  by_cases ascii : c.toNat ≤ 0x7f
  · have single : utf8EncodeChar c = [.ofNat c.toNat] := by
      simp only [utf8EncodeChar, Char.toNat_val]
      rw [if_pos ascii]
    have number : (UInt8.ofNat c.toNat).toNat = c.toNat := by
      simp only [UInt8.toNat_ofNat']
      omega
    have opened := @ofByte_ascii (.ofNat c.toNat) (by rwa [number])
    rw [single, List.singleton_append, decodeFrom, opened, number, Char.ofNat_toNat]
    rfl
  · obtain ⟨lead, begun, tail, written, opened, ends, number⟩ :=
      exists_sequence (c := c) (by omega)
    rw [written, List.cons_append, decodeFrom, opened]
    simp only [decodeFrom_tail ends, number, Char.ofNat_toNat, List.length_cons, Nat.add_assoc,
      Nat.add_comm 1]

/-- The bytes of a text decode to the text. -/
theorem decode_encode (text : List Char) : decode (encode text) = ⟨text, none⟩ := by
  suffices all : ∀ position, decodeFrom position none (encode text) = ⟨text, none⟩ from all 0
  induction text with
  | nil => exact fun _ => rfl
  | cons c text ih =>
    intro position
    rw [encode, List.flatMap_cons, decodeFrom_encodeChar]
    exact congrArg (Decoded.cons c) (ih _)

/-! ### Texts that are cut off -/

theorem bytes_of_ofByte (opened : Opening.ofByte lead = .sequence begun) : begun.bytes = [lead] := by
  unfold Opening.ofByte at opened
  repeat' split at opened
  all_goals cases opened
  all_goals rfl

/-- A sequence that is cut off is told with all the bytes it has. -/
theorem decodeFrom_cutOff {front back : List UInt8} (ends : begun.EndsWith (front ++ back))
    (cutOff : back ≠ []) (position : Nat) :
    decodeFrom position (some begun) front =
      ⟨[], some ⟨position - begun.bytes.length, begun.bytes ++ front, .unexpectedEnd⟩⟩ := by
  induction front generalizing begun position with
  | nil => simp [decodeFrom, Sequence.fault]
  | cons byte front ih =>
    obtain ⟨bytes, value, next, later⟩ := begun
    obtain ⟨covered, others⟩ := List.forall₂_cons.mp ends
    cases later with
    | nil => simp_all
    | cons range later =>
      have onward : Sequence.EndsWith
          ⟨bytes ++ [byte], value * 64 + byte.toNat % 64, range, later⟩ (front ++ back) := others
      simp only [decodeFrom, covered, ↓reduceIte, ih onward, List.length_append,
        List.length_singleton, Nat.add_sub_add_right, List.append_assoc, List.singleton_append]

/-- The first bytes of a character alone. -/
theorem decodeFrom_cutOff_char {front back : List UInt8}
    (written : utf8EncodeChar c = lead :: front ++ back) (cutOff : back ≠ []) (position : Nat) :
    decodeFrom position none (lead :: front) =
      ⟨[], some ⟨position, lead :: front, .unexpectedEnd⟩⟩ := by
  by_cases ascii : c.toNat ≤ 0x7f
  · have single : (utf8EncodeChar c).length = 1 := by
      simp only [utf8EncodeChar, Char.toNat_val]
      rw [if_pos ascii, List.length_singleton]
    have several := List.length_pos_iff.mpr cutOff
    rw [written, List.cons_append, List.length_cons, List.length_append] at single
    omega
  · obtain ⟨lead', begun, tail, written', opened, ends, _⟩ := exists_sequence (c := c) (by omega)
    rw [written, List.cons_append] at written'
    cases written'
    rw [decodeFrom, opened]
    simp only [decodeFrom_cutOff ends cutOff, bytes_of_ofByte opened, List.length_singleton,
      Nat.add_sub_cancel, List.singleton_append]

/-- Bytes that stand at `position` decode to a text, and behind it are the first bytes of one
more character, if any. -/
structure DecodesTo (position : Nat) (bytes : List UInt8) (text : List Char)
    (pending : List UInt8) : Prop where
  split : bytes = encode text ++ pending
  decoded : pending = [] ∧ decodeFrom position none bytes = ⟨text, none⟩ ∨
    decodeFrom position none bytes =
      ⟨text, some ⟨position + (encode text).length, pending, .unexpectedEnd⟩⟩

theorem encode_cons (c : Char) (text : List Char) :
    encode (c :: text) = utf8EncodeChar c ++ encode text := List.flatMap_cons

/-- A whole character can stand in front. -/
theorem DecodesTo.cons {pending : List UInt8}
    (others : DecodesTo (position + (utf8EncodeChar c).length) rest text pending) :
    DecodesTo position (utf8EncodeChar c ++ rest) (c :: text) pending where
  split := by rw [others.split, encode_cons, List.append_assoc]
  decoded := by
    rw [decodeFrom_encodeChar]
    rcases others.decoded with ⟨nothing, decoded⟩ | decoded
    · exact .inl ⟨nothing, by rw [decoded]; rfl⟩
    · right
      rw [decoded, encode_cons, List.length_append, Nat.add_assoc]
      rfl

/-- The first bytes of a text are whole characters of it and perhaps a part of one more. -/
theorem exists_decodesTo {front back : List UInt8} (whole : front ++ back = encode text)
    (position : Nat) :
    ∃ earlier later pending, text = earlier ++ later ∧ pending ++ back = encode later ∧
      DecodesTo position front earlier pending := by
  induction text generalizing front position with
  | nil =>
    obtain ⟨rfl, rfl⟩ := List.append_eq_nil_iff.mp whole
    exact ⟨[], [], [], rfl, rfl, rfl, .inl ⟨rfl, rfl⟩⟩
  | cons c text ih =>
    have behind (rest : List UInt8) (split : rest ++ back = encode text) :
        ∃ earlier later pending, c :: text = earlier ++ later ∧ pending ++ back = encode later ∧
          DecodesTo position (utf8EncodeChar c ++ rest) earlier pending := by
      obtain ⟨earlier, later, pending, rfl, others, decodes⟩ := ih split _
      exact ⟨c :: earlier, later, pending, rfl, others, decodes.cons⟩
    rw [encode_cons] at whole
    rcases List.append_eq_append_iff.mp whole with ⟨cut, written, rfl⟩ | ⟨rest, rfl, split⟩
    · by_cases cutOff : cut = []
      · subst cutOff
        rw [List.append_nil] at written
        rw [← written, ← List.append_nil (utf8EncodeChar c)]
        exact behind [] rfl
      · refine ⟨[], c :: text, front, rfl, ?_, rfl, ?_⟩
        · rw [encode_cons, written, List.append_assoc]
        · cases front with
          | nil => exact .inl ⟨rfl, rfl⟩
          | cons lead front => exact .inr (decodeFrom_cutOff_char written cutOff position)
    · exact behind rest split.symm

/-- Bytes in which no fault is found begin with the bytes of a character. -/
theorem exists_encodeChar (sound : (decodeFrom position none (lead :: bytes)).fault = none) :
    ∃ c rest, lead :: bytes = utf8EncodeChar c ++ rest := by
  rw [decodeFrom] at sound
  by_cases ascii : lead.toNat ≤ 0x7f
  · refine ⟨Char.ofNat lead.toNat, bytes, ?_⟩
    have valid : lead.toNat.isValidChar := .inl (by omega)
    simp only [utf8EncodeChar, Char.toNat_val, toNat_ofNat valid]
    rw [if_pos ascii, UInt8.ofNat_toNat, List.singleton_append]
  by_cases outside : lead.toNat < 0xc2 ∨ 0xf4 < lead.toNat
  · rw [ofByte_invalid (by omega) outside] at sound
    cases sound
  by_cases two : lead.toNat ≤ 0xdf
  · rw [ofByte_two (by omega) two] at sound
    obtain ⟨tail, rest, rfl, _ | ⟨covered, _ | _⟩⟩ := exists_tail sound
    exact ⟨_, rest, by rw [encodeChar_two (by omega) two covered]; rfl⟩
  by_cases three : lead.toNat ≤ 0xef
  · rw [ofByte_three (by omega) three] at sound
    obtain ⟨tail, rest, rfl, _ | ⟨covered, _ | ⟨covered', _ | _⟩⟩⟩ := exists_tail sound
    exact ⟨_, rest, by rw [encodeChar_three (by omega) three covered covered']; rfl⟩
  · rw [ofByte_four (by omega) (by omega)] at sound
    obtain ⟨tail, rest, rfl, _ | ⟨covered, _ | ⟨covered', _ | ⟨covered'', _ | _⟩⟩⟩⟩ :=
      exists_tail sound
    exact ⟨_, rest, by
      rw [encodeChar_four (by omega) (by omega) covered covered' covered'']; rfl⟩

/-- Bytes in which no fault is found are the bytes of a text. -/
theorem exists_encode (position : Nat) (bytes : List UInt8)
    (sound : (decodeFrom position none bytes).fault = none) : ∃ text, bytes = encode text := by
  cases shape : bytes with
  | nil => exact ⟨[], rfl⟩
  | cons lead later =>
    rw [shape] at sound
    obtain ⟨c, rest, written⟩ := exists_encodeChar sound
    rw [written, decodeFrom_encodeChar] at sound
    have shorter : rest.length < bytes.length := by
      have nonempty := List.length_pos_iff.mpr (String.utf8EncodeChar_ne_nil (c := c))
      have length := congrArg List.length (shape.trans written)
      rw [List.length_append] at length
      omega
    obtain ⟨text, rfl⟩ := exists_encode _ rest sound
    exact ⟨c :: text, written⟩
termination_by bytes.length

/-- Decoding finds no fault exactly in the bytes of texts. -/
theorem fault_eq_none_iff : (decode bytes).fault = none ↔ ∃ text, bytes = encode text := by
  constructor
  · exact exists_encode 0 bytes
  · rintro ⟨text, rfl⟩
    rw [decode_encode]

end ScriptLexer.Text.Utf8
