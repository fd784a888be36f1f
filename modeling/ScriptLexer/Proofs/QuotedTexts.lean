import ScriptLexer.Text.Delimited
import ScriptLexer.Text.Quoted

/-! Quoted texts can be read back. Each character between the two marks tells where it ends,
escaped or not, and only the closing mark stands bare. So a quoted text can be told from
whatever stands behind it, and no two texts are quoted alike. -/
namespace ScriptLexer.Text

/-! ### Hexadecimal digits -/

/-- The number that hexadecimal digits stand for. -/
def hexadecimalValue (digits : List Char) : Nat :=
  digits.foldl (fun value c => 16 * value + "0123456789abcdef".toList.idxOf c) 0

theorem idxOf_digitChar {digit : Nat} (below : digit < 16) :
    "0123456789abcdef".toList.idxOf digit.digitChar = digit := by
  have all : (List.range 16).all
      (fun digit => "0123456789abcdef".toList.idxOf digit.digitChar == digit) = true := by decide
  exact eq_of_beq (List.all_eq_true.mp all digit (List.mem_range.mpr below))

theorem hexadecimalValue_concat (digits : List Char) {digit : Nat} (below : digit < 16) :
    hexadecimalValue (digits ++ [digit.digitChar]) = 16 * hexadecimalValue digits + digit := by
  rw [hexadecimalValue, List.foldl_append, ← hexadecimalValue, List.foldl_cons, List.foldl_nil,
    idxOf_digitChar below]

theorem hexadecimalValue_toDigits (n : Nat) : hexadecimalValue (Nat.toDigits 16 n) = n := by
  induction n using Nat.strongRecOn with
  | ind n ih =>
    rw [Nat.toDigits_eq_if (by decide)]
    split
    · rename_i below
      simpa [hexadecimalValue] using hexadecimalValue_concat [] below
    · have last : n % 16 < 16 := Nat.mod_lt n (by decide)
      have shorter : n / 16 < n := Nat.div_lt_self (by omega) (by decide)
      rw [hexadecimalValue_concat _ last, ih _ shorter]
      exact Nat.div_add_mod n 16

/-- Digits that are filled up with zeros are read back. -/
theorem hexadecimalValue_hexadecimal (width n : Nat) :
    hexadecimalValue (hexadecimal width n) = n := by
  have zeros (count : Nat) : (List.replicate count '0').foldl
      (fun value c => 16 * value + "0123456789abcdef".toList.idxOf c) 0 = 0 := by
    induction count with
    | zero => rfl
    | succ count ih => rwa [List.replicate_succ, List.foldl_cons]
  rw [hexadecimal, List.leftpad, hexadecimalValue, List.foldl_append, zeros]
  exact hexadecimalValue_toDigits n

theorem length_hexadecimal {width n : Nat} (positive : 0 < width) (fits : n < Nat.pow 16 width) :
    (hexadecimal width n).length = width := by
  have short := (Nat.length_toDigits_le_iff (b := 16) (by decide) positive).mpr fits
  rw [hexadecimal, List.length_leftpad, Nat.max_eq_left short]

/-! ### Characters between two marks -/

/-- The character with a number of so many hexadecimal digits, and what follows it. -/
def readNumbered (width : Nat) (text : List Char) : Char × List Char :=
  (Char.ofNat (hexadecimalValue (text.take width)), text.drop width)

/-- The character that is written behind a backslash, and what follows it. -/
def readEscape : List Char → Option (Char × List Char)
  | [] => none
  | c :: text =>
    if c = 't' then some ('\t', text)
    else if c = 'n' then some ('\n', text)
    else if c = 'r' then some ('\r', text)
    else if c = 'x' then some (readNumbered 2 text)
    else if c = 'u' then some (readNumbered 4 text)
    else if c = 'U' then some (readNumbered 8 text)
    else some (c, text)

/-- The first character in front of the closing mark, and what follows it. -/
def readQuotedChar (mark : Char) : List Char → Option (Char × List Char)
  | [] => none
  | c :: text =>
    if c = mark then none
    else if c = '\\' then readEscape text
    else some (c, text)

theorem readQuotedChar_mark (mark : Char) (rest : List Char) :
    readQuotedChar mark (mark :: rest) = none := if_pos rfl

theorem readNumbered_hexadecimal {width : Nat} (positive : 0 < width) {c : Char}
    (fits : c.toNat < Nat.pow 16 width) (rest : List Char) :
    readNumbered width (hexadecimal width c.toNat ++ rest) = (c, rest) := by
  have length := length_hexadecimal positive fits
  rw [readNumbered, List.take_left' length, List.drop_left' length, hexadecimalValue_hexadecimal,
    Char.ofNat_toNat]

variable {shown : Char → Bool} {mark : Char} {first second rest rest' : List Char}

/-- A character in quoted form is read back, whatever follows it. -/
theorem readQuotedChar_quotedChar (isMark : mark = '\'' ∨ mark = '"') (c : Char)
    (rest : List Char) :
    readQuotedChar mark (quotedChar shown mark c ++ rest) = some (c, rest) := by
  have backslash (text : List Char) : readQuotedChar mark ('\\' :: text) = readEscape text := by
    rcases isMark with rfl | rfl <;> rfl
  unfold quotedChar
  split
  · rename_i escaped
    rw [List.cons_append, backslash]
    rcases escaped with rfl | rfl
    · rcases isMark with rfl | rfl <;> rfl
    · rfl
  rename_i bare
  rw [not_or] at bare
  split
  · rename_i tab
    rw [List.cons_append, backslash, tab]
    rfl
  split
  · rename_i lineFeed
    rw [List.cons_append, backslash, lineFeed]
    rfl
  split
  · rename_i carriageReturn
    rw [List.cons_append, backslash, carriageReturn]
    rfl
  split
  · rw [List.singleton_append, readQuotedChar, if_neg bare.1, if_neg bare.2]
  unfold numberedChar
  split
  · rename_i narrow
    rw [List.cons_append, backslash]
    exact congrArg some (readNumbered_hexadecimal (by decide) narrow rest)
  split
  · rename_i narrow
    rw [List.cons_append, backslash]
    exact congrArg some (readNumbered_hexadecimal (by decide) narrow rest)
  · have fits : c.toNat < Nat.pow 16 8 := c.val.toNat_lt
    rw [List.cons_append, backslash]
    exact congrArg some (readNumbered_hexadecimal (by decide) fits rest)

/-- What stands between the marks is told from what stands behind the closing mark. -/
theorem flatMap_quotedChar_inj (isMark : mark = '\'' ∨ mark = '"')
    (same : first.flatMap (quotedChar shown mark) ++ mark :: rest =
      second.flatMap (quotedChar shown mark) ++ mark :: rest') :
    first = second ∧ rest = rest' := by
  -- The reader takes one character off both sides at a time, or finds the closing mark on both.
  induction first generalizing second with
  | nil =>
    cases second with
    | nil => exact ⟨rfl, (List.cons.inj same).2⟩
    | cons d second =>
      have read := congrArg (readQuotedChar mark) same
      rw [List.flatMap_cons, List.append_assoc, readQuotedChar_quotedChar isMark] at read
      rw [List.flatMap_nil, List.nil_append, readQuotedChar_mark] at read
      exact absurd read (by simp)
  | cons c first ih =>
    have read := congrArg (readQuotedChar mark) same
    rw [List.flatMap_cons, List.append_assoc, readQuotedChar_quotedChar isMark] at read
    cases second with
    | nil =>
      rw [List.flatMap_nil, List.nil_append, readQuotedChar_mark] at read
      exact absurd read (by simp)
    | cons d second =>
      rw [List.flatMap_cons, List.append_assoc, readQuotedChar_quotedChar isMark] at read
      obtain ⟨rfl, behind⟩ := Prod.mk.inj (Option.some.inj read)
      obtain ⟨rfl, rfl⟩ := ih behind
      exact ⟨rfl, rfl⟩

theorem quoteMark_eq (text : List Char) : quoteMark text = '\'' ∨ quoteMark text = '"' := by
  unfold quoteMark
  split
  · exact .inr rfl
  · exact .inl rfl

/-- A quoted text tells where it ends, and what it quotes. -/
theorem quoted_selfDelimiting : SelfDelimiting quoted := by
  intro first second rest rest' same
  unfold quoted quotedWith at same
  rw [List.cons_append, List.cons_append, List.append_assoc, List.append_assoc] at same
  obtain ⟨marks, between⟩ := List.cons.inj same
  rw [← marks] at between
  exact flatMap_quotedChar_inj (quoteMark_eq first) between

end ScriptLexer.Text
