import ScriptLexer.Text.Alphabetic
import ScriptLexer.Text.Numeral
import ScriptLexer.Token.Kind

/-! The characters of a script by the part they play outside strings and comments.
Each character begins one sort of lexeme, blank or comment, or none. -/
namespace ScriptLexer.Source

open Text

/-- The marks that stand alone. A slash is one of them only where no comment
begins. -/
def loneMark? : Char → Option Kind
  | '(' => some .leftParen
  | ')' => some .rightParen
  | '{' => some .leftBrace
  | '}' => some .rightBrace
  | ',' => some .comma
  | '.' => some .dot
  | '-' => some .minus
  | '+' => some .plus
  | ';' => some .semicolon
  | '*' => some .star
  | _ => none

/-- The marks that an equals sign extends: the kind without it and the kind with
it. -/
def extensibleMark? : Char → Option (Kind × Kind)
  | '!' => some (.bang, .bangEqual)
  | '=' => some (.equal, .equalEqual)
  | '<' => some (.less, .lessEqual)
  | '>' => some (.greater, .greaterEqual)
  | _ => none

/-- A character with which a name begins. -/
def isNameStart (c : Char) : Bool := c == '_' || isAlphabetic c

/-- A character with which a name goes on. -/
def isNamePart (c : Char) : Bool := isNameStart c || isNumeral c

/-- A blank inside a line. Other white space of Unicode has no place in a script
outside strings and comments. -/
def isPadding (c : Char) : Bool := c == ' ' || c == '\r' || c == '\t'

/-- What a character can begin outside strings and comments. -/
inductive Opening
  | mark (kind : Kind)
  | extensibleMark (bare extended : Kind)
  /-- A comment or a mark, as the next character decides. -/
  | slash
  | padding
  | lineEnd
  | string
  | number
  | name
  /-- The character has no place in a script. -/
  | nothing
deriving DecidableEq

/-- What a character begins. -/
def opening (c : Char) : Opening :=
  match loneMark? c, extensibleMark? c with
  | some kind, _ => .mark kind
  | none, some (bare, extended) => .extensibleMark bare extended
  | none, none =>
    if c = '/' then .slash
    else if isPadding c then .padding
    else if c = '\n' then .lineEnd
    else if c = '"' then .string
    else if c.isDigit then .number
    else if isNameStart c then .name
    else .nothing

section Lemmas

variable {c : Char}

/-- What it takes of a character to begin what an opening says. -/
def Opening.Fits (c : Char) : Opening → Prop
  | .mark kind => loneMark? c = some kind
  | .extensibleMark bare extended => extensibleMark? c = some (bare, extended)
  | .slash => c = '/'
  | .padding => isPadding c = true
  | .lineEnd => c = '\n'
  | .string => c = '"'
  | .number => c.isDigit = true
  | .name => isNameStart c = true
  | .nothing => c ≠ '\n' ∧ c ≠ '"'

/-- A character is what its opening says. -/
theorem opening_fits (c : Char) : (opening c).Fits c := by
  unfold opening
  split
  · assumption
  · assumption
  · repeat' split
    all_goals simp_all [Opening.Fits]

theorem eq_of_isPadding (padding : isPadding c = true) : c = ' ' ∨ c = '\r' ∨ c = '\t' := by
  simpa [isPadding, or_assoc] using padding

/-- The characters with a part of their own: marks, slash, blanks, line end, quote. -/
def signs : List Char :=
  ['(', ')', '{', '}', ',', '.', '-', '+', ';', '*', '!', '=', '<', '>', '/', ' ', '\r', '\t',
   '\n', '"']

theorem opening_of_not_sign (plain : c ∉ signs) :
    opening c = if c.isDigit then .number else if isNameStart c then .name else .nothing := by
  simp only [signs, List.mem_cons, List.not_mem_nil, or_false, not_or] at plain
  have lone : loneMark? c = none := by
    unfold loneMark?
    split <;> simp_all
  have extensible : extensibleMark? c = none := by
    unfold extensibleMark?
    split <;> simp_all
  simp [opening, lone, extensible, isPadding, plain]

theorem isDigit_bounds (digit : c.isDigit = true) : 48 ≤ c.toNat ∧ c.toNat ≤ 57 := by
  simpa [Char.isDigit, UInt32.le_iff_toNat_le] using digit

theorem isNameStart_of_isDigit (digit : c.isDigit = true) : isNameStart c = false := by
  obtain ⟨others, table⟩ : ∃ others, alphabeticRanges = ⟨0x41, 0x5a⟩ :: others := ⟨_, rfl⟩
  have low : c.toNat < 0x41 := by have bounds := isDigit_bounds digit; omega
  have plain : c ≠ '_' := by rintro rfl; contradiction
  simp [isNameStart, isAlphabetic, table, Range.anyCovers, low, plain]

/-- A digit begins a number and nothing else. -/
theorem opening_of_isDigit (digit : c.isDigit = true) : opening c = .number := by
  have signless : signs.any Char.isDigit = false := by decide
  have plain : c ∉ signs := fun sign => List.any_eq_false.mp signless c sign digit
  rw [opening_of_not_sign plain, if_pos digit]

/-- The characters of names have no other part. -/
theorem isNamePart_of_mem_signs (sign : c ∈ signs) : isNamePart c = false := by
  have signless : signs.any isNamePart = false := by decide
  simpa using List.any_eq_false.mp signless c sign

theorem isNamePart_of_isNameStart (begins : isNameStart c = true) : isNamePart c = true := by
  simp [isNamePart, begins]

/-- A letter begins a name and nothing else. -/
theorem opening_of_isNameStart (begins : isNameStart c = true) : opening c = .name := by
  have plain : c ∉ signs := by
    intro sign
    have part := isNamePart_of_isNameStart begins
    simp [isNamePart_of_mem_signs sign] at part
  have letter : c.isDigit = false := by
    rw [Bool.eq_false_iff]
    intro digit
    simp [isNameStart_of_isDigit digit] at begins
  simp [opening_of_not_sign plain, letter, begins]

end Lemmas

end ScriptLexer.Source
