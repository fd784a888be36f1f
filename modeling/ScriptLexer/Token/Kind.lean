import ScriptLexer.Token.Keyword

/-! The kinds of token and their numbering. Marks come first, then the three kinds
whose lexemes vary, the reserved words as one block, and the end of the input. -/
namespace ScriptLexer

/-- What a token is. -/
inductive Kind
  | leftParen | rightParen | leftBrace | rightBrace
  | comma | dot | minus | plus | semicolon | slash | star
  | bang | bangEqual | equal | equalEqual | greater | greaterEqual | less | lessEqual
  | identifier | string | number
  | reserved (word : Keyword)
  | endOfInput
deriving DecidableEq

namespace Kind

/-- All kinds, in the order of their numbers. -/
def all : List Kind :=
  [leftParen, rightParen, leftBrace, rightBrace, comma, dot, minus, plus, semicolon, slash, star,
   bang, bangEqual, equal, equalEqual, greater, greaterEqual, less, lessEqual,
   identifier, string, number] ++ Keyword.all.map reserved ++ [endOfInput]

/-- The place of a kind in the order, counted from one. -/
def ordinal (kind : Kind) : Nat := all.idxOf kind + 1

/-- Whether a kind lies in the block of the reserved words, which `and` begins and
`while` ends. -/
def isKeyword (kind : Kind) : Bool :=
  (reserved .andWord).ordinal ≤ kind.ordinal && kind.ordinal ≤ (reserved .whileWord).ordinal

/-- The name under which a kind is shown. A reserved word is shown in capitals. -/
def name : Kind → List Char
  | leftParen => "LEFT_PAREN".toList
  | rightParen => "RIGHT_PAREN".toList
  | leftBrace => "LEFT_BRACE".toList
  | rightBrace => "RIGHT_BRACE".toList
  | comma => "COMMA".toList
  | dot => "DOT".toList
  | minus => "MINUS".toList
  | plus => "PLUS".toList
  | semicolon => "SEMICOLON".toList
  | slash => "SLASH".toList
  | star => "STAR".toList
  | bang => "BANG".toList
  | bangEqual => "BANG_EQUAL".toList
  | equal => "EQUAL".toList
  | equalEqual => "EQUAL_EQUAL".toList
  | greater => "GREATER".toList
  | greaterEqual => "GREATER_EQUAL".toList
  | less => "LESS".toList
  | lessEqual => "LESS_EQUAL".toList
  | identifier => "IDENTIFIER".toList
  | string => "STRING".toList
  | number => "NUMBER".toList
  | reserved word => word.spelling.map Char.toUpper
  | endOfInput => "EOF".toList

/-- The kind of a name. -/
def ofName? (text : List Char) : Option Kind := all.find? fun kind => kind.name == text

/-- The kind of a token that is written like a name: that of the reserved word it
spells, if it spells one. -/
def ofWord (text : List Char) : Kind :=
  match Keyword.ofText? text with
  | some word => reserved word
  | none => identifier

/-- The block of the reserved words holds nothing else. -/
theorem isKeyword_iff {kind : Kind} : kind.isKeyword ↔ ∃ word, kind = reserved word := by
  cases kind with
  | reserved word => exact ⟨fun _ => ⟨word, rfl⟩, fun _ => by cases word <;> decide⟩
  | _ => exact ⟨fun block => absurd block (by decide), by rintro ⟨_, ⟨⟩⟩⟩

end Kind

end ScriptLexer
