import ScriptLexer.Token.Kind
import ScriptLexer.Token.Literal

/-! Tokens and their one-line text. -/
namespace ScriptLexer

open Text

/-- A token: its kind, the part of the source it was read from, the value it
stands for if it has one, and the line on which it ends. -/
structure Token where
  kind : Kind
  lexeme : List Char
  literal : Option Literal
  line : Int
deriving DecidableEq

namespace Token

/-- The token that ends every list of tokens. It has no lexeme. -/
def endOfInput (line : Int) : Token := ⟨.endOfInput, [], none, line⟩

/-- Whether the token is a reserved word. -/
def isKeyword (token : Token) : Bool := token.kind.isKeyword

/-- The text of a literal, or of its absence. -/
def printLiteral : Option Literal → List Char
  | none => "None".toList
  | some literal => literal.print

/-- The text of a token: the four fields in order, with the lexeme in quotes. -/
def print (token : Token) : List Char :=
  "Token(".toList ++ token.kind.name ++ ", ".toList ++ quoted token.lexeme ++ ", ".toList ++
    printLiteral token.literal ++ ", ".toList ++ signedDecimal token.line ++ [')']

/-- Tokens that agree in kind, lexeme and line and have equal literals. -/
def equals (token other : Token) : Bool :=
  token.kind == other.kind && token.lexeme == other.lexeme &&
    (match token.literal, other.literal with
      | none, none => true
      | some literal, some literal' => literal.equals literal'
      | _, _ => false) &&
    token.line == other.line

end Token

end ScriptLexer
