import ScriptLexer.Number.Printed
import ScriptLexer.Text.Quoted

/-! Literal values: what a token stands for beyond its kind. Tokens of a script
carry numbers and texts only; truth values and nil belong to the values of the
language and are printed and compared like the others. -/
namespace ScriptLexer

/-- A value of the script language. -/
inductive Literal
  | boolean (value : Bool)
  | nil
  | number (value : Binary64)
  | text (value : List Char)
deriving DecidableEq

namespace Literal

open Text

/-- A truth value and nil are shown as they are spelled in a script, a number by
its shortest decimal and a text in quotes. -/
def print : Literal → List Char
  | boolean true => "true".toList
  | boolean false => "false".toList
  | nil => "nil".toList
  | number value => value.print
  | text value => quoted value

/-- Values of one kind with equal contents, where numbers are equal as numbers. -/
def equals : Literal → Literal → Bool
  | boolean value, boolean value' => value == value'
  | nil, nil => true
  | number value, number value' => value.equals value'
  | text value, text value' => value == value'
  | _, _ => false

end Literal

end ScriptLexer
