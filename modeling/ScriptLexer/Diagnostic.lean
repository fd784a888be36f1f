import ScriptLexer.Text.Numerals

/-! Diagnostics and the errors built from them. A diagnostic is what the lexer
reports about a place in a script; scanning goes on after it. An error is what a
caller can be given afterwards: a diagnostic by itself, all diagnostics of a scan
with their report, or a plain message. -/
namespace ScriptLexer

open Text

/-- What is wrong at one line of a script. -/
inductive Diagnostic
  /-- Any complaint, with a note on the place that is shown before the message. -/
  | general (message : List Char) (line : Int) (place : List Char)
  /-- The script ends inside a string, on the given line. -/
  | unterminatedString (line : Int)
  /-- Something in the script begins no token. -/
  | unexpectedCharacter (found : List Char) (line : Int)
deriving DecidableEq

namespace Diagnostic

def message : Diagnostic → List Char
  | general message _ _ => message
  | unterminatedString _ => "Unterminated string".toList
  | unexpectedCharacter _ _ => "Unexpected character".toList

def line : Diagnostic → Int
  | general _ line _ => line
  | unterminatedString line => line
  | unexpectedCharacter _ line => line

/-- The note on the place. The lexer itself makes none. -/
def place : Diagnostic → List Char
  | general _ _ place => place
  | unterminatedString _ | unexpectedCharacter _ _ => []

/-- The one line in which a diagnostic is shown. -/
def print (diagnostic : Diagnostic) : List Char :=
  "[line ".toList ++ signedDecimal diagnostic.line ++ "] Error".toList ++ diagnostic.place ++
    ": ".toList ++ diagnostic.message

end Diagnostic

/-- An error of the lexer. -/
inductive LexicalError
  | plain (message : List Char)
  /-- An error about one place of a script. -/
  | located (diagnostic : Diagnostic)
  /-- Collected errors, with the report that was written about them. -/
  | collected (errors : List LexicalError) (report : List Char)

namespace LexicalError

/-- The text of an error. Collected errors are shown by their report. -/
def print : LexicalError → List Char
  | plain message => message
  | located diagnostic => diagnostic.print
  | collected _ report => report

/-- The diagnostic, if the error is about one place of a script. -/
def diagnostic? : LexicalError → Option Diagnostic
  | located diagnostic => some diagnostic
  | plain _ | collected _ _ => none

end LexicalError

end ScriptLexer
