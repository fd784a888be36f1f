/-! The reserved words of the script language. A word is reserved exactly as it is
spelled here; no other spelling of it, in capitals for instance, is. -/
namespace ScriptLexer

/-- The sixteen reserved words. -/
inductive Keyword
  | andWord | classWord | elseWord | falseWord | funWord | forWord | ifWord | nilWord
  | orWord | printWord | returnWord | superWord | thisWord | trueWord | varWord | whileWord
deriving DecidableEq

namespace Keyword

/-- All reserved words, in the order in which token kinds are numbered. -/
def all : List Keyword :=
  [andWord, classWord, elseWord, falseWord, funWord, forWord, ifWord, nilWord,
   orWord, printWord, returnWord, superWord, thisWord, trueWord, varWord, whileWord]

/-- How a word is written in a script. -/
def spelling : Keyword → List Char
  | andWord => "and".toList
  | classWord => "class".toList
  | elseWord => "else".toList
  | falseWord => "false".toList
  | funWord => "fun".toList
  | forWord => "for".toList
  | ifWord => "if".toList
  | nilWord => "nil".toList
  | orWord => "or".toList
  | printWord => "print".toList
  | returnWord => "return".toList
  | superWord => "super".toList
  | thisWord => "this".toList
  | trueWord => "true".toList
  | varWord => "var".toList
  | whileWord => "while".toList

/-- The reserved word that a text spells. -/
def ofText? (text : List Char) : Option Keyword :=
  all.find? fun word => word.spelling == text

/-- No word is left out of the list. -/
theorem mem_all (word : Keyword) : word ∈ all := by cases word <;> decide

/-- A text spells at most one word, and each word is found by its spelling. -/
theorem ofText?_eq_some_iff {text : List Char} {word : Keyword} :
    ofText? text = some word ↔ text = word.spelling := by
  constructor
  · intro found
    have same : word.spelling = text := by simpa using List.find?_some found
    exact same.symm
  · rintro rfl
    cases word <;> decide

end Keyword

end ScriptLexer
