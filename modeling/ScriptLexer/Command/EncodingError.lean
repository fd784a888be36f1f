import ScriptLexer.Text.Quoted
import ScriptLexer.Text.Utf8

/-! Errors of an encoding: bytes that cannot be read as text and texts that cannot be
written as bytes. Both name the part of the input they are about and the reason. -/
namespace ScriptLexer.Command

open Text

/-- Bytes that are no text in the encoding they are read in. -/
structure DecodingError where
  encoding : List Char
  input : List UInt8
  start : Int
  /-- The offset after the last byte in question. -/
  stop : Int
  reason : List Char
deriving DecidableEq

/-- A text that cannot be written in an encoding. -/
structure EncodingError where
  encoding : List Char
  input : List Char
  start : Int
  /-- The offset after the last character in question. -/
  stop : Int
  reason : List Char
deriving DecidableEq

/-- The element at the start of a range that holds no other. -/
def onlyElement? {α : Type} (input : List α) (start stop : Int) : Option α :=
  if 0 ≤ start ∧ stop = start + 1 then input[start.toNat]? else none

/-- What an error of an encoding says about the part of the input it is about. A
single element is named, several are given by their offsets. -/
def encodingWords (encoding : List Char) (attempt : String) (only? : Option (List Char))
    (start stop : Int) (reason : List Char) : List Char :=
  '\'' :: encoding ++ "' codec can't ".toList ++ attempt.toList ++
    (match only? with
      | some only => only ++ " in position ".toList ++ signedDecimal start
      | none =>
        "s in position ".toList ++ signedDecimal start ++ ['-'] ++ signedDecimal (stop - 1)) ++
    ": ".toList ++ reason

namespace DecodingError

def words (error : DecodingError) : List Char :=
  encodingWords error.encoding "decode byte"
    ((onlyElement? error.input error.start error.stop).map fun byte =>
      " 0x".toList ++ hexadecimal 2 byte.toNat)
    error.start error.stop error.reason

/-- What is wrong with a sequence of bytes, in words. -/
def reasonOf : Utf8.Cause → List Char
  | .invalidStart => "invalid start byte".toList
  | .invalidContinuation => "invalid continuation byte".toList
  | .unexpectedEnd => "unexpected end of data".toList

/-- The error of an ill-formed sequence in an input. -/
def ofFault (input : List UInt8) (fault : Utf8.Fault) : DecodingError :=
  { encoding := "utf-8".toList
    input
    start := fault.position
    stop := fault.position + fault.bytes.length
    reason := reasonOf fault.cause }

end DecodingError

namespace EncodingError

def words (error : EncodingError) : List Char :=
  encodingWords error.encoding "encode character"
    ((onlyElement? error.input error.start error.stop).map fun c =>
      " '".toList ++ numberedChar c ++ ['\''])
    error.start error.stop error.reason

end EncodingError

end ScriptLexer.Command
