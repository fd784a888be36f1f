import ScriptLexer.Number.Shortest

/-! The text of a number: the digits of its shortest decimal, with a point and at
least one digit after it for sizes from a ten-thousandth up to sixteen digits
before the point, and with a power of ten for all others. -/
namespace ScriptLexer

open Text

/-- Significant digits, the first of which counts for `10 ^ exponent`. -/
structure Scientific where
  digits : List Char
  exponent : Int
deriving DecidableEq

namespace Scientific

/-- The significant digits of a decimal, zeros at the end left out. -/
def ofDecimal (number : Decimal) : Scientific :=
  let digits := decimal number.coefficient
  { digits := (digits.reverse.dropWhile (· == '0')).reverse
    exponent := number.exponent + (digits.length - 1 : Nat) }

/-- Positional writing, with a point and at least one digit on either side. -/
def positional (number : Scientific) : List Char :=
  match number.exponent with
  | .ofNat exponent =>
    let whole := number.digits.take (exponent + 1)
    let fraction := number.digits.drop (exponent + 1)
    whole.rightpad (exponent + 1) '0' ++ '.' :: (if fraction.isEmpty then ['0'] else fraction)
  | .negSucc zeros => '0' :: '.' :: List.replicate zeros '0' ++ number.digits

/-- Writing with a power of ten, whose sign is always given and which has at
least two digits. -/
def exponential (number : Scientific) : List Char :=
  let places := number.digits.drop 1
  let sign := if number.exponent < 0 then '-' else '+'
  number.digits.take 1 ++ (if places.isEmpty then [] else '.' :: places) ++
    'e' :: sign :: (decimal number.exponent.natAbs).leftpad 2 '0'

/-- Powers of ten from the fourth below one up to the fifteenth are written
positionally. -/
def print (number : Scientific) : List Char :=
  if -4 ≤ number.exponent ∧ number.exponent < 16 then number.positional else number.exponential

end Scientific

namespace Binary64

/-- The text of a magnitude. -/
def Magnitude.print (magnitude : Magnitude) : List Char :=
  if magnitude.units = 0 then "0.0".toList
  else (Scientific.ofDecimal magnitude.shortest).print

/-- The text of a number. The sign of zero is shown, and what is no number has
none. -/
def print : Binary64 → List Char
  | .nan => "nan".toList
  | .infinite negative => (if negative then ['-'] else []) ++ "inf".toList
  | .finite negative magnitude => (if negative then ['-'] else []) ++ magnitude.print

end Binary64

end ScriptLexer
