/-! Integers written in digits: decimal for counts and line numbers, hexadecimal
of a fixed width for code points and bytes. -/
namespace ScriptLexer.Text

/-- The decimal digits of a natural number, without leading zeros. -/
def decimal (n : Nat) : List Char := Nat.toDigits 10 n

/-- The decimal digits of an integer, after a minus sign if it is negative. -/
def signedDecimal : Int → List Char
  | .ofNat n => decimal n
  | .negSucc n => '-' :: decimal (n + 1)

/-- The lower-case hexadecimal digits of a number, filled up with zeros to a
width. -/
def hexadecimal (width n : Nat) : List Char :=
  (Nat.toDigits 16 n).leftpad width '0'

end ScriptLexer.Text
