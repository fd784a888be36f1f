import ScriptLexer.Number.Rounding
import ScriptLexer.Text.Numerals

/-! The shortest decimal of a number: the fewest significant digits that round to
it, and of the decimals with so many digits the nearest to it. A decimal with `n`
digits near a number is one of the number's two neighbours on the grid of such
decimals, so the search looks at two decimals for each count of digits. -/
namespace ScriptLexer

open Text

/-- The number `coefficient * 10 ^ exponent`. -/
structure Decimal where
  coefficient : Nat
  exponent : Int
deriving DecidableEq

namespace Binary64.Magnitude

/-- How many decimal places a magnitude has. They are as many as its binary
places, which are those of a unit less the zeros at their end. -/
def decimalPlaces (magnitude : Magnitude) : Nat :=
  1074 - (Nat.gcd magnitude.units unitsPerOne).log2

/-- The magnitude, exactly, as a count of its last decimal place. -/
def lastPlaces (magnitude : Magnitude) : Nat :=
  magnitude.units * Nat.pow 10 magnitude.decimalPlaces / unitsPerOne

/-- A neighbour of the magnitude on the grid of decimals that do without its last
`dropped` places, if one rounds to the magnitude. The nearer of the two neighbours
is tried before the other, and of two equally near ones the even. -/
def neighbour? (magnitude : Magnitude) (dropped : Nat) : Option Decimal :=
  let exact := magnitude.lastPlaces
  let distance := Nat.pow 10 dropped
  let below := exact / distance
  let nearer := roundHalfEven exact distance
  let farther := if nearer = below then below + 1 else below
  let roundsBack (coefficient : Nat) : Bool :=
    nearest? (coefficient * distance) (Nat.pow 10 magnitude.decimalPlaces) = some magnitude
  ([nearer, farther].find? roundsBack).map fun coefficient =>
    ⟨coefficient, dropped - magnitude.decimalPlaces⟩

/-- The shortest decimal that rounds to the magnitude. Grids are tried from one
digit up to all digits of the exact value, which always rounds to itself. -/
def shortest (magnitude : Magnitude) : Decimal :=
  let count := (decimal magnitude.lastPlaces).length
  ((List.range count).reverse.findSome? magnitude.neighbour?).getD
    ⟨magnitude.lastPlaces, -magnitude.decimalPlaces⟩

end Binary64.Magnitude

end ScriptLexer
