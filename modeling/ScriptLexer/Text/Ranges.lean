/-! Sets of characters given as ascending lists of code point ranges, the form in
which Unicode publishes its classes. -/
namespace ScriptLexer.Text

/-- The code points from `first` to `last`, both included. -/
structure Range where
  first : Nat
  last : Nat

/-- Whether some range of an ascending list covers the character. The list is
left at the first range above the character, so characters of low number are
found without reading the whole list. -/
def Range.anyCovers : List Range → Char → Bool
  | [], _ => false
  | range :: ranges, c =>
    if c.toNat < range.first then false
    else if c.toNat ≤ range.last then true
    else anyCovers ranges c

end ScriptLexer.Text
