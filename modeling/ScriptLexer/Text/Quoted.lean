import ScriptLexer.Text.Numerals
import ScriptLexer.Text.Printable

/-! Quoted texts: one line of printable characters between two quote marks, from
which the text can be told. The apostrophe is the mark unless the text holds an
apostrophe and no double quote. The mark in use and the backslash are written
after a backslash, and characters that are not printable are written by name or
by number. -/
namespace ScriptLexer.Text

/-- The mark that encloses a quoted text. -/
def quoteMark (text : List Char) : Char :=
  if text.contains '\'' && !text.contains '"' then '"' else '\''

/-- A character given by its code point, in the shortest of the three widths
that hold it. -/
def numberedChar (c : Char) : List Char :=
  if c.toNat < 0x100 then '\\' :: 'x' :: hexadecimal 2 c.toNat
  else if c.toNat < 0x10000 then '\\' :: 'u' :: hexadecimal 4 c.toNat
  else '\\' :: 'U' :: hexadecimal 8 c.toNat

/-- A character as it stands between two marks. -/
def quotedChar (shown : Char → Bool) (mark c : Char) : List Char :=
  if c = mark ∨ c = '\\' then ['\\', c]
  else if c = '\t' then ['\\', 't']
  else if c = '\n' then ['\\', 'n']
  else if c = '\r' then ['\\', 'r']
  else if shown c then [c]
  else numberedChar c

/-- A text between two marks, in which only the characters of a class stand for
themselves. -/
def quotedWith (shown : Char → Bool) (text : List Char) : List Char :=
  quoteMark text :: text.flatMap (quotedChar shown (quoteMark text)) ++ [quoteMark text]

/-- The quoted form of a text, in which all printable characters stand for
themselves. -/
def quoted (text : List Char) : List Char := quotedWith isPrintable text

/-- The quoted form of a sequence of bytes, in which only the printable
characters of ASCII stand for themselves. -/
def quotedBytes (bytes : List UInt8) : List Char :=
  'b' :: quotedWith (fun c => 0x20 ≤ c.toNat && c.toNat ≤ 0x7e)
    (bytes.map fun byte => Char.ofNat byte.toNat)

end ScriptLexer.Text
