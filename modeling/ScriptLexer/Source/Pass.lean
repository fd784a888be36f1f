import ScriptLexer.Cursor
import ScriptLexer.Diagnostic
import ScriptLexer.Source.Character
import ScriptLexer.Token.Basic

/-! A pass over a source: a cursor goes from lexeme to lexeme, and tokens and
diagnostics are added as they are found. One round of the pass reads one lexeme,
one blank, one comment or one character that belongs to none of them. -/
namespace ScriptLexer

open Source

/-- How far a pass has come, and what it has found. -/
structure Pass where
  cursor : Cursor
  /-- The line that has been reached, counted from one. -/
  line : Nat
  tokens : List Token
  diagnostics : List Diagnostic
  /-- Goes up by one with each diagnostic. -/
  errorCount : Nat
deriving DecidableEq

namespace Pass

/-- A pass that has read nothing yet. -/
def start (source : List Char) : Pass := ⟨.ofSource source, 1, [], [], 0⟩

/-- Adds a token for the current lexeme. -/
def emit (kind : Kind) (literal : Option Literal) (pass : Pass) : Pass :=
  { pass with tokens := pass.tokens ++ [⟨kind, pass.cursor.lexeme, literal, pass.line⟩] }

/-- Counts a diagnostic and adds it. -/
def complain (diagnostic : Diagnostic) (pass : Pass) : Pass :=
  { pass with
    diagnostics := pass.diagnostics ++ [diagnostic]
    errorCount := pass.errorCount + 1 }

/-- Whether the character before a cursor and those behind it are no line end: a
comment goes on. -/
def inComment (cursor : Cursor) (c : Char) : Bool := c != '\n' && !cursor.atEnd

/-- Reads what a slash begins. A comment ends before its line end, which is left for
the next round to count. -/
def readSlash (pass : Pass) : Except Cursor.Fault Pass := do
  let (isComment, cursor) := pass.cursor.accept ['/']
  if isComment then
    let cursor ← cursor.advanceWhile inComment
    return { pass with cursor }
  else
    return pass.emit .slash none

/-- Goes through the text of a string and counts its line ends, up to the closing
quote or the end of the source. -/
def readText (pass : Pass) : Except Cursor.Fault Pass :=
  match pass.cursor.peek 0 with
  | .error fault => .error fault
  | .ok c =>
    if c != '"' && !pass.cursor.atEnd then
      let line := if c = '\n' then pass.line + 1 else pass.line
      match _advanced : pass.cursor.advance with
      | .error fault => .error fault
      | .ok (_, cursor) => readText { pass with line, cursor }
    else .ok pass
termination_by pass.cursor.rest.length
decreasing_by exact Cursor.advance_shortens _advanced

/-- Reads a string from behind its opening quote. There are no escapes: the value of
a string is what stands between its quotes. -/
def readString (pass : Pass) : Except Cursor.Fault Pass := do
  let pass ← pass.readText
  if pass.cursor.atEnd then
    return pass.complain (.unterminatedString pass.line)
  else
    let (_, cursor) ← pass.cursor.advance
    let text := cursor.source.extract (cursor.start + 1) (cursor.current - 1)
    return { pass with cursor }.emit .string (some (.text text.toList))

/-- Consumes decimal digits. -/
def readDigits (cursor : Cursor) : Except Cursor.Fault Cursor :=
  cursor.advanceWhile fun _ c => c.isDigit

/-- Consumes a decimal from behind its first digit. A point belongs to it only if a
digit follows the point. -/
def readDecimal (cursor : Cursor) : Except Cursor.Fault Cursor := do
  let whole ← readDigits cursor
  if (← whole.peek 0) == '.' && (← whole.peek 1).isDigit then
    let (_, places) ← whole.advance
    readDigits places
  else
    return whole

/-- Reads a number from behind its first digit. -/
def readNumber (pass : Pass) : Except Cursor.Fault Pass := do
  let cursor ← readDecimal pass.cursor
  return { pass with cursor }.emit .number (some (.number (Binary64.ofDecimal cursor.lexeme)))

/-- Reads a name or a reserved word from behind its first character. -/
def readName (pass : Pass) : Except Cursor.Fault Pass := do
  let cursor ← pass.cursor.advanceWhile fun _ c => isNamePart c
  return { pass with cursor }.emit (.ofWord cursor.lexeme) none

/-- Reads what a character begins that has just been consumed. -/
def dispatch (c : Char) (pass : Pass) : Except Cursor.Fault Pass :=
  match opening c with
  | .mark kind => .ok (pass.emit kind none)
  | .extensibleMark bare extended =>
    let (isExtended, cursor) := pass.cursor.accept ['=']
    .ok ({ pass with cursor }.emit (if isExtended then extended else bare) none)
  | .slash => pass.readSlash
  | .padding => .ok pass
  | .lineEnd => .ok { pass with line := pass.line + 1 }
  | .string => pass.readString
  | .number => pass.readNumber
  | .name => pass.readName
  | .nothing => .ok (pass.complain (.unexpectedCharacter [c] pass.line))

/-- One round: a new lexeme is begun and read. -/
def round (pass : Pass) : Except Cursor.Fault Pass := do
  let (c, cursor) ← pass.cursor.markStart.advance
  { pass with cursor }.dispatch c

end Pass

end ScriptLexer
