import ScriptLexer.Diagnostic
import ScriptLexer.Source.Reading
import ScriptLexer.Source.Span

/-! Entries: the spans of a source in order, each with its reading and the line on
which it ends. Tokens and diagnostics are two views of this one sequence, so both
stand in the order of the source. -/
namespace ScriptLexer

open Source

/-- The diagnostic about a fault in a span that ends on `line`. -/
def Source.Fault.diagnostic (line : Nat) : Fault → Diagnostic
  | .unterminatedString => .unterminatedString line
  | .unexpectedCharacter found => .unexpectedCharacter [found] line

/-- One span of a scanned source. -/
structure Entry where
  span : List Char
  reading : Reading
  /-- The line counter after the span: a string over several lines counts for the
  line of its closing quote. -/
  line : Nat
deriving DecidableEq

namespace Entry

/-- The token that a span is, if it is one. -/
def token? (entry : Entry) : Option Token :=
  match entry.reading with
  | .token kind literal => some ⟨kind, entry.span, literal, entry.line⟩
  | .fault _ | .trivia => none

/-- The diagnostic about a span, if something is wrong with it. -/
def diagnostic? (entry : Entry) : Option Diagnostic :=
  match entry.reading with
  | .fault fault => some (fault.diagnostic entry.line)
  | .token _ _ | .trivia => none

/-- Spans with their readings, where the first of them begins on `line`. -/
def ofSpans (line : Nat) : List (List Char) → List Entry
  | [] => []
  | span :: spans =>
    let ended := line + span.count '\n'
    ⟨span, read span, ended⟩ :: ofSpans ended spans

end Entry

end ScriptLexer
