import ScriptLexer.Source.Character
import ScriptLexer.Token.Basic

/-! What a span is. The text of a span alone decides whether it is a token and of
which kind and value, a fault, or nothing that matters to the language. -/
namespace ScriptLexer.Source

/-- What can be wrong with a span. -/
inductive Fault
  | unterminatedString
  | unexpectedCharacter (found : Char)
deriving DecidableEq

/-- What a span turns out to be. -/
inductive Reading
  | token (kind : Kind) (literal : Option Literal)
  | fault (fault : Fault)
  /-- White space, a line end or a comment. -/
  | trivia
deriving DecidableEq

/-- The reading of the span that `c` begins and `rest` ends. -/
def readFrom (c : Char) (rest : List Char) : Reading :=
  match opening c with
  | .mark kind => .token kind none
  | .extensibleMark bare extended => .token (if rest.isEmpty then bare else extended) none
  | .slash => if rest.isEmpty then .token .slash none else .trivia
  | .padding | .lineEnd => .trivia
  | .string =>
    match rest.getLast? with
    | some '"' => .token .string (some (.text rest.dropLast))
    | _ => .fault .unterminatedString
  | .number => .token .number (some (.number (Binary64.ofDecimal (c :: rest))))
  | .name => .token (.ofWord (c :: rest)) none
  | .nothing => .fault (.unexpectedCharacter c)

/-- The reading of a span. Spans are not empty. -/
def read : List Char → Reading
  | [] => .trivia
  | c :: rest => readFrom c rest

end ScriptLexer.Source
