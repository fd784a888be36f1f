import ScriptLexer.Source.Character

/-! Cutting a source into spans. The first character of a span decides how far it
reaches: a span is the longest lexeme, comment or stretch of a string that begins
there, or else a single character. The spans are never empty and concatenate to
the source. -/
namespace ScriptLexer.Source

/-- How far a number goes on after its first digit. A point belongs to it only if
a digit follows the point. -/
def numberTail (rest : List Char) : Nat :=
  let whole := (rest.takeWhile Char.isDigit).length
  match rest.drop whole with
  | '.' :: places =>
    match (places.takeWhile Char.isDigit).length with
    | 0 => whole
    | count => whole + 1 + count
  | _ => whole

/-- How far a comment goes on after its first slash, if it is one: to the end of
the line, the line feed left out. -/
def commentTail : List Char → Nat
  | '/' :: comment => 1 + (comment.takeWhile (· != '\n')).length
  | _ => 0

/-- How far a string goes on after its opening quote: through the closing quote,
or to the end of a source that has none. -/
def stringTail (rest : List Char) : Nat :=
  let inside := (rest.takeWhile (· != '"')).length
  if (rest.drop inside).isEmpty then inside else inside + 1

/-- How many characters of `rest` belong to the span that `c` begins. -/
def tail (c : Char) (rest : List Char) : Nat :=
  match opening c with
  | .extensibleMark _ _ => if rest.head? = some '=' then 1 else 0
  | .slash => commentTail rest
  | .string => stringTail rest
  | .number => numberTail rest
  | .name => (rest.takeWhile isNamePart).length
  | .mark _ | .padding | .lineEnd | .nothing => 0

/-- The spans of a source of which the first `taken` characters belong to a span
that is already cut. -/
def spansAfter : (taken : Nat) → List Char → List (List Char)
  | _, [] => []
  | taken + 1, _ :: rest => spansAfter taken rest
  | 0, c :: rest => (c :: rest.take (tail c rest)) :: spansAfter (tail c rest) rest

/-- The spans of a source, in order. -/
def spans (source : List Char) : List (List Char) := spansAfter 0 source

/-- Characters of a span already cut are left out. -/
theorem spansAfter_eq (taken : Nat) (source : List Char) :
    spansAfter taken source = spans (source.drop taken) := by
  induction source generalizing taken with
  | nil => cases taken <;> rfl
  | cons c rest ih =>
    cases taken with
    | zero => rfl
    | succ taken => simpa [spansAfter] using ih taken

/-- The first span, and the spans of what follows it. -/
theorem spans_cons (c : Char) (rest : List Char) :
    spans (c :: rest) = (c :: rest.take (tail c rest)) :: spans (rest.drop (tail c rest)) := by
  rw [← spansAfter_eq]
  rfl

/-- The spans hold everything after the characters already taken. -/
theorem flatten_spansAfter (taken : Nat) (source : List Char) :
    (spansAfter taken source).flatten = source.drop taken := by
  induction source generalizing taken with
  | nil => cases taken <;> rfl
  | cons c rest ih => cases taken <;> simp [spansAfter, ih]

/-- Nothing of a source is lost by cutting it into spans. -/
theorem flatten_spans (source : List Char) : (spans source).flatten = source :=
  flatten_spansAfter 0 source

end ScriptLexer.Source
