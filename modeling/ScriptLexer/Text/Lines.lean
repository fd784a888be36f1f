/-! Line ends. A text is read with every carriage return, alone or before a line
feed, turned into one line feed; after that only the line feed ends a line. -/
namespace ScriptLexer.Text

/-- The text with each of the three line ends turned into a line feed. -/
def foldLineEnds : List Char → List Char
  | '\r' :: '\n' :: rest => '\n' :: foldLineEnds rest
  | '\r' :: rest => '\n' :: foldLineEnds rest
  | c :: rest => c :: foldLineEnds rest
  | [] => []

/-- The text cut after each line feed. Every line keeps its line feed, and only
the last can be without one. -/
def splitLines : List Char → List (List Char)
  | [] => []
  | c :: rest =>
    if c = '\n' then [c] :: splitLines rest
    else match splitLines rest with
      | [] => [[c]]
      | line :: others => (c :: line) :: others

/-- The complete lines of a text that may go on, with their line ends folded, and what is
left of the text behind them. A carriage return at the end does not complete a line yet: a
line feed that comes next belongs to it. -/
def cutLines : List Char → List (List Char) × List Char
  | [] => ([], [])
  | ['\r'] => ([], ['\r'])
  | '\r' :: '\n' :: rest | '\r' :: rest | '\n' :: rest =>
    let (lines, last) := cutLines rest
    (['\n'] :: lines, last)
  | c :: rest =>
    match cutLines rest with
    | ([], last) => ([], c :: last)
    | (line :: lines, last) => ((c :: line) :: lines, last)

/-- Nothing is lost by cutting a text into lines. -/
theorem flatten_splitLines (text : List Char) : (splitLines text).flatten = text := by
  induction text with
  | nil => rfl
  | cons c rest ih =>
    unfold splitLines
    split
    · simp [ih]
    · split <;> simp_all

/-- The texts on a line each, with no line feed after the last. -/
def joinLines (texts : List (List Char)) : List Char := ['\n'].intercalate texts

end ScriptLexer.Text
