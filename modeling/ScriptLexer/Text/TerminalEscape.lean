/-! Control sequences of a terminal: the escape character, an opening bracket,
parameter characters, intermediate characters and one final character. Text
bound for an output stream is written without them, so that what a program or a
script contains cannot act on the terminal that shows it. -/
namespace ScriptLexer.Text

/-- The escape character U+001B. -/
def escape : Char := '\x1b'

/-- The characters `0` to `?`, which can follow the bracket. -/
def isParameter (c : Char) : Bool := 0x30 ≤ c.toNat && c.toNat ≤ 0x3f

/-- The characters from the space to `/`, which can follow the parameters. -/
def isIntermediate (c : Char) : Bool := 0x20 ≤ c.toNat && c.toNat ≤ 0x2f

/-- The characters `@` to `~`, one of which ends a control sequence. -/
def isFinal (c : Char) : Bool := 0x40 ≤ c.toNat && c.toNat ≤ 0x7e

/-- How many characters of `rest` belong to a control sequence that `c` opens;
zero if none begins here. The three classes are disjoint, so the sequence is the
only one at this place. -/
def controlSequenceTail (c : Char) (rest : List Char) : Nat :=
  match c == escape, rest with
  | true, '[' :: body =>
    let parameters := body.takeWhile isParameter
    let intermediates := (body.drop parameters.length).takeWhile isIntermediate
    match body.drop (parameters.length + intermediates.length) with
    | final :: _ => if isFinal final then parameters.length + intermediates.length + 2 else 0
    | [] => 0
  | _, _ => 0

/-- Drops `pending` characters that belong to a sequence already recognized, and
every control sequence after them. -/
def dropControlSequences : (pending : Nat) → List Char → List Char
  | _, [] => []
  | pending + 1, _ :: rest => dropControlSequences pending rest
  | 0, c :: rest =>
    match controlSequenceTail c rest with
    | 0 => c :: dropControlSequences 0 rest
    | width => dropControlSequences width rest

/-- The text without its control sequences, as it is written to a stream. -/
def withoutControlSequences (text : List Char) : List Char := dropControlSequences 0 text

/-- What stands in front of the first escape character is written unaltered. -/
theorem withoutControlSequences_append {text : List Char} (none : escape ∉ text)
    (later : List Char) :
    withoutControlSequences (text ++ later) = text ++ withoutControlSequences later := by
  unfold withoutControlSequences
  induction text with
  | nil => rfl
  | cons c rest ih =>
    simp only [List.mem_cons, not_or] at none
    have plain : controlSequenceTail c (rest ++ later) = 0 := by
      simp [controlSequenceTail, Ne.symm none.1]
    simp [dropControlSequences, plain, ih none.2]

/-- A text without the escape character is written unaltered. -/
theorem withoutControlSequences_of_not_mem {text : List Char} (none : escape ∉ text) :
    withoutControlSequences text = text := by
  have nothing : withoutControlSequences [] = [] := rfl
  have written := withoutControlSequences_append none []
  rwa [nothing, List.append_nil] at written

end ScriptLexer.Text
