import ScriptLexer.Command.Prompt
import ScriptLexer.Proofs.LineEnds
import ScriptLexer.Proofs.Utf8

/-! Input in blocks. However the bytes of a text are cut into blocks, even inside a character
or a line end, the same lines are read. A session that answers each block before the next one
arrives is the session that is given all lines at once. -/
namespace ScriptLexer.Command

open Text

variable {reader : Reader} {block more : List UInt8} {blocks : List (List UInt8)}
  {text : List Char}

/-! ### Blocks of a text -/

/-- Behind a block, the reader holds what there is of the next character and of the next
line. -/
theorem Reader.feed_eq (whole : reader.pending ++ block ++ more = Utf8.encode text) :
    ∃ earlier later pending, text = earlier ++ later ∧ pending ++ more = Utf8.encode later ∧
      reader.feed block = .ok ((cutLines (reader.line ++ earlier)).1,
        ⟨pending, (cutLines (reader.line ++ earlier)).2⟩) := by
  obtain ⟨earlier, later, pending, rfl, others, decodes⟩ := Utf8.exists_decodesTo whole 0
  refine ⟨earlier, later, pending, rfl, others, ?_⟩
  rcases decodes.decoded with ⟨nothing, decoded⟩ | decoded
  · rw [feed, Utf8.decode, decoded, nothing]
  · have left : (reader.pending ++ block).drop (0 + (Utf8.encode earlier).length) = pending := by
      rw [decodes.split, Nat.zero_add, List.drop_left]
    simp only [feed, Utf8.decode, decoded, Utf8.Fault.isOpen, ↓reduceIte, left]

/-- Whatever the bytes of a text are cut into, its lines are read. -/
theorem Reader.readOn_encode (whole : reader.pending ++ blocks.flatten = Utf8.encode text) :
    reader.readOn blocks = ⟨splitLines (foldLineEnds (reader.line ++ text)), none⟩ := by
  induction blocks generalizing reader text with
  | nil =>
    rw [List.flatten_nil, List.append_nil] at whole
    rw [readOn, finish, whole, Utf8.decode_encode]
  | cons block blocks ih =>
    rw [List.flatten_cons, ← List.append_assoc] at whole
    obtain ⟨earlier, later, pending, rfl, others, fed⟩ := feed_eq whole
    have rest : Reader.readOn ⟨pending, (cutLines (reader.line ++ earlier)).2⟩ blocks = _ :=
      ih others
    rw [readOn, fed, ← List.append_assoc, splitLines_cutLines (reader.line ++ earlier)]
    simp only [rest]

theorem Input.ofBlocks_encode (whole : blocks.flatten = Utf8.encode text) :
    ofBlocks blocks = ⟨splitLines (foldLineEnds text), none⟩ :=
  Reader.readOn_encode whole

/-- What is wrong with a block does not touch the lines of the blocks before it. -/
example :
    let input := Input.ofBlocks ["a\nb".toUTF8.toList, "c\nd\n".toUTF8.toList, [0x65, 0xff]]
    input.lines = ["a\n".toList, "bc\n".toList, "d\n".toList] ∧ input.failure.isSome := by
  decide +kernel

/-! ### Sessions -/

/-- Lines can be answered in two parts, of which the second comes to nothing if the first ends
the session. -/
theorem answer_append (prompt : List Char) (lines later : List (List Char)) :
    answer prompt (lines ++ later) =
      if (answer prompt lines).2 then
        ((answer prompt lines).1 ++ (answer prompt later).1, (answer prompt later).2)
      else answer prompt lines := by
  induction lines with
  | nil => rfl
  | cons line lines ih =>
    rw [List.cons_append, answer, answer, ih]
    cases endsSession line with
    | true => rfl
    | false =>
      obtain ⟨events, goesOn⟩ := answer prompt lines
      cases goesOn <;> simp

/-- A session that answers each block before the next one arrives. -/
def converseInTurns (prompt : List Char) (reader : Reader) : List (List UInt8) → Outcome
  | [] => converse prompt reader.finish
  | block :: blocks =>
    match turn prompt reader block with
    | .ends outcome => outcome
    | .goesOn events next => (converseInTurns prompt next blocks).after events

theorem converseInTurns_eq (prompt : List Char) (reader : Reader) (blocks : List (List UInt8)) :
    converseInTurns prompt reader blocks = converse prompt (reader.readOn blocks) := by
  induction blocks generalizing reader with
  | nil => rfl
  | cons block blocks ih =>
    rw [converseInTurns, turn, Reader.readOn]
    cases reader.feed block with
    | error failure => rfl
    | ok fed =>
      obtain ⟨lines, next⟩ := fed
      simp only [converse, answer_append]
      obtain ⟨events, goesOn⟩ := answer prompt lines
      cases goesOn with
      | false => rfl
      | true => simp [ih, converse, Outcome.after, Input.ending]

/-- A session at the prompt shows its prompt and then answers block by block. -/
theorem runPrompt_ofBlocks (prompt : List Char) (blocks : List (List UInt8)) :
    runPrompt prompt (.ofBlocks blocks) =
      (converseInTurns prompt .fresh blocks).after [promptEvent prompt] := by
  rw [converseInTurns_eq]
  rfl

end ScriptLexer.Command
