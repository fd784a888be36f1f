import ScriptLexer.Command.Failure
import ScriptLexer.Text.Lines
import ScriptLexer.Text.Utf8

/-! Input that arrives in blocks of bytes and is read line by line. A line is delivered as
soon as the blocks so far complete it, so what is wrong with a later block does not touch
it. -/
namespace ScriptLexer.Command

open Text

/-- What reading lines delivers: some lines, each with its line feed except perhaps the
last, and then the end of the input or a failure. -/
structure Input where
  lines : List (List Char)
  failure : Option Failure

/-- What is left over between two blocks. -/
structure Reader where
  /-- The bytes of a character that is not complete. -/
  pending : List UInt8
  /-- The text of a line that is not complete. -/
  line : List Char
deriving DecidableEq

namespace Reader

/-- Nothing has been read. -/
def fresh : Reader := ⟨[], []⟩

/-- Reads one more block and gives the lines that it completes. A block with a fault fails
as a whole, and the place of the fault is counted from the bytes that were left over. -/
def feed (reader : Reader) (block : List UInt8) : Except Failure (List (List Char) × Reader) :=
  let bytes := reader.pending ++ block
  let decoded := Utf8.decode bytes
  let (lines, line) := cutLines (reader.line ++ decoded.text)
  match decoded.fault with
  | none => .ok (lines, ⟨[], line⟩)
  | some fault =>
    if fault.isOpen bytes then .ok (lines, ⟨bytes.drop fault.position, line⟩)
    else .error (.decoding (.ofFault bytes fault))

/-- What is delivered at the end of the input. Bytes that are still left over make no
character, and the unfinished line in front of them is lost. -/
def finish (reader : Reader) : Input :=
  let decoded := Utf8.decode reader.pending
  match decoded.fault with
  | none => ⟨splitLines (foldLineEnds (reader.line ++ decoded.text)), none⟩
  | some fault => ⟨[], some (.decoding (.ofFault reader.pending fault))⟩

/-- What is delivered of all blocks that are still to come. -/
def readOn (reader : Reader) : List (List UInt8) → Input
  | [] => reader.finish
  | block :: blocks =>
    match reader.feed block with
    | .error failure => ⟨[], some failure⟩
    | .ok (lines, next) =>
      let later := next.readOn blocks
      { later with lines := lines ++ later.lines }

end Reader

/-- The lines of an input that arrives in these blocks. -/
def Input.ofBlocks (blocks : List (List UInt8)) : Input := Reader.fresh.readOn blocks

end ScriptLexer.Command
