/-! UTF-8, read strictly: no overlong forms, no surrogates, nothing above
U+10FFFF. Decoding stops at the first sequence that is not well-formed and says
which bytes it holds, where they stand and what is wrong with them, next to the
text before it. -/
namespace ScriptLexer.Text.Utf8

/-- What makes a sequence of bytes no encoded character. -/
inductive Cause
  /-- The byte begins no sequence. -/
  | invalidStart
  /-- The next byte does not continue the sequence. -/
  | invalidContinuation
  /-- The input ends inside the sequence. -/
  | unexpectedEnd
deriving DecidableEq

/-- The first ill-formed sequence of an input. -/
structure Fault where
  /-- How many bytes stand before the sequence. -/
  position : Nat
  /-- The bytes of the sequence, as far as they are well-formed. The first byte
  is always among them. -/
  bytes : List UInt8
  cause : Cause
deriving DecidableEq

/-- Whether a fault in an input that may go on is left open until it does. The last sequence
can be cut off in the middle; and of a surrogate, two bytes are not told apart from such a
sequence. -/
def Fault.isOpen (input : List UInt8) (fault : Fault) : Bool :=
  match fault.cause, input.drop fault.position with
  | .unexpectedEnd, _ => true
  | .invalidContinuation, [lead, second] => lead == 0xed && 0xa0 ≤ second && second ≤ 0xbf
  | _, _ => false

/-- What has been decoded: the text up to the first fault, or the whole text. -/
structure Decoded where
  text : List Char
  fault : Option Fault
deriving DecidableEq

/-- The bytes from `first` to `last`, both included. -/
structure ByteRange where
  first : UInt8
  last : UInt8
deriving DecidableEq

def ByteRange.covers (range : ByteRange) (byte : UInt8) : Bool :=
  range.first ≤ byte && byte ≤ range.last

/-- The range of a continuation byte where nothing narrows it. -/
def continuation : ByteRange := ⟨0x80, 0xbf⟩

/-- A sequence in progress: the bytes read, the number they spell so far, the
range of the byte that has to come next and those of the bytes after it. -/
structure Sequence where
  bytes : List UInt8
  value : Nat
  next : ByteRange
  later : List ByteRange
deriving DecidableEq

/-- What a byte begins. -/
inductive Opening
  /-- A character of one byte. -/
  | character (c : Char)
  | sequence (begun : Sequence)
  | invalid
deriving DecidableEq

/-- What a byte begins. The second byte of some sequences is narrowed to leave
out overlong forms, surrogates and numbers above U+10FFFF. -/
def Opening.ofByte (byte : UInt8) : Opening :=
  let opens (modulus : Nat) (next : ByteRange) (later : List ByteRange) :=
    Opening.sequence ⟨[byte], byte.toNat % modulus, next, later⟩
  if byte ≤ 0x7f then .character (Char.ofNat byte.toNat)
  else if byte < 0xc2 then .invalid
  else if byte ≤ 0xdf then opens 32 continuation []
  else if byte = 0xe0 then opens 16 ⟨0xa0, 0xbf⟩ [continuation]
  else if byte = 0xed then opens 16 ⟨0x80, 0x9f⟩ [continuation]
  else if byte ≤ 0xef then opens 16 continuation [continuation]
  else if byte = 0xf0 then opens 8 ⟨0x90, 0xbf⟩ [continuation, continuation]
  else if byte ≤ 0xf3 then opens 8 continuation [continuation, continuation]
  else if byte = 0xf4 then opens 8 ⟨0x80, 0x8f⟩ [continuation, continuation]
  else .invalid

/-- The fault of a sequence that goes no further than the bytes before
`position`. -/
def Sequence.fault (begun : Sequence) (position : Nat) (cause : Cause) : Fault :=
  ⟨position - begun.bytes.length, begun.bytes, cause⟩

/-- Puts a character in front of a decoded text. -/
def Decoded.cons (c : Char) (decoded : Decoded) : Decoded :=
  { decoded with text := c :: decoded.text }

/-- Decodes the bytes that stand at `position`, the first of which continue the
sequence in progress if there is one. -/
def decodeFrom (position : Nat) : Option Sequence → List UInt8 → Decoded
  | none, [] => ⟨[], none⟩
  | some begun, [] => ⟨[], some (begun.fault position .unexpectedEnd)⟩
  | none, byte :: rest =>
    match Opening.ofByte byte with
    | .character c => (decodeFrom (position + 1) none rest).cons c
    | .sequence begun => decodeFrom (position + 1) (some begun) rest
    | .invalid => ⟨[], some ⟨position, [byte], .invalidStart⟩⟩
  | some begun, byte :: rest =>
    if begun.next.covers byte then
      let value := begun.value * 64 + byte.toNat % 64
      match begun.later with
      | [] => (decodeFrom (position + 1) none rest).cons (Char.ofNat value)
      | next :: later =>
        decodeFrom (position + 1) (some ⟨begun.bytes ++ [byte], value, next, later⟩) rest
    else ⟨[], some (begun.fault position .invalidContinuation)⟩

/-- Decodes a whole input. -/
def decode (bytes : List UInt8) : Decoded := decodeFrom 0 none bytes

/-- The bytes of a text. -/
def encode (text : List Char) : List UInt8 := text.flatMap String.utf8EncodeChar

end ScriptLexer.Text.Utf8
