namespace PlainScan.Text

/-!
# UTF-8

How a file's bytes become characters.  Overlong forms, surrogates and numbers beyond the last code
point are ill-formed.  Of an ill-formed sequence the fault is the longest part that could have
started a character; a lenient reader drops it and goes on after it, a strict one stops there.

* `SequenceHead` — what a first byte announces about the bytes after it.
* `decodeLossy` — the characters of a byte sequence without its faults.
* `decode` — the characters of a byte sequence, or its first fault.
* `encode` — the bytes of a text.
-/

/-- The bytes of a file, in order. -/
abbrev Bytes := List UInt8

/-! ### Heads of sequences -/

/-- What a first byte announces: how many bytes follow, the bits it contributes, and the range
    of the byte right after it, which excludes overlong forms and surrogates. -/
structure SequenceHead where
  following : Nat
  bits : Nat
  low : UInt8
  high : UInt8

/-- The announcement of a first byte, if it can start a character. -/
def SequenceHead.ofByte? (b : UInt8) : Option SequenceHead :=
  let n := b.toNat
  if n < 0x80 then some ⟨0, n, 0, 0⟩
  else if n < 0xC2 then none
  else if n < 0xE0 then some ⟨1, n - 0xC0, 0x80, 0xBF⟩
  else if n == 0xE0 then some ⟨2, 0, 0xA0, 0xBF⟩
  else if n == 0xED then some ⟨2, 0xD, 0x80, 0x9F⟩
  else if n < 0xF0 then some ⟨2, n - 0xE0, 0x80, 0xBF⟩
  else if n == 0xF0 then some ⟨3, 0, 0x90, 0xBF⟩
  else if n < 0xF4 then some ⟨3, n - 0xF0, 0x80, 0xBF⟩
  else if n == 0xF4 then some ⟨3, 4, 0x80, 0x8F⟩
  else none

/-! ### Decoding -/

/-- Where reading stands: between characters, or inside one with this many bytes missing. -/
inductive DecodeState where
  | between
  | inside (missing : Nat) (bits : Nat) (low high : UInt8)

/-- Reads one byte as the first of a character. -/
def decodeFirst (b : UInt8) : DecodeState × Option Char :=
  match SequenceHead.ofByte? b with
  | none => (.between, none)
  | some ⟨0, bits, _, _⟩ => (.between, some (Char.ofNat bits))
  | some ⟨n + 1, bits, low, high⟩ => (.inside (n + 1) bits low high, none)

/-- Reads one byte; a byte that does not continue the open character starts a new one. -/
def decodeByte (state : DecodeState) (b : UInt8) : DecodeState × Option Char :=
  match state with
  | .between => decodeFirst b
  | .inside missing bits low high =>
    if low ≤ b && b ≤ high then
      let bits := bits * 64 + (b.toNat - 0x80)
      if missing ≤ 1 then (.between, some (Char.ofNat bits))
      else (.inside (missing - 1) bits 0x80 0xBF, none)
    else decodeFirst b

/-- The well-formed characters of a byte sequence. -/
def decodeLossyFrom (state : DecodeState) : Bytes → List Char → List Char
  | [], out => out.reverse
  | b :: rest, out =>
    match decodeByte state b with
    | (next, some c) => decodeLossyFrom next rest (c :: out)
    | (next, none) => decodeLossyFrom next rest out

/-- The characters of a file; whatever is not UTF-8 leaves no trace. -/
def decodeLossy (bytes : Bytes) : List Char := decodeLossyFrom .between bytes []

/-! ### Faults -/

/-- What is wrong with a sequence: it cannot start like this, cannot go on like this, or is not
    complete. -/
inductive SequenceFault where
  | badStart
  | badContinuation
  | incomplete
  deriving DecidableEq, Repr, Inhabited

/-- The words for a fault. -/
def SequenceFault.description : SequenceFault → String
  | badStart => "invalid start byte"
  | badContinuation => "invalid continuation byte"
  | incomplete => "unexpected end of data"

/-- A fault, the bytes that it lies in, and their place; there is at least one. -/
structure DecodeFault where
  start : Nat
  first : UInt8
  others : Nat
  fault : SequenceFault
  deriving DecidableEq, Repr, Inhabited

/-- What the user is told about a fault. -/
def DecodeFault.message (f : DecodeFault) : String :=
  let place :=
    if f.others = 0 then
      "byte 0x" ++ String.ofList (Nat.toDigits 16 f.first.toNat) ++ " in position "
        ++ Nat.repr f.start
    else "bytes in position " ++ Nat.repr f.start ++ "-" ++ Nat.repr (f.start + f.others)
  "'utf-8' codec can't decode " ++ place ++ ": " ++ f.fault.description

/-- The sequence that is being read: its place, its first byte, and how many more were read. -/
structure OpenSequence where
  start : Nat
  first : UInt8
  others : Nat

/-- The fault in a sequence that is being read. -/
def OpenSequence.withFault (s : OpenSequence) (fault : SequenceFault) : DecodeFault :=
  ⟨s.start, s.first, s.others, fault⟩

/-- Whether a byte cannot come next, and what is wrong with it then. -/
def badByte? (state : DecodeState) (b : UInt8) : Option SequenceFault :=
  match state with
  | .between => if (SequenceHead.ofByte? b).isSome then none else some .badStart
  | .inside _ _ low high => if low ≤ b && b ≤ high then none else some .badContinuation

/-- The characters of the bytes from a place on, or the first fault; `sequence` is the one that a
    byte would belong to or start. -/
def decodeFrom (position : Nat) (state : DecodeState) (sequence : Option OpenSequence) :
    Bytes → List Char → Except DecodeFault (List Char)
  | [], out =>
    match sequence with
    | none => .ok out.reverse
    | some s => .error (s.withFault .incomplete)
  | b :: rest, out =>
    match badByte? state b with
    | some fault => .error ((sequence.getD ⟨position, b, 0⟩).withFault fault)
    | none =>
      match decodeByte state b with
      | (next, some c) => decodeFrom (position + 1) next none rest (c :: out)
      | (next, none) =>
        let grown := match sequence with
          | none => ⟨position, b, 0⟩
          | some s => { s with others := s.others + 1 }
        decodeFrom (position + 1) next (some grown) rest out

/-- The characters of a byte sequence, or its first fault. -/
def decode (bytes : Bytes) : Except DecodeFault (List Char) := decodeFrom 0 .between none bytes []

/-! ### Encoding -/

/-- The bytes of a string. -/
def encode (text : String) : Bytes := text.toUTF8.toList

end PlainScan.Text
