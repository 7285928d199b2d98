/-
Texts as bytes.

Everything that goes over the wire or comes from a file is a list of bytes in
UTF-8. Writing is total. Reading comes in two forms: `decode?` takes valid
UTF-8 only, and `decodeLossy` puts the replacement character for every
maximal part that no valid sequence begins with.
-/

set_option autoImplicit false

namespace SearchRest.Text

/-- Bytes as they are sent and stored. -/
abbrev Bytes := List UInt8

/-- The UTF-8 form of a list of characters. -/
def encodeChars (cs : List Char) : Bytes := cs.flatMap String.utf8EncodeChar

/-- The UTF-8 form of a text. -/
def encode (s : String) : Bytes := encodeChars s.toList

/-! ## Reading -/

/-- What may follow the first byte of a sequence: how many more bytes there are, and the least and
the greatest second byte. The bounds on the second byte leave out overlong forms, surrogates and
everything above the last code point. -/
def leadByte (a : Nat) : Option (Nat × Nat × Nat) :=
  if 0xc2 ≤ a ∧ a ≤ 0xdf then some (1, 0x80, 0xbf)
  else if a = 0xe0 then some (2, 0xa0, 0xbf)
  else if a = 0xed then some (2, 0x80, 0x9f)
  else if 0xe1 ≤ a ∧ a ≤ 0xef then some (2, 0x80, 0xbf)
  else if a = 0xf0 then some (3, 0x90, 0xbf)
  else if 0xf1 ≤ a ∧ a ≤ 0xf3 then some (3, 0x80, 0xbf)
  else if a = 0xf4 then some (3, 0x80, 0x8f)
  else none

/-- Reads `more` continuation bytes onto the code point bits `acc`, after `used` bytes that follow
the first one. Answers the code point, if the sequence is complete, and how many bytes after the
first belong to it or to its beginning. -/
def continuation : Nat → Nat → Nat → Bytes → Option Nat × Nat
  | 0, acc, used, _ => (some acc, used)
  | _ + 1, _, used, [] => (none, used)
  | more + 1, acc, used, b :: rest =>
    if 0x80 ≤ b.toNat ∧ b.toNat ≤ 0xbf then
      continuation more (acc * 64 + (b.toNat - 0x80)) (used + 1) rest
    else (none, used)

/-- The character that begins with the byte `a`, or none where no valid sequence goes on, and how
many of the following bytes were taken. -/
def nextChar (a : UInt8) (rest : Bytes) : Option Char × Nat :=
  if a.toNat < 0x80 then (some (Char.ofNat a.toNat), 0)
  else match leadByte a.toNat, rest with
    | none, _ => (none, 0)
    | some _, [] => (none, 0)
    | some (more, low, high), b :: rest' =>
      if low ≤ b.toNat ∧ b.toNat ≤ high then
        let bits := a.toNat % Nat.pow 2 (6 - more)
        let (code, used) := continuation (more - 1) (bits * 64 + (b.toNat - 0x80)) 1 rest'
        (code.map Char.ofNat, used)
      else (none, 0)

/-- The characters of bytes in UTF-8; nothing for bytes that are not. -/
def decodeChars? : Bytes → Option (List Char)
  | [] => some []
  | a :: rest =>
    match nextChar a rest with
    | (none, _) => none
    | (some c, used) => (decodeChars? (rest.drop used)).map (c :: ·)
termination_by bytes => bytes.length

/-- The text of bytes in UTF-8; nothing for bytes that are not. -/
def decode? (bytes : Bytes) : Option String := (decodeChars? bytes).map String.ofList

/-- The characters of any bytes, with U+FFFD for each maximal part that is not UTF-8. -/
def decodeCharsLossy : Bytes → List Char
  | [] => []
  | a :: rest =>
    let (c, used) := nextChar a rest
    c.getD '\ufffd' :: decodeCharsLossy (rest.drop used)
termination_by bytes => bytes.length

/-- The text of any bytes, with U+FFFD for each maximal part that is not UTF-8. -/
def decodeLossy (bytes : Bytes) : String := String.ofList (decodeCharsLossy bytes)

end SearchRest.Text
