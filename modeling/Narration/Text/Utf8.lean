import Narration.Text.Basic

/-! # UTF-8

Texts as bytes. A code point is a lead byte and the tail bytes that it owes; the range of the first
tail byte is narrower behind some lead bytes, which rules out long forms, halves and codes that
are too large. So a half can be written, but three faults are read. Bytes that begin no character,
or begin one and do not complete it, are one fault. -/
namespace Narration

abbrev Bytes := List UInt8

namespace Text

def utf8Of (c : CodePoint) : Bytes :=
  let n := c.toNat
  let tail (unit : Nat) : UInt8 := UInt8.ofNat (0x80 + n / unit % 0x40)
  if n < 0x80 then [UInt8.ofNat n]
  else if n < 0x800 then [UInt8.ofNat (0xC0 + n / 0x40), tail 1]
  else if n < 0x10000 then [UInt8.ofNat (0xE0 + n / 0x1000), tail 0x40, tail 1]
  else [UInt8.ofNat (0xF0 + n / 0x40000), tail 0x1000, tail 0x40, tail 1]

def utf8 (t : Text) : Bytes := t.flatMap utf8Of

/-- Reads the tail bytes that are owed, the next of them from a range, and gives what follows them
or follows the fault. -/
def complete : Nat → Nat → Nat → Nat → Bytes → Option CodePoint × Bytes
  | 0, _, _, code, bytes => (some (.ofNat code), bytes)
  | _ + 1, _, _, _, [] => (none, [])
  | owed + 1, low, high, code, b :: bytes =>
    if low ≤ b.toNat ∧ b.toNat ≤ high then
      complete owed 0x80 0xBF (code * 0x40 + (b.toNat - 0x80)) bytes
    else (none, b :: bytes)

/-- The character that a lead byte begins, or a fault, and what follows. -/
def lead (b : UInt8) (bytes : Bytes) : Option CodePoint × Bytes :=
  let n := b.toNat
  if n < 0x80 then (some (.ofNat n), bytes)
  else if n < 0xC2 then (none, bytes)
  else if n < 0xE0 then complete 1 0x80 0xBF (n - 0xC0) bytes
  else if n < 0xF0 then
    complete 2 (if n = 0xE0 then 0xA0 else 0x80) (if n = 0xED then 0x9F else 0xBF) (n - 0xE0) bytes
  else if n < 0xF5 then
    complete 3 (if n = 0xF0 then 0x90 else 0x80) (if n = 0xF4 then 0x8F else 0xBF) (n - 0xF0) bytes
  else (none, bytes)

/-- The characters and faults of bytes, of which there are at most as many as `fuel`. -/
def decodeWith : Nat → Bytes → List (Option CodePoint)
  | 0, _ => []
  | _ + 1, [] => []
  | fuel + 1, b :: bytes =>
    let (c, rest) := lead b bytes
    c :: decodeWith fuel rest

def decode (bytes : Bytes) : List (Option CodePoint) := decodeWith bytes.length bytes

/-- The text of bytes without faults. -/
def ofUtf8? (bytes : Bytes) : Option Text := (decode bytes).mapM id

/-- The text of bytes with the replacement character for each fault. -/
def ofUtf8Lossy (bytes : Bytes) : Text := (decode bytes).map (·.getD (.char '\uFFFD'))

end Text
end Narration
