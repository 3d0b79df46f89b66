import Narration.Text.Utf8

/-! # Encodings

Texts as bytes in units of one, two or four bytes. Which of the encodings of Unicode bytes are in is
told by the mark at their beginning, or else by where the first zero bytes stand: a text of JSON
begins with two characters of ASCII. In units of two or four bytes halves can stand alone. The
encodings with one byte to a character are never told, only named. -/
namespace Narration

/-- The order of the bytes in a unit. -/
inductive ByteOrder
  | big
  | little
  deriving DecidableEq

inductive Encoding
  | ascii
  | latin1
  /-- Latin-1 with letters and signs in place of the second row of controls. -/
  | windows1252
  | utf8
  | utf16 (order : ByteOrder)
  | utf32 (order : ByteOrder)
  deriving DecidableEq

namespace Encoding

/-- The marks of the encodings. The longer ones come first, as one of them begins with a shorter
one. -/
def marks : List (Bytes × Encoding) :=
  [([0x00, 0x00, 0xFE, 0xFF], utf32 .big), ([0xFF, 0xFE, 0x00, 0x00], utf32 .little),
    ([0xFE, 0xFF], utf16 .big), ([0xFF, 0xFE], utf16 .little), ([0xEF, 0xBB, 0xBF], utf8)]

/-- The encoding of bytes without a mark. -/
def unmarked : Bytes → Encoding
  | 0 :: 0 :: _ :: _ :: _ => utf32 .big
  | 0 :: _ :: _ :: _ :: _ => utf16 .big
  | _ :: 0 :: 0 :: 0 :: _ => utf32 .little
  | _ :: 0 :: _ :: _ :: _ => utf16 .little
  | [0, _] => utf16 .big
  | [_, 0] => utf16 .little
  | _ => utf8

/-- The encoding of bytes, and the bytes behind the mark. -/
def detect (bytes : Bytes) : Encoding × Bytes :=
  match marks.find? fun (mark, _) => mark.isPrefixOf bytes with
  | some (mark, e) => (e, bytes.drop mark.length)
  | none => (unmarked bytes, bytes)

def unit (order : ByteOrder) (a b : Nat) : Nat :=
  match order with
  | .big => a * 0x100 + b
  | .little => b * 0x100 + a

/-- Units of two bytes, if no byte is left over. -/
def units16? (order : ByteOrder) : Bytes → Option (List Nat)
  | [] => some []
  | [_] => none
  | a :: b :: rest => (units16? order rest).map (unit order a.toNat b.toNat :: ·)

/-- Units of four bytes, if no byte is left over. -/
def units32? (order : ByteOrder) : Bytes → Option (List Nat)
  | [] => some []
  | a :: b :: c :: d :: rest =>
    let first := unit order a.toNat b.toNat
    let second := unit order c.toNat d.toNat
    let n := match order with
      | .big => first * 0x10000 + second
      | .little => second * 0x10000 + first
    (units32? order rest).map (n :: ·)
  | _ => none

def isFirstHalf (n : Nat) : Bool := 0xD800 ≤ n && n < 0xDC00

def isSecondHalf (n : Nat) : Bool := 0xDC00 ≤ n && n < 0xE000

/-- The text of units of two bytes. -/
def paired : List Nat → Text
  | [] => []
  | [n] => [.ofNat n]
  | n :: m :: rest =>
    if isFirstHalf n && isSecondHalf m then
      .ofNat (0x10000 + (n - 0xD800) * 0x400 + (m - 0xDC00)) :: paired rest
    else .ofNat n :: paired (m :: rest)

/-- The text in which each byte is the code of a character. -/
def bytewise (bytes : Bytes) : Text := bytes.map fun b => .ofNat b.toNat

/-- The codes that Windows-1252 has from 0x80 on, where zero stands for none. -/
def windowsCodes : List Nat :=
  [0x20AC, 0, 0x201A, 0x192, 0x201E, 0x2026, 0x2020, 0x2021, 0x2C6, 0x2030, 0x160, 0x2039, 0x152, 0,
    0x17D, 0, 0, 0x2018, 0x2019, 0x201C, 0x201D, 0x2022, 0x2013, 0x2014, 0x2DC, 0x2122, 0x161,
    0x203A, 0x153, 0, 0x17E, 0x178]

def ofWindows? (b : UInt8) : Option CodePoint :=
  let n := b.toNat
  if n < 0x80 then some (.ofNat n)
  else match windowsCodes[n - 0x80]? with
    | some 0 => none
    | some code => some (.ofNat code)
    | none => some (.ofNat n)

/-- The text of bytes in an encoding, unless they are faulty. -/
def decode? (e : Encoding) (bytes : Bytes) : Option Text :=
  match e with
  | .ascii => if bytes.all (· < 0x80) then some (bytewise bytes) else none
  | .latin1 => some (bytewise bytes)
  | .windows1252 => bytes.mapM ofWindows?
  | .utf8 => Text.ofUtf8? bytes
  | .utf16 order => (units16? order bytes).map paired
  | .utf32 order => do
    let units ← units32? order bytes
    if units.all (· < 0x110000) then some (units.map .ofNat) else none

end Encoding

/-- The text of bytes in the encoding that they tell of themselves. -/
def Text.ofBytes? (bytes : Bytes) : Option Text :=
  let (e, rest) := Encoding.detect bytes
  e.decode? rest

end Narration
