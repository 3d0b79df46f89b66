import Narration.Text.Encoding

/-! # Encodings by name

The names by which the encoding of a file is told. Letter case does not matter in a name, nor which
signs stand between its letters and digits. Where a name leaves the order of the bytes open, the
bytes have to begin with a mark that tells it. Here halves are faults in every encoding. -/
namespace Narration

/-- An encoding that is told by name. -/
inductive Charset
  | plain (e : Encoding)
  /-- One whose bytes tell their order by a mark. The given encoding is tried without a mark. -/
  | marked (little : Encoding) (big : Encoding)
  deriving DecidableEq

namespace Charset

/-- The names of each encoding. -/
def names : List (List Text × Charset) :=
  [(["utf_8", "utf8", "u8", "utf", "utf8_ucs2", "utf8_ucs4", "cp65001", "utf_8_sig"], plain .utf8),
    (["ascii", "us_ascii", "us", "646", "ansi_x3.4_1968", "cp367", "csascii", "ibm367",
      "iso646_us", "iso_ir_6"], plain .ascii),
    (["latin_1", "latin1", "latin", "l1", "8859", "iso8859", "iso8859_1", "iso_8859_1", "cp819",
      "ibm819", "csisolatin1", "iso_ir_100"], plain .latin1),
    (["cp1252", "1252", "windows_1252"], plain .windows1252),
    (["utf_16_le", "utf_16le", "unicodelittleunmarked"], plain (.utf16 .little)),
    (["utf_16_be", "utf_16be", "unicodebigunmarked"], plain (.utf16 .big)),
    (["utf_32_le", "utf_32le"], plain (.utf32 .little)),
    (["utf_32_be", "utf_32be"], plain (.utf32 .big)),
    (["utf_16", "utf16", "u16"], marked (.utf16 .little) (.utf16 .big)),
    (["utf_32", "utf32", "u32"], marked (.utf32 .little) (.utf32 .big))]

def isNameChar (c : CodePoint) : Bool :=
  c.isAsciiLower || c.isAsciiDigit || c == .char '.'

/-- A name in small letters, with one low line for the signs between two stretches of it. -/
def plainName (name : Text) : Text :=
  let dashed := name.map fun c =>
    let c := c.toAsciiLower
    if isNameChar c then c else .char '_'
  Text.joined "_" ((Text.splitAt (.char '_') dashed).filter (· ≠ []))

def ofName? (name : Text) : Option Charset :=
  (names.find? fun (known, _) => known.contains (plainName name)).map (·.2)

/-- Why bytes are no text. -/
inductive Fault
  | undecodable
  | noMark
  deriving DecidableEq

def strict (e : Encoding) (bytes : Bytes) : Except Fault Text :=
  match e.decode? bytes with
  | some t => if t.any (·.isHalf) then .error .undecodable else .ok t
  | none => .error .undecodable

/-- The text of bytes. That a mark is lacking matters last, and not where there are no bytes. -/
def decode (c : Charset) (bytes : Bytes) : Except Fault Text :=
  match c with
  | plain e => strict e bytes
  | marked little big =>
    let found := Encoding.marks.find? fun (mark, e) =>
      (e == little || e == big) && mark.isPrefixOf bytes
    match found with
    | some (mark, e) => strict e (bytes.drop mark.length)
    | none => do
      let t ← strict little bytes
      if t = [] then return t else .error .noMark

end Charset
end Narration
