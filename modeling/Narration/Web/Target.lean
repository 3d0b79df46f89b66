import Narration.Datum.Json
import Narration.Text.Utf8

/-! # Request targets

A target is a path and a query, both percent-encoded. The path is decoded once and otherwise taken
as it is: dots and number signs in it stand for themselves. A target in an answer is encoded
anew. -/
namespace Narration.Web

structure Target where
  path : Text
  query : Text
  deriving DecidableEq

/-- The bytes of a text in which a percent sign and two hexadecimal digits stand for a byte. -/
def percentDecoded : Text → Bytes
  | .char '%' :: a :: b :: rest =>
    match Json.hexValue? a, Json.hexValue? b with
    | some x, some y => UInt8.ofNat (16 * x + y) :: percentDecoded rest
    | _, _ => Text.utf8Of (.char '%') ++ percentDecoded (a :: b :: rest)
  | c :: rest => Text.utf8Of c ++ percentDecoded rest
  | [] => []

/-- What a target that is written out means, unless the bytes of its path are no text. -/
def Target.ofText? (t : Text) : Option Target := do
  let path := t.takeWhile (· != .char '?')
  return ⟨← Text.ofUtf8? (percentDecoded path), (t.drop path.length).drop 1⟩

/-- Characters that stand for themselves wherever they are in an address. The percent sign is one of
them, so that what is encoded stays so. -/
def isPlain (c : CodePoint) : Bool :=
  c.isAsciiUpper || c.isAsciiLower || c.isAsciiDigit
    || (Text.ofString "_.-~/:%@[]!$&'()*+,;=").contains c

/-- Characters that stand for themselves in a query. In a path they would end it. -/
def isPlainInQuery (c : CodePoint) : Bool := isPlain c || (Text.ofString "#?").contains c

/-- A text whose bytes are written in hexadecimal digits where it is not safe as it is. -/
def percentEncoded (safe : CodePoint → Bool) (t : Text) : Text :=
  t.flatMap fun c =>
    if safe c then [c]
    else (Text.utf8Of c).flatMap fun b => "%" ++ (Text.hex 2 b.toNat).map CodePoint.toAsciiUpper

def host : Text := "http://test"

/-- A target as an address. -/
def Target.address (t : Target) : Text :=
  host ++ percentEncoded isPlain t.path
    ++ if t.query = [] then [] else .char '?' :: percentEncoded isPlainInQuery t.query

end Narration.Web
