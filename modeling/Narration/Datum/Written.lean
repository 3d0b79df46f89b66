import Narration.Datum.Basic

/-! # Writing JSON

Data as JSON in one of two styles. In the plain one every code point outside ASCII is written by
its UTF-16 units, so that halves can be written too. The compact one has no white space, and code
points stand for themselves but for quotes, backslashes and control characters. Numbers that are
not finite are written as the words by which the reader knows them. -/
namespace Narration.Json

structure Style where
  ascii : Bool
  comma : Text
  colon : Text

def Style.plain : Style := ⟨true, ", ", ": "⟩

def Style.compact : Style := ⟨false, ",", ":"⟩

def unitEscape (n : Nat) : Text := "\\u" ++ Text.hex 4 n

/-- Characters that are escaped by a letter. -/
def letterEscapes : List (Char × Char) :=
  [('"', '"'), ('\\', '\\'), ('\x08', 'b'), ('\x0c', 'f'), ('\n', 'n'), ('\r', 'r'), ('\t', 't')]

def letterFor? : CodePoint → Option Char
  | .char c => letterEscapes.lookup c
  | .half _ => none

def Style.point (s : Style) (c : CodePoint) : Text :=
  match letterFor? c with
  | some letter => [.char '\\', .char letter]
  | none =>
    if 0x20 ≤ c.toNat && (!s.ascii || c.toNat < 0x7F) then [c]
    else if c.toNat < 0x10000 then unitEscape c.toNat
    else
      let n := c.toNat - 0x10000
      unitEscape (0xD800 + n / 0x400) ++ unitEscape (0xDC00 + n % 0x400)

def Style.text (s : Style) (t : Text) : Text := "\"" ++ t.flatMap s.point ++ "\""

def writtenFloat : Binary64 → Text
  | .nan => "NaN"
  | .infinite negative => if negative then "-Infinity" else "Infinity"
  | x => x.text

mutual

def write (s : Style) : Datum → Text
  | .null => "null"
  | .bool b => if b then "true" else "false"
  | .int n => Text.ofInt n
  | .float x => writtenFloat x
  | .text t => s.text t
  | .list items => "[" ++ Text.joined s.comma (writeItems s items) ++ "]"
  | .object fields => "\x7b" ++ Text.joined s.comma (writeFields s fields) ++ "\x7d"

def writeItems (s : Style) : List Datum → List Text
  | [] => []
  | d :: rest => write s d :: writeItems s rest

def writeFields (s : Style) : List (Text × Datum) → List Text
  | [] => []
  | (name, d) :: rest => (s.text name ++ s.colon ++ write s d) :: writeFields s rest

end

end Narration.Json
