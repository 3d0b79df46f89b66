import Narration.Text.CodePoint

/-! # Texts

A text is the list of its code points, so lengths, offsets and first characters count code points.
Classes of characters are tables of spans of codes; a span is its first and its last code. -/
namespace Narration

abbrev Text := List CodePoint

namespace Text

def ofString (s : String) : Text := s.toList.map .char

instance : Coe String Text := ⟨ofString⟩

/-- The characters of a text. A half is shown as the replacement character. -/
def toString (t : Text) : String := String.ofList (t.map CodePoint.toChar)

/-- Whether a text has no halves in it. -/
def isWhole (t : Text) : Bool := t.all (!·.isHalf)

/-- Whether a code lies in one of the spans. They ascend, so the search ends at the first span
that begins beyond the code. -/
def covers : List (Nat × Nat) → Nat → Bool
  | [], _ => false
  | (first, last) :: rest, code =>
    if code < first then false else code ≤ last || covers rest code

/-- Every span is in order and ends before the next one begins. -/
def ascending : List (Nat × Nat) → Bool
  | [] => true
  | [(first, last)] => first ≤ last
  | (first, last) :: (next, stop) :: rest =>
    first ≤ last && last < next && ascending ((next, stop) :: rest)

/-- The decimal digits of a number. -/
def ofNat (n : Nat) : Text := (Nat.toDigits 10 n).map .char

/-- The decimal digits of a number, after a minus sign if it is negative. -/
def ofInt : Int → Text
  | .ofNat n => ofNat n
  | .negSucc n => .char '-' :: ofNat (n + 1)

/-- Texts one after another, with a separator between neighbours. -/
def joined (separator : Text) : List Text → Text
  | [] => []
  | [t] => t
  | t :: u :: rest => t ++ separator ++ joined separator (u :: rest)

/-- Whether `s` stands before `t` or is `t`, in the order of texts by their codes. A text stands
before every text that continues it. -/
def precedes : (s t : Text) → Bool
  | [], _ => true
  | _ :: _, [] => false
  | c :: s, d :: t => c.toNat < d.toNat || (c == d && precedes s t)

/-- Whether `t` begins with `start`. -/
def startsWith (t start : Text) : Bool := start.isPrefixOf t

/-- What follows `start` in a text that begins with it. -/
def after? (start t : Text) : Option Text :=
  if t.startsWith start then some (t.drop start.length) else none

/-- The stretches between the occurrences of a character, one more than there are occurrences. -/
def splitAt (separator : CodePoint) : Text → List Text
  | [] => [[]]
  | c :: rest =>
    if c = separator then [] :: splitAt separator rest
    else match splitAt separator rest with
      | [] => [[c]]
      | t :: ts => (c :: t) :: ts

/-- Line ends of any kind as line feeds. -/
def unifyLineEnds : Text → Text
  | .char '\r' :: .char '\n' :: rest => .char '\n' :: unifyLineEnds rest
  | .char '\r' :: rest => .char '\n' :: unifyLineEnds rest
  | c :: rest => c :: unifyLineEnds rest
  | [] => []

/-- A list of named values with one value put under a name, in the place of the name's earlier
value if it has one and at the end otherwise. -/
def put {α : Type} (name : Text) (a : α) : List (Text × α) → List (Text × α)
  | [] => [(name, a)]
  | (n, b) :: rest => if n = name then (n, a) :: rest else (n, b) :: put name a rest

end Text
end Narration
