import Narration.Text.Blank
import Narration.Text.Numeral

/-! # Integers in texts

An integer is a sign, if any, and decimal digits of any script, with white space around it. One
underscore may stand between two digits. A number of too many digits is not read at all. -/
namespace Narration.Text

inductive IntegerError
  | malformed
  | tooLong (digits : Nat)
  deriving DecidableEq

def digitLimit : Nat := 4300

/-- White space that may surround a number: all but the four information separators. -/
def isNumberBlank (c : CodePoint) : Bool := isBlank c && !(0x1C ≤ c.toNat && c.toNat ≤ 0x1F)

/-- The number that decimal digits spell, most significant first. -/
def valueOf (digits : Text) : Nat :=
  digits.foldl (fun n c => 10 * n + (decimalValue? c).getD 0) 0

/-- Reads digits, underscores between them, and nothing else but white space at the end. The
count of the digits is checked before what follows them. -/
def readNat (t : Text) : Except IntegerError Nat :=
  let run := t.takeWhile fun c => isDecimal c || c == .char '_'
  let digits := run.filter isDecimal
  if (splitAt '_' run).any (·.isEmpty) then .error .malformed
  else if digits.length > digitLimit then .error (.tooLong digits.length)
  else if (t.drop run.length).all isNumberBlank then .ok (valueOf digits)
  else .error .malformed

def readInt (t : Text) : Except IntegerError Int :=
  match t.dropWhile isNumberBlank with
  | .char '-' :: rest => (readNat rest).map fun n => -(n : Int)
  | .char '+' :: rest => (readNat rest).map Int.ofNat
  | rest => (readNat rest).map Int.ofNat

end Narration.Text
