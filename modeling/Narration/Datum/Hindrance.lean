import Narration.Datum.Basic
import Narration.Host
import Narration.Text.Integer

/-! # Data that cannot be written out

A datum is written out one part after another, each within what holds it. That fails at a whole
number of too many digits, and at lists and objects that lie too deep in one another. Which of the
two it is shows at the first such part. -/
namespace Narration

inductive Hindrance
  | tooLong
  | tooDeep
  deriving DecidableEq

def Hindrance.message : Hindrance → Text
  | tooLong =>
    "Exceeds the limit (" ++ Text.ofNat Text.digitLimit
      ++ " digits) for integer string conversion; use sys.set_int_max_str_digits() to increase the "
      ++ "limit"
  | tooDeep => "maximum recursion depth exceeded while getting the repr of an object"

/-- Whether a whole number has more digits than are written out. -/
def Text.isOverlong (n : Int) : Bool := digitLimit < (ofNat n.natAbs).length

namespace Datum

mutual

/-- What keeps a datum from being written out with room for so many levels. A level that is empty
takes none. -/
def hindranceWithin? : (room : Nat) → Datum → Option Hindrance
  | _, int n => if Text.isOverlong n then some .tooLong else none
  | 0, list items => if items.isEmpty then none else some .tooDeep
  | room + 1, list items => hindranceInItems? room items
  | 0, object fields => if fields.isEmpty then none else some .tooDeep
  | room + 1, object fields => hindranceInFields? room fields
  | _, _ => none

def hindranceInItems? (room : Nat) : List Datum → Option Hindrance
  | [] => none
  | d :: rest => (hindranceWithin? room d).or (hindranceInItems? room rest)

def hindranceInFields? (room : Nat) : List (Text × Datum) → Option Hindrance
  | [] => none
  | (_, d) :: rest => (hindranceWithin? room d).or (hindranceInFields? room rest)

end

/-- What keeps a datum from being written out. -/
def hindrance? [Host] (d : Datum) : Option Hindrance := d.hindranceWithin? Host.room

end Datum
end Narration
