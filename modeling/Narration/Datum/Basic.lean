import Narration.Binary64.Shortest
import Narration.Text.Quoted

/-! # Data

A datum is what a client can hand over before anything is known of its shape. Whole numbers have
no bounds and differ from floating point numbers of the same value. Fields keep the order in which
their names first came. -/
namespace Narration

inductive Datum
  | null
  | bool (b : Bool)
  | int (n : Int)
  | float (x : Binary64)
  | text (t : Text)
  | list (items : List Datum)
  | object (fields : List (Text × Datum))

namespace Datum

mutual

/-- A datum as it stands in a message: texts are quoted at every depth. -/
def quoted : Datum → Text
  | null => "None"
  | bool b => if b then "True" else "False"
  | int n => Text.ofInt n
  | float x => x.text
  | text t => t.quoted
  | list items => "[" ++ Text.joined ", " (quotedItems items) ++ "]"
  | object fields => "\x7b" ++ Text.joined ", " (quotedFields fields) ++ "\x7d"

def quotedItems : List Datum → List Text
  | [] => []
  | d :: rest => quoted d :: quotedItems rest

def quotedFields : List (Text × Datum) → List Text
  | [] => []
  | (name, d) :: rest => (name.quoted ++ ": " ++ quoted d) :: quotedFields rest

end

/-- A datum on its own: a bare text, or else the quoted form. -/
def plain : Datum → Text
  | text t => t
  | d => d.quoted

/-- The whole number that a datum equals, if any; a truth value counts as one or zero. -/
def number? : Datum → Option Int
  | bool b => some (if b then 1 else 0)
  | int n => some n
  | float x => x.integer?
  | _ => none

def isNull : Datum → Bool
  | null => true
  | _ => false

/-- Zero, null and everything empty count as false, all else as true. -/
def isTrue : Datum → Bool
  | null => false
  | bool b => b
  | int n => n != 0
  | float x => !x.isZero
  | text t => !t.isEmpty
  | list items => !items.isEmpty
  | object fields => !fields.isEmpty

mutual

/-- Whether every number at every depth is finite. -/
def allFinite : Datum → Bool
  | float x => x.isFinite
  | list items => allFiniteItems items
  | object fields => allFiniteFields fields
  | _ => true

def allFiniteItems : List Datum → Bool
  | [] => true
  | d :: rest => allFinite d && allFiniteItems rest

def allFiniteFields : List (Text × Datum) → Bool
  | [] => true
  | (_, d) :: rest => allFinite d && allFiniteFields rest

end

/-- The value of a field. -/
def field? (name : Text) (fields : List (Text × Datum)) : Option Datum := fields.lookup name

end Datum
end Narration
