import Narration.Validation.Fault

/-! # Checked data

Checking a datum gives a value or all its faults. The fields of a record are checked one after
another, and the faults of each are kept in that order. -/
namespace Narration

abbrev Checked (α : Type) := Except (List Fault) α

namespace Checked

variable {α β : Type}

def reject (kind : Fault.Kind) (given : Datum) : Checked α := .error [⟨kind, [], given⟩]

/-- Two checks, whose faults are joined. -/
def both (a : Checked α) (b : Checked β) : Checked (α × β) :=
  match a, b with
  | .ok x, .ok y => .ok (x, y)
  | .error fs, .ok _ => .error fs
  | .ok _, .error gs => .error gs
  | .error fs, .error gs => .error (fs ++ gs)

def under (name : Text) (c : Checked α) : Checked α := c.mapError (List.map (Fault.under name))

/-- A field that must be there. -/
def required (name : Text) (check : Datum → Checked α) (fields : List (Text × Datum)) :
    Checked α :=
  match Datum.field? name fields with
  | some d => (check d).under name
  | none => (reject .missing (.object fields)).under name

/-- A field that has a value of its own where it is left out. -/
def optional (name : Text) (default : α) (check : Datum → Checked α)
    (fields : List (Text × Datum)) : Checked α :=
  match Datum.field? name fields with
  | some d => (check d).under name
  | none => .ok default

def text : Datum → Checked Text
  | .text t => .ok t
  | d => reject .noText d

/-- Null, or a datum that passes the check. -/
def nullable (check : Datum → Checked α) : Datum → Checked (Option α)
  | .null => .ok none
  | d => (check d).map some

def falseWords : List Text := ["0", "off", "f", "false", "n", "no"]

def trueWords : List Text := ["1", "on", "t", "true", "y", "yes"]

/-- A truth value in words, in either case of the ASCII letters. -/
def boolOfText? (t : Text) : Option Bool :=
  let word := t.map CodePoint.toAsciiLower
  if falseWords.contains word then some false
  else if trueWords.contains word then some true
  else none

/-- The least number of which neither it nor its opposite is a floating point integer of 64 bits. -/
def integerBound : Nat := 0x8000000000000000

/-- A truth value, or a number or a word that stands for one. A number that is no integer of 64 bits
is refused as another type. -/
def bool (d : Datum) : Checked Bool :=
  match d with
  | .bool b => .ok b
  | .int n =>
    if n = 0 then .ok false
    else if n = 1 then .ok true
    else if -(integerBound : Int) ≤ n ∧ n < integerBound then reject .unclearBool d
    else reject .noBool d
  | .float x =>
    match x.integer? with
    | some n =>
      if n = 0 then .ok false
      else if n = 1 then .ok true
      else if n.natAbs < integerBound then reject .unclearBool d
      else reject .noBool d
    | none => reject .noBool d
  | .text t =>
    if t.any (·.isHalf) then reject .brokenText d
    else match boolOfText? t with
      | some b => .ok b
      | none => reject .unclearBool d
  | _ => reject .noBool d

end Checked
end Narration
