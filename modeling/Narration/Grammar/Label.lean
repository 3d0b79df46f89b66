import Narration.Datum.Hindrance
import Narration.Grammar.Gender
import Narration.Grammar.Person

/-! # Labels

A label is what a caller gives for a person or a gender: one of them as such, or a datum that has
yet to be understood. -/
namespace Narration

inductive Label
  | person (p : Person)
  | gender (g : Gender)
  | datum (d : Datum)

namespace Label

/-- A label as it stands in a message. -/
def quoted : Label → Text
  | person p => "<GrammaticalPerson." ++ p.name ++ ": " ++ Text.ofNat p.number ++ ">"
  | gender g => "<Gender." ++ g.name ++ ": " ++ g.word.quoted ++ ">"
  | datum d => d.quoted

/-- A label on its own. -/
def plain : Label → Text
  | person p => Text.ofNat p.number
  | gender g => "Gender." ++ g.name
  | datum d => d.plain

def toDatum : Label → Datum
  | person p => .int p.number
  | gender g => .text g.word
  | datum d => d

/-- What keeps a label from being written out. -/
def hindrance? [Host] : Label → Option Hindrance
  | datum d => d.hindrance?
  | _ => none

/-- The whole number that a label equals, if any. -/
def number? : Label → Option Int
  | person p => some p.number
  | gender _ => none
  | datum d => d.number?

/-- The person that a label stands for where nothing checks it: what equals neither one nor three
counts as second person. -/
def spoken (l : Label) : Person :=
  match l.number? with
  | some 1 => .first
  | some 3 => .third
  | _ => .second

end Label
end Narration
