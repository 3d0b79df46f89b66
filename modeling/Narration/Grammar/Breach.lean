import Narration.Grammar.Label

/-! # Broken contracts

What a caller can get wrong about a person, a gender or a marker, and the wording of each. The
wording shows what was given. Where that cannot be written out, there is no such wording either, and
what was given is refused for this reason instead. -/
namespace Narration

inductive Breach
  | person (given : Label)
  | gender (label : Text)
  | marker (given : Datum)

def Breach.message : Breach → Text
  | person given => "Grammatical person must be 1, 2 or 3; got " ++ given.quoted ++ "."
  | gender label => "Unknown gender '" ++ label ++ "'."
  | marker given =>
    "Token marker must be a single non-word character; got " ++ given.quoted ++ "."

/-- A breach as data: what was given, and the wording. -/
def Breach.toDatum (b : Breach) : Datum :=
  let given : Text × Datum := match b with
    | person label => ("person", label.toDatum)
    | gender label => ("label", .text label)
    | marker d => ("marker", d)
  .object [given, ("message", .text b.message)]

/-- Why a label or a marker is not taken. -/
inductive Refusal
  | breach (b : Breach)
  | unwritten (h : Hindrance)

/-- The refusal of what was given in breach, if something may keep that from being written out. -/
def Breach.refusal (b : Breach) : Option Hindrance → Refusal
  | none => .breach b
  | some h => .unwritten h

end Narration
