import Narration.Grammar.Reading
import Narration.Template.Phrasing
import Narration.Validation.Checked

/-! # Requests

A request is a template, the being that acts, the being acted on if there is one, and whether to
begin with a capital. It is read from data: genders and persons may be loose labels, fields of
other names do not matter, and all faults are found at once. -/
namespace Narration

/-- A being with the person it is addressed in. -/
structure BeingSpec where
  person : Person
  being : Being
  deriving DecidableEq

structure RenderRequest where
  template : Text
  user : BeingSpec
  target : Option BeingSpec
  capitalize : Bool
  deriving DecidableEq

/-- Whether a record may also be offered as a value with attributes. No datum is one, but the
wording of the fault differs. -/
inductive Offer
  | data
  | attributes
  deriving DecidableEq

/-- The fields of a record. -/
def Offer.record (o : Offer) (schema : Schema) : Datum → Checked (List (Text × Datum))
  | .object fields => .ok fields
  | d => match o with
    | .data => Checked.reject (.noRecord schema) d
    | .attributes => Checked.reject .noFields d

/-- The fault of a datum that is refused. -/
def Refusal.kind : Refusal → Fault.Kind
  | breach b => .breach b
  | unwritten h => .unwritten h

/-- A label as a field. -/
def Label.check {α : Type} (read : Label → Except Refusal α) (d : Datum) : Checked α :=
  match read (.datum d) with
  | .ok x => .ok x
  | .error r => Checked.reject r.kind d

variable [Host]

def Gender.check : Datum → Checked Gender := Label.check Gender.ofLabel

def Person.check : Datum → Checked Person := Label.check Person.ofLabel

namespace Being

def check (o : Offer) (d : Datum) : Checked Being := do
  let fields ← o.record .being d
  let (general, gender, specific) ←
    Checked.both (Checked.required "general_name" Checked.text fields)
      (Checked.both (Checked.optional "gender" .genderless Gender.check fields)
        (Checked.optional "specific_name" none (Checked.nullable Checked.text) fields))
  return ⟨general, gender, specific⟩

/-- A being as the data it is read from. -/
def toDatum (b : Being) : Datum :=
  .object [("general_name", .text b.generalName), ("gender", .text b.gender.word),
    ("specific_name", (b.specificName.map Datum.text).getD .null)]

/-- Beings never change: giving an attribute another value is a fault. Only names that begin with an
underscore are free for notes, which are no part of the being. -/
def assign (b : Being) (name : Text) (d : Datum) : Checked Being :=
  if name.startsWith "_" then .ok b else .error [⟨.frozen, [name], d⟩]

end Being

namespace BeingSpec

def check (o : Offer) (d : Datum) : Checked BeingSpec := do
  let fields ← o.record .beingSpec d
  let (person, being) ←
    Checked.both (Checked.optional "person" .third Person.check fields)
      (Checked.required "being" (Being.check o) fields)
  return ⟨person, being⟩

def toDatum (s : BeingSpec) : Datum :=
  .object [("person", .int s.person.number), ("being", s.being.toDatum)]

def address (s : BeingSpec) : Address := ⟨.person s.person, s.being⟩

end BeingSpec

namespace RenderRequest

def check (o : Offer) (d : Datum) : Checked RenderRequest := do
  let fields ← o.record .renderRequest d
  let (template, user, target, capitalize) ←
    Checked.both (Checked.required "template" Checked.text fields)
      (Checked.both (Checked.required "user" (BeingSpec.check o) fields)
        (Checked.both
          (Checked.optional "target" none (Checked.nullable (BeingSpec.check o)) fields)
          (Checked.optional "capitalize" true Checked.bool fields)))
  return ⟨template, user, target, capitalize⟩

def toDatum (r : RenderRequest) : Datum :=
  .object [("template", .text r.template), ("user", r.user.toDatum),
    ("target", (r.target.map BeingSpec.toDatum).getD .null), ("capitalize", .bool r.capitalize)]

end RenderRequest
end Narration
