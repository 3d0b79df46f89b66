import Narration.Grammar.Reading
import Narration.Journal.Run
import Narration.Settings.Basic
import Narration.Template.Token

/-! # Phrasing

One pass over a template puts one being in the place of its tokens. The marker is checked first and
the person after it. Where contracts are not enforced, a bad person is reported and read as third
person, unless it cannot even be written out. -/
namespace Narration

/-- A being and the person it is addressed in, as the caller gives it. -/
structure Address where
  person : Label
  being : Being

namespace Phrasing

variable [Host]

/-- The person to use for a label. -/
def settle (strict : Bool) (given : Label) : Run Refusal Person :=
  match Person.ofLabel given, strict with
  | .ok p, _ => .ok p
  | .error (.breach _), false => do
    .emit (.personOutOfRange given.quoted)
    return .third
  | .error r, _ => .fail r

/-- What a pass needs before it looks at the template. -/
def prepare (strict : Bool) (marker : Datum) (person : Label) : Run Refusal (Marker × Person) := do
  let m ← .ofExcept (Marker.ofDatum marker)
  let p ← settle strict person
  return (m, p)

def phrase (strict : Bool) (marker : Datum) (a : Address) (template : Text) :
    Run Refusal Text := do
  let (m, p) ← prepare strict marker a.person
  return Template.substitute m (a.being.fill p) template

/-- The pass for the being that acts. -/
def user (s : Settings) (strict : Option Bool) (a : Address) (template : Text) :
    Run Refusal Text :=
  phrase (strict.getD s.contractsEnforced) (.text s.userMarker) a template

/-- The pass for the being that is acted on. -/
def target (s : Settings) (strict : Option Bool) (a : Address) (template : Text) :
    Run Refusal Text :=
  phrase (strict.getD s.contractsEnforced) (.text s.targetMarker) a template

/-- What goes wrong with arguments of any shape: one is refused, or a datum that must be a text is
none. -/
inductive Misuse
  | refused (r : Refusal)
  | wrongType

/-- A pass over a datum. That it is no text shows after the marker and the person are settled. -/
def phraseDatum (strict : Bool) (marker : Datum) (a : Address) : Datum → Run Misuse Text
  | .text template => (phrase strict marker a template).mapError .refused
  | _ => do
    let _ ← (prepare strict marker a.person).mapError .refused
    .fail .wrongType

/-- The tokens in a datum for a marker. Lists and objects are no markers that can be looked up,
which is an error of its own. -/
def occurrences (marker text : Datum) : Except Misuse (List (Nat × Nat × Token)) :=
  match marker with
  | .list _ | .object _ => .error .wrongType
  | _ =>
    match Marker.ofDatum marker, text with
    | .error r, _ => .error (.refused r)
    | .ok m, .text t => .ok (Template.occurrences m t)
    | .ok _, _ => .error .wrongType

end Phrasing
end Narration
