import Narration.Capital
import Narration.Template.Phrasing

/-! # Messages

A message is a template in which first the acting being and then, if there is one, the being acted
on have taken the place of their tokens, and which then begins with a capital unless the caller
wants otherwise. The run reports the persons first and a preview of the text at its end. -/
namespace Narration

structure Message where
  text : Text
  template : Text
  deriving DecidableEq

namespace Message

def toDatum (m : Message) : Datum :=
  .object [("text", .text m.text), ("template", .text m.template)]

/-- Why a person has no number to report. -/
inductive NumberError
  | malformed (given : Label)
  | tooLong (digits : Nat)
  | nan
  | infinite
  | noNumber

def NumberError.message : NumberError → Text
  | malformed given => "invalid literal for int() with base 10: " ++ given.quoted.take 200
  | tooLong digits =>
    "Exceeds the limit (" ++ Text.ofNat Text.digitLimit
      ++ " digits) for integer string conversion: value has " ++ Text.ofNat digits
      ++ " digits; use sys.set_int_max_str_digits() to increase the limit"
  | nan => "cannot convert float NaN to integer"
  | infinite => "cannot convert float infinity to integer"
  | noNumber => "not a number"

/-- The number of a person as it is reported, before anything checks the person. Fractions are cut
off, and texts are read as integers. -/
def number (l : Label) : Except NumberError Int :=
  match l with
  | .person p => .ok p.number
  | .gender _ => .error (.malformed l)
  | .datum (.bool b) => .ok (if b then 1 else 0)
  | .datum (.int n) => .ok n
  | .datum (.float x) =>
    match x.truncated?, x with
    | some n, _ => .ok n
    | none, .nan => .error .nan
    | none, _ => .error .infinite
  | .datum (.text t) =>
    match Text.readInt t with
    | .ok n => .ok n
    | .error .malformed => .error (.malformed l)
    | .error (.tooLong digits) => .error (.tooLong digits)
  | .datum _ => .error .noNumber

inductive Failure
  | number (e : NumberError)
  | breach (b : Breach)
  | unwritten (h : Hindrance)
  | wrongType

def Failure.ofRefusal : Refusal → Failure
  | .breach b => breach b
  | .unwritten h => unwritten h

def preview (t : Text) : Text := t.take 50

/-- Reports the persons that a message is for. -/
def start (user : Address) (target : Option Address) : Run Failure Unit := do
  let u ← .ofExcept ((number user.person).mapError .number)
  let t ← .ofExcept ((target.mapM fun a => number a.person).mapError .number)
  .emit (.renderStarted u t)

variable [Host]

/-- Both passes over a template. -/
def phrase (s : Settings) (user : Address) (target : Option Address) (template : Text) :
    Run Refusal Text := do
  let t ← Phrasing.user s none user template
  match target with
  | none => return t
  | some a => Phrasing.target s none a t

def rejected (b : Breach) : Event := .renderRejected b.message

/-- What is reported of a refusal: only that a contract is broken. -/
def rejection? : Refusal → Option Event
  | .breach b => some (rejected b)
  | .unwritten _ => none

def render (s : Settings) (user : Address) (target : Option Address) (capitalize : Bool)
    (template : Text) : Run Failure Message := do
  start user target
  let t ← ((phrase s user target template).reporting rejection?).mapError .ofRefusal
  let text := if capitalize then t.capitalize else t
  .emit (.renderSuccess (preview text))
  return ⟨text, template⟩

/-- A message from a datum. That it is no text shows in the first pass. -/
def renderDatum (s : Settings) (user : Address) (target : Option Address) (capitalize : Bool) :
    Datum → Run Failure Message
  | .text template => render s user target capitalize template
  | _ => do
    start user target
    let ready := Phrasing.prepare s.contractsEnforced (.text s.userMarker) user.person
    let _ ← (ready.reporting rejection?).mapError .ofRefusal
    .fail .wrongType

end Message
end Narration
