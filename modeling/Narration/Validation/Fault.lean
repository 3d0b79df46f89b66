import Narration.Grammar.Breach
import Narration.Settings.Basic
import Narration.Text.Unencodable

/-! # Faults

What validation finds wrong with a datum. A fault says what is wrong, where it is, as the names of
fields from the outside in, and which datum was given there. -/
namespace Narration

/-- The records that a datum is read as. -/
inductive Schema
  | being
  | beingSpec
  | renderRequest
  deriving DecidableEq

def Schema.name : Schema → Text
  | being => "Being"
  | beingSpec => "BeingSpec"
  | renderRequest => "RenderRequest"

inductive Fault.Kind
  | missing
  | noText
  /-- A text with halves in it. -/
  | brokenText
  | noRecord (schema : Schema)
  | noFields
  | breach (b : Breach)
  /-- A label that is refused because it cannot be written out. -/
  | unwritten (h : Hindrance)
  | noBool
  | unclearBool
  | noDeployment
  | frozen

namespace Fault.Kind

def code : Kind → Text
  | missing => "missing"
  | noText => "string_type"
  | brokenText => "string_unicode"
  | noRecord _ => "model_type"
  | noFields => "model_attributes_type"
  | breach _ | unwritten _ => "value_error"
  | noBool => "bool_type"
  | unclearBool => "bool_parsing"
  | noDeployment => "enum"
  | frozen => "frozen_instance"

def message : Kind → Text
  | missing => "Field required"
  | noText => "Input should be a valid string"
  | brokenText => "Input should be a valid string, unable to parse raw data as a unicode string"
  | noRecord schema => "Input should be a valid dictionary or instance of " ++ schema.name
  | noFields => "Input should be a valid dictionary or object to extract fields from"
  | breach b => "Value error, " ++ b.message
  | unwritten h => "Value error, " ++ h.message
  | noBool => "Input should be a valid boolean"
  | unclearBool => "Input should be a valid boolean, unable to interpret input"
  | noDeployment => "Input should be 'development', 'production' or 'testing'"
  | frozen => "Instance is frozen"

/-- Whether a fault ends the check there and then. -/
def isFatal : Kind → Bool
  | unwritten .tooDeep => true
  | _ => false

/-- What keeps a fault from being told: a breach is told in its own words, and they may hold
halves. -/
def unencodable? : Kind → Option Text
  | breach b => b.message.unencodable?
  | _ => none

end Fault.Kind

structure Fault where
  kind : Fault.Kind
  location : List Text
  given : Datum

/-- The fault seen from the record that has the faulty datum in a field. -/
def Fault.under (name : Text) (f : Fault) : Fault := { f with location := name :: f.location }

/-- Why faults are not told: one of them has ended the check, or the words of one cannot be
encoded. -/
inductive Fault.Untold
  | tooDeep
  | halves (reason : Text)

def Fault.Untold.reason : Untold → Text
  | tooDeep => Hindrance.tooDeep.message
  | halves reason => reason

/-- What keeps faults from being told. -/
def Fault.untold? (fs : List Fault) : Option Untold :=
  if fs.any (·.kind.isFatal) then some .tooDeep
  else (fs.findSome? (·.kind.unencodable?)).map .halves

end Narration
