import Narration.Text.Case
import Narration.Web.Target

/-! # Requests and responses -/
namespace Narration.Web

/-- A request. Names of methods have one spelling, in capitals. -/
structure Request where
  method : Text
  target : Target
  headers : List (Text × Text) := []
  body : Bytes := []

/-- The value of a header. Names of headers match in any letter case. -/
def Request.header? (r : Request) (name : Text) : Option Text :=
  (r.headers.find? fun (n, _) => Text.lower n == name).map (·.2)

/-- What a response holds. Pages and the description of the service are told by their kind. -/
inductive Content
  | json (d : Datum)
  | description
  | page
  | plain (t : Text)
  | nothing

def Content.kind? : Content → Option Text
  | json _ | description => some "application/json"
  | page => some "text/html; charset=utf-8"
  | plain _ => some "text/plain; charset=utf-8"
  | nothing => none

structure Response where
  status : Nat
  content : Content
  location : Option Text := none
  allowOrigin : Option Text := none
  allowMethods : Option Text := none

/-- The response that tells of an error. -/
def Response.failed (status : Nat) (message : Text) : Response :=
  { status := status
    content := .json (.object
      [("status", .text "error"), ("code", .int status), ("message", .text message)]) }

end Narration.Web
