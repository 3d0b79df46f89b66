import Narration.Request
import Narration.Text.Encoding
import Narration.Web.Exchange

/-! # Bodies

The body of a request to render is read as JSON if its type says so, in the encoding that its bytes
tell of themselves. A body of another type or of none is left as it is, and is no request then. -/
namespace Narration.Web

/-- A fault in a body: where and why its JSON breaks off, or what its data lack. -/
inductive BodyFault
  | malformed (fault : Json.Fault) (position : Nat)
  | datum (f : Fault)

/-- Why a body gives no request: it cannot be read at all, or it has faults, which cannot always be
told. -/
inductive BodyError
  | unreadable
  | untold (reason : Text)
  | faults (fs : List BodyFault)

/-- Whether a type is that of JSON. Parameters behind a semicolon do not matter. -/
def isJsonType (type : Text) : Bool :=
  let name := Text.lower (Text.strip (type.takeWhile (· != .char ';')))
  match Text.splitAt (.char '/') name with
  | [main, sub] => main == "application" && (sub == "json" || ("+json" : Text).isSuffixOf sub)
  | _ => false

/-- Whether the body is said to be JSON. A text in a header is read byte by byte, so that a
character beyond ASCII counts as several. -/
def Request.isJson (r : Request) : Bool :=
  (r.header? "content-type").any fun type => isJsonType (Encoding.bytewise type.utf8)

/-- The datum in a body that is not empty. -/
def Request.datum [Host] (r : Request) : Except BodyError Datum :=
  if r.isJson then
    match Text.ofBytes? r.body with
    | none => .error .unreadable
    | some t =>
      match Json.read t with
      | .ok d => .ok d
      | .error (.malformed fault position) => .error (.faults [.malformed fault position])
      | .error _ => .error .unreadable
  else .ok (.text (Text.ofUtf8Lossy r.body))

def located (fs : List Fault) : BodyError :=
  match Fault.untold? fs with
  | some u => .untold u.reason
  | none => .faults (fs.map fun f => .datum (f.under "body"))

/-- The request to render in a body. No body is a missing one. -/
def Request.rendering [Host] (r : Request) : Except BodyError RenderRequest :=
  if r.body = [] then .error (located [⟨.missing, [], .null⟩])
  else do (RenderRequest.check .attributes (← r.datum)).mapError located

/-- What explains a fault beyond its wording. -/
def contextOf (kind : Fault.Kind) : List (Text × Datum) :=
  match kind with
  | .breach b => [("ctx", .object [("error", b.toDatum)])]
  | _ => []

/-- A fault as the answer shows it. The rejected datum is quoted. -/
def BodyFault.toDatum : BodyFault → Datum
  | malformed fault position =>
    .object [("type", .text "json_invalid"), ("loc", .list [.text "body", .int position]),
      ("msg", .text "JSON decode error"), ("input", .object []),
      ("ctx", .object [("error", .text fault.message)])]
  | datum f =>
    .object (("type", .text f.kind.code) :: ("loc", .list (f.location.map .text))
      :: ("msg", .text f.kind.message) :: ("input", f.given) :: contextOf f.kind)

end Narration.Web
