import Narration.CommandLine.Arguments
import Narration.Datum.Json
import Narration.Files.Directory
import Narration.Journal.Basic
import Narration.Message
import Narration.Request
import Narration.Text.Utf8

/-! # The command line

A call renders one message. The request is read as JSON from a file or from standard input, or it
is put together from the flags; in both cases it is checked as data. What a call ends with is told
from what makes it fail before it can end. As a program of its own a call sets up the journal before
it looks at its words. -/
namespace Narration.CommandLine

/-- What a call finds around it. -/
structure World where
  settings : Settings := {}
  input : Text := []
  files : List (Text × Bytes) := []
  /-- Whether what is printed leaves as UTF-8. -/
  encodes : Bool := true

/-- What keeps a text from being printed. -/
def World.unprintable? (w : World) (t : Text) : Option Text :=
  if w.encodes then t.unencodable? else none

/-- How a call ends. -/
inductive Ending
  | rendered (text : Text)
  | help (text : Text)
  | refused (message : Text)
  | invalid (faults : List Fault)
  | usage (complaint : Text)

/-- What breaks a call off. -/
inductive Failure
  | path (e : PathError)
  | undecodable
  | untold (reason : Fault.Untold)
  | tooLong (digits : Nat)
  | tooDeep
  | message (e : Message.Failure)
  | unprinted (reason : Text)

def Ending.code : Ending → Nat
  | rendered _ | help _ => 0
  | refused _ | invalid _ => 1
  | usage _ => 2

/-- What a call prints. -/
def Ending.output : Ending → Text
  | rendered text => text ++ "\n"
  | help text => text
  | _ => []

def invalidRequest : Text := "Error: invalid render request."

/-- Why a request is not even checked. -/
inductive Rejection
  | refused (message : Text)
  | failed (f : Failure)

/-- The text of the request, from standard input if the path is a dash. -/
def source (w : World) (path : Text) : Except Failure Text :=
  if path = "-" then .ok w.input
  else match Directory.find w.files path with
    | .error e => .error (.path e)
    | .ok bytes =>
      match Text.ofUtf8? bytes with
      | some t => .ok t.unifyLineEnds
      | none => .error .undecodable

variable [Host]

/-- A request that is written as JSON. It must be an object. -/
def written (t : Text) : Except Rejection Datum :=
  match Json.read t with
  | .error (.malformed fault position) =>
    .error (.refused ("Error: invalid JSON input (" ++ Json.describe t fault position ++ ")."))
  | .error (.tooLong digits) => .error (.failed (.tooLong digits))
  | .error .tooDeep => .error (.failed .tooDeep)
  | .ok (.object fields) => .ok (.object fields)
  | .ok _ => .error (.refused "Error: expected a JSON object at top level.")

/-- What is given to a flag as a datum. -/
def Given.toDatum : Given → Datum
  | .text t => .text t
  | .nothing => .list []

/-- A being and its person as data. Without a name, or with an empty one, there is none. -/
def BeingArguments.datum? (b : BeingArguments) : Option Datum :=
  match b.name with
  | none => none
  | some name =>
    if name.isEmpty then none
    else some (.object
      [("person", b.person.toDatum),
        ("being", .object
          [("general_name", name.toDatum), ("gender", b.gender.toDatum),
            ("specific_name", (b.specific.map Given.toDatum).getD .null)])])

/-- The request that the flags put together. -/
def Arguments.datum (a : Arguments) : Except Rejection Datum :=
  match a.template, a.user.datum? with
  | none, _ => .error (.refused "Error: --template or --input is required.")
  | some _, none => .error (.refused "Error: --user-name is required.")
  | some template, some user =>
    .ok (.object
      [("template", template.toDatum), ("user", user),
        ("target", a.target.datum?.getD .null), ("capitalize", .bool a.capitalize)])

/-- The path of the input, if one is named and not empty. -/
def Arguments.input? (a : Arguments) : Option Text :=
  match a.input with
  | some (.text (c :: path)) => some (c :: path)
  | _ => none

/-- The request of a call. An input that is named, and not by an empty path, overrides the other
flags. -/
def Arguments.request (w : World) (a : Arguments) : Except Rejection Datum :=
  match a.input? with
  | none => a.datum
  | some path =>
    match source w path with
    | .error f => .error (.failed f)
    | .ok t => written t

/-- Renders a request that has passed the check, and prints the text. -/
def deliver (w : World) (r : RenderRequest) : Run Failure Ending :=
  let target := r.target.map BeingSpec.address
  let run := Message.render w.settings r.user.address target r.capitalize r.template
  match run.outcome with
  | .ok m =>
    match w.unprintable? m.text with
    | some reason => ⟨run.events, .error (.unprinted reason)⟩
    | none => ⟨run.events, .ok (.rendered m.text)⟩
  | .error (.breach b) => ⟨run.events, .ok (.refused ("Error: " ++ b.message))⟩
  | .error e => ⟨run.events, .error (.message e)⟩

def Arguments.run (w : World) (a : Arguments) : Run Failure Ending :=
  match a.request w with
  | .error (.refused message) => .ok (.refused message)
  | .error (.failed f) => .fail f
  | .ok d =>
    match RenderRequest.check .data d with
    | .error fs =>
      match Fault.untold? fs with
      | some reason => .fail (.untold reason)
      | none => .ok (.invalid fs)
    | .ok r => deliver w r

/-- A call with its words. -/
def call (w : World) (words : List Text) : Run Failure Ending :=
  match Arguments.ofWords words with
  | .error (.help text) => .ok (.help text)
  | .error (.usage program e) => .ok (.usage (complaint program e))
  | .ok a => a.run w

/-- A call as a program of its own, unless its journal cannot be set up. -/
def launch (env : Journal.Environment) (w : World) (words : List Text) :
    Except Journal.Failure (Run Failure Ending) := do
  let _ ← Journal.start env w.settings
  return call w words

end Narration.CommandLine
