import Narration.Journal.Basic
import Narration.Journal.Run
import Narration.Message
import Narration.Web.Body
import Narration.Web.Origin
import Narration.Web.Route
import Narration.Web.Sending

/-! # The service

The service renders messages, shows rows of the pronoun table and tells that it is ready. A message
that breaks a contract, a person or gender that is none and data with faults are the client's
fault. An answer that cannot be written is a fault of the service; it is reported, and the client
learns of it while debugging only. A service sets up the journal before it starts. -/
namespace Narration.Web

/-- What happens to a request. A broken answer is given up, and another takes its place. -/
inductive Outcome
  | answered (r : Response)
  | broken (reason : Text)

def Outcome.failed (status : Nat) (message : Text) : Outcome :=
  .answered (Response.failed status message)

def json (d : Datum) : Outcome := .answered { status := 200, content := .json d }

/-- The answer to a body with faults quotes the rejected data, so it may be impossible to send. -/
def rejection : BodyError → Outcome
  | .unreadable => .failed 400 "There was an error parsing the body"
  | .untold reason => .broken reason
  | .faults fs =>
    let d := shared (.object [("detail", .list (fs.map BodyFault.toDatum))])
    match unsendable? d with
    | some reason => .broken reason
    | none => .answered { status := 422, content := .json d }

/-- The answer with a message. Its texts are looked at one by one. -/
def delivery (m : Message) : Outcome :=
  match m.text.unencodable?.or m.template.unencodable? with
  | some reason => .broken ("Error serializing to JSON: UnicodeEncodeError: " ++ reason)
  | none => json m.toDatum

variable [Host]

/-- Renders a request that has passed the check. Of the ways to fail only a broken contract is left
to it. -/
def deliver (s : Settings) (r : RenderRequest) : List Event × Outcome :=
  let run :=
    Message.render s r.user.address (r.target.map BeingSpec.address) r.capitalize r.template
  match run.outcome with
  | .ok m => (run.events, delivery m)
  | .error (.breach b) =>
    (run.events ++ [.renderBadRequest b.message], .failed 422 b.message)
  | .error (.number e) => (run.events, .broken e.message)
  | .error (.unwritten h) => (run.events, .broken h.message)
  | .error .wrongType => (run.events, .broken "expected string or bytes-like object")

def render (s : Settings) (r : Request) : List Event × Outcome :=
  match r.rendering with
  | .error e => ([], rejection e)
  | .ok request => deliver s request

/-- A row of the table for two loose labels. The person is read first. -/
def pronouns (person gender : Text) : Outcome :=
  let row : Except Refusal PronounSet := do
    let p ← Person.ofLabel (.datum (.text person))
    let g ← Gender.ofLabel (.datum (.text gender))
    return PronounSet.row p g
  match row with
  | .ok set => json (.object (set.tokenForms.map fun (k, t) => (k, .text t)))
  | .error (.breach b) => .failed 422 b.message
  | .error (.unwritten h) => .broken h.message

def ready (s : Settings) : Outcome :=
  json (.object
    [("status", .text "ok"), ("app", .text s.appName), ("env", .text s.deployment.word)])

/-- What a resource answers to a method that it knows. -/
def visit (s : Settings) (r : Request) : Resource → List Event × Outcome
  | .description => ([], .answered { status := 200, content := .description })
  | .page => ([], .answered { status := 200, content := .page })
  | .ready => ([], ready s)
  | .render => render s r
  | .pronouns person gender => ([], pronouns person gender)

def route (s : Settings) (r : Request) : List Event × Outcome :=
  match resource? s r.target.path with
  | some resource =>
    if resource.methods.contains r.method then visit s r resource
    else ([], .failed 405 "Method Not Allowed")
  | none =>
    match redirected? s r.target.path with
    | some path =>
      let location := { r.target with path := path }.address
      ([], .answered { status := 307, content := .nothing, location := some location })
    | none => ([], .failed 404 "Not Found")

/-- The answer in place of one that broke. It does not name an origin. -/
def apology (s : Settings) (reason : Text) : Response :=
  .failed 500 (if s.debug then reason else "Internal Server Error")

/-- What comes of a request. A service that breaks does so after its response. -/
structure Reply where
  events : List Event
  response : Response
  breaks : Bool := false

def answer (s : Settings) (r : Request) : Reply :=
  match r.header? "origin", r.header? "access-control-request-method" with
  | some _, some method =>
    if r.method = "OPTIONS" then
      ⟨[], permission s method (r.header? "access-control-request-private-network").isSome, false⟩
    else respond s r
  | _, _ => respond s r
where
  respond (s : Settings) (r : Request) : Reply :=
    match route s r with
    | (events, .answered response) =>
      ⟨events, { response with allowOrigin := allowedOrigin? s r }, false⟩
    | (events, .broken reason) => ⟨events ++ [.unhandled reason], apology s reason, true⟩

/-- The reply of a service. A service is described under its name, so without one there is none. -/
def serve? (s : Settings) (r : Request) : Option Reply :=
  if s.appName = [] then none else some (answer s r)

/-- Why a service does not start. -/
inductive Unstarted
  | journal (e : Journal.Failure)
  | nameless

/-- The reply of a service that is started for one request. -/
def launch (env : Journal.Environment) (s : Settings) (r : Request) : Except Unstarted Reply := do
  let _ ← (Journal.start env s).mapError .journal
  match serve? s r with
  | some reply => return reply
  | none => .error .nameless

/-- All events of a service that is started for one request, and stopped unless it breaks. -/
def Reply.lifespan (s : Settings) (r : Reply) : List Event :=
  .appStarting s.appName s.deployment.word :: r.events
    ++ if r.breaks then [] else [.appStopping]

end Narration.Web
