import Narration.Journal.Record

/-! # Events

What a run reports of itself, beside its result. -/
namespace Narration

inductive Event
  | personOutOfRange (given : Text)
  | renderStarted (user : Int) (target : Option Int)
  | renderRejected (reason : Text)
  | renderSuccess (preview : Text)
  | renderBadRequest (reason : Text)
  | appStarting (app environment : Text)
  | appStopping
  | unhandled (reason : Text)
  deriving DecidableEq

namespace Event

def severity : Event → Severity
  | personOutOfRange _ | renderRejected _ | renderBadRequest _ => .warning
  | renderStarted .. | renderSuccess _ | appStarting .. | appStopping => .info
  | unhandled _ => .error

def name : Event → Text
  | personOutOfRange _ => "person_out_of_range"
  | renderStarted .. => "render_started"
  | renderRejected _ => "render_rejected"
  | renderSuccess _ => "render_success"
  | renderBadRequest _ => "render_bad_request"
  | appStarting .. => "app_starting"
  | appStopping => "app_stopping"
  | unhandled _ => "unhandled_exception"

def fields : Event → List (Text × Datum)
  | personOutOfRange given => [("person", .text given), ("fallback", .int 3)]
  | renderStarted user target =>
    [("user_person", .int user), ("target_person", (target.map Datum.int).getD .null)]
  | renderRejected reason | renderBadRequest reason | unhandled reason => [("error", .text reason)]
  | renderSuccess preview => [("text_preview", .text preview)]
  | appStarting app environment => [("app", .text app), ("env", .text environment)]
  | appStopping => []

def record (logger : Text) (e : Event) : Record := ⟨e.severity, .text e.name, logger, e.fields⟩

end Event
end Narration
