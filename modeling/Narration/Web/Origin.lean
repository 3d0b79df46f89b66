import Narration.Settings.Basic
import Narration.Web.Exchange

/-! # Requests from other origins

While debugging every origin may use the service, else none may. A browser asks beforehand which
method it may use, and such a question is answered before anything else is looked at. Private
networks are closed to other origins. -/
namespace Narration.Web

/-- The methods that another origin may use. -/
def sharedMethods : List Text :=
  ["DELETE", "GET", "HEAD", "OPTIONS", "PATCH", "POST", "PUT", "QUERY"]

/-- The answer to the question whether another origin may use a method, perhaps in a private
network. -/
def permission (s : Settings) (method : Text) (isPrivate : Bool) : Response :=
  let failures : List Text :=
    (if s.debug then [] else [("origin" : Text)])
      ++ (if sharedMethods.contains method then [] else [("method" : Text)])
      ++ (if isPrivate then [("private-network" : Text)] else [])
  { status := if failures = [] then 200 else 400
    content := .plain (if failures = [] then "OK"
      else "Disallowed CORS " ++ Text.joined ", " failures)
    allowOrigin := if s.debug then some "*" else none
    allowMethods := some (Text.joined ", " sharedMethods) }

/-- The origins that a response to another origin allows: all, or none. -/
def allowedOrigin? (s : Settings) (r : Request) : Option Text :=
  if s.debug && (r.header? "origin").isSome then some "*" else none

end Narration.Web
