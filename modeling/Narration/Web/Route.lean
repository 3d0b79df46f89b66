import Narration.Settings.Basic
import Narration.Web.Target

/-! # Routes

Which resource a path leads to, and which methods it answers. The description of the service is
always there; the pages that show it are not in production. A line feed at the end of a fixed path
does not matter. -/
namespace Narration.Web

inductive Resource
  | description
  | page
  | ready
  | render
  | pronouns (person gender : Text)
  deriving DecidableEq

def Resource.methods : Resource → List Text
  | description | page => ["GET", "HEAD"]
  | ready | pronouns .. => ["GET"]
  | render => ["POST"]

/-- The paths of the pages that show the description. -/
def pagePaths (s : Settings) : List Text :=
  if s.deployment = .production then [] else ["/docs", "/docs/oauth2-redirect", "/redoc"]

def fixedPaths (s : Settings) : List (Text × Resource) :=
  ("/openapi.json", .description) :: ("/api/v1/health/ready", .ready) :: ("/api/v1/render", .render)
    :: (pagePaths s).map fun p => (p, .page)

/-- A person and a gender, each in one segment that is not empty, behind the path of the table. -/
def cell? (path : Text) : Option Resource := do
  let rest ← Text.after? "/api/v1/pronouns/" path
  match Text.splitAt '/' rest with
  | [person, gender] => if person = [] ∨ gender = [] then none else some (.pronouns person gender)
  | _ => none

def resource? (s : Settings) (path : Text) : Option Resource :=
  match (fixedPaths s).find? fun (p, _) => path == p || path == p ++ "\n" with
  | some (_, r) => some r
  | none => cell? path

/-- The path without the slashes at its end, where those keep it from leading to a resource. -/
def redirected? (s : Settings) (path : Text) : Option Text :=
  if path ≠ "/" ∧ path.getLast? = some (.char '/') then
    let shorter := (path.reverse.dropWhile (· == .char '/')).reverse
    if (resource? s shorter).isSome then some shorter else none
  else none

end Narration.Web
