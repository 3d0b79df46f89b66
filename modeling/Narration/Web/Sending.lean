import Narration.Datum.Written
import Narration.Text.Unencodable

/-! # Sending JSON

An answer is sent as JSON in UTF-8. JSON has no numbers that are not finite and UTF-8 has no
halves, so an answer that holds either cannot be sent. The numbers are looked at first. -/
namespace Narration.Web

mutual

/-- What is sent of a datum: fields whose names begin with `_sa` are internal at every depth. -/
def shared : Datum → Datum
  | .list items => .list (sharedItems items)
  | .object fields => .object (sharedFields fields)
  | d => d

def sharedItems : List Datum → List Datum
  | [] => []
  | d :: rest => shared d :: sharedItems rest

def sharedFields : List (Text × Datum) → List (Text × Datum)
  | [] => []
  | (name, d) :: rest =>
    if name.startsWith "_sa" then sharedFields rest else (name, shared d) :: sharedFields rest

end

/-- Why a datum cannot be sent. -/
def unsendable? (d : Datum) : Option Text :=
  if d.allFinite then (Json.write .compact d).unencodable?
  else some "Out of range float values are not JSON compliant"

end Narration.Web
