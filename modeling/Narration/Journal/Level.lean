import Narration.Journal.Severity
import Narration.Text.Case
import Narration.Text.Quoted

/-! # Levels

A level is the least severity that is written. It is asked for as a number or by name, in the
environment, in the settings or by the caller. Names are looked up in a table in which two entries
are no numbers: the default form of a line, and the collection of such forms. A name that is not in
the table means `INFO`. -/
namespace Narration

inductive Level
  | number (n : Int)
  /-- A truth value counts as one or zero and is still shown as what it is. -/
  | truth (b : Bool)
  | text (t : Text)
  /-- Neither a number nor a text, and so never a level that can be installed. -/
  | other
  deriving DecidableEq

namespace Level

/-- The levels by their standard names. -/
def standard : List (Text × Int) :=
  [("CRITICAL", 50), ("FATAL", 50), ("ERROR", 40), ("WARNING", 30), ("WARN", 30), ("INFO", 20),
    ("DEBUG", 10), ("NOTSET", 0)]

def basicFormat : Text := "%(levelname)s:%(name)s:%(message)s"

/-- What a name in any letter case stands for. -/
def ofName (name : Text) : Level :=
  if Text.upper name = "BASIC_FORMAT" then .text basicFormat
  else if Text.upper name = "_STYLES" then .other
  else .number ((standard.lookup (Text.upper name)).getD 20)

/-- The level where the caller names none: the environment's, even if it is empty, or else that of
the settings. -/
def fallback (environment : Option Text) (setting : Text) : Level :=
  ofName (environment.getD setting)

/-- A level as it stands in a message. -/
def plain : Level → Text
  | number n => .ofInt n
  | truth b => if b then "True" else "False"
  | text t => t
  | other => "a level"

/-- Why a level cannot be installed. -/
inductive Refusal
  | unknown (name : Text)
  | noLevel
  | noThreshold (key : Level)
  deriving DecidableEq

def Refusal.message : Refusal → Text
  | unknown name => "Unknown level: " ++ name.quoted
  | noLevel => "not a level"
  | noThreshold key => key.plain

/-- A level that counts for the root of all loggers: a number, or a truth value. -/
structure Installed where
  shown : Level
  least : Int
  deriving DecidableEq

def Installed.ofNumber (n : Int) : Installed := ⟨number n, n⟩

/-- The level of the root of all loggers. Here a name must be one of the standard names, in
capitals. -/
def root : Level → Except Refusal Installed
  | number n => .ok (.ofNumber n)
  | truth b => .ok ⟨truth b, if b then 1 else 0⟩
  | text t =>
    match standard.lookup t with
    | some n => .ok (.ofNumber n)
    | none => .error (.unknown t)
  | other => .error .noLevel

/-- The names under which a threshold for events is known. -/
def thresholdNames : List (Text × Int) :=
  [("critical", 50), ("exception", 40), ("error", 40), ("warn", 30), ("warning", 30), ("info", 20),
    ("debug", 10), ("notset", 0)]

/-- The threshold for events. Only the six standard levels have one. -/
def threshold : Level → Except Refusal Int
  | number n =>
    if (standard.map (·.2)).contains n then .ok n else .error (.noThreshold (.number n))
  | truth b => if b then .error (.noThreshold (.truth b)) else .ok 0
  | text t =>
    match thresholdNames.lookup (Text.lower t) with
    | some n => .ok n
    | none => .error (.noThreshold (.text (Text.lower t)))
  | other => .error .noLevel

end Level
end Narration
