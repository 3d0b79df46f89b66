import Narration.Text.Basic

/-! # Severities

How grave an event is, on the scale of which levels are thresholds. -/
namespace Narration

inductive Severity
  | debug
  | info
  | warning
  | error
  | critical
  deriving DecidableEq

namespace Severity

def all : List Severity := [debug, info, warning, error, critical]

def number : Severity → Int
  | debug => 10
  | info => 20
  | warning => 30
  | error => 40
  | critical => 50

def word : Severity → Text
  | debug => "debug"
  | info => "info"
  | warning => "warning"
  | error => "error"
  | critical => "critical"

/-- What a caller may call a severity besides its own word. -/
def synonyms : List (Text × Severity) :=
  [("warn", warning), ("exception", error), ("fatal", critical), ("msg", info)]

def ofWord? (t : Text) : Option Severity := (all.find? (·.word == t)).or (synonyms.lookup t)

end Severity
end Narration
