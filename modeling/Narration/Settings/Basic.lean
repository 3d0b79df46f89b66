import Narration.Text.Basic

/-! # Settings -/
namespace Narration

inductive Deployment
  | development
  | production
  | testing
  deriving DecidableEq

namespace Deployment

def all : List Deployment := [development, production, testing]

def word : Deployment → Text
  | development => "development"
  | production => "production"
  | testing => "testing"

def ofWord? (t : Text) : Option Deployment := all.find? (·.word == t)

/-- The deployment of a word in capitals. -/
def ofCapitals? (t : Text) : Option Deployment := all.find? (·.word.map CodePoint.toAsciiUpper == t)

theorem ofWord?_word (d : Deployment) : ofWord? d.word = some d := by cases d <;> decide

end Deployment

structure Settings where
  appName : Text := "Semantik Phrasing"
  deployment : Deployment := .development
  debug : Bool := true
  logLevel : Text := "INFO"
  logFormat : Text := "console"
  userMarker : Text := "@"
  targetMarker : Text := "~"
  strictContracts : Option Bool := none
  deriving DecidableEq

/-- Whether a bad person is an error. Where nothing is said of it, it is one while debugging; else
the third person takes its place. -/
def Settings.contractsEnforced (s : Settings) : Bool := s.strictContracts.getD s.debug

/-- The names of the settings. -/
def Settings.names : List Text :=
  ["APP_NAME", "APP_ENV", "DEBUG", "LOG_LEVEL", "LOG_FORMAT", "USER_MARKER", "TARGET_MARKER",
    "STRICT_CONTRACTS"]

end Narration
