import Narration.Settings.File
import Narration.Settings.Words

/-! # Reading settings

Each setting has a name in capitals. Its value is what words say of it, or else the argument of that
name, or else the variable of that name in the environment, or else the one in the settings file, or
else its default. Names match in any letter case, though those of variables and in words can be made
exact. Of several arguments the one in capitals counts, or else the first; of several variables, and
of several words, the last. All values that are found are checked; defaults are not. -/
namespace Narration.Settings

/-- Where settings come from. -/
structure Sources where
  arguments : List (Text × Datum) := []
  environment : List (Text × Text) := []
  file : Option Text := none
  lookup : Lookup := {}
  /-- What words say of settings. -/
  words : List (Text × Datum) := []

/-- The sources as the arguments among them want them looked up. -/
def Sources.arranged [Host] (arguments : List (Text × Datum)) (environment : List (Text × Text))
    (file : Option Bytes) : Except LookupError Sources := do
  let lookup ← Lookup.ofArguments arguments
  let text ← fileText? arguments file
  let words ← spoken lookup arguments
  checkSecrets arguments file
  return ⟨arguments, environment, text, lookup, words⟩

/-- The variable of a setting, from the environment or else from the settings file. -/
def Sources.bound? (s : Sources) (name : Text) : Option Text :=
  let environment := s.environment.map fun (k, v) => (k, some v)
  let file := SettingsFile.read s.environment (s.file.getD [])
  (s.lookup.bound? name environment).or (s.lookup.bound? name file)

def Sources.value? (s : Sources) (name : Text) : Option Datum :=
  (s.words.reverse.lookup name).or
    ((argument? name s.arguments).or ((s.bound? name).map (s.lookup.datum name)))

/-- A setting as the sources have it. -/
def setting {α : Type} (s : Sources) (name : Text) (default : α) (check : Datum → Checked α) :
    Checked α :=
  match s.value? name with
  | some d => (check d).under name
  | none => .ok default

def deploymentOf (d : Datum) : Checked Deployment :=
  let found := match d with
    | .text t => Deployment.ofWord? t
    | _ => none
  match found with
  | some x => .ok x
  | none => Checked.reject .noDeployment d

def read (s : Sources) : Checked Settings := do
  let defaults : Settings := {}
  let (name, deployment, debug, level, format, user, target, strict) ←
    Checked.both (setting s "APP_NAME" defaults.appName Checked.text) <|
    Checked.both (setting s "APP_ENV" defaults.deployment deploymentOf) <|
    Checked.both (setting s "DEBUG" defaults.debug Checked.bool) <|
    Checked.both (setting s "LOG_LEVEL" defaults.logLevel Checked.text) <|
    Checked.both (setting s "LOG_FORMAT" defaults.logFormat Checked.text) <|
    Checked.both (setting s "USER_MARKER" defaults.userMarker Checked.text) <|
    Checked.both (setting s "TARGET_MARKER" defaults.targetMarker Checked.text)
      (setting s "STRICT_CONTRACTS" defaults.strictContracts (Checked.nullable Checked.bool))
  return ⟨name, deployment, debug, level, format, user, target, strict⟩

end Narration.Settings
