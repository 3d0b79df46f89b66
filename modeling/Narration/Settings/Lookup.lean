import Narration.Files.Directory
import Narration.Settings.Basic
import Narration.Text.Case
import Narration.Text.Charset
import Narration.Validation.Checked

/-! # How settings are looked up

Arguments whose names begin with an underscore are no settings. Some of them say how variables are
looked up: by which names, in which file, and which of their values count. Null is as good as no
argument, but for the file, which it rules out. All others with an underscore do not matter. -/
namespace Narration.Settings

/-- Why arguments give no way to look settings up. -/
inductive LookupError
  | wrongType
  | noEncoding
  | undecodable
  /-- The settings file lacks the mark of its encoding. -/
  | noMark
  | unusable
  /-- Words are wrong or ask for help, which ends the program. -/
  | ended
  deriving DecidableEq

structure Lookup where
  /-- What stands in the name of a variable in front of the name of the setting. -/
  lead : Text := []
  /-- Whether names of variables must match in letter case. -/
  exact : Bool := false
  /-- Whether empty values count as none. -/
  skipsEmpty : Bool := false
  /-- The value of a variable that stands for null. -/
  nullWord : Option Text := none
  /-- Whether variables may also hold the name of a deployment in capitals. -/
  capitals : Bool := false
  deriving DecidableEq

/-- Whether two names differ at most in letter case. -/
def sameName (a b : Text) : Bool := Text.lower a == Text.lower b

/-- Whether the name of a variable is the one that is looked for. -/
def Lookup.matchesName (l : Lookup) (name sought : Text) : Bool :=
  if l.exact then name == sought else sameName name sought

/-- The value of the variable of a setting, where the last one counts. Names without a value do not
count. -/
def Lookup.bound? (l : Lookup) (setting : Text) (bindings : List (Text × Option Text)) :
    Option Text :=
  let named := bindings.filter fun (name, value) =>
    l.matchesName name (l.lead ++ setting) && !(l.skipsEmpty && value == some [])
  named.getLast?.bind (·.2)

/-- The argument of a setting: the one of its very name, or else the first in any letter case, also
where names of variables must be exact. -/
def argument? (setting : Text) (arguments : List (Text × Datum)) : Option Datum :=
  (Datum.field? setting arguments).or
    ((arguments.find? fun (name, _) => sameName name setting).map (·.2))

/-- What the value of the variable of a setting means. -/
def Lookup.datum (l : Lookup) (setting value : Text) : Datum :=
  if l.nullWord = some value then .null
  else if l.capitals && setting == "APP_ENV" then
    .text (((Deployment.ofCapitals? value).map Deployment.word).getD value)
  else .text value

/-! ## Arguments -/

/-- An argument that is not null. -/
def given? (name : Text) (arguments : List (Text × Datum)) : Option Datum :=
  (Datum.field? name arguments).filter (!·.isNull)

def isGiven (name : Text) (arguments : List (Text × Datum)) : Bool :=
  (given? name arguments).any Datum.isTrue

/-- What stands in front of names. What has no length is of the wrong type, other data that are no
text cannot stand there. -/
def leadOf : Option Datum → Except LookupError Text
  | none => .ok []
  | some (.text t) => .ok t
  | some (.list _) | some (.object _) => .error .unusable
  | some _ => .error .wrongType

/-- The paths that an argument lists. -/
def pathsOf : Datum → Except LookupError (List Text)
  | .text t => .ok [t]
  | .list items => items.mapM fun
    | .text t => .ok t
    | _ => .error .wrongType
  | .object fields => .ok (fields.map (·.1))
  | _ => .error .wrongType

/-- How deep names may nest is a number, though no setting is nested. -/
def checkDepth : Option Datum → Except LookupError Unit
  | some (.text (_ :: _)) | some (.list (_ :: _)) | some (.object (_ :: _)) => .error .wrongType
  | _ => .ok ()

def Lookup.ofArguments (arguments : List (Text × Datum)) : Except LookupError Lookup := do
  let lead ← leadOf (given? "_env_prefix" arguments)
  let led := match given? "_env_prefix_target" arguments with
    | some (.text t) => t == "variable" || t == "all"
    | some _ => false
    | none => true
  checkDepth (given? "_env_nested_max_split" arguments)
  return {
    lead := if led then lead else []
    exact := isGiven "_case_sensitive" arguments
    skipsEmpty := isGiven "_env_ignore_empty" arguments
    nullWord := match given? "_env_parse_none_str" arguments with
      | some (.text t) => some t
      | _ => none
    capitals := isGiven "_env_parse_enums" arguments }

/-! ## The settings file -/

def fileName : Text := ".env"

/-- Whether a path leads to the settings file. -/
def isFilePath (path : Text) : Bool := Directory.plainPath path == fileName

/-- The encoding that an argument names, where a text that is empty names none. -/
def charsetOf : Option Datum → Except LookupError Charset
  | some (.text (c :: name)) =>
    match Charset.ofName? (c :: name) with
    | some e => .ok e
    | none => .error .noEncoding
  | some d => if d.isTrue then .error .wrongType else .ok (.plain .utf8)
  | none => .ok (.plain .utf8)

/-- The text of the settings file in the encoding that the arguments name. -/
def decoded (arguments : List (Text × Datum)) (bytes : Bytes) : Except LookupError Text := do
  match (← charsetOf (given? "_env_file_encoding" arguments)).decode bytes with
  | .ok t => return t
  | .error .undecodable => .error .undecodable
  | .error .noMark => .error .noMark

/-- The text of the settings file, if there is one and the arguments do not look elsewhere. -/
def fileText? (arguments : List (Text × Datum)) (file : Option Bytes) :
    Except LookupError (Option Text) := do
  let paths ← match Datum.field? "_env_file" arguments with
    | none => .ok [fileName]
    | some .null => .ok []
    | some d => pathsOf d
  match file with
  | none => return none
  | some bytes =>
    if paths.any isFilePath then return some (← decoded arguments bytes) else return none

/-- Secrets lie in directories, and no setting is one. -/
def checkSecrets (arguments : List (Text × Datum)) (file : Option Bytes) :
    Except LookupError Unit := do
  match given? "_secrets_dir" arguments with
  | none => return ()
  | some d =>
    let paths ← pathsOf d
    if file.isSome && paths.any isFilePath then .error .unusable else return ()

end Narration.Settings
