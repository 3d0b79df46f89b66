import Narration.Datum.Hindrance
import Narration.Files.Directory
import Narration.Journal.Level
import Narration.Journal.Record
import Narration.Settings.Basic

/-! # The journal

The journal takes the records of a process to standard error and, if one is named, to a file. It is
set up once, by the first call that asks for it or by the first event, and again only by force. A
set-up that fails has done part of its work: the file is open and the records go to it before the
level is looked at, while threshold and layout change last. -/
namespace Narration

structure Journal where
  ready : Bool := false
  root : Level.Installed := .ofNumber 20
  /-- The least severity of an event that becomes a record. -/
  threshold : Int := 0
  layout : Layout := .console
  /-- The file that records go to, beside standard error. -/
  file : Option Text := none
  /-- What has been written to files, in the order in which they were first opened. -/
  files : List (Text × List Entry) := []

namespace Journal

/-- What the environment of the process says. -/
structure Environment where
  level : Option Text := none
  file : Text := []
  /-- The directories below the root in which files can be opened. -/
  directories : List Text := []

/-- What a call to set up the journal asks for. -/
structure Request where
  level : Option Level := none
  layout : Option Text := none
  /-- The file to write to. What counts as false asks for none. -/
  file : Datum := .null
  force : Bool := false

inductive Failure
  | path (e : PathError)
  | level (r : Level.Refusal)
  | wrongArgument
  | unwritten (h : Hindrance)
  /-- A field that stands for a record with a name of its own has none. -/
  | nameless
  deriving DecidableEq

def layoutOf (format : Text) : Layout := if format = "json" then .json else .console

/-- The file that records shall go to, if any. The environment counts before the call. -/
def Environment.fileFor (env : Environment) (asked : Datum) : Option Datum :=
  if env.file ≠ [] then some (.text env.file) else if asked.isTrue then some asked else none

/-- The path under which a file is opened. -/
def Environment.opened (env : Environment) : Datum → Except Failure Text
  | .text path => (Directory.pathToWrite env.directories path).mapError .path
  | _ => .error .wrongArgument

/-- Opens a file to write at its end. -/
def openFile (name : Text) (files : List (Text × List Entry)) : List (Text × List Entry) :=
  match files.lookup name with
  | some _ => files
  | none => files ++ [(name, [])]

def setUp (env : Environment) (s : Settings) (r : Request) (j : Journal) :
    Journal × Except Failure Unit :=
  if j.ready && !r.force then (j, .ok ())
  else
    let level := r.level.getD (Level.fallback env.level s.logLevel)
    match (env.fileFor r.file).mapM env.opened with
    | .error e => (j, .error e)
    | .ok file =>
      let j := match file with
        | some name => { j with file := file, files := openFile name j.files }
        | none => { j with file := none }
      match level.root with
      | .error e => (j, .error (.level e))
      | .ok n =>
        let j := { j with root := n }
        match level.threshold with
        | .error e => (j, .error (.level e))
        | .ok threshold =>
          let layout := layoutOf (r.layout.getD s.logFormat)
          ({ j with threshold := threshold, layout := layout, ready := true }, .ok ())

/-- The journal of a process that begins. -/
def start (env : Environment) (s : Settings) : Except Failure Journal :=
  match setUp env s {} {} with
  | (j, .ok ()) => .ok j
  | (_, .error e) => .error e

/-- Adds an entry at the end of a file. A file is written in UTF-8 and loses what has no such form.
-/
def append (name : Text) (e : Entry) (files : List (Text × List Entry)) :
    List (Text × List Entry) :=
  files.map fun (n, entries) =>
    if n = name ∧ e.isWhole then (n, entries ++ [e]) else (n, entries)

/-- Whether an event of a severity is written. -/
def admits (j : Journal) (s : Severity) : Bool := j.threshold ≤ s.number && j.root.least ≤ s.number

/-- Writes a record if its severity is admitted, and gives what goes to standard error. -/
def write (j : Journal) (r : Record) : Journal × List Entry :=
  if j.admits r.severity then
    let e : Entry := ⟨j.layout, r⟩
    match j.file with
    | some name => ({ j with files := append name e j.files }, [e])
    | none => (j, [e])
  else (j, [])

/-- The root of all loggers has a name too. -/
def loggerName (name : Text) : Text := if name = [] then "root" else name

/-- Names that a field of an event cannot have. -/
def reserved : List Text := ["event", "self"]

variable [Host]

/-- Why a record cannot be written, if so: one more name is taken, another is for what no datum is,
traces must be texts where they are shown as such, and its data may be such as cannot be written
out. -/
def objection? (j : Journal) (r : Record) : Option Failure :=
  if (Datum.field? "method_name" r.fields).isSome then some .wrongArgument
  else if (Datum.field? "_record" r.fields).any (!·.isNull) then some .nameless
  else if j.layout = .console && r.traces?.isNone then some .wrongArgument
  else (Datum.object r.object).hindrance?.map .unwritten

/-- Reports an event. The journal is set up first if it is not ready. Below the threshold nothing
but the reserved names is looked at. -/
def emit (env : Environment) (s : Settings) (r : Record) (j : Journal) :
    Journal × Except Failure (List Entry) :=
  match setUp env s {} j with
  | (j, .error e) => (j, .error e)
  | (j, .ok ()) =>
    if r.fields.any fun (name, _) => reserved.contains name then (j, .error .wrongArgument)
    else
      match if j.threshold ≤ r.severity.number then j.objection? r else none with
      | some e => (j, .error e)
      | none =>
        let (j, written) := write j { r with logger := loggerName r.logger }
        (j, .ok written)

/-- The files with their lines, in the order of their names. -/
def fileLines (j : Journal) : List (Text × List Line) :=
  (j.files.map fun (name, entries) => (name, entries.flatMap Entry.lines)).mergeSort
    fun a b => a.1.precedes b.1

/-- The files that lie directly in the working directory. -/
def fileLinesHere (j : Journal) : List (Text × List Line) :=
  j.fileLines.filter fun (name, _) => !name.contains '/'

end Journal
end Narration
