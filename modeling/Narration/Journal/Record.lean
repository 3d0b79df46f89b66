import Narration.Datum.Basic
import Narration.Journal.Severity
import Narration.Text.Blank
import Narration.Text.Lines

/-! # Records

What is written of an event: its severity, its name, the name of the logger and its fields. A
record is laid out as an object or as lines of text for people. In the second layout two fields are
traces, which stand below the line of the event and must be texts. -/
namespace Narration

inductive Layout
  | json
  | console
  deriving DecidableEq

structure Record where
  severity : Severity
  /-- What the event is called, a text as a rule. Null leaves it without a name. -/
  event : Datum
  logger : Text
  fields : List (Text × Datum)

/-- One line of a log. -/
inductive Line
  | object (fields : List (Text × Datum))
  | text (t : Text)

namespace Record

/-- Fields that tell how to report rather than what. They are not written. -/
def instructions : List Text := ["timestamp", "exc_info", "stack_info"]

def written (r : Record) : List (Text × Datum) :=
  r.fields.filter fun (name, _) => !instructions.contains name

/-- Whether a text in a line needs quotes to be told from what surrounds it. -/
def needsQuotes (t : Text) : Bool := t.any fun c => (Text.ofString " \t=\r\n\"'").contains c

def fieldText : Datum → Text
  | .text t => if needsQuotes t then t.quoted else t
  | d => d.quoted

/-- The text with every run of white space made one space, and none at its ends. -/
def squeezed (t : Text) : Text :=
  let spaced : Text := t.map fun c => if Text.isBlank c then .char ' ' else c
  Text.joined " " ((Text.splitAt (.char ' ') spaced).filter (!·.isEmpty))

/-- Fields with a place of their own in lines of text. -/
def placed : List Text := ["level", "logger", "logger_name", "stack", "exception"]

/-- The other fields of a line of text, in the order of their names. -/
def sortedFields (r : Record) : List Text :=
  let fields := r.written.filter fun (name, _) => !placed.contains name
  (fields.mergeSort fun a b => a.1.precedes b.1).map fun (name, d) => name ++ "=" ++ fieldText d

/-- A trace under a name: nothing if it is left out or null, and no trace if it is no text. -/
def trace (r : Record) (name : Text) : Option (Option Text) :=
  match Datum.field? name r.fields with
  | none | some .null => some none
  | some (.text t) => some (some t)
  | some _ => none

/-- The line between two traces. -/
def rule : Text := List.replicate 79 '='

/-- The traces below a line of text, if they are texts. -/
def traces? (r : Record) : Option Text := do
  match ← r.trace "stack", ← r.trace "exception" with
  | none, none => some []
  | some stack, none => some ("\n" ++ stack)
  | none, some exception => some ("\n" ++ exception)
  | some stack, some exception =>
    some ("\n" ++ stack ++ "\n\n" ++ rule ++ "\n\n" ++ exception)

def eventText (r : Record) : Text :=
  match r.event with
  | .null => []
  | d => d.plain

/-- The line of an event. A second name of the logger stands behind the first. -/
def headline (r : Record) : Text :=
  let second : Text := match Datum.field? "logger_name" r.fields with
    | some d => "[" ++ d.plain ++ "] "
    | none => []
  "[" ++ r.severity.word ++ " ] " ++ r.eventText ++ " [" ++ r.logger ++ "] " ++ second
    ++ Text.joined " " r.sortedFields

/-- Lines of text. An event of several lines begins several lines. -/
def console (r : Record) : List Text :=
  (Text.lines (r.headline ++ r.traces?.getD [] ++ "\n")).map squeezed

/-- An object. The record's own names take the place of fields of the same name. -/
def object (r : Record) : List (Text × Datum) :=
  let named := match r.event with
    | .null => r.written
    | d => Text.put "event" d r.written
  Text.put "level" (.text r.severity.word) (Text.put "logger" (.text r.logger) named)

end Record

/-- Whether a line has a form in UTF-8. An object is written in ASCII. -/
def Line.isWhole : Line → Bool
  | .object _ => true
  | .text t => t.isWhole

/-- A record and the layout that it is written in. -/
structure Entry where
  layout : Layout
  record : Record

def Entry.lines (e : Entry) : List Line :=
  match e.layout with
  | .json => [.object e.record.object]
  | .console => e.record.console.map .text

/-- Whether an entry has a form in UTF-8. -/
def Entry.isWhole (e : Entry) : Bool := e.lines.all Line.isWhole

end Narration
