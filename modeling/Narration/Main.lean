import Narration.CommandLine.Basic
import Narration.Datum.Written
import Narration.Journal.Basic
import Narration.Journal.Event
import Narration.Settings.Reading

/-! # The program

Gathers what a call depends on, carries out the call, and writes what it ends with. Records go to
standard error and to the log file, if there is one. -/
namespace Narration.Program

/-- The rest of standard input. -/
partial def readAll (input : IO.FS.Stream) (before : String) : IO String := do
  let line ← input.getLine
  if line.isEmpty then return before else readAll input (before ++ line)

def environmentOf (names : List Text) : IO (List (Text × Text)) :=
  names.filterMapM fun name => do
    return (← IO.getEnv name.toString).map fun value => (name, Text.ofString value)

/-- The content of a file, if there is one. What is there and is no file counts as a directory. -/
def readFile (path : Text) : IO (List (Text × Bytes)) := do
  try
    return [(path, (← IO.FS.readBinFile path.toString).toList)]
  catch e =>
    match e with
    | .noFileOrDirectory .. => return []
    | _ => return [(path ++ "/-", [])]

def settingsFile : IO (Option Bytes) := do
  return (← readFile Settings.fileName).lookup Settings.fileName

/-- Reads the one input that a call names. -/
def world (settings : Settings) (words : List Text) : IO CommandLine.World := do
  match CommandLine.Arguments.ofWords words with
  | .error _ => return { settings := settings }
  | .ok a =>
    match a.input? with
    | none => return { settings := settings }
    | some path =>
      if path = "-" then
        return { settings := settings, input := (← readAll (← IO.getStdin) "") }
      else return { settings := settings, files := ← readFile path }

def complain (t : Text) : IO Unit := do (← IO.getStderr).putStrLn t.toString

def printFault (f : Fault) : IO Unit := do
  complain (Text.joined "." f.location)
  complain ("  " ++ f.kind.message)

def lineText : Line → Text
  | .object fields => Json.write .plain (.object fields)
  | .text t => t

/-- The events of a call as records, and what goes to standard error for them. -/
def journal (env : Journal.Environment) (s : Settings) (events : List Event) :
    Journal × List Entry :=
  events.foldl (fun (j, entries) e =>
    match Journal.emit env s (e.record "narration") j with
    | (j, .ok written) => (j, entries ++ written)
    | (j, .error _) => (j, entries)) ({}, [])

/-- Writes the records of the events. -/
def report (env : Journal.Environment) (s : Settings) (events : List Event) : IO Unit := do
  let (j, entries) := journal env s events
  for line in entries.flatMap Entry.lines do complain (lineText line)
  for (name, lines) in j.fileLines do
    let file ← IO.FS.Handle.mk name.toString .append
    for line in lines do file.putStrLn (lineText line).toString

def failureMessage : CommandLine.Failure → Text
  | .path e => e.message
  | .undecodable => "the input is not UTF-8"
  | .untold u => u.reason
  | .tooLong digits => (Message.NumberError.tooLong digits).message
  | .tooDeep => "the input is nested too deeply"
  | .message (.number e) => e.message
  | .message (.breach b) => b.message
  | .message (.unwritten h) => h.message
  | .message .wrongType => "the template is not a text"
  | .unprinted reason => reason

def journalMessage : Journal.Failure → Text
  | .path e => e.message
  | .level r => r.message
  | .wrongArgument | .nameless => "an argument of the journal is of the wrong type"
  | .unwritten h => h.message

def lookupMessage : Settings.LookupError → Text
  | .wrongType => "an argument of the settings is of the wrong type"
  | .noEncoding => "the encoding of the settings file is not known"
  | .undecodable | .noMark => "the settings file is not in its encoding"
  | .unusable | .ended => "an argument of the settings cannot be used"

/-- Writes what a call ends with, and gives its exit code. -/
def finish : Except CommandLine.Failure CommandLine.Ending → IO UInt32
  | .error e => do
    complain (failureMessage e)
    return 1
  | .ok ending => do
    (← IO.getStdout).putStr ending.output.toString
    match ending with
    | .refused message => complain message
    | .invalid faults =>
      complain CommandLine.invalidRequest
      faults.forM printFault
    | .usage complaint => complain complaint
    | _ => pure ()
    return UInt32.ofNat ending.code

/-- Carries out a call under settings. -/
def runWith (settings : Settings) (words : List Text) : IO UInt32 := do
  let named ← environmentOf ["PHRASING_LOG_LEVEL", "PHRASING_LOG_FILE"]
  let value (name : Text) : Option Text := named.lookup name
  let env : Journal.Environment :=
    { level := value "PHRASING_LOG_LEVEL", file := (value "PHRASING_LOG_FILE").getD [] }
  match CommandLine.launch env (← world settings words) words with
  | .error e =>
    complain (journalMessage e)
    return 1
  | .ok call =>
    report env settings call.events
    finish call.outcome

def run (words : List Text) : IO UInt32 := do
  let environment ← environmentOf Settings.names
  match Settings.Sources.arranged [] environment (← settingsFile) with
  | .error e =>
    complain (lookupMessage e)
    return 1
  | .ok sources =>
    match Settings.read sources with
    | .error faults =>
      faults.forM printFault
      return 1
    | .ok settings => runWith settings words

end Narration.Program

def main (words : List String) : IO UInt32 :=
  Narration.Program.run (words.map Narration.Text.ofString)
