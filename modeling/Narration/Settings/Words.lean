import Narration.CommandLine.Flag
import Narration.Settings.Lookup
import Narration.Text.Blank
import Narration.Text.Word

/-! # Settings in words

Settings can also be given in the words of a command line, in which each setting has a flag of its
name. The words are an argument, and other arguments say what their flags look like. Flags match in
any letter case, if names need not be exact. Words that are no flags are wrong. -/
namespace Narration.Settings
open Narration.CommandLine

/-- What a flag is about: a setting whose value follows, or one that is turned on or off. -/
inductive WordKey
  | value (setting : Text)
  | switch (setting : Text) (on : Bool)
  deriving DecidableEq

structure Wording where
  /-- What stands in the name of a flag in front of the name of the setting. -/
  lead : Text := []
  mark : CodePoint := .char '-'
  exact : Bool := false
  /-- Whether hyphens stand in names for low lines. -/
  hyphens : Bool := false
  /-- Whether truth values are turned on and off by flags of their own. -/
  switches : Bool := false
  /-- The value that stands for null. -/
  nullWord : Text := "null"
  /-- Further names of flags. -/
  shortcuts : List (Text × List Text) := []
  /-- Whether words that are no flags are passed over. -/
  lenient : Bool := false
  /-- Whether wrong words end the program. -/
  ending : Bool := true

namespace Wording

/-- The name of the flag of a setting, without the marks. -/
def name (w : Wording) (setting : Text) : Text :=
  let plain := w.lead ++ if w.exact then setting else Text.lower setting
  if w.hyphens then plain.map fun c => if c = .char '_' then .char '-' else c else plain

/-- A name with one mark in front if it is a single letter, and with two otherwise. -/
def flagName (w : Wording) (name : Text) : Text :=
  if name.length = 1 then w.mark :: name else w.mark :: w.mark :: name

/-- The settings that are truth values and never null. -/
def switchable : List Text := ["DEBUG"]

/-- The flag that turns off what a long flag turns on. -/
def negative? (flag : Text) : Option Text := (Text.after? "--" flag).map ("--no-" ++ ·)

def flagsOf (w : Wording) (setting : Text) : List (Flag WordKey) :=
  let name := w.name setting
  let flags := (name :: (w.shortcuts.lookup name).getD []).map w.flagName
  if w.switches && switchable.contains setting then
    [⟨some (.switch setting true), flags, false⟩,
      ⟨some (.switch setting false), flags.filterMap negative?, false⟩]
  else [⟨some (.value setting), flags, true⟩]

def table (w : Wording) : FlagTable WordKey :=
  { flags := ⟨none, [w.flagName "h", w.flagName "help"], false⟩ :: names.flatMap w.flagsOf
    mark := w.mark
    abbreviates := false }

/-- A word with the name of its flag in small letters. What is behind a line feed is lost then. -/
def lowered (w : Wording) (word : Text) : Text :=
  let marks := word.takeWhile (· == w.mark) |>.take 2
  let name := (word.drop marks.length).takeWhile fun c => !Text.isBlank c && c != .char '='
  let front := marks ++ name
  if marks.isEmpty || front.length < 2 then word
  else Text.lower front ++ (word.drop front.length).takeWhile (· != .char '\n')

/-- What a flag says of a setting. A value may be null, or the name of a deployment in capitals. -/
def said (w : Wording) : WordKey × Given → Text × Datum
  | (.value setting, .text t) =>
    (setting, Lookup.datum { nullWord := some w.nullWord, capitals := true } setting t)
  | (.value setting, .nothing) => (setting, .text "[]")
  | (.switch setting on, _) => (setting, .bool on)

/-- What words say of settings, one flag after another. -/
def read [Host] (w : Wording) (words : List Text) : Except LookupError (List (Text × Datum)) :=
  let wrong : LookupError := if w.ending then .ended else .unusable
  match w.table.readAll (if w.exact then words else words.map w.lowered) with
  | .error _ => .error wrong
  | .ok read =>
    match w.table.parse read with
    | .error .help => .error .ended
    | .error (.usage _) => .error wrong
    | .ok p => if p.extras = [] ∨ w.lenient then .ok (p.flags.map w.said) else .error wrong

end Wording

/-! ## Arguments -/

/-- Whether a text can stand in names: it is made of word characters, with points between, and does
not begin with a digit. -/
def isLead (t : Text) : Bool :=
  let point : CodePoint := .char '.'
  t.head?.all (fun c => c != point && !Text.isDecimal c) && t.getLast? != some point
    && t.all fun c => Text.isWord c || c == point

def wordLead (arguments : List (Text × Datum)) : Except LookupError Text :=
  match given? "_cli_prefix" arguments with
  | some (.text (c :: t)) =>
    if isLead (c :: t) then .ok (c :: t ++ ".") else .error .unusable
  | _ => .ok []

def textsOf : Datum → List Text
  | .text t => [t]
  | .list items => items.filterMap fun
    | .text t => some t
    | _ => none
  | _ => []

/-- How the arguments want words read. -/
def Wording.ofArguments (l : Lookup) (arguments : List (Text × Datum)) :
    Except LookupError Wording := do
  let lead ← wordLead arguments
  return {
    lead := lead
    mark := match given? "_cli_flag_prefix_char" arguments with
      | some (.text [c]) => c
      | _ => .char '-'
    exact := l.exact
    hyphens := isGiven "_cli_kebab_case" arguments
    switches := isGiven "_cli_implicit_flags" arguments
    nullWord := match given? "_cli_parse_none_str" arguments with
      | some (.text (c :: t)) => c :: t
      | _ => if isGiven "_cli_avoid_json" arguments then "None" else "null"
    shortcuts := match given? "_cli_shortcuts" arguments with
      | some (.object fields) => fields.map fun (name, d) => (name, textsOf d)
      | _ => []
    lenient := isGiven "_cli_ignore_unknown_args" arguments
    ending := (given? "_cli_exit_on_error" arguments).all Datum.isTrue }

/-- The words in an argument. Empty data of any kind count as empty words. -/
def wordOf : Datum → Except LookupError Text
  | .text t => .ok t
  | d => if d.isTrue then .error .wrongType else .ok []

/-- What the words among the arguments say. There are none in a truth value. -/
def spoken [Host] (l : Lookup) (arguments : List (Text × Datum)) :
    Except LookupError (List (Text × Datum)) := do
  match given? "_cli_parse_args" arguments with
  | none => return []
  | some d =>
    let w ← Wording.ofArguments l arguments
    match d with
    | .list items => w.read (← items.mapM wordOf)
    | .bool _ => return []
    | d => if d.number? = some 0 then return [] else .error .unusable

end Narration.Settings
