import Narration.Host
import Narration.Text.Quoted
import Narration.Text.Numeral

/-! # Flags

How the words of a command line are read. A word that begins with the mark of the flags, commonly a
dash, may be a flag: the whole name, a unique beginning of a long name, or a short name with a value
or further short names behind it. A value follows after an equals sign or as the next word. Behind
two dashes no word is a flag. Where dashes are dropped, two of them in the word of a flag are no
value but an empty list. Negative numbers and words with spaces in them are no flags unless they are
the name of one. -/
namespace Narration.CommandLine

/-- A flag and what it is about, which is nothing for the flag that asks for help. -/
structure Flag (κ : Type) where
  key : Option κ
  names : List Text
  takesValue : Bool
  deriving DecidableEq

/-- The flags of a command. -/
structure FlagTable (κ : Type) where
  flags : List (Flag κ)
  /-- What short names begin with once, and long ones twice. -/
  mark : CodePoint := .char '-'
  /-- Whether the beginning of a long name can stand for it. -/
  abbreviates : Bool := true

/-- What is given to a flag that takes a value. -/
inductive Given
  | text (t : Text)
  | nothing
  deriving DecidableEq

def Given.ofText [Host] (t : Text) : Given :=
  if Host.dropsDashes ∧ t = "--" then nothing else text t

def Given.isEmpty : Given → Bool
  | text t => t.isEmpty
  | nothing => true

/-- What a word is taken for. -/
inductive Reading (κ : Type)
  | plain
  | separator
  | unknown
  | flag (f : Flag κ) (short : Bool) (attached : Option Text)
  deriving DecidableEq

/-- What is wrong with words. A flag is told by all its names. -/
inductive UsageError
  | ambiguous (word : Text) (names : List Text)
  | noValue (flag : Text)
  | unwantedValue (flag value : Text)
  | noCommand
  | unknownCommand (word : Text)
  | unrecognized (words : List Text)
  deriving DecidableEq

def UsageError.message : UsageError → Text
  | ambiguous word names =>
    "ambiguous option: " ++ word ++ " could match " ++ Text.joined ", " names
  | noValue flag => "argument " ++ flag ++ ": expected one argument"
  | unwantedValue flag value =>
    "argument " ++ flag ++ ": ignored explicit argument " ++ value.quoted
  | noCommand => "the following arguments are required: command"
  | unknownCommand word =>
    "argument command: invalid choice: " ++ word.quoted ++ " (choose from 'render')"
  | unrecognized words => "unrecognized arguments: " ++ Text.joined " " words

/-- The word before its first equals sign, and what is behind it. -/
def splitEquals (word : Text) : Text × Option Text :=
  let before := word.takeWhile (· != .char '=')
  match word.drop before.length with
  | [] => (before, none)
  | _ :: value => (before, some value)

/-- A dash and decimal digits, of which some or all may be a fraction. A line feed at the end does
not matter. -/
def isNegativeNumber (word : Text) : Bool :=
  match word with
  | .char '-' :: t =>
    let t := if t.getLast? = some (.char '\n') then t.dropLast else t
    let rest := t.dropWhile Text.isDecimal
    match rest with
    | [] => !t.isEmpty
    | .char '.' :: fraction => !fraction.isEmpty && fraction.all Text.isDecimal
    | _ => false
  | _ => false

section

variable {κ : Type}

def Flag.title (f : Flag κ) : Text := Text.joined "/" f.names

/-- The flags of a command by each of their names. -/
def FlagTable.named (table : FlagTable κ) : List (Text × Flag κ) :=
  table.flags.flatMap fun f => f.names.map fun n => (n, f)

def FlagTable.isShort (table : FlagTable κ) (name : Text) : Bool :=
  name.drop 1 |>.head?.all (· != table.mark)

/-- The flags that a word may stand for without being the name of one. -/
def FlagTable.candidates (table : FlagTable κ) (word : Text) : List (Text × Reading κ) :=
  if table.isShort word then
    table.named.filterMap fun (name, f) =>
      if name = word.take 2 then some (name, .flag f true (some (word.drop 2)))
      else if name.startsWith word then some (name, .flag f (table.isShort name) none)
      else none
  else if table.abbreviates then
    let (start, value) := splitEquals word
    table.named.filterMap fun (name, f) =>
      if name.startsWith start then some (name, .flag f (table.isShort name) value)
      else none
  else []

/-- What a word is taken for that is not behind two dashes. -/
def FlagTable.read (table : FlagTable κ) (word : Text) : Except UsageError (Reading κ) :=
  if word.head? ≠ some table.mark then .ok .plain
  else match table.named.lookup word with
    | some f => .ok (.flag f (table.isShort word) none)
    | none =>
      if word.length = 1 then .ok .plain
      else
        let (name, value) := splitEquals word
        match value, table.named.lookup name with
        | some v, some f => .ok (.flag f (table.isShort name) (some v))
        | _, _ =>
          match table.candidates word with
          | [(_, r)] => .ok r
          | _ :: _ :: _ => .error (.ambiguous word ((table.candidates word).map (·.1)))
          | [] =>
            if isNegativeNumber word || word.contains ' ' then .ok .plain else .ok .unknown

/-- The words of a command line, each with what it is taken for. -/
def FlagTable.readAll (table : FlagTable κ) :
    List Text → Except UsageError (List (Text × Reading κ))
  | [] => .ok []
  | word :: rest =>
    if word = "--" then .ok ((word, .separator) :: rest.map fun w => (w, .plain))
    else do
      let r ← table.read word
      return (word, r) :: (← table.readAll rest)

/-- What the words of a command say: the flags in order, with their values, whether help is asked
for among them, and the words that are neither flags nor values. -/
structure Parsed (κ : Type) where
  flags : List (κ × Given) := []
  asksHelp : Bool := false
  extras : List Text := []

/-- Why reading a command ends early. -/
inductive Stop
  | help
  | usage (e : UsageError)
  deriving DecidableEq

def Parsed.withExtra (word : Text) (p : Parsed κ) : Parsed κ :=
  { p with extras := word :: p.extras }

/-- What is left to do after the short names in one word: nothing, or giving the last of them the
next word as its value. -/
inductive Cluster (κ : Type)
  | done (p : Parsed κ)
  | awaiting (f : Flag κ) (before : Parsed κ)

/-- The same with one more flag at the end. -/
def Parsed.adding (f : Flag κ) (g : Given) (p : Parsed κ) : Parsed κ :=
  match f.key with
  | some key => { p with flags := p.flags ++ [(key, g)] }
  | none => { p with asksHelp := true }

/-- Further short names and perhaps a value behind a flag that takes none. The text is what stands
behind the flag `f`, and `taken` what the word has said before. -/
def FlagTable.cluster [Host] (table : FlagTable κ) (f : Flag κ) (taken : Parsed κ) :
    Text → Except UsageError (Cluster κ)
  | [] => .error (.unwantedValue f.title [])
  | c :: rest =>
    let taken := taken.adding f .nothing
    match table.named.lookup [table.mark, c] with
    | none => .error (.unwantedValue f.title (c :: rest))
    | some g =>
      if rest = [] then
        .ok (if g.takesValue then .awaiting g taken else .done (taken.adding g .nothing))
      else if g.takesValue then .ok (.done (taken.adding g (.ofText rest)))
      else table.cluster g taken rest

/-- A word that is a flag, before the next word is looked at. -/
def FlagTable.open? [Host] (table : FlagTable κ) (f : Flag κ) (short : Bool) :
    Option Text → Except UsageError (Cluster κ)
  | none => .ok (if f.takesValue then .awaiting f {} else .done (Parsed.adding f .nothing {}))
  | some value =>
    if f.takesValue then .ok (.done (Parsed.adding f (.ofText value) {}))
    else if short then table.cluster f {} value
    else .error (.unwantedValue f.title value)

/-- What one word says, followed by what the words behind it say. A call for help ends the reading
before anything behind it counts. -/
def Parsed.followedBy (p : Parsed κ) (rest : Except Stop (Parsed κ)) : Except Stop (Parsed κ) :=
  if p.asksHelp then .error .help
  else rest.map fun q => ⟨p.flags ++ q.flags, q.asksHelp, p.extras ++ q.extras⟩

/-- What the words of a command without positions say. -/
def FlagTable.parse [Host] (table : FlagTable κ) :
    List (Text × Reading κ) → Except Stop (Parsed κ)
  | [] => .ok {}
  | (_, .flag f short attached) :: rest =>
    match table.open? f short attached with
    | .error e => .error (.usage e)
    | .ok (.done p) => p.followedBy (table.parse rest)
    | .ok (.awaiting g p) =>
      match rest with
      | (value, .plain) :: rest =>
        (p.adding g (.ofText value)).followedBy (table.parse rest)
      | _ => .error (.usage (.noValue g.title))
  | (word, _) :: rest => (table.parse rest).map (·.withExtra word)

end

end Narration.CommandLine
