import Narration.Text.Blank

/-! # Settings files

A settings file is a list of bindings. A line binds a name to a value after an equals sign; the
value stands in single or double quotes, in which it may run over several lines, or ends with its
line or at a comment behind white space. The word `export` may stand in front. A name without an
equals sign has no value. A line that cannot be read is passed over, and so is a byte order mark at
the beginning. Values may refer to other values and to the environment as `$` and a name in braces,
with a default after `:-`. -/
namespace Narration.SettingsFile

/-- White space within a line. -/
def isGap (c : CodePoint) : Bool := Text.isBlank c && c != .char '\n'

def skipGap (t : Text) : Text := t.dropWhile isGap

def restOfLine (t : Text) : Text := (t.dropWhile (· != .char '\n')).drop 1

/-- What follows the word `export` and white space, if they are next. -/
def skipExport (t : Text) : Text :=
  match Text.after? "export" t with
  | some rest => if rest.head?.any isGap then skipGap rest else t
  | none => t

/-- A text up to the quote that closes it, and the rest. A backslash and the character behind it
belong together, so that a quote there closes nothing. -/
def closing (quote : CodePoint) : Text → Option (Text × Text)
  | [] | [.char '\\'] => none
  | .char '\\' :: c :: rest =>
    (closing quote rest).map fun (t, after) => (.char '\\' :: c :: t, after)
  | c :: rest =>
    if c = quote then some ([], rest)
    else (closing quote rest).map fun (t, after) => (c :: t, after)

/-- The letters behind a backslash between double quotes, each with what it stands for. -/
def doubleEscapes : List (Char × Char) :=
  [('\\', '\\'), ('\'', '\''), ('"', '"'), ('a', '\x07'), ('b', '\x08'), ('f', '\x0c'), ('n', '\n'),
    ('r', '\r'), ('t', '\t'), ('v', '\x0b')]

/-- Between single quotes only the backslash and the quote are escaped. -/
def singleEscapes : List (Char × Char) := [('\\', '\\'), ('\'', '\'')]

def unescape (escapes : List (Char × Char)) : Text → Text
  | .char '\\' :: .char c :: rest =>
    match escapes.lookup c with
    | some x => .char x :: unescape escapes rest
    | none => .char '\\' :: unescape escapes (.char c :: rest)
  | c :: rest => c :: unescape escapes rest
  | [] => []

/-- A value without the comment that follows it behind white space. -/
def uncommented : Text → Text
  | [] => []
  | c :: rest =>
    if isGap c && (skipGap rest).head? == some (.char '#') then [] else c :: uncommented rest

/-- A value behind an equals sign, and what follows it. -/
def value (t : Text) : Option (Text × Text) :=
  match skipGap t with
  | .char '\'' :: rest =>
    (closing (.char '\'') rest).map fun (v, after) => (unescape singleEscapes v, after)
  | .char '"' :: rest =>
    (closing (.char '"') rest).map fun (v, after) => (unescape doubleEscapes v, after)
  | _ =>
    let line := t.takeWhile (· != .char '\n')
    some ((uncommented line).strip, t.drop line.length)

def isNameChar (c : CodePoint) : Bool := c != .char '=' && c != .char '#' && !Text.isBlank c

/-- A name, which a comment lacks, and what follows it. -/
def name (t : Text) : Option (Option Text × Text) :=
  match t with
  | .char '#' :: _ => some (none, t)
  | .char '\'' :: rest =>
    let quoted := rest.takeWhile (· != .char '\'')
    match quoted, rest.drop quoted.length with
    | _ :: _, _ :: after => some (some quoted, after)
    | _, _ => none
  | _ =>
    let bare := t.takeWhile isNameChar
    if bare.isEmpty then none else some (some bare, t.drop bare.length)

/-- What follows a comment, if one is next. -/
def skipComment (t : Text) : Text :=
  match skipGap t with
  | .char '#' :: rest => rest.dropWhile (· != .char '\n')
  | _ => t

/-- The end of a line. -/
def lineEnd (t : Text) : Option Text :=
  match skipGap t with
  | [] => some []
  | .char '\n' :: rest => some rest
  | _ => none

/-- A binding at the front of a text that is not empty, if there is one, and what follows. -/
def binding (t : Text) : Option (Text × Option Text) × Text :=
  let t := skipExport (t.dropWhile Text.isBlank)
  match name t with
  | none => (none, restOfLine t)
  | some (key, rest) =>
    let gap := skipGap rest
    let bound : Option (Option Text) × Text := match gap with
      | .char '=' :: after =>
        match value after with
        | some (v, rest) => (some (some v), rest)
        | none => (none, after)
      | _ => (some none, gap)
    match bound with
    | (none, rest) => (none, restOfLine rest)
    | (some v, rest) =>
      let rest := skipComment rest
      match lineEnd rest with
      | some rest => (key.map fun k => (k, v), rest)
      | none => (none, restOfLine rest)

/-- The bindings of a text. Each takes at least one character, so `fuel` is the text's length. -/
def bindingsWith : Nat → Text → List (Text × Option Text)
  | 0, _ => []
  | fuel + 1, t =>
    if t.isEmpty then []
    else
      let (found, rest) := binding t
      found.toList ++ bindingsWith fuel rest

/-- A value with its references replaced. What is bound to no value counts as empty. -/
def resolveWith (known : List (Text × Option Text)) : Nat → Text → Text
  | _, [] => []
  | 0, t => t
  | fuel + 1, .char '$' :: .char '\x7b' :: rest =>
    let name := rest.takeWhile fun c => c != .char '\x7d' && c != .char ':'
    let reference : Option (Text × Text) := match rest.drop name.length with
      | .char '\x7d' :: after => some ([], after)
      | .char ':' :: .char '-' :: tail =>
        let default := tail.takeWhile (· != .char '\x7d')
        match tail.drop default.length with
        | _ :: after => some (default, after)
        | [] => none
      | _ => none
    match reference with
    | some (default, after) =>
      let found := match known.lookup name with
        | some v => v.getD []
        | none => default
      found ++ resolveWith known fuel after
    | none => .char '$' :: resolveWith known fuel (.char '\x7b' :: rest)
  | fuel + 1, c :: rest => c :: resolveWith known fuel rest

def resolve (known : List (Text × Option Text)) (t : Text) : Text := resolveWith known t.length t

/-- The bindings with references replaced, in the order in which their names first came. A later
binding of a name takes the place of an earlier one. References look among the bindings before
they look into the environment. -/
def resolved (environment found : List (Text × Option Text)) :
    List (Text × Option Text) → List (Text × Option Text)
  | [] => found
  | (k, v) :: rest =>
    let v := v.map (resolve (found ++ environment))
    resolved environment (Text.put k v found) rest

/-- The bindings of a settings file under an environment. -/
def read (environment : List (Text × Text)) (file : Text) : List (Text × Option Text) :=
  let t := (Text.after? "\uFEFF" file).getD file |>.unifyLineEnds
  resolved (environment.map fun (k, v) => (k, some v)) [] (bindingsWith t.length t)

end Narration.SettingsFile
