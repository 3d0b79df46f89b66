import Narration.Datum.Basic
import Narration.Host
import Narration.Text.Integer

/-! # Reading JSON

Data written as JSON, with `NaN`, `Infinity` and `-Infinity` as further numbers. Of fields with one
name the last counts. A number with a point or an exponent is a floating point number. The reader
stops at the first fault and says where it stands. -/
namespace Narration.Json

inductive Fault
  | byteOrderMark
  | value
  | name
  | colon
  | comma
  | unterminated
  | escape
  | unicodeEscape
  | control
  | extra
  deriving DecidableEq

def Fault.message : Fault → Text
  | .byteOrderMark => "Unexpected UTF-8 BOM (decode using utf-8-sig)"
  | .value => "Expecting value"
  | .name => "Expecting property name enclosed in double quotes"
  | .colon => "Expecting ':' delimiter"
  | .comma => "Expecting ',' delimiter"
  | .unterminated => "Unterminated string starting at"
  | .escape => "Invalid \\escape"
  | .unicodeEscape => "Invalid \\uXXXX escape"
  | .control => "Invalid control character at"
  | .extra => "Extra data"

/-- Why a text is not read: a fault at an offset, a whole number of too many digits, or lists and
objects that lie too deep in one another. -/
inductive Error
  | malformed (fault : Fault) (position : Nat)
  | tooLong (digits : Nat)
  | tooDeep
  deriving DecidableEq

def isSpace (c : CodePoint) : Bool :=
  c == .char ' ' || c == .char '\t' || c == .char '\n' || c == .char '\r'

def skip (t : Text) : Text := t.dropWhile isSpace

def hexValue? (c : CodePoint) : Option Nat :=
  if c.isAsciiDigit then some (c.toNat - 48)
  else if c.isAsciiLower && c.toNat ≤ 'f'.toNat then some (c.toNat - 87)
  else if c.isAsciiUpper && c.toNat ≤ 'F'.toNat then some (c.toNat - 55)
  else none

/-- The number of four hexadecimal digits. -/
def unit? (a b c d : CodePoint) : Option Nat := do
  some ((((← hexValue? a) * 16 + (← hexValue? b)) * 16 + (← hexValue? c)) * 16 + (← hexValue? d))

/-- The letters after a backslash, each with the character that it stands for. -/
def escapes : List (Char × Char) :=
  [('"', '"'), ('\\', '\\'), ('/', '/'), ('b', '\x08'), ('f', '\x0c'), ('n', '\n'), ('r', '\r'),
    ('t', '\t')]

def escaped? : CodePoint → Option CodePoint
  | .char c => (escapes.lookup c).map .char
  | .half _ => none

section

-- the length of the whole text, from which offsets are counted back
variable (total : Nat)

def stop {α : Type} (fault : Fault) (rest : Text) : Except Error α :=
  .error (.malformed fault (total - rest.length))

/-- The first half of a pair of escapes whose second half is missing. -/
def unpaired (half : Option Nat) : Text := half.elim [] fun n => [.ofNat n]

/-- The characters of a string up to its closing quote, and what follows it. `start` is the string
with its opening quote, and `half` the first half of a pair of escapes just read. -/
def string (start : Text) (half : Option Nat) : Text → Except Error (Text × Text)
  | [] => stop total .unterminated start
  | .char '"' :: rest => .ok (unpaired half, rest)
  | [.char '\\'] => stop total .unterminated start
  | .char '\\' :: .char 'u' :: a :: b :: c :: d :: e :: rest =>
    match unit? a b c d with
    | none => stop total .unicodeEscape (.char 'u' :: a :: b :: c :: d :: e :: rest)
    | some n =>
      if 0xD800 ≤ n ∧ n < 0xDC00 then do
        let (t, rest) ← string start (some n) (e :: rest)
        .ok (unpaired half ++ t, rest)
      else if 0xDC00 ≤ n ∧ n < 0xE000 then do
        let (t, rest) ← string start none (e :: rest)
        match half with
        | some h => .ok (.ofNat (0x10000 + (h - 0xD800) * 0x400 + (n - 0xDC00)) :: t, rest)
        | none => .ok (.ofNat n :: t, rest)
      else do
        let (t, rest) ← string start none (e :: rest)
        .ok (unpaired half ++ .ofNat n :: t, rest)
  | .char '\\' :: .char 'u' :: rest => stop total .unicodeEscape (.char 'u' :: rest)
  | .char '\\' :: c :: rest =>
    match escaped? c with
    | none => stop total .escape (.char '\\' :: c :: rest)
    | some x => do
      let (t, rest) ← string start none rest
      .ok (unpaired half ++ x :: t, rest)
  | c :: rest =>
    if c.toNat < 0x20 then stop total .control (c :: rest)
    else do
      let (t, rest) ← string start none rest
      .ok (unpaired half ++ c :: t, rest)

/-- The digits at the front of a text, and the rest. -/
def digits (t : Text) : Text × Text :=
  (t.takeWhile CodePoint.isAsciiDigit, t.dropWhile CodePoint.isAsciiDigit)

/-- The digits of a fraction, if a point and a digit are next. -/
def fraction (t : Text) : Text × Text :=
  match t with
  | .char '.' :: rest =>
    let (ds, after) := digits rest
    if ds.isEmpty then ([], t) else (ds, after)
  | _ => ([], t)

/-- The exponent, if a letter, a sign or none, and a digit are next. -/
def exponent? (t : Text) : Option Int × Text :=
  let read (negative : Bool) (rest : Text) : Option Int × Text :=
    let (ds, after) := digits rest
    if ds.isEmpty then (none, t)
    else (some (if negative then -(Text.valueOf ds : Int) else Text.valueOf ds), after)
  match t with
  | c :: rest =>
    if c = .char 'e' ∨ c = .char 'E' then
      match rest with
      | .char '-' :: after => read true after
      | .char '+' :: after => read false after
      | _ => read false rest
    else (none, t)
  | [] => (none, t)

/-- A number after its sign; `start` is the number with its sign. -/
def number (start : Text) (negative : Bool) (t : Text) : Except Error (Datum × Text) :=
  let (whole, rest) := match t with
    | .char '0' :: rest => (Text.ofString "0", rest)
    | _ => digits t
  if whole.isEmpty then stop total .value start
  else
    let (part, rest) := fraction rest
    let (power, rest) := exponent? rest
    if part.isEmpty ∧ power.isNone then
      if whole.length > Text.digitLimit then .error (.tooLong whole.length)
      else .ok (.int (if negative then -(Text.valueOf whole : Int) else Text.valueOf whole), rest)
    else
      let scale := power.getD 0 - (part.length : Int)
      .ok (.float (Binary64.ofDecimal negative (Text.valueOf (whole ++ part)) scale), rest)

/-- The data that are written as a word. -/
def words : List (Text × Datum) :=
  [("null", .null), ("true", .bool true), ("false", .bool false), ("NaN", .float .nan),
    ("Infinity", .float (.infinite false)), ("-Infinity", .float (.infinite true))]

/-- The word at the front of a text, and the rest. -/
def word? (t : Text) : Option (Datum × Text) :=
  words.findSome? fun (w, d) => (Text.after? w t).map (d, ·)

mutual

/-- A datum at the front of a text, and the rest. `depth` bounds how deep lists and objects may
lie in one another, and `fuel` is more than twice the length of the text. -/
def value (fuel depth : Nat) (t : Text) : Except Error (Datum × Text) :=
  match fuel, t with
  | 0, _ => .error .tooDeep
  | _, .char '"' :: rest => do
    let (s, rest) ← string total t none rest
    .ok (.text s, rest)
  | fuel + 1, .char '[' :: rest =>
    if depth = 0 then .error .tooDeep
    else match skip rest with
      | .char ']' :: rest => .ok (.list [], rest)
      | rest => do
        let (items, rest) ← items fuel (depth - 1) rest
        .ok (.list items, rest)
  | fuel + 1, .char '\x7b' :: rest =>
    if depth = 0 then .error .tooDeep
    else match skip rest with
      | .char '\x7d' :: rest => .ok (.object [], rest)
      | rest => do
        let (fields, rest) ← fields fuel (depth - 1) [] rest
        .ok (.object fields, rest)
  | _, t =>
    match word? t, t with
    | some found, _ => .ok found
    | none, .char '-' :: rest => number total t true rest
    | none, _ => number total t false t

/-- The data of a list, up to its closing bracket. -/
def items (fuel depth : Nat) (t : Text) : Except Error (List Datum × Text) :=
  match fuel with
  | 0 => .error .tooDeep
  | fuel + 1 => do
    let (d, rest) ← value fuel depth t
    match skip rest with
    | .char ']' :: rest => .ok ([d], rest)
    | .char ',' :: rest =>
      let (ds, rest) ← items fuel depth (skip rest)
      .ok (d :: ds, rest)
    | rest => stop total .comma rest

/-- The fields of an object, up to its closing brace, put into those already `found`. -/
def fields (fuel depth : Nat) (found : List (Text × Datum)) (t : Text) :
    Except Error (List (Text × Datum) × Text) :=
  match fuel, t with
  | 0, _ => .error .tooDeep
  | fuel + 1, .char '"' :: rest => do
    let (name, rest) ← string total t none rest
    match skip rest with
    | .char ':' :: rest =>
      let (d, rest) ← value fuel depth (skip rest)
      let found := Text.put name d found
      match skip rest with
      | .char '\x7d' :: rest => .ok (found, rest)
      | .char ',' :: rest => fields fuel depth found (skip rest)
      | rest => stop total .comma rest
    | rest => stop total .colon rest
  | _, t => stop total .name t

end
end

/-- The datum that a text holds, with nothing but white space around it and with room for so many
levels. -/
def readWithin (room : Nat) (t : Text) : Except Error Datum := do
  if t.startsWith "\uFEFF" then .error (.malformed .byteOrderMark 0)
  let (d, rest) ← value t.length (2 * t.length + 2) room (skip t)
  match skip rest with
  | [] => .ok d
  | rest => stop t.length .extra rest

/-- The datum that a text holds. -/
def read [Host] (t : Text) : Except Error Datum := readWithin Host.room t

/-- A fault with its place: lines and columns count from one, offsets from zero. -/
def describe (t : Text) (fault : Fault) (position : Nat) : Text :=
  let before := t.take position
  let column := (before.reverse.takeWhile (· != .char '\n')).length + 1
  fault.message ++ ": line " ++ Text.ofNat (before.count (.char '\n') + 1) ++ " column "
    ++ Text.ofNat column ++ " (char " ++ Text.ofNat position ++ ")"

end Narration.Json
