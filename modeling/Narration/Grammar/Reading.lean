import Narration.Grammar.Breach
import Narration.Text.Case
import Narration.Text.Integer

/-! # Reading persons and genders

Loose labels are read with white space around them and in any letter case. A person is a number
equal to one, two or three, a text of digits that spells one, or a name; a truth value is no
number here. A gender is one of a fixed list of words. -/
namespace Narration

namespace Gender

/-- The words that stand for a gender besides its own. -/
def synonyms : List (Text × Gender) :=
  [("m", male), ("man", male), ("he", male), ("masc", male),
    ("f", female), ("w", female), ("woman", female), ("she", female), ("fem", female),
    ("n", genderless), ("it", genderless), ("neuter", genderless),
    ("xe", additional), ("pl", plural), ("group", plural)]

/-- All words that stand for a gender. -/
def vocabulary : List (Text × Gender) := all.map (fun g => (g.word, g)) ++ synonyms

def ofText? (t : Text) : Option Gender := vocabulary.lookup (Text.lower t.strip)

/-- The gender that a label stands for. Every label that is no gender is read as it is written. -/
def ofLabel [Host] : Label → Except Refusal Gender
  | .gender g => .ok g
  | l =>
    match l.hindrance?, ofText? l.plain with
    | none, some g => .ok g
    | hindrance, _ => .error ((Breach.gender l.plain).refusal hindrance)

end Gender

namespace Person

/-- Digits of any kind are read as a number, all else as a name. Digits that build no number, such
as superscripts, stand for no person. -/
def ofText? (t : Text) : Option Person :=
  if !t.strip.isEmpty && t.strip.all Text.isDigit then
    match Text.readInt t with
    | .ok n => ofNumber? n
    | .error _ => none
  else ofName? (Text.upper t.strip)

def ofDatum? : Datum → Option Person
  | .int n => ofNumber? n
  | .float x => x.integer?.bind ofNumber?
  | .text t => ofText? t
  | _ => none

def ofLabel [Host] (l : Label) : Except Refusal Person :=
  match l with
  | .person p => .ok p
  | .gender _ => .error (.breach (.person l))
  | .datum d =>
    match ofDatum? d with
    | some p => .ok p
    | none => .error ((Breach.person l).refusal l.hindrance?)

end Person
end Narration
