import Narration.Grammar.Label

/-! # Pronouns

English personal pronouns and the past copula for each grammatical person and gender. Third-person
pronouns are irregular, so the table gives every row; only the rows for additional and other
genders are derived, from the male one. -/
namespace Narration

/-- The six forms in a row of the table. -/
inductive Form
  | subject
  | object
  | determiner
  | possessive
  | reflexive
  | copula
  deriving DecidableEq

namespace Form

def all : List Form := [subject, object, determiner, possessive, reflexive, copula]

/-- How a template asks for a form. -/
def token : Form → Text
  | subject => "I"
  | object => "me"
  | determiner => "my"
  | possessive => "mine"
  | reflexive => "myself"
  | copula => "was"

/-- The name of a form in a row that is given as data. -/
def field : Form → Text
  | subject => "subject"
  | object => "object"
  | determiner => "determiner"
  | possessive => "possessive"
  | reflexive => "reflexive"
  | copula => "copula"

end Form

structure PronounSet where
  subject : Text
  object : Text
  determiner : Text
  possessive : Text
  reflexive : Text
  copula : Text
  deriving DecidableEq

namespace PronounSet

def form (s : PronounSet) : Form → Text
  | .subject => s.subject
  | .object => s.object
  | .determiner => s.determiner
  | .possessive => s.possessive
  | .reflexive => s.reflexive
  | .copula => s.copula

/-- What each token of a template stands for. -/
def tokenForms (s : PronounSet) : List (Text × Text) := Form.all.map fun f => (f.token, s.form f)

def firstSingular : PronounSet := ⟨"I", "me", "my", "mine", "myself", "was"⟩
def firstPlural : PronounSet := ⟨"we", "us", "our", "ours", "ourselves", "were"⟩
def secondSingular : PronounSet := ⟨"you", "you", "your", "yours", "yourself", "were"⟩
def secondPlural : PronounSet := ⟨"you", "you", "your", "yours", "yourselves", "were"⟩
def male : PronounSet := ⟨"he", "him", "his", "his", "himself", "was"⟩
def female : PronounSet := ⟨"she", "her", "her", "hers", "herself", "was"⟩
def genderless : PronounSet := ⟨"it", "it", "its", "its", "itself", "was"⟩
def they : PronounSet := ⟨"they", "them", "their", "theirs", "themself", "were"⟩
def thirdPlural : PronounSet := ⟨"they", "them", "their", "theirs", "themselves", "were"⟩

/-- A pronoun with another beginning in place of its leading h. -/
def replaceH (start : Text) : Text → Text
  | .char 'h' :: rest => start ++ rest
  | t => t

/-- The male pronouns with another beginning; the copula stays. -/
def derive (start : Text) : PronounSet :=
  { subject := replaceH start male.subject
    object := replaceH start male.object
    determiner := replaceH start male.determiner
    possessive := replaceH start male.possessive
    reflexive := replaceH start male.reflexive
    copula := male.copula }

/-- What begins a placeholder for a pronoun that the caller puts in later. -/
def placeholderMark : Text := "\x60\x60"

def additional : PronounSet := derive "x"

/-- The placeholders. The possessive gains an s, so that it differs from the determiner. -/
def other : PronounSet :=
  { derive placeholderMark with possessive := (derive placeholderMark).determiner ++ "s" }

def third : Gender → PronounSet
  | .male => male
  | .female => female
  | .genderless => genderless
  | .they => they
  | .additional => additional
  | .other => other
  | .plural => thirdPlural

/-- The row for a person and a gender. In first and second person only number matters. -/
def row : Person → Gender → PronounSet
  | .first, g => if g = .plural then firstPlural else firstSingular
  | .second, g => if g = .plural then secondPlural else secondSingular
  | .third, g => third g

/-- All rows: for each gender the three persons. -/
def table : List (Person × Gender × PronounSet) :=
  Gender.all.flatMap fun g => Person.all.map fun p => (p, g, row p g)

/-- Why a strict look-up finds no row. -/
inductive Missing
  | person (given : Label)
  | gender (given : Label)

def Missing.message : Missing → Text
  | .person given => given.quoted ++ " is not a valid GrammaticalPerson"
  | .gender given => given.quoted ++ " is not a valid Gender"

/-- The gender that a label is, without any loose reading. -/
def exactGender? : Label → Option Gender
  | .gender g => some g
  | .datum (.text t) => Gender.ofWord? t
  | _ => none

/-- The person that a label equals, without any loose reading. -/
def exactPerson (l : Label) : Except Missing Person :=
  match l.number?.bind Person.ofNumber? with
  | some p => .ok p
  | none => .error (.person l)

/-- The row for labels that must equal a person and a gender. The person is checked first. -/
def find (person gender : Label) : Except Missing PronounSet := do
  let p ← exactPerson person
  match exactGender? gender with
  | some g => .ok (row p g)
  | none => .error (.gender gender)

end PronounSet

/-- A row that is given as data. Its forms are looked at only when they are asked for, so they may
be anything. -/
abbrev Row := Form → Datum

/-- A row as data. -/
def PronounSet.toRow (s : PronounSet) : Row := fun f => .text (s.form f)

/-- A datum under the name of each form, and nothing else. -/
def Row.ofDatum? : Datum → Option Row
  | .object fields =>
    if fields.length = 6 ∧ Form.all.all fun f => (Datum.field? f.field fields).isSome then
      some fun f => (Datum.field? f.field fields).getD .null
    else none
  | _ => none

end Narration
