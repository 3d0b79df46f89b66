import Narration.Text.Basic

/-! # Gender

The gender or number category of a being selects its third-person pronouns and the agreement of
its verb. -/
namespace Narration

/-- `genderless` is for things that are not alive, `they` for one whose gender is unknown,
`additional` for genders beyond male and female, `other` for pronouns that the caller puts in
later, and `plural` for a group that is addressed as one being. -/
inductive Gender
  | male
  | female
  | genderless
  | they
  | additional
  | other
  | plural
  deriving DecidableEq

namespace Gender

def all : List Gender := [male, female, genderless, they, additional, other, plural]

/-- The word for a gender in lower case. -/
def word : Gender → Text
  | male => "male"
  | female => "female"
  | genderless => "genderless"
  | they => "they"
  | additional => "additional"
  | other => "other"
  | plural => "plural"

/-- The word for a gender in capitals. -/
def name : Gender → Text
  | male => "MALE"
  | female => "FEMALE"
  | genderless => "GENDERLESS"
  | they => "THEY"
  | additional => "ADDITIONAL"
  | other => "OTHER"
  | plural => "PLURAL"

/-- The gender whose word a text is, to the letter. -/
def ofWord? (t : Text) : Option Gender := all.find? (·.word == t)

/-- The gender whose name in capitals a text is, to the letter. -/
def ofName? (t : Text) : Option Gender := all.find? (·.name == t)

theorem ofWord?_word (g : Gender) : ofWord? g.word = some g := by cases g <;> decide

theorem ofName?_name (g : Gender) : ofName? g.name = some g := by cases g <;> decide

end Gender
end Narration
