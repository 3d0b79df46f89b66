import Narration.Grammar.Gender
import Narration.Grammar.Person

/-! # Beings

A being takes part in what is told. In first and second person it is named by a pronoun; in third
person by its specific name, which stands bare, or by its general name, which always takes the
definite article. -/
namespace Narration

structure Being where
  generalName : Text
  gender : Gender
  specificName : Option Text
  deriving DecidableEq

/-- The tokens that name a being. The first two differ only in what they are called. -/
inductive NameToken
  | user
  | target
  | general
  deriving DecidableEq

namespace NameToken

def all : List NameToken := [user, target, general]

def text : NameToken → Text
  | user => "user"
  | target => "target"
  | general => "general"

def ofText? (t : Text) : Option NameToken := all.find? (·.text == t)

theorem ofText?_text (n : NameToken) : ofText? n.text = some n := by cases n <;> decide

end NameToken

namespace Being

def isPlural (b : Being) : Bool := b.gender = .plural

def generalDisplayName (b : Being) : Text := "the " ++ b.generalName

def displayName (b : Being) : Text := b.specificName.getD b.generalDisplayName

/-- How a being is named by a token, addressed in a person. -/
def named (b : Being) (n : NameToken) : Person → Text
  | .first => if b.isPlural then "we" else "I"
  | .second => "you"
  | .third => if n = .general then b.generalDisplayName else b.displayName

end Being
end Narration
