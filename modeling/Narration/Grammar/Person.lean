import Narration.Text.Basic

/-! # Grammatical person

The person in which a being is addressed, written as a number from one to three. -/
namespace Narration

inductive Person
  | first
  | second
  | third
  deriving DecidableEq

namespace Person

def all : List Person := [first, second, third]

def number : Person → Nat
  | first => 1
  | second => 2
  | third => 3

/-- The name of a person in capitals. -/
def name : Person → Text
  | first => "FIRST"
  | second => "SECOND"
  | third => "THIRD"

def ofNumber? (n : Int) : Option Person := all.find? fun p => (p.number : Int) == n

def ofName? (t : Text) : Option Person := all.find? (·.name == t)

theorem ofNumber?_number (p : Person) : ofNumber? p.number = some p := by cases p <;> decide

theorem ofName?_name (p : Person) : ofName? p.name = some p := by cases p <;> decide

end Person
end Narration
