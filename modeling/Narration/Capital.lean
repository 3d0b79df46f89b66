import Narration.Text.Case
import Narration.Text.Word

/-! # Capitals

A message begins with a capital: the first character that can begin a sentence, wherever it is,
takes its title case if that is one character, or else its upper case if that is one. A character
whose capital forms are all longer stays, and no later one is capitalised for it. So the length of
a text never changes. -/
namespace Narration.Text

/-- The capital form of a character, always one character. -/
def capitalOf (c : CodePoint) : CodePoint :=
  match titleOf c, upperOf c with
  | [t], _ => t
  | _, [u] => u
  | _, _ => c

def capitalize : Text → Text
  | [] => []
  | c :: rest => if isInitial c then capitalOf c :: rest else c :: capitalize rest

theorem length_capitalize (t : Text) : (capitalize t).length = t.length := by
  induction t with
  | nil => rfl
  | cons c rest ih => by_cases h : isInitial c <;> simp [capitalize, h, ih]

end Narration.Text
