import Narration.Text.Letter
import Narration.Text.Numeral

/-! # Word characters

A word is an unbroken run of letters, numbers of any kind and underscores; combining marks break
it. Of the word characters, those that are neither decimal digits nor the underscore can begin a
sentence. -/
namespace Narration.Text

def isWord (c : CodePoint) : Bool :=
  isLetter c || isDigit c || isOtherNumber c || c == .char '_'

/-- A word character that is neither a decimal digit nor the underscore. Superscripts, fractions
and Roman numerals are among them. -/
def isInitial (c : CodePoint) : Bool := isWord c && !isDecimal c && c != .char '_'

/-- Whether a text goes on with a word character. -/
def beginsWord : Text → Bool
  | [] => false
  | c :: _ => isWord c

end Narration.Text
