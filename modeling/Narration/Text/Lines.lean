import Narration.Text.Basic

/-! # Lines

The lines of a text. Besides the line feed and the carriage return, alone or together, the other
breaks of Unicode end a line. A break at the end of the text begins no further line. -/
namespace Narration.Text

/-- The characters that end a line. -/
def breaks : Text :=
  ['\n', '\x0b', '\x0c', '\r', '\x1c', '\x1d', '\x1e', '\u0085', '\u2028', '\u2029']

def lines : Text → List Text
  | [] => []
  | .char '\r' :: .char '\n' :: rest => [] :: lines rest
  | c :: rest =>
    if breaks.contains c then [] :: lines rest
    else match lines rest with
      | [] => [[c]]
      | line :: below => (c :: line) :: below

end Narration.Text
