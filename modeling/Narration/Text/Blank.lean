import Narration.Text.Basic

/-! # White space

The characters that count as white space around a label: the ASCII controls from tab to carriage
return, the four information separators, and the space separators and line breaks of Unicode. -/
namespace Narration.Text

def blankSpans : List (Nat × Nat) :=
  [
    (0x9, 0xD), (0x1C, 0x20), (0x85, 0x85), (0xA0, 0xA0), (0x1680, 0x1680), (0x2000, 0x200A),
    (0x2028, 0x2029), (0x202F, 0x202F), (0x205F, 0x205F), (0x3000, 0x3000)
  ]

def isBlank (c : CodePoint) : Bool := covers blankSpans c.toNat

/-- The text without the white space at its end. -/
def stripEnd (t : Text) : Text := (t.reverse.dropWhile isBlank).reverse

/-- The text without the white space around it. -/
def strip (t : Text) : Text := stripEnd (t.dropWhile isBlank)

end Narration.Text
