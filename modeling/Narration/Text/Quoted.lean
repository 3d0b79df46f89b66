import Narration.Text.Printable

/-! # Quoted texts

A text between quotes, as it stands in a message. Single quotes are the rule; a text that holds
single quotes and no double quotes stands in double quotes. The chosen quote and the backslash
are escaped, and so is every character that cannot be shown: line feed, carriage return and tab by
a letter, the others, halves among them, by their code in the shortest of three hexadecimal
forms. -/
namespace Narration.Text

def hexDigit (n : Nat) : CodePoint := .ofNat (if n < 10 then 48 + n else 87 + n)

/-- The last `width` hexadecimal digits of a number. -/
def hex : (width : Nat) → (n : Nat) → Text
  | 0, _ => []
  | width + 1, n => hex width (n / 16) ++ [hexDigit (n % 16)]

def escaped (quote c : CodePoint) : Text :=
  if c = quote ∨ c = .char '\\' then [.char '\\', c]
  else if c = .char '\n' then "\\n"
  else if c = .char '\r' then "\\r"
  else if c = .char '\t' then "\\t"
  else if isPrintable c then [c]
  else if c.toNat < 0x100 then "\\x" ++ hex 2 c.toNat
  else if c.toNat < 0x10000 then "\\u" ++ hex 4 c.toNat
  else "\\U" ++ hex 8 c.toNat

def quoteFor (t : Text) : CodePoint :=
  if t.contains (.char '\'') && !t.contains (.char '"') then .char '"' else .char '\''

def quoted (t : Text) : Text :=
  let quote := quoteFor t
  quote :: t.flatMap (escaped quote) ++ [quote]

end Narration.Text
