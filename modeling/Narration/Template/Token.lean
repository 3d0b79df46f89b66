import Narration.Being
import Narration.Grammar.Pronouns
import Narration.Template.Marker

/-! # Tokens of a template

A token is a marker and, directly behind it, the name of what is asked for. The longest name at a
place counts, and a word character must not follow it, so that no name is found inside a longer
word. What follows a token is read on its own; a marker that begins no token stands for itself. -/
namespace Narration

inductive Token
  | name (n : NameToken)
  | form (f : Form)
  deriving DecidableEq

namespace Token

def text : Token → Text
  | name n => n.text
  | form f => f.token

def all : List Token := NameToken.all.map name ++ Form.all.map form

/-- The tokens, the longest name first. -/
def longestFirst : List Token :=
  [.name .general, .name .target, .form .reflexive, .name .user, .form .possessive, .form .copula,
    .form .object, .form .determiner, .form .subject]

theorem mem_longestFirst (k : Token) : k ∈ longestFirst := by
  rcases k with n | f
  · cases n <;> decide
  · cases f <;> decide

/-- The token whose name is at the front of a text and is not continued by a word character. -/
def at? (t : Text) : Option Token :=
  longestFirst.find? fun k => t.startsWith k.text && !Text.beginsWord (t.drop k.text.length)

end Token

namespace Template

/-- A template in pieces: characters that stand for themselves, and tokens. -/
inductive Piece
  | literal (c : CodePoint)
  | token (k : Token)
  deriving DecidableEq

/-- The pieces of a template, after leaving out the characters of a token already read. -/
def piecesAfter (m : Marker) : Nat → Text → List Piece
  | _, [] => []
  | n + 1, _ :: rest => piecesAfter m n rest
  | 0, c :: rest =>
    match if c = m.char then Token.at? rest else none with
    | some k => .token k :: piecesAfter m k.text.length rest
    | none => .literal c :: piecesAfter m 0 rest

def pieces (m : Marker) (t : Text) : List Piece := piecesAfter m 0 t

/-- How many characters of the template a piece takes. -/
def Piece.length : Piece → Nat
  | .literal _ => 1
  | .token k => k.text.length + 1

/-- The tokens among pieces that begin at an offset: beginning, end and token. -/
def found (offset : Nat) : List Piece → List (Nat × Nat × Token)
  | [] => []
  | .literal _ :: rest => found (offset + 1) rest
  | p@(.token k) :: rest => (offset, offset + p.length, k) :: found (offset + p.length) rest

/-- The tokens of a template for a marker. -/
def occurrences (m : Marker) (t : Text) : List (Nat × Nat × Token) := found 0 (pieces m t)

def Piece.filled (fill : Token → Text) : Piece → Text
  | .literal c => [c]
  | .token k => fill k

/-- The template with a text in place of each token. These texts are not read again. -/
def substitute (m : Marker) (fill : Token → Text) (t : Text) : Text :=
  (pieces m t).flatMap (·.filled fill)

end Template

/-- The name tokens, each with what it stands for. -/
def Being.nameTexts (b : Being) (p : Person) : List (Text × Text) :=
  NameToken.all.map fun n => (n.text, b.named n p)

/-- All tokens, each with what it stands for. Any label will do for the names, but only a number
from one to three finds pronouns. -/
def Being.tokenTexts (b : Being) (person : Label) :
    Except PronounSet.Missing (List (Text × Text)) := do
  let row ← PronounSet.find person (.gender b.gender)
  return b.nameTexts person.spoken ++ row.tokenForms

/-- What each token stands for, for a being addressed in a person. -/
def Being.fill (b : Being) (p : Person) : Token → Text
  | .name n => b.named n p
  | .form f => (PronounSet.row p b.gender).form f

end Narration
