import Narration.Grammar.Pronouns
import Narration.Text.Case
import Narration.Text.Word

/-! # Placeholders

The pronouns of a being of other gender come out as placeholders: a mark of two characters and a
suffix that tells the form. Afterwards the caller puts its own pronouns in their place. Suffixes
are found in any letter case, so a placeholder at the beginning of a sentence, where it has been
capitalised, yields a capitalised pronoun. -/
namespace Narration.Placeholder

/-- The suffixes, the longest first. -/
def suffixes : List (Text × Form) :=
  [("imself", .reflexive), ("iss", .possessive), ("im", .object), ("is", .determiner),
    ("e", .subject)]

/-- Whether a character is a lower-case letter in any letter case. The two letters i with a dot
above or without one, and the long s, count as variants too. -/
def matchesChar (lower c : CodePoint) : Bool :=
  c == lower || c == lower.toAsciiUpper
    || (lower == .char 'i' && (c == .char '\u0130' || c == .char '\u0131'))
    || (lower == .char 's' && c == .char '\u017F')

/-- Whether a text begins with a suffix in any letter case. -/
def begins : Text → Text → Bool
  | [], _ => true
  | _, [] => false
  | l :: suffix, c :: t => matchesChar l c && begins suffix t

/-- The suffix at the front of a text, as it is spelled there. A word character must not follow. -/
def suffix? (t : Text) : Option Text :=
  suffixes.findSome? fun (s, _) =>
    if begins s t && !Text.beginsWord (t.drop s.length) then some (t.take s.length) else none

/-- A text in pieces: characters that stand for themselves, and suffixes of placeholders. -/
inductive Piece
  | literal (c : CodePoint)
  | placeholder (suffix : Text)

/-- The pieces of a text, after leaving out the characters of a placeholder already read. -/
def piecesAfter : Nat → Text → List Piece
  | _, [] => []
  | n + 1, _ :: rest => piecesAfter n rest
  | 0, c :: rest =>
    match (Text.after? PronounSet.placeholderMark (c :: rest)).bind suffix? with
    | some s => .placeholder s :: piecesAfter (s.length + 1) rest
    | none => .literal c :: piecesAfter 0 rest

def pieces (t : Text) : List Piece := piecesAfter 0 t

def Piece.length : Piece → Nat
  | .literal _ => 1
  | .placeholder s => PronounSet.placeholderMark.length + s.length

/-- The placeholders among pieces that begin at an offset: beginning, end and suffix. -/
def found (offset : Nat) : List Piece → List (Nat × Nat × Text)
  | [] => []
  | .literal _ :: rest => found (offset + 1) rest
  | p@(.placeholder s) :: rest =>
    (offset, offset + p.length, s) :: found (offset + p.length) rest

/-- The placeholders of a text. -/
def occurrences (t : Text) : List (Nat × Nat × Text) := found 0 (pieces t)

/-- A suffix that is spelled with a variant letter and stands for no form. -/
structure Unknown where
  key : Text
  deriving DecidableEq

/-- A pronoun with its first character in upper case, which may be several characters. -/
def capitalised : Text → Text
  | [] => []
  | c :: rest => Text.upperOf c ++ rest

def Piece.replaced (forms : PronounSet) : Piece → Except Unknown Text
  | .literal c => .ok [c]
  | .placeholder s =>
    match suffixes.lookup (Text.lower s) with
    | none => .error ⟨Text.lower s⟩
    | some f =>
      .ok (if s.head?.any CodePoint.isAsciiUpper then capitalised (forms.form f) else forms.form f)

/-- The pieces with pronouns in place of the placeholders. -/
def replaceAll (forms : PronounSet) : List Piece → Except Unknown Text
  | [] => .ok []
  | p :: rest => do
    let t ← p.replaced forms
    return t ++ (← replaceAll forms rest)

/-- The text with the caller's pronouns in place of the placeholders. -/
def customize (t : Text) (forms : PronounSet) : Except Unknown Text := replaceAll forms (pieces t)

/-! ## Rows that are given as data -/

/-- Why a row does not serve: a suffix is unknown, or a form that is asked for is no text. Of the
latter, what shows first is told apart: a record has no first element, a list may have one without
letter case, and all else cannot stand in a text. -/
inductive Misfit
  | unknown (u : Unknown)
  | noFirst
  | noCase
  | noText
  deriving DecidableEq

/-- A form of a row with a capital. What counts as false is left alone. -/
def capitalisedDatum : Datum → Except Misfit Datum
  | .text t => .ok (.text (capitalised t))
  | .list (.text _ :: _) => .error .noText
  | .list (_ :: _) => .error .noCase
  | .object (_ :: _) => .error .noFirst
  | d => if d.isTrue then .error .noText else .ok d

def Piece.filled (row : Row) : Piece → Except Misfit Datum
  | .literal c => .ok (.text [c])
  | .placeholder s =>
    match suffixes.lookup (Text.lower s) with
    | none => .error (.unknown ⟨Text.lower s⟩)
    | some f => if s.head?.any CodePoint.isAsciiUpper then capitalisedDatum (row f) else .ok (row f)

/-- A piece filled from a row of texts is the piece replaced. -/
theorem Piece.filled_toRow (forms : PronounSet) (p : Piece) :
    (∃ t, p.filled forms.toRow = .ok (.text t) ∧ p.replaced forms = .ok t) ∨
      ∃ u, p.filled forms.toRow = .error (.unknown u) ∧ p.replaced forms = .error u := by
  cases p with
  | literal c => exact .inl ⟨[c], rfl, rfl⟩
  | placeholder s =>
    cases h : suffixes.lookup (Text.lower s) with
    | none =>
      exact .inr ⟨⟨Text.lower s⟩, by simp [Piece.filled, h], by simp [Piece.replaced, h]⟩
    | some f =>
      by_cases hu : s.head?.any CodePoint.isAsciiUpper
      · exact .inl ⟨capitalised (forms.form f),
          by simp [Piece.filled, h, hu, PronounSet.toRow, capitalisedDatum],
          by simp [Piece.replaced, h, hu]⟩
      · exact .inl ⟨forms.form f, by simp [Piece.filled, h, hu, PronounSet.toRow],
          by simp [Piece.replaced, h, hu]⟩

/-- Data as one text. Null leaves nothing. -/
def joined : List Datum → Except Misfit Text
  | [] => .ok []
  | .text t :: rest => (joined rest).map (t ++ ·)
  | .null :: rest => joined rest
  | _ => .error .noText

/-- The text with the forms of a row in place of the placeholders. The forms are joined when all
have been looked up. -/
def customizeWith (t : Text) (row : Row) : Except Misfit Text := do
  joined (← (pieces t).mapM (Piece.filled row))

/-- A row of texts given as data serves like the row itself. -/
theorem customizeWith_toRow (t : Text) (forms : PronounSet) :
    customizeWith t forms.toRow = (customize t forms).mapError .unknown := by
  unfold customizeWith customize
  induction pieces t with
  | nil => rfl
  | cons p rest ih =>
    rw [List.mapM_cons, replaceAll]
    obtain ⟨d, hd⟩ | ⟨u, hu⟩ := p.filled_toRow forms
    · rw [hd.1, hd.2]
      cases hr : rest.mapM (Piece.filled forms.toRow) with
      | error e =>
        cases hs : replaceAll forms rest with
        | error u =>
          rw [hr, hs] at ih
          exact ih
        | ok t =>
          rw [hr, hs] at ih
          nomatch ih
      | ok ds =>
        cases hs : replaceAll forms rest with
        | error u =>
          rw [hr, hs] at ih
          have h : joined ds = .error (.unknown u) := ih
          exact congrArg (Except.map (d ++ ·)) h
        | ok t =>
          rw [hr, hs] at ih
          have h : joined ds = .ok t := ih
          exact congrArg (Except.map (d ++ ·)) h
    · rw [hu.1, hu.2]
      rfl

end Narration.Placeholder
