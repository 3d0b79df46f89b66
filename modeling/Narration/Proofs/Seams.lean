import Narration.Proofs.Tokens

/-! # Templates in two parts

A template can be cut in two and each part read on its own, unless the cut goes through what may be
a token: the first part ends with the marker and a word behind it, however short, and the second
goes on with this word. Everywhere else the reader carries nothing over the seam. The word that it
looks at ends in the first part, and what it has passed it never looks at again. -/
namespace Narration

namespace Template

/-- A text ends with the marker and a word behind it, of which there may be no character yet. -/
def EndsOpen (m : Marker) (t : Text) : Prop :=
  ∃ s w : Text, t = s ++ m.char :: w ∧ ∀ c ∈ w, Text.isWord c = true

/-- Between two texts is a word that a marker stands in front of. -/
def Torn (m : Marker) (s t : Text) : Prop := EndsOpen m s ∧ t.beginsWord = true

section

variable {m : Marker} {s t : Text}

theorem Torn.append_left (h : Torn m s t) (r : Text) : Torn m (r ++ s) t := by
  obtain ⟨⟨before, w, rfl, hw⟩, goes⟩ := h
  exact ⟨⟨r ++ before, w, (List.append_assoc _ _ _).symm, hw⟩, goes⟩

theorem not_torn_of_ends (ends : t.beginsWord = false) : ¬Torn m s t := fun torn =>
  Bool.eq_false_iff.mp ends torn.2

/-- What ends a word behind the marker in the first part ends it in the whole as well. -/
theorem beginsWord_append_of_not_torn {w rest : Text} (hw : ∀ c ∈ w, Text.isWord c = true)
    (ends : rest.beginsWord = false) (whole : ¬Torn m (m.char :: (w ++ rest)) t) :
    (rest ++ t).beginsWord = false := by
  cases rest with
  | nil =>
    rw [List.append_nil] at whole
    exact Bool.eq_false_iff.mpr fun goes => whole ⟨⟨[], w, rfl, hw⟩, goes⟩
  | cons c rest => exact ends

theorem word_append_of_not_torn (whole : ¬Torn m (m.char :: s) t) :
    Text.word (s ++ t) = Text.word s := by
  obtain ⟨rest, split, ends⟩ := Text.exists_eq_word_append s
  have hw : ∀ c ∈ s.word, Text.isWord c = true := fun c hc => Text.isWord_of_mem_word hc
  have behind : (rest ++ t).beginsWord = false :=
    beginsWord_append_of_not_torn hw ends (by rwa [← split])
  calc Text.word (s ++ t) = Text.word (s.word ++ (rest ++ t)) := by
        rw [← List.append_assoc, ← split]
    _ = s.word := by rw [Text.word_append hw, Text.word_eq_nil behind, List.append_nil]

theorem tokenAt?_append_of_not_torn {c : CodePoint} (whole : ¬Torn m (c :: s) t) :
    tokenAt? m (c :: (s ++ t)) 0 = tokenAt? m (c :: s) 0 := by
  rw [tokenAt?_cons_zero, tokenAt?_cons_zero]
  by_cases marker : c = m.char
  · subst marker
    rw [word_append_of_not_torn whole]
  · rw [if_neg marker, if_neg marker]

/-- The pieces of a template are those of its parts. -/
theorem pieces_append (whole : ¬Torn m s t) : pieces m (s ++ t) = pieces m s ++ pieces m t := by
  induction s using scan_induction (· = m) with
  | nil => rfl
  | literal c rest literal ih =>
    have alone : tokenAt? m (c :: rest) 0 = none := literal m rfl
    have within : tokenAt? m (c :: (rest ++ t)) 0 = none :=
      (tokenAt?_append_of_not_torn whole).trans alone
    have inner := ih fun torn => whole (torn.append_left [c])
    rw [List.cons_append, pieces_literal within, pieces_literal alone, inner, List.cons_append]
  | token m' k rest same ends ih =>
    subst same
    have behind : (rest ++ t).beginsWord = false :=
      beginsWord_append_of_not_torn (fun c hc => Token.isWord_of_mem_text hc) ends whole
    have inner := ih fun torn => whole (torn.append_left (m'.char :: k.text))
    rw [List.cons_append, List.append_assoc, pieces_token behind, pieces_token ends, inner,
      List.cons_append]

theorem substitute_append_of_not_torn {fill : Token → Text} (whole : ¬Torn m s t) :
    substitute m fill (s ++ t) = substitute m fill s ++ substitute m fill t := by
  rw [substitute, pieces_append whole, List.flatMap_append]
  rfl

/-! ## Where the tokens of both parts are -/

/-- A token in a text that stands behind so many characters. -/
def behind (n : Nat) : Nat × Nat × Token → Nat × Nat × Token
  | (i, j, k) => (n + i, n + j, k)

/-- The pieces of a text are as long as the text, so what follows them is behind it. -/
theorem found_append (offset : Nat) (s : Text) (behind : List Piece) :
    found offset (pieces m s ++ behind) =
      found offset (pieces m s) ++ found (offset + s.length) behind := by
  induction s using scan_induction (· = m) generalizing offset with
  | nil => rfl
  | literal c rest literal ih =>
    simp [pieces_literal (literal m rfl), found, ih, Nat.add_assoc, Nat.add_comm 1]
  | token m' k rest same ends ih =>
    subst same
    simp [pieces_token ends, found, ih, Piece.length, Nat.add_assoc, Nat.add_comm 1]

theorem found_add (n offset : Nat) (p : List Piece) :
    found (n + offset) p = (found offset p).map (behind n) := by
  induction p generalizing offset with
  | nil => rfl
  | cons piece p ih =>
    cases piece <;> simp [found, ← ih, behind, Nat.add_assoc]

theorem occurrences_append (whole : ¬Torn m s t) :
    occurrences m (s ++ t) = occurrences m s ++ (occurrences m t).map (behind s.length) := by
  unfold occurrences
  rw [pieces_append whole, found_append, ← found_add, Nat.add_comm]

end

end Template

namespace Phrasing

/-- **A template can be phrased in parts.** Unless a word that a marker stands in front of is torn,
the tokens of a template are those of its first part and, behind its characters, those of its second
part, and a pass over the whole gives what passes over both parts give. -/
theorem phrase_append [Host] {l : Label} {p : Person} (accepted : Person.ofLabel l = .ok p)
    (strict : Bool) (m : Marker) (b : Being) {s t : Text} (whole : ¬Template.Torn m s t) :
    ∃ (first second : Text) (found found' : List (Nat × Nat × Token)),
      phrase strict (.text [m.char]) ⟨l, b⟩ s = .ok first ∧
      phrase strict (.text [m.char]) ⟨l, b⟩ t = .ok second ∧
      phrase strict (.text [m.char]) ⟨l, b⟩ (s ++ t) = .ok (first ++ second) ∧
      occurrences (.text [m.char]) (.text s) = .ok found ∧
      occurrences (.text [m.char]) (.text t) = .ok found' ∧
      occurrences (.text [m.char]) (.text (s ++ t)) =
        .ok (found ++ found'.map (Template.behind s.length)) := by
  have pass := phrase_of_accepted m.ofDatum_char accepted strict b
  have tokens := occurrences_char m
  refine ⟨_, _, _, _, pass s, pass t, ?_, tokens s, tokens t, ?_⟩
  · rw [pass, Template.substitute_append_of_not_torn whole]
  · rw [tokens, Template.occurrences_append whole]

/-- The first part ends with a token and the second begins with one. -/
theorem phrase_append_touching :
    Person.ofLabel (.datum (.int 3)) = .ok .third ∧
    ¬Template.Torn ⟨.char '@', rfl⟩ "@I lost @my" "@myself, @m" ∧
    ∃ (first second : Text) (found found' : List (Nat × Nat × Token)),
      phrase true (.text "@") ⟨.datum (.int 3), ⟨"owl", .female, none⟩⟩ "@I lost @my" =
        .ok first ∧
      phrase true (.text "@") ⟨.datum (.int 3), ⟨"owl", .female, none⟩⟩ "@myself, @m" =
        .ok second ∧
      phrase true (.text "@") ⟨.datum (.int 3), ⟨"owl", .female, none⟩⟩
        (Text.ofString "@I lost @my" ++ Text.ofString "@myself, @m") = .ok (first ++ second) ∧
      occurrences (.text "@") (.text "@I lost @my") = .ok found ∧
      occurrences (.text "@") (.text "@myself, @m") = .ok found' ∧
      occurrences (.text "@") (.text (Text.ofString "@I lost @my" ++ Text.ofString "@myself, @m")) =
        .ok (found ++ found'.map (Template.behind 11)) := by
  have whole : ¬Template.Torn ⟨.char '@', rfl⟩ "@I lost @my" "@myself, @m" :=
    Template.not_torn_of_ends rfl
  exact ⟨rfl, whole, phrase_append rfl true ⟨.char '@', rfl⟩ _ whole⟩

/-- A word that is torn is another word. -/
example : phrase true (.text "@") ⟨.person .third, ⟨"owl", .female, none⟩⟩ "@my" = .ok "her" ∧
    phrase true (.text "@") ⟨.person .third, ⟨"owl", .female, none⟩⟩ "self" = .ok "self" ∧
    phrase true (.text "@") ⟨.person .third, ⟨"owl", .female, none⟩⟩ "@myself" = .ok "herself" :=
  ⟨rfl, rfl, rfl⟩

end Phrasing
end Narration
