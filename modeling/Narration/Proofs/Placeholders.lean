import Narration.Grammar.Placeholder
import Narration.Proofs.Tokens

/-! # Placeholders are whole words

The reader of placeholders tries the suffixes one after another, and each in any letter case. As
with tokens, what it finds is told by words: the mark stands before a word, as far as it goes, that
spells a suffix. Every text without the mark is passed over. -/
namespace Narration.Placeholder

/-- Whether a word is a suffix, letter by letter and in any letter case. -/
def spells : (suffix word : Text) → Bool
  | [], [] => true
  | l :: suffix, c :: word => matchesChar l c && spells suffix word
  | _, _ => false

theorem length_eq_of_spells {s w : Text} (h : spells s w = true) : w.length = s.length := by
  induction s generalizing w with
  | nil =>
    cases w with
    | nil => rfl
    | cons c w => cases h
  | cons l s ih =>
    cases w with
    | nil => cases h
    | cons c w => simp [ih (Bool.and_eq_true_iff.mp h).2]

/-- A text begins with a suffix exactly if a word that spells it stands at its front. -/
theorem begins_iff {s t : Text} :
    begins s t = true ↔ ∃ w rest, t = w ++ rest ∧ spells s w = true := by
  induction s generalizing t with
  | nil => exact ⟨fun _ => ⟨[], t, rfl, rfl⟩, fun _ => by cases t <;> rfl⟩
  | cons l s ih =>
    cases t with
    | nil =>
      constructor
      · intro h
        cases h
      · rintro ⟨w, rest, he, h⟩
        obtain ⟨rfl, _⟩ := List.append_eq_nil_iff.mp he.symm
        cases h
    | cons c t =>
      rw [begins, Bool.and_eq_true, ih]
      constructor
      · rintro ⟨hc, w, rest, rfl, h⟩
        exact ⟨c :: w, rest, rfl, Bool.and_eq_true_iff.mpr ⟨hc, h⟩⟩
      · rintro ⟨w, rest, he, h⟩
        cases w with
        | nil => cases h
        | cons d w =>
          obtain ⟨rfl, rfl⟩ := List.cons.inj he
          obtain ⟨hc, hw⟩ := Bool.and_eq_true_iff.mp h
          exact ⟨hc, w, rest, rfl, hw⟩

/-- What may stand for a letter of a suffix is a word character. -/
theorem isWord_of_matchesChar {p : Text × Form} (hp : p ∈ suffixes) {l c : CodePoint}
    (hl : l ∈ p.1) (h : matchesChar l c = true) : Text.isWord c = true := by
  have letters : ∀ p ∈ suffixes, ∀ l ∈ p.1,
      Text.isWord l = true ∧ Text.isWord l.toAsciiUpper = true := by decide
  have variants : ∀ c ∈ ([.char '\u0130', .char '\u0131', .char '\u017F'] : Text),
      Text.isWord c = true := by decide
  simp only [matchesChar, Bool.or_eq_true, Bool.and_eq_true, beq_iff_eq] at h
  rcases h with ((rfl | rfl) | ⟨_, rfl | rfl⟩) | ⟨_, rfl⟩
  · exact (letters p hp _ hl).1
  · exact (letters p hp _ hl).2
  · exact variants _ (by decide)
  · exact variants _ (by decide)
  · exact variants _ (by decide)

theorem isWord_of_spells {p : Text × Form} (hp : p ∈ suffixes) {w : Text}
    (h : spells p.1 w = true) : ∀ c ∈ w, Text.isWord c = true := by
  have aux : ∀ s w : Text, (∀ l ∈ s, l ∈ p.1) → spells s w = true →
      ∀ c ∈ w, Text.isWord c = true := by
    intro s
    induction s with
    | nil =>
      intro w _ h c hc
      cases w with
      | nil => cases hc
      | cons d w => cases h
    | cons l s ih =>
      intro w hs h c hc
      cases w with
      | nil => cases hc
      | cons d w =>
        obtain ⟨hd, hw⟩ := Bool.and_eq_true_iff.mp h
        rcases List.mem_cons.mp hc with rfl | hc
        · exact isWord_of_matchesChar hp (hs l (by simp)) hd
        · exact ih w (fun l hl => hs l (by simp [hl])) hw c hc
  exact aux p.1 w (fun l hl => hl) h

/-- A text begins with a suffix that no word character continues exactly if its word spells the
suffix. -/
theorem begins_and_ends_iff {p : Text × Form} (hp : p ∈ suffixes) (t : Text) :
    (begins p.1 t && !Text.beginsWord (t.drop p.1.length)) = true ↔ spells p.1 t.word = true := by
  rw [Bool.and_eq_true, Bool.not_eq_true', begins_iff]
  constructor
  · rintro ⟨⟨w, rest, rfl, h⟩, ends⟩
    rw [← length_eq_of_spells h, List.drop_left] at ends
    rw [Text.word_append (isWord_of_spells hp h), Text.word_eq_nil ends, List.append_nil]
    exact h
  · intro h
    obtain ⟨rest, he, ends⟩ := Text.exists_eq_word_append t
    refine ⟨⟨t.word, rest, he, h⟩, ?_⟩
    have hd : t.drop p.1.length = rest := by
      rw [← length_eq_of_spells h]
      exact (congrArg (List.drop t.word.length) he).trans List.drop_left
    rw [hd]
    exact ends

/-- The suffix at the front of a text is its word, if this spells one. The order in which the
suffixes are tried does not matter. -/
theorem suffix?_eq_some_iff {t w : Text} :
    suffix? t = some w ↔ w = t.word ∧ ∃ p ∈ suffixes, spells p.1 w = true := by
  have taken : ∀ p ∈ suffixes, spells p.1 t.word = true → t.take p.1.length = t.word := by
    intro p _ h
    obtain ⟨rest, he, _⟩ := Text.exists_eq_word_append t
    rw [← length_eq_of_spells h]
    exact (congrArg (List.take t.word.length) he).trans List.take_left
  constructor
  · intro h
    obtain ⟨⟨s, f⟩, hp, h⟩ := List.exists_of_findSome?_eq_some h
    rw [Option.ite_none_right_eq_some] at h
    have spelled := (begins_and_ends_iff hp t).mp h.1
    rw [← Option.some.inj h.2, taken _ hp spelled]
    exact ⟨rfl, _, hp, spelled⟩
  · rintro ⟨rfl, ⟨s, f⟩, hp, spelled⟩
    cases hf : suffix? t with
    | none =>
      have := List.findSome?_eq_none_iff.mp hf _ hp
      rw [ite_eq_right_iff] at this
      cases this ((begins_and_ends_iff hp t).mpr spelled)
    | some v =>
      obtain ⟨⟨s', f'⟩, hq, h⟩ := List.exists_of_findSome?_eq_some hf
      rw [Option.ite_none_right_eq_some] at h
      rw [← Option.some.inj h.2, taken _ hq ((begins_and_ends_iff hq t).mp h.1)]

/-! ## Reading a text from the front -/

theorem piecesAfter_eq_pieces_drop (n : Nat) (t : Text) : piecesAfter n t = pieces (t.drop n) := by
  induction t generalizing n with
  | nil => simp [pieces, piecesAfter]
  | cons c rest ih =>
    cases n with
    | zero => rfl
    | succ n => exact ih n

/-- The character that makes up the mark. -/
def tick : CodePoint := .char '\x60'

theorem after?_mark_eq_none {c : CodePoint} (h : c ≠ tick) (t : Text) :
    Text.after? PronounSet.placeholderMark (c :: t) = none := by
  refine if_neg fun hs => ?_
  obtain ⟨rest, he⟩ := List.isPrefixOf_iff_prefix.mp hs
  exact h (List.cons.inj he).1.symm

/-- Where no placeholder begins, one character is read. -/
theorem pieces_literal {c : CodePoint} {t : Text}
    (h : (Text.after? PronounSet.placeholderMark (c :: t)).bind suffix? = none) :
    pieces (c :: t) = .literal c :: pieces t := by
  unfold pieces
  rw [piecesAfter, h]

theorem pieces_plain {c : CodePoint} (h : c ≠ tick) (t : Text) :
    pieces (c :: t) = .literal c :: pieces t :=
  pieces_literal (by rw [after?_mark_eq_none h, Option.bind_none])

/-- The word behind the mark is read at once, if it spells a suffix. -/
theorem pieces_placeholder {w t : Text} (spelled : ∃ p ∈ suffixes, spells p.1 w = true)
    (ends : t.beginsWord = false) :
    pieces (PronounSet.placeholderMark ++ (w ++ t)) = .placeholder w :: pieces t := by
  have word : w = Text.word (w ++ t) := by
    obtain ⟨p, hp, h⟩ := spelled
    rw [Text.word_append (isWord_of_spells hp h), Text.word_eq_nil ends, List.append_nil]
  have read : suffix? (w ++ t) = some w := suffix?_eq_some_iff.mpr ⟨word, spelled⟩
  have mark : Text.after? PronounSet.placeholderMark (tick :: tick :: (w ++ t)) = some (w ++ t) :=
    rfl
  show piecesAfter 0 (tick :: tick :: (w ++ t)) = _
  rw [piecesAfter, mark, Option.bind_some, read]
  show Piece.placeholder w :: piecesAfter (w.length + 1) (tick :: (w ++ t)) = _
  rw [piecesAfter_eq_pieces_drop, List.drop_succ_cons, List.drop_left]

/-! ## Putting the caller's pronouns in -/

section

variable {forms : PronounSet} {t out : Text}

theorem customize_nil : customize [] forms = .ok [] := rfl

/-- A piece is replaced before all that follows it. -/
theorem customize_of_pieces {p : Piece} {s : Text} (h : pieces s = p :: pieces t) :
    customize s forms =
      (p.replaced forms).bind fun part => (customize t forms).map (part ++ ·) := by
  unfold customize
  rw [h, replaceAll]
  cases p.replaced forms with
  | error u => rfl
  | ok part => cases replaceAll forms (pieces t) <;> rfl

/-- A text without the mark's character is passed over. -/
theorem customize_append {s : Text} (plain : tick ∉ s) (h : customize t forms = .ok out) :
    customize (s ++ t) forms = .ok (s ++ out) := by
  induction s with
  | nil => exact h
  | cons c s ih =>
    obtain ⟨hc, hs⟩ : tick ≠ c ∧ tick ∉ s := by simpa using plain
    rw [List.cons_append, customize_of_pieces (pieces_plain hc.symm (s ++ t)), ih hs]
    rfl

/-- A placeholder that no word character continues gives its pronoun. -/
theorem customize_placeholder {w part : Text} (spelled : ∃ p ∈ suffixes, spells p.1 w = true)
    (ends : t.beginsWord = false) (known : (Piece.placeholder w).replaced forms = .ok part)
    (h : customize t forms = .ok out) :
    customize (PronounSet.placeholderMark ++ (w ++ t)) forms = .ok (part ++ out) := by
  rw [customize_of_pieces (pieces_placeholder spelled ends), known, h]
  rfl

end

end Narration.Placeholder
