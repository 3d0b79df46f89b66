import Mathlib.Data.List.Forall2
import Narration.Proofs.Placeholders

/-! # Spellings of placeholders

A suffix is found in any letter case, and the letters i with other dots and the long s pass for
letters of it. In lower case these do not become what they pass for. So a placeholder that is
spelled with one of them is found but cannot be looked up, and the first of this kind in a text
decides what error there is. Any other text comes out with the pronouns put in, all at once. -/
namespace Narration.Placeholder

/-- What may stand for a letter of a suffix. -/
inductive Varies : CodePoint → CodePoint → Prop
  | small (l : CodePoint) : Varies l l
  | capital (l : CodePoint) : Varies l l.toAsciiUpper
  | dotted : Varies (.char 'i') (.char '\u0130')
  | dotless : Varies (.char 'i') (.char '\u0131')
  | long : Varies (.char 's') (.char '\u017F')

/-- A word is a suffix in some spelling, and the suffix stands for a form. -/
def StandsFor (w : Text) (f : Form) : Prop := ∃ s, (s, f) ∈ suffixes ∧ List.Forall₂ Varies s w

/-- The letters that pass for others and do not become these in lower case. -/
def variants : Text := "\u0130\u0131\u017F"

def HasVariant (w : Text) : Prop := ∃ c ∈ w, c ∈ variants

instance (w : Text) : Decidable (HasVariant w) :=
  decidable_of_iff (w.any (variants.contains ·) = true) <| by
    simp [HasVariant]

theorem matchesChar_iff {l c : CodePoint} : matchesChar l c = true ↔ Varies l c := by
  simp only [matchesChar, Bool.or_eq_true, Bool.and_eq_true, beq_iff_eq]
  constructor
  · rintro (((rfl | rfl) | ⟨rfl, rfl | rfl⟩) | ⟨rfl, rfl⟩)
    · exact .small _
    · exact .capital _
    · exact .dotted
    · exact .dotless
    · exact .long
  · intro h
    cases h with
    | small => exact .inl (.inl (.inl rfl))
    | capital => exact .inl (.inl (.inr rfl))
    | dotted => exact .inl (.inr ⟨rfl, .inl rfl⟩)
    | dotless => exact .inl (.inr ⟨rfl, .inr rfl⟩)
    | long => exact .inr ⟨rfl, rfl⟩

theorem spells_iff {s w : Text} : spells s w = true ↔ List.Forall₂ Varies s w := by
  induction s generalizing w with
  | nil => cases w <;> simp [spells]
  | cons l s ih =>
    cases w with
    | nil => simp [spells]
    | cons c w => rw [spells, Bool.and_eq_true, matchesChar_iff, ih, List.forall₂_cons]

theorem exists_standsFor_iff {w : Text} :
    (∃ f, StandsFor w f) ↔ ∃ p ∈ suffixes, spells p.1 w = true := by
  constructor
  · rintro ⟨f, s, mem, spelled⟩
    exact ⟨(s, f), mem, spells_iff.mpr spelled⟩
  · rintro ⟨⟨s, f⟩, mem, spelled⟩
    exact ⟨f, s, mem, spells_iff.mp spelled⟩

/-! ## Looking a suffix up -/

section

variable {w : Text} {f : Form} {forms : PronounSet}

/-- Without variants, letters in any case become themselves in lower case. -/
theorem lower_of_varies {u v : Text}
    (letters : ∀ l ∈ u, Text.lowerOf l = [l] ∧ Text.lowerOf l.toAsciiUpper = [l])
    (pairs : List.Forall₂ Varies u v) (bare : ∀ c ∈ v, c ∉ variants) : Text.lower v = u := by
  induction pairs with
  | nil => rfl
  | @cons l c u v varies _ ih =>
    have head : Text.lowerOf c = [l] := by
      have own := letters l (by simp)
      have here : c ∉ variants := bare c (by simp)
      cases varies with
      | small => exact own.1
      | capital => exact own.2
      | dotted => exact absurd (by decide) here
      | dotless => exact absurd (by decide) here
      | long => exact absurd (by decide) here
    have tail := ih (fun d hd => letters d (by simp [hd])) fun d hd => bare d (by simp [hd])
    show Text.lowerOf c ++ Text.lower v = l :: u
    rw [head, tail]
    rfl

theorem lookup_of_plain (h : StandsFor w f) (plain : ¬HasVariant w) :
    suffixes.lookup (Text.lower w) = some f := by
  have letters : ∀ p ∈ suffixes, ∀ l ∈ p.1,
      Text.lowerOf l = [l] ∧ Text.lowerOf l.toAsciiUpper = [l] := by decide +kernel
  have rows : ∀ p ∈ suffixes, suffixes.lookup p.1 = some p.2 := by decide
  obtain ⟨s, mem, spelled⟩ := h
  rw [lower_of_varies (letters _ mem) spelled fun c hc variant => plain ⟨c, hc, variant⟩]
  exact rows _ mem

/-- In lower case a variant leaves a character that no suffix has. -/
theorem lookup_of_variant (h : HasVariant w) : suffixes.lookup (Text.lower w) = none := by
  have strange : ∀ c ∈ variants, ∃ d ∈ Text.lowerOf c, ∀ p ∈ suffixes, d ∉ p.1 := by
    decide +kernel
  obtain ⟨c, hc, variant⟩ := h
  obtain ⟨d, hd, nowhere⟩ := strange c variant
  refine List.lookup_eq_none_iff.mpr fun p mem => ?_
  rw [bne_iff_ne]
  intro same
  exact nowhere p mem (same ▸ List.mem_flatMap.mpr ⟨c, hc, hd⟩)

/-- A pronoun in the letter case in which a word begins. -/
def inCase (w pronoun : Text) : Text :=
  if w.head?.any CodePoint.isAsciiUpper then capitalised pronoun else pronoun

/-- The pronoun for a word that a placeholder is spelled with, or nothing. -/
def pronounFor (forms : PronounSet) (w : Text) : Text :=
  ((suffixes.lookup (Text.lower w)).map fun f => inCase w (forms.form f)).getD []

theorem pronounFor_of_plain (h : StandsFor w f) (plain : ¬HasVariant w) :
    pronounFor forms w = inCase w (forms.form f) := by
  rw [pronounFor, lookup_of_plain h plain]
  rfl

theorem replaced_of_plain (h : StandsFor w f) (plain : ¬HasVariant w) :
    (Piece.placeholder w).replaced forms = .ok (pronounFor forms w) := by
  rw [Piece.replaced, pronounFor_of_plain h plain, lookup_of_plain h plain]
  rfl

theorem replaced_of_variant (h : HasVariant w) :
    (Piece.placeholder w).replaced forms = .error ⟨Text.lower w⟩ := by
  rw [Piece.replaced, lookup_of_variant h]

end

/-! ## Where the placeholders are -/

/-- A placeholder at a position: the mark stands there, and the word behind it stands for a form. -/
structure At (t : Text) (i : Nat) (w : Text) (f : Form) : Prop where
  mark : (t.drop i).take 2 = PronounSet.placeholderMark
  word : Text.word (t.drop (i + 2)) = w
  form : StandsFor w f

theorem at_drop {t w : Text} {f : Form} (n i : Nat) :
    At (t.drop n) i w f ↔ At t (n + i) w f := by
  have place (j : Nat) : (t.drop n).drop j = t.drop (n + j) := List.drop_drop
  constructor
  · rintro ⟨mark, word, form⟩
    exact ⟨place i ▸ mark, place (i + 2) ▸ word, form⟩
  · rintro ⟨mark, word, form⟩
    exact ⟨(place i).symm ▸ mark, (place (i + 2)).symm ▸ word, form⟩

/-- The word behind the mark, if there is a placeholder at a position. -/
def wordAt? (t : Text) (i : Nat) : Option Text :=
  (Text.after? PronounSet.placeholderMark (t.drop i)).bind suffix?

section

variable {t w : Text}

theorem wordAt?_eq_some_iff {i : Nat} : wordAt? t i = some w ↔ ∃ f, At t i w f := by
  have prefixed : Text.startsWith (t.drop i) PronounSet.placeholderMark = true ↔
      (t.drop i).take 2 = PronounSet.placeholderMark := by
    rw [Text.startsWith, List.isPrefixOf_iff_prefix, List.prefix_iff_eq_take, eq_comm]
    rfl
  have behind : (t.drop i).drop PronounSet.placeholderMark.length = t.drop (i + 2) := List.drop_drop
  rw [wordAt?, Option.bind_eq_some_iff]
  constructor
  · rintro ⟨rest, marked, read⟩
    rw [Text.after?, Option.ite_none_right_eq_some, behind] at marked
    obtain ⟨mark, rfl⟩ := marked.imp_right Option.some.inj
    obtain ⟨rfl, spelled⟩ := suffix?_eq_some_iff.mp read
    obtain ⟨f, form⟩ := exists_standsFor_iff.mpr spelled
    exact ⟨f, prefixed.mp mark, rfl, form⟩
  · rintro ⟨f, mark, word, form⟩
    have read := suffix?_eq_some_iff.mpr ⟨word.symm, exists_standsFor_iff.mp ⟨f, form⟩⟩
    refine ⟨t.drop (i + 2), ?_, read⟩
    rw [Text.after?, if_pos (prefixed.mpr mark), behind]

theorem length_pos_of_standsFor {f : Form} (h : StandsFor w f) : 0 < w.length := by
  have filled : ∀ p ∈ suffixes, 0 < p.1.length := by decide
  obtain ⟨s, mem, spelled⟩ := h
  exact spelled.length_eq ▸ filled _ mem

/-- A placeholder at the front is written out there. -/
theorem exists_eq_written (h : wordAt? t 0 = some w) :
    ∃ rest, t = PronounSet.placeholderMark ++ (w ++ rest) ∧ rest.beginsWord = false := by
  obtain ⟨f, mark, rfl, _⟩ := wordAt?_eq_some_iff.mp h
  obtain ⟨rest, he, ends⟩ := Text.exists_eq_word_append (t.drop 2)
  refine ⟨rest, ?_, ends⟩
  rw [← mark, Nat.zero_add, ← he]
  exact (List.take_append_drop 2 t).symm

theorem pieces_of_wordAt? (h : wordAt? t 0 = some w) :
    pieces t = .placeholder w :: pieces (t.drop (w.length + 2)) := by
  obtain ⟨f, _, _, form⟩ := wordAt?_eq_some_iff.mp h
  obtain ⟨rest, rfl, ends⟩ := exists_eq_written h
  rw [pieces_placeholder (exists_standsFor_iff.mp ⟨f, form⟩) ends]
  congr 2
  show rest = (w ++ rest).drop w.length
  rw [List.drop_left]

/-- Inside a placeholder, behind the mark, there are only word characters. -/
theorem not_tick_inside {rest : Text} {f : Form} (form : StandsFor w f) {j : Nat} (low : 2 ≤ j)
    (high : j < w.length + 2) :
    (PronounSet.placeholderMark ++ (w ++ rest))[j]? ≠ some tick := by
  intro marked
  obtain ⟨j, rfl⟩ := Nat.exists_eq_add_of_le' low
  have inside : w[j]? = some tick := by
    have : (w ++ rest)[j]? = some tick := marked
    rwa [List.getElem?_append_left (by omega)] at this
  obtain ⟨p, mem, spelled⟩ := exists_standsFor_iff.mp ⟨f, form⟩
  have word := isWord_of_spells mem spelled tick (List.mem_of_getElem? inside)
  revert word
  decide

theorem ticks_of_wordAt? {i : Nat} (h : wordAt? t i = some w) :
    t[i]? = some tick ∧ t[i + 1]? = some tick := by
  obtain ⟨f, mark, _⟩ := wordAt?_eq_some_iff.mp h
  have at_ (j : Nat) (hj : j < 2) : t[i + j]? = PronounSet.placeholderMark[j]? := by
    rw [← mark, List.getElem?_take_of_lt hj, List.getElem?_drop]
  exact ⟨at_ 0 (by decide), at_ 1 (by decide)⟩

end

/-- The reader of placeholders. -/
def scan : Scan Text where
  at? := wordAt?
  length w := w.length + 2
  pos _ := Nat.succ_pos _
  nil i := by
    rw [wordAt?, List.drop_nil]
    rfl
  tail _ _ _ := rfl
  fits t w h := by
    obtain ⟨rest, rfl, _⟩ := exists_eq_written h
    show w.length + 2 ≤ (w ++ rest).length + 2
    rw [List.length_append]
    omega
  inside t w i h pos within := by
    obtain ⟨f, _, _, form⟩ := wordAt?_eq_some_iff.mp h
    obtain ⟨rest, rfl, _⟩ := exists_eq_written h
    have length := length_pos_of_standsFor form
    by_contra some
    obtain ⟨v, hv⟩ := Option.ne_none_iff_exists'.mp some
    obtain ⟨first, second⟩ := ticks_of_wordAt? hv
    rcases Nat.lt_or_ge i 2 with front | behind
    · exact not_tick_inside form (by omega) (by omega) second
    · exact not_tick_inside form behind within first

@[simp] theorem scan_length (w : Text) : scan.length w = w.length + 2 := rfl

theorem notes_found : scan.Notes fun offset t => found offset (pieces t) where
  nil _ := rfl
  literal offset c rest none := by
    rw [pieces_literal none]
    rfl
  found offset t w here := by
    have length : PronounSet.placeholderMark.length + w.length = w.length + 2 := Nat.add_comm _ _
    rw [pieces_of_wordAt? here, found, Piece.length, length]
    rfl

/-! ## What putting the pronouns in gives -/

/-- Up to a position no placeholder is spelled with a variant. -/
def PlainUpTo (t : Text) (n : Nat) : Prop := ∀ i < n, ∀ w f, At t i w f → ¬HasVariant w

/-- The first placeholder that is spelled with a variant. -/
structure Misspelt (t : Text) (i : Nat) (w : Text) : Prop where
  here : ∃ f, At t i w f
  variant : HasVariant w
  first : PlainUpTo t i

section

variable {t w : Text} {forms : PronounSet}

theorem PlainUpTo.add {n i : Nat} (front : PlainUpTo t n) (back : PlainUpTo (t.drop n) i) :
    PlainUpTo t (n + i) := by
  intro j hj v f found
  rcases Nat.lt_or_ge j n with before | behind
  · exact front j before v f found
  · obtain ⟨j, rfl⟩ := Nat.exists_eq_add_of_le behind
    exact back j (by omega) v f ((at_drop n j).mpr found)

theorem PlainUpTo.all {n : Nat} (front : PlainUpTo t n)
    (back : ∀ i w f, At (t.drop n) i w f → ¬HasVariant w) :
    ∀ i w f, At t i w f → ¬HasVariant w := fun i =>
  front.add (fun j _ => back j) i (Nat.lt_add_left n (Nat.lt_succ_self i))

theorem Misspelt.not_plain {i : Nat} (h : Misspelt t i w) :
    ¬∀ i w f, At t i w f → ¬HasVariant w := by
  intro plain
  obtain ⟨f, found⟩ := h.here
  exact plain i w f found h.variant

/-- There is only one first placeholder of this kind. -/
theorem Misspelt.unique {v : Text} {i j : Nat} (h : Misspelt t i w) (h' : Misspelt t j v) :
    w = v := by
  obtain ⟨f, found⟩ := h.here
  obtain ⟨g, found'⟩ := h'.here
  rcases Nat.lt_trichotomy i j with before | rfl | behind
  · exact absurd h.variant (h'.first i before w f found)
  · exact found.word.symm.trans found'.word
  · exact absurd h'.variant (h.first j behind v g found')

theorem Misspelt.of_drop {n i : Nat} (front : PlainUpTo t n) (h : Misspelt (t.drop n) i w) :
    Misspelt t (n + i) w where
  here := h.here.imp fun _ => (at_drop n i).mp
  variant := h.variant
  first := front.add h.first

/-- The edits, where no placeholder is spelled with a variant. -/
theorem edit?_eq_some_iff (plain : ∀ i w f, At t i w f → ¬HasVariant w) (i : Nat) (e : Edit) :
    scan.edit? (pronounFor forms) t i = some e ↔
      ∃ w f, At t i w f ∧ e = ⟨w.length + 2, inCase w (forms.form f)⟩ := by
  rw [Scan.edit?, Option.map_eq_some_iff]
  constructor
  · rintro ⟨w, here, rfl⟩
    obtain ⟨f, found⟩ := wordAt?_eq_some_iff.mp here
    refine ⟨w, f, found, ?_⟩
    rw [pronounFor_of_plain found.form (plain i w f found), scan_length]
  · rintro ⟨w, f, found, rfl⟩
    refine ⟨w, wordAt?_eq_some_iff.mpr ⟨f, found⟩, ?_⟩
    rw [pronounFor_of_plain found.form (plain i w f found), scan_length]

/-- **What putting the pronouns in can do**: it fails at the first placeholder that is spelled with
a variant, or there is none and all placeholders give way at once. -/
theorem customize_cases (t : Text) (forms : PronounSet) :
    (∃ i w, Misspelt t i w ∧ customize t forms = .error ⟨Text.lower w⟩) ∨
      (∀ i w f, At t i w f → ¬HasVariant w) ∧
        customize t forms = .ok (t.edited (scan.edit? (pronounFor forms) t)) := by
  induction t using scan.induction with
  | nil =>
    refine .inr ⟨fun i w f found => ?_, rfl⟩
    exact nomatch (scan.nil i).symm.trans (wordAt?_eq_some_iff.mpr ⟨f, found⟩)
  | literal c rest none ih =>
    have front : PlainUpTo (c :: rest) 1 := by
      intro i hi w f found
      obtain rfl := Nat.lt_one_iff.mp hi
      exact nomatch none.symm.trans (wordAt?_eq_some_iff.mpr ⟨f, found⟩)
    rw [customize_of_pieces (pieces_literal none)]
    rcases ih with ⟨i, w, misspelt, fails⟩ | ⟨plain, gives⟩
    · refine .inl ⟨1 + i, w, .of_drop front misspelt, ?_⟩
      rw [fails]
      rfl
    · refine .inr ⟨front.all plain, ?_⟩
      rw [gives, scan.edited_literal _ none]
      rfl
  | found t w here ih =>
    obtain ⟨f, found⟩ := wordAt?_eq_some_iff.mp here
    rw [customize_of_pieces (pieces_of_wordAt? here)]
    by_cases variant : HasVariant w
    · refine .inl ⟨0, w, ⟨⟨f, found⟩, variant, fun i hi => absurd hi (Nat.not_lt_zero i)⟩, ?_⟩
      rw [replaced_of_variant variant]
      rfl
    · have front : PlainUpTo t (w.length + 2) := by
        intro i within v g other
        obtain ⟨_, rfl⟩ := scan.eq_of_lt here within (wordAt?_eq_some_iff.mpr ⟨g, other⟩)
        exact variant
      rw [replaced_of_plain found.form variant]
      rw [scan_length] at ih
      rcases ih with ⟨i, v, misspelt, fails⟩ | ⟨plain, gives⟩
      · refine .inl ⟨w.length + 2 + i, v, .of_drop front misspelt, ?_⟩
        rw [fails]
        rfl
      · refine .inr ⟨front.all plain, ?_⟩
        rw [gives, scan.edited_found _ here, scan_length]
        rfl

theorem customize_eq_error_iff {u : Unknown} :
    customize t forms = .error u ↔ ∃ i w, Misspelt t i w ∧ u = ⟨Text.lower w⟩ := by
  rcases customize_cases t forms with ⟨i, w, misspelt, fails⟩ | ⟨plain, gives⟩
  · rw [fails]
    constructor
    · intro same
      exact ⟨i, w, misspelt, (Except.error.inj same).symm⟩
    · rintro ⟨j, v, misspelt', rfl⟩
      rw [misspelt.unique misspelt']
  · rw [gives]
    constructor
    · intro failed
      cases failed
    · rintro ⟨i, w, misspelt, _⟩
      exact absurd plain misspelt.not_plain

theorem exists_customize_eq_error_iff :
    (∃ u, customize t forms = .error u) ↔ ∃ i w f, At t i w f ∧ HasVariant w := by
  constructor
  · rintro ⟨u, fails⟩
    obtain ⟨i, w, misspelt, _⟩ := customize_eq_error_iff.mp fails
    obtain ⟨f, found⟩ := misspelt.here
    exact ⟨i, w, f, found, misspelt.variant⟩
  · rintro ⟨i, w, f, found, variant⟩
    rcases customize_cases t forms with ⟨_, _, _, fails⟩ | ⟨plain, _⟩
    · exact ⟨_, fails⟩
    · exact absurd variant (plain i w f found)

theorem customize_eq_ok_iff {out : Text} :
    customize t forms = .ok out ↔
      (∀ i w f, At t i w f → ¬HasVariant w) ∧
        out = t.edited (scan.edit? (pronounFor forms) t) := by
  rcases customize_cases t forms with ⟨i, w, misspelt, fails⟩ | ⟨plain, gives⟩
  · rw [fails]
    constructor
    · intro given
      cases given
    · rintro ⟨plain, _⟩
      exact absurd plain misspelt.not_plain
  · rw [gives]
    constructor
    · intro same
      exact ⟨plain, (Except.ok.inj same).symm⟩
    · rintro ⟨_, rfl⟩
      rfl

end

/-- **Placeholders give way to pronouns.** The placeholders found are exactly the places where the
mark stands before a word that stands for a form, one behind the other and apart. If one of them is
spelled with a variant, putting the pronouns in fails with the first of these in lower case. If none
is, all edits are made at once: each placeholder gives way to the pronoun for its form, which gets a
capital if the word begins with one. -/
theorem customize_fills_placeholders (t : Text) (forms : PronounSet) :
    (∀ i j w, (i, j, w) ∈ occurrences t ↔ (∃ f, At t i w f) ∧ j = i + (w.length + 2)) ∧
    (occurrences t).Pairwise (fun x y => x.2.1 ≤ y.1) ∧
    ((∃ u, customize t forms = .error u) ↔ ∃ i w f, At t i w f ∧ HasVariant w) ∧
    (∀ u, customize t forms = .error u ↔ ∃ i w, Misspelt t i w ∧ u = ⟨Text.lower w⟩) ∧
    ∀ out, customize t forms = .ok out ↔
      (∀ i w f, At t i w f → ¬HasVariant w) ∧
      ∃ edit? : Nat → Option Edit,
        (∀ i e, edit? i = some e ↔
          ∃ w f, At t i w f ∧ e = ⟨w.length + 2, inCase w (forms.form f)⟩) ∧
        out = t.edited edit? := by
  refine ⟨fun i j w => ?_, notes_found.pairwise t 0, exists_customize_eq_error_iff,
    fun u => customize_eq_error_iff, fun out => customize_eq_ok_iff.trans ?_⟩
  · rw [← wordAt?_eq_some_iff]
    refine notes_found.mem_iff.trans ⟨?_, fun ⟨found, ends⟩ => ⟨i, by omega, ends, found⟩⟩
    rintro ⟨n, same, ends, found⟩
    obtain rfl : i = n := by omega
    exact ⟨found, ends⟩
  · constructor
    · rintro ⟨plain, rfl⟩
      exact ⟨plain, _, edit?_eq_some_iff plain, rfl⟩
    · rintro ⟨plain, edit?, edits, rfl⟩
      have same : edit? = scan.edit? (pronounFor forms) t := funext fun i => Option.ext fun e =>
        (edits i e).trans (edit?_eq_some_iff plain i e).symm
      rw [same]
      exact ⟨plain, rfl⟩

/-- Three ticks, a word that only begins with a suffix, and a pronoun that looks like a
placeholder. -/
example :
    customize "\x60\x60\x60Im \x60\x60item \x60\x60E"
        { PronounSet.male with subject := "\x60\x60is" } =
      .ok "\x60Him \x60\x60item \x60\x60is" := by decide +kernel

end Narration.Placeholder
