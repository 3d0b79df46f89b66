import Mathlib.Data.List.TakeWhile
import Narration.Proofs.Scans
import Narration.Template.Phrasing

/-! # Tokens are whole words

The reader of templates tries the names of tokens one after another and walks on behind what it has
read. Here its answer is compared with a description that does neither: a token stands where the
marker is and the word behind it, as far as it goes, is the name of the token. The reader finds
these places and no others, and a pass makes the edits at all of them at once. -/
namespace Narration

namespace Text

/-- The word at the front of a text, as far as it goes. -/
def word (t : Text) : Text := t.takeWhile isWord

@[simp] theorem word_nil : word [] = [] := rfl

theorem word_eq_nil {t : Text} (h : beginsWord t = false) : word t = [] := by
  cases t with
  | nil => rfl
  | cons c rest =>
    have hc : isWord c = false := h
    simp [word, hc]

theorem word_append {w : Text} (hw : ∀ c ∈ w, isWord c = true) (t : Text) :
    word (w ++ t) = w ++ word t := List.takeWhile_append_of_pos hw

theorem isWord_of_mem_word {c : CodePoint} {t : Text} (h : c ∈ word t) : isWord c = true :=
  List.mem_takeWhile_imp h

/-- What a word leaves over does not continue it. -/
theorem exists_eq_word_append (t : Text) :
    ∃ rest, t = word t ++ rest ∧ beginsWord rest = false := by
  refine ⟨t.dropWhile isWord, (List.takeWhile_append_dropWhile).symm, ?_⟩
  cases h : t.dropWhile isWord with
  | nil => rfl
  | cons c rest =>
    have := List.head?_dropWhile_not isWord t
    rw [h] at this
    exact this

/-- A text begins with a word that nothing continues exactly if this is its word. -/
theorem begins_and_ends_iff {w : Text} (hw : ∀ c ∈ w, isWord c = true) (t : Text) :
    (t.startsWith w && !beginsWord (t.drop w.length)) = true ↔ word t = w := by
  rw [Bool.and_eq_true, Bool.not_eq_true', startsWith, List.isPrefixOf_iff_prefix]
  constructor
  · rintro ⟨⟨rest, rfl⟩, h⟩
    rw [List.drop_left] at h
    rw [word_append hw, word_eq_nil h, List.append_nil]
  · rintro rfl
    obtain ⟨rest, he, h⟩ := exists_eq_word_append t
    refine ⟨⟨rest, he.symm⟩, ?_⟩
    have hd : t.drop (word t).length = rest :=
      (congrArg (List.drop (word t).length) he).trans List.drop_left
    rw [hd]
    exact h

end Text

namespace Token

theorem isWord_of_mem_text {k : Token} {c : CodePoint} (h : c ∈ k.text) : Text.isWord c = true := by
  have : ∀ c ∈ k.text, Text.isWord c = true := by
    rcases k with n | f
    · cases n <;> decide
    · cases f <;> decide
  exact this c h

instance {P : Token → Prop} [DecidablePred P] : Decidable (∀ k, P k) :=
  decidable_of_iff (∀ k ∈ longestFirst, P k)
    ⟨fun h k => h k (mem_longestFirst k), fun h k _ => h k⟩

/-- The token whose name a word is. -/
def ofName? (w : Text) : Option Token := all.find? fun k => k.text == w

theorem ofName?_text (k : Token) : ofName? k.text = some k := by
  rcases k with n | f
  · cases n <;> decide
  · cases f <;> decide

theorem text_injective : Function.Injective text := by
  intro k l h
  have := ofName?_text k
  rw [h, ofName?_text] at this
  exact (Option.some.inj this).symm

theorem ofName?_eq_some_iff {w : Text} {k : Token} : ofName? w = some k ↔ w = k.text := by
  constructor
  · intro h
    have hk := List.find?_some h
    exact (beq_iff_eq.mp hk).symm
  · rintro rfl
    exact ofName?_text k

theorem begins_and_ends_iff (k : Token) (t : Text) :
    (t.startsWith k.text && !Text.beginsWord (t.drop k.text.length)) = true ↔ t.word = k.text :=
  Text.begins_and_ends_iff (fun _ hc => isWord_of_mem_text hc) t

/-- The longest name at a place is the word there, so the order of the names does not matter. -/
theorem at?_eq (t : Text) : at? t = ofName? t.word := by
  refine Option.ext fun k => ?_
  rw [ofName?_eq_some_iff]
  constructor
  · intro h
    have hk := List.find?_some h
    exact (begins_and_ends_iff k t).mp hk
  · intro h
    cases hf : at? t with
    | none =>
      exact absurd ((begins_and_ends_iff k t).mpr h)
        (List.find?_eq_none.mp hf k (mem_longestFirst k))
    | some l =>
      have hl := List.find?_some hf
      rw [text_injective (((begins_and_ends_iff l t).mp hl).symm.trans h)]

end Token

namespace Template

/-- The token at a position: the marker stands there, and the word behind it is a name. -/
def tokenAt? (m : Marker) (t : Text) (i : Nat) : Option Token :=
  if t[i]? = some m.char then Token.ofName? (Text.word (t.drop (i + 1))) else none

section

variable {m : Marker} {t : Text} {k : Token}

theorem tokenAt?_eq_some_iff {i : Nat} :
    tokenAt? m t i = some k ↔ t[i]? = some m.char ∧ Text.word (t.drop (i + 1)) = k.text := by
  unfold tokenAt?
  split <;> simp [Token.ofName?_eq_some_iff, *]

theorem tokenAt?_eq_none {i : Nat} (h : t[i]? ≠ some m.char) : tokenAt? m t i = none := if_neg h

theorem lt_length_of_tokenAt? {i : Nat} (h : tokenAt? m t i = some k) : i < t.length :=
  (List.getElem?_eq_some_iff.mp (tokenAt?_eq_some_iff.mp h).1).1

@[simp] theorem tokenAt?_nil (i : Nat) : tokenAt? m [] i = none := tokenAt?_eq_none (by simp)

@[simp] theorem tokenAt?_cons_succ (c : CodePoint) (i : Nat) :
    tokenAt? m (c :: t) (i + 1) = tokenAt? m t i := rfl

theorem tokenAt?_cons_zero (c : CodePoint) :
    tokenAt? m (c :: t) 0 = if c = m.char then Token.ofName? t.word else none := by
  simp [tokenAt?]

theorem tokenAt?_append (s : Text) (i : Nat) :
    tokenAt? m (s ++ t) (s.length + i) = tokenAt? m t i := by
  induction s with
  | nil => simp
  | cons c s ih => simpa [Nat.succ_add] using ih

/-- A token written out, with nothing behind it that continues the name. -/
theorem tokenAt?_written (h : t.beginsWord = false) :
    tokenAt? m (m.char :: (k.text ++ t)) 0 = some k := by
  rw [tokenAt?_eq_some_iff]
  refine ⟨rfl, ?_⟩
  have hw := Text.word_append (fun c hc => Token.isWord_of_mem_text (k := k) hc) t
  simpa [Text.word_eq_nil h] using hw

/-- No token begins inside another. -/
theorem tokenAt?_inside {i : Nat} (h : i < k.text.length) :
    tokenAt? m (k.text ++ t) i = none := by
  refine tokenAt?_eq_none fun he => ?_
  rw [List.getElem?_append_left h] at he
  have := Token.isWord_of_mem_text (List.mem_of_getElem? he)
  rw [m.notWord] at this
  cases this

/-- A token at the front is written out there. -/
theorem exists_eq_written (h : tokenAt? m t 0 = some k) :
    ∃ rest : Text, t = m.char :: (k.text ++ rest) ∧ rest.beginsWord = false := by
  obtain ⟨marker, name⟩ := tokenAt?_eq_some_iff.mp h
  cases t with
  | nil => cases marker
  | cons c t =>
    obtain ⟨rest, he, ends⟩ := Text.exists_eq_word_append t
    refine ⟨rest, ?_, ends⟩
    rw [← name, ← Option.some.inj marker]
    exact congrArg (c :: ·) he

theorem marker_not_mem_name (m : Marker) (k : Token) : m.char ∉ k.text := by
  intro h
  have := Token.isWord_of_mem_text h
  rw [m.notWord] at this
  cases this

theorem marker_not_mem_word (m : Marker) (t : Text) : m.char ∉ t.word := by
  intro h
  have := Text.isWord_of_mem_word h
  rw [m.notWord] at this
  cases this

end

/-! ## Reading a template from the front -/

theorem piecesAfter_eq_pieces_drop (m : Marker) (n : Nat) (t : Text) :
    piecesAfter m n t = pieces m (t.drop n) := by
  induction t generalizing n with
  | nil => simp [pieces, piecesAfter]
  | cons c rest ih =>
    cases n with
    | zero => rfl
    | succ n => exact ih n

section

variable {m : Marker} {t : Text}

@[simp] theorem pieces_nil : pieces m [] = [] := rfl

theorem pieces_cons (c : CodePoint) :
    pieces m (c :: t) = match tokenAt? m (c :: t) 0 with
      | some k => .token k :: pieces m (t.drop k.text.length)
      | none => .literal c :: pieces m t := by
  unfold pieces
  rw [piecesAfter, Token.at?_eq, ← tokenAt?_cons_zero]
  cases tokenAt? m (c :: t) 0 with
  | none => rfl
  | some k =>
    simp only [piecesAfter_eq_pieces_drop]
    rfl

theorem pieces_literal {c : CodePoint} (h : tokenAt? m (c :: t) 0 = none) :
    pieces m (c :: t) = .literal c :: pieces m t := by
  rw [pieces_cons, h]

theorem pieces_token {k : Token} (h : t.beginsWord = false) :
    pieces m (m.char :: (k.text ++ t)) = .token k :: pieces m t := by
  rw [pieces_cons, tokenAt?_written h]
  simp

end

/-- Reading a template for some markers: at its end, at a character that begins no token, or at a
token. -/
@[elab_as_elim]
theorem scan_induction (markers : Marker → Prop) {motive : Text → Prop} (nil : motive [])
    (literal : ∀ c rest, (∀ m, markers m → tokenAt? m (c :: rest) 0 = none) → motive rest →
      motive (c :: rest))
    (token : ∀ (m : Marker) (k : Token) (rest : Text), markers m → rest.beginsWord = false →
      motive rest → motive (m.char :: (k.text ++ rest))) (t : Text) : motive t := by
  induction h : t.length using Nat.strongRecOn generalizing t with
  | ind n ih =>
    subst h
    cases t with
    | nil => exact nil
    | cons c rest =>
      by_cases hm : ∃ m, markers m ∧ tokenAt? m (c :: rest) 0 ≠ none
      · obtain ⟨m, hm, hk⟩ := hm
        obtain ⟨k, hk⟩ := Option.ne_none_iff_exists'.mp hk
        obtain ⟨behind, he, hr⟩ := exists_eq_written hk
        rw [he] at ih ⊢
        refine token m k behind hm hr (ih _ ?_ behind rfl)
        simp only [List.length_cons, List.length_append]
        omega
      · refine literal c rest (fun m h => ?_) (ih _ (by simp) rest rfl)
        by_contra hk
        exact hm ⟨m, h, hk⟩

/-! ## Where the tokens are -/

section

variable {m : Marker}

/-- The reader of templates for a marker. -/
def scan (m : Marker) : Scan Token where
  at? := tokenAt? m
  length k := k.text.length + 1
  pos _ := Nat.succ_pos _
  nil := tokenAt?_nil
  tail c _ i := tokenAt?_cons_succ c i
  fits t k h := by
    obtain ⟨rest, rfl, _⟩ := exists_eq_written h
    simp
  inside t k i h pos within := by
    obtain ⟨rest, rfl, _⟩ := exists_eq_written h
    obtain ⟨i, rfl⟩ := Nat.exists_eq_succ_of_ne_zero (Nat.ne_of_gt pos)
    exact tokenAt?_inside (Nat.lt_of_succ_lt_succ within)

theorem notes_found : (scan m).Notes fun offset t => found offset (pieces m t) where
  nil _ := rfl
  literal offset c rest none := by
    rw [pieces_literal none]
    rfl
  found offset t k here := by
    obtain ⟨rest, rfl, ends⟩ := exists_eq_written here
    rw [pieces_token ends]
    simp [found, Piece.length, scan]

/-- The offset is where the text begins, so positions count from there. -/
theorem mem_found {t : Text} {offset i j : Nat} {k : Token} :
    (i, j, k) ∈ found offset (pieces m t) ↔
      ∃ n, i = offset + n ∧ j = i + (k.text.length + 1) ∧ tokenAt? m t n = some k :=
  notes_found.mem_iff

theorem pairwise_found (t : Text) (offset : Nat) :
    (found offset (pieces m t)).Pairwise fun x y => x.2.1 ≤ y.1 :=
  notes_found.pairwise t offset

end

/-! ## What a pass gives -/

section

variable {m : Marker} {fill : Token → Text}

@[simp] theorem substitute_nil : substitute m fill [] = [] := rfl

theorem substitute_literal {c : CodePoint} {t : Text} (h : tokenAt? m (c :: t) 0 = none) :
    substitute m fill (c :: t) = c :: substitute m fill t := by
  unfold substitute
  rw [pieces_literal h]
  rfl

theorem substitute_token {k : Token} {t : Text} (h : t.beginsWord = false) :
    substitute m fill (m.char :: (k.text ++ t)) = fill k ++ substitute m fill t := by
  unfold substitute
  rw [pieces_token h]
  rfl

/-- What a pass does not look for stays as it is. -/
theorem substitute_append {s : Text} (h : m.char ∉ s) (t : Text) :
    substitute m fill (s ++ t) = s ++ substitute m fill t := by
  induction s with
  | nil => rfl
  | cons c s ih =>
    obtain ⟨hc, hs⟩ : m.char ≠ c ∧ m.char ∉ s := by simpa using h
    have none : tokenAt? m (c :: (s ++ t)) 0 = none := tokenAt?_eq_none (by simpa using Ne.symm hc)
    rw [List.cons_append, substitute_literal none, ih hs, List.cons_append]

/-- A pass does not change whether a text goes on with a word, unless a token is what comes next. -/
theorem beginsWord_substitute {t : Text} (h : tokenAt? m t 0 = none) :
    (substitute m fill t).beginsWord = t.beginsWord := by
  cases t with
  | nil => rfl
  | cons c rest => rw [substitute_literal h]; rfl

/-- The edit of a pass at a position. -/
def edit? (m : Marker) (fill : Token → Text) (t : Text) (i : Nat) : Option Edit :=
  (tokenAt? m t i).map fun k => ⟨k.text.length + 1, fill k⟩

theorem edit?_append (s t : Text) (i : Nat) :
    edit? m fill (s ++ t) (s.length + i) = edit? m fill t i := by
  rw [edit?, edit?, tokenAt?_append]

theorem edit?_written {k : Token} {t : Text} (h : t.beginsWord = false) :
    edit? m fill (m.char :: k.text ++ t) 0 = some ⟨k.text.length + 1, fill k⟩ := by
  simp [edit?, tokenAt?_written h]

/-- No pass edits anything inside a token, be it its own or another's. -/
theorem edit?_inside {m' : Marker} {k : Token} {t : Text} {i : Nat} (pos : 0 < i)
    (h : i < (m'.char :: k.text).length) : edit? m fill (m'.char :: k.text ++ t) i = none := by
  obtain ⟨i, rfl⟩ := Nat.exists_eq_succ_of_ne_zero (Nat.ne_of_gt pos)
  have : tokenAt? m (k.text ++ t) i = none := tokenAt?_inside (by simpa using h)
  simp [edit?, this]

/-- A pass makes all its edits at once. -/
theorem substitute_eq_edited (t : Text) :
    substitute m fill t = t.edited (edit? m fill t) := by
  refine (scan m).eq_edited fill rfl (fun _ _ none => substitute_literal none) ?_ t
  intro t k here
  obtain ⟨rest, rfl, ends⟩ := exists_eq_written here
  rw [substitute_token ends]
  simp [scan]

end

end Template

/-! ## A pass for any person that can be read -/

namespace Being

/-- The table of tokens holds every token under its name. -/
theorem tokenTexts_eq (b : Being) (p : Person) :
    ∃ forms, b.tokenTexts (.person p) = .ok forms ∧
      ∀ k : Token, forms.lookup k.text = some (b.fill p k) := by
  refine ⟨b.nameTexts p ++ (PronounSet.row p b.gender).tokenForms, ?_, ?_⟩
  · cases p <;> rfl
  · rintro (n | f)
    · cases n <;> rfl
    · cases f <;> rfl

end Being

namespace Phrasing

section

variable [Host]

/-- With a good marker and a person that can be read, a pass is a substitution and reports
nothing. -/
theorem phrase_of_accepted {d : Datum} {m : Marker} {l : Label} {p : Person}
    (marker : Marker.ofDatum d = .ok m) (accepted : Person.ofLabel l = .ok p) (strict : Bool)
    (b : Being) (t : Text) :
    phrase strict d ⟨l, b⟩ t = .ok (Template.substitute m (b.fill p) t) := by
  have person : settle strict l = .ok p := by
    simp [settle, accepted]
  simp [phrase, prepare, marker, person]

/-- The tokens that are listed are those that a pass finds. -/
theorem occurrences_char (m : Marker) (t : Text) :
    occurrences (.text [m.char]) (.text t) = .ok (Template.occurrences m t) := by
  simp [occurrences, Marker.ofDatum_char]

/-- A bad marker ends a pass before anything else is looked at. -/
theorem phrase_of_bad_marker {d : Datum} {r : Refusal} (marker : Marker.ofDatum d = .error r)
    (strict : Bool) (a : Address) (t : Text) : phrase strict d a t = .fail r := by
  simp [phrase, prepare, marker]

/-- **A pass edits the tokens.** For every person that can be read, the tokens found are exactly
the places where the marker stands before a word that is a name, one behind the other and apart,
every token has its text in the table of tokens, and the pass puts these texts in the places of the
tokens at once and leaves all else as it is. -/
theorem phrase_edits_tokens {l : Label} {p : Person} (accepted : Person.ofLabel l = .ok p)
    (strict : Bool) (m : Marker) (b : Being) (t : Text) :
    ∃ (forms : List (Text × Text)) (fill : Token → Text) (found : List (Nat × Nat × Token)),
      b.tokenTexts (.person p) = .ok forms ∧
      (∀ k : Token, forms.lookup k.text = some (fill k)) ∧
      occurrences (.text [m.char]) (.text t) = .ok found ∧
      (∀ i j k, (i, j, k) ∈ found ↔
        Template.tokenAt? m t i = some k ∧ j = i + (k.text.length + 1)) ∧
      (found.Pairwise fun x y => x.2.1 ≤ y.1) ∧
      phrase strict (.text [m.char]) ⟨l, b⟩ t = .ok (t.edited fun i =>
        (Template.tokenAt? m t i).map fun k => ⟨k.text.length + 1, fill k⟩) := by
  obtain ⟨forms, table, names⟩ := b.tokenTexts_eq p
  refine ⟨forms, b.fill p, Template.occurrences m t, table, names, ?_, ?_,
    Template.pairwise_found t 0, ?_⟩
  · simp [occurrences, Marker.ofDatum_char]
  · intro i j k
    refine Template.mem_found.trans ⟨?_, ?_⟩
    · rintro ⟨n, rfl, hj, hk⟩
      rw [Nat.zero_add] at hj ⊢
      exact ⟨hk, hj⟩
    · rintro ⟨hk, hj⟩
      exact ⟨i, (Nat.zero_add i).symm, hj, hk⟩
  · rw [phrase_of_accepted (Marker.ofDatum_char m) accepted, Template.substitute_eq_edited]
    rfl

end

/-- A person in a word, a marker before another, a name that goes on and two tokens side by side. -/
theorem phrase_edits_tokens_second :
    Person.ofLabel (.datum (.text " second")) = .ok .second ∧
    ∃ (forms : List (Text × Text)) (fill : Token → Text) (found : List (Nat × Nat × Token)),
      (Being.mk "rogue" .plural none).tokenTexts (.person .second) = .ok forms ∧
      (∀ k : Token, forms.lookup k.text = some (fill k)) ∧
      occurrences (.text "@") (.text "@@myself@my @mystery") = .ok found ∧
      (∀ i j k, (i, j, k) ∈ found ↔
        Template.tokenAt? ⟨.char '@', rfl⟩ "@@myself@my @mystery" i = some k ∧
          j = i + (k.text.length + 1)) ∧
      (found.Pairwise fun x y => x.2.1 ≤ y.1) ∧
      phrase true (.text "@") ⟨.datum (.text " second"), ⟨"rogue", .plural, none⟩⟩
          "@@myself@my @mystery" =
        .ok (Text.edited (fun i =>
          (Template.tokenAt? ⟨.char '@', rfl⟩ "@@myself@my @mystery" i).map
            fun k => ⟨k.text.length + 1, fill k⟩) "@@myself@my @mystery") :=
  ⟨rfl, phrase_edits_tokens rfl true ⟨.char '@', rfl⟩ _ _⟩

end Phrasing
end Narration
