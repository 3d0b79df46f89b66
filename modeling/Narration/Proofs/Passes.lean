import Narration.Proofs.Rendering

/-! # Two passes and one

The second pass reads what the first has left, so the first could make, lengthen or destroy a token
of the second. It does none of this as long as it puts no marker of the second pass anywhere, and
has no token where the word behind such a marker ends. Then both passes are one, which makes the
edits of both at once. What the second pass puts into the text may hold any marker. -/
namespace Narration

namespace Text

/-- The last character before a position that belongs to no word. -/
def behind? (t : Text) (i : Nat) : Option CodePoint := ((t.take i).reverse.dropWhile isWord).head?

theorem behind?_append {s t : Text} {i : Nat} {c : CodePoint} (h : behind? t i = some c) :
    behind? (s ++ t) (s.length + i) = some c := by
  unfold behind? at h ⊢
  rw [List.take_length_add_append, List.reverse_append, List.dropWhile_append]
  cases hd : (t.take i).reverse.dropWhile isWord with
  | nil =>
    rw [hd] at h
    cases h
  | cons d rest =>
    rw [hd] at h
    simpa using h

/-- Behind a character that belongs to no word and a word there is this character. -/
theorem behind?_word {c : CodePoint} {w : Text} (hc : isWord c = false)
    (hw : ∀ d ∈ w, isWord d = true) (t : Text) :
    behind? (c :: w ++ t) (w.length + 1) = some c := by
  have front : (c :: w ++ t).take (w.length + 1) = c :: w := by simp
  unfold behind?
  rw [front, List.reverse_cons, List.dropWhile_append_of_pos (by simpa using hw)]
  simp [hc]

end Text

namespace Template

/-- No token of the first marker stands where the second and the word behind it end. -/
def Apart (u v : Marker) (t : Text) : Prop :=
  ∀ i k, tokenAt? u t i = some k → t.behind? i ≠ some v.char

instance (u v : Marker) (t : Text) : Decidable (Apart u v t) :=
  decidable_of_iff (∀ i < t.length, (tokenAt? u t i).isSome → t.behind? i ≠ some v.char)
    ⟨fun h i k hk => h i (lt_length_of_tokenAt? hk) (by rw [hk]; rfl),
      fun h i _ hs => (Option.isSome_iff_exists.mp hs).elim (h i)⟩

section

variable {u v : Marker} {f g : Token → Text} {t : Text}

theorem Apart.of_append {s : Text} (h : Apart u v (s ++ t)) : Apart u v t := by
  intro i k hk hb
  refine h (s.length + i) k ?_ (Text.behind?_append hb)
  rw [tokenAt?_append]
  exact hk

theorem Apart.of_cons {c : CodePoint} (h : Apart u v (c :: t)) : Apart u v t :=
  of_append (s := [c]) h

/-- Where the word behind the second marker ends, no token of the first begins. -/
theorem Apart.at_end {w : Text} (hw : ∀ d ∈ w, Text.isWord d = true)
    (h : Apart u v (v.char :: w ++ t)) : tokenAt? u t 0 = none := by
  cases hk : tokenAt? u t 0 with
  | none => rfl
  | some k =>
    refine absurd (Text.behind?_word v.notWord hw t) (h (w.length + 1) k ?_)
    have := tokenAt?_append (m := u) (t := t) (v.char :: w) 0
    rw [hk] at this
    exact this

/-- The first pass leaves the word behind a second marker as it is. -/
theorem word_substitute (h : Apart u v (v.char :: t)) :
    (substitute u f t).word = t.word := by
  obtain ⟨rest, he, hr⟩ := Text.exists_eq_word_append t
  have hw : ∀ d ∈ t.word, Text.isWord d = true := fun d hd => Text.isWord_of_mem_word hd
  have none : tokenAt? u rest 0 = none := by
    rw [he] at h
    exact Apart.at_end hw h
  have out : substitute u f t = t.word ++ substitute u f rest := by
    conv_lhs => rw [he]
    exact substitute_append (marker_not_mem_word u t) rest
  have ends : (substitute u f rest).beginsWord = false := by
    rw [beginsWord_substitute none]
    exact hr
  rw [out, Text.word_append hw, Text.word_eq_nil ends, List.append_nil]

/-- So the first pass makes no token of the second with a character that it leaves. -/
theorem tokenAt?_cons_substitute {c : CodePoint} (h : Apart u v (c :: t)) :
    tokenAt? v (c :: substitute u f t) 0 = tokenAt? v (c :: t) 0 := by
  rw [tokenAt?_cons_zero, tokenAt?_cons_zero]
  by_cases hc : c = v.char
  · subst hc
    rw [word_substitute h]
  · rw [if_neg hc, if_neg hc]

theorem marker_not_mem_token (ne : u.char ≠ v.char) (k : Token) : u.char ∉ v.char :: k.text := by
  simpa using ⟨ne, marker_not_mem_name u k⟩

/-- The first pass leaves a token of the second, and its end. -/
theorem substitute_other_token {k : Token} (ne : u.char ≠ v.char) (ends : t.beginsWord = false)
    (apart : Apart u v (v.char :: (k.text ++ t))) :
    substitute u f (v.char :: (k.text ++ t)) = v.char :: (k.text ++ substitute u f t) ∧
      (substitute u f t).beginsWord = false := by
  have none : tokenAt? u t 0 = none :=
    Apart.at_end (fun d hd => Token.isWord_of_mem_text hd) apart
  exact ⟨substitute_append (marker_not_mem_token ne k) t, by rw [beginsWord_substitute none, ends]⟩

/-- One pass for two markers at once. -/
def substituteBoth (u : Marker) (f : Token → Text) (v : Marker) (g : Token → Text) (t : Text) :
    Text :=
  t.edited fun i => (edit? u f t i).or (edit? v g t i)

theorem substituteBoth_literal {c : CodePoint} (hu : tokenAt? u (c :: t) 0 = none)
    (hv : tokenAt? v (c :: t) 0 = none) :
    substituteBoth u f v g (c :: t) = c :: substituteBoth u f v g t :=
  Text.edited_cons (by simp [edit?, hu, hv]) t

/-- A token of which only the text to put in is known. -/
theorem edited_token {m : Marker} {k : Token} {out : Text}
    (h : (edit? u f (m.char :: k.text ++ t) 0).or (edit? v g (m.char :: k.text ++ t) 0)
      = some ⟨k.text.length + 1, out⟩) :
    substituteBoth u f v g (m.char :: (k.text ++ t)) = out ++ substituteBoth u f v g t := by
  unfold substituteBoth
  rw [← List.cons_append, Text.edited_edit h rfl (List.cons_ne_nil _ _) fun i pos hi => by
    rw [edit?_inside pos hi, edit?_inside pos hi]; rfl]
  simp only [edit?_append]

theorem substituteBoth_left {k : Token} (h : t.beginsWord = false) :
    substituteBoth u f v g (u.char :: (k.text ++ t)) = f k ++ substituteBoth u f v g t :=
  edited_token (by rw [edit?_written h]; rfl)

theorem substituteBoth_right {k : Token} (ne : u.char ≠ v.char) (h : t.beginsWord = false) :
    substituteBoth u f v g (v.char :: (k.text ++ t)) = g k ++ substituteBoth u f v g t := by
  refine edited_token ?_
  have none : edit? u f (v.char :: k.text ++ t) 0 = none := by
    simp [edit?, tokenAt?_cons_zero, Ne.symm ne]
  rw [none, edit?_written h]
  rfl

/-- Two passes make the edits of one, by the tokens of both markers in the template. What carries
the induction is that every rest of a template keeps its tokens apart. -/
theorem substitute_substitute (ne : u.char ≠ v.char) (clean : ∀ k, v.char ∉ f k)
    (apart : Apart u v t) :
    substitute v g (substitute u f t) = substituteBoth u f v g t := by
  induction t using scan_induction (fun m => m = u ∨ m = v) with
  | nil => rfl
  | literal c rest h ih =>
    have hu := h u (.inl rfl)
    have hv := h v (.inr rfl)
    have hv' : tokenAt? v (c :: substitute u f rest) 0 = none :=
      (tokenAt?_cons_substitute apart).trans hv
    rw [substitute_literal hu, substitute_literal hv', ih apart.of_cons,
      substituteBoth_literal hu hv]
  | token m k rest hm hr ih =>
    have inner := ih (Apart.of_append (s := m.char :: k.text) apart)
    rcases hm with rfl | rfl
    · rw [substitute_token hr, substitute_append (clean k), inner, substituteBoth_left hr]
    · obtain ⟨first, still⟩ := substitute_other_token (f := f) ne hr apart
      rw [first, substitute_token still, inner, substituteBoth_right ne hr]

end

end Template

namespace Message

/-- **Rendering edits for both beings at once.** -/
theorem render_edits_both [Host] {s : Settings} {u v : Marker} (hu : s.userMarker = [u.char])
    (hv : s.targetMarker = [v.char]) (ne : u.char ≠ v.char) (user target : BeingSpec) (t : Text)
    (clean : ∀ k, v.char ∉ user.being.fill user.person k)
    (apart : ∀ i k, Template.tokenAt? u t i = some k → t.behind? i ≠ some v.char)
    (capitalize : Bool) :
    let both := Template.substituteBoth u (user.being.fill user.person) v
      (target.being.fill target.person) t
    (render s user.address (some target.address) capitalize t).outcome =
      .ok ⟨if capitalize then both.capitalize else both, t⟩ := by
  intro both
  have passes : phrase s user.address (some target.address) t = .ok both := by
    rw [phrase_some (by rw [hu, Marker.ofDatum_char]) (by rw [hv, Marker.ofDatum_char]),
      Template.substitute_substitute ne clean apart]
  exact congrArg Run.outcome (render_of_phrase user (some target) passes capitalize)

/-- A name that leaves nothing, a token directly behind it, and markers in the name put in last. -/
theorem render_edits_both_nameless :
    (render {} (BeingSpec.address ⟨.third, "rogue", .female, some []⟩)
      (some (BeingSpec.address ⟨.third, "@me ~me", .male, none⟩)) true
      "@user~me @my ~user").outcome =
      .ok ⟨"Him her the @me ~me", "@user~me @my ~user"⟩ := by
  refine (render_edits_both (u := ⟨.char '@', rfl⟩) (v := ⟨.char '~', rfl⟩) rfl rfl (by decide)
    ⟨.third, "rogue", .female, some []⟩ ⟨.third, "@me ~me", .male, none⟩ _ ?_ ?_ true).trans ?_
  · rintro (n | f)
    · cases n <;> decide
    · cases f <;> decide
  · have all : ∀ i < 18, (Template.tokenAt? ⟨.char '@', rfl⟩ "@user~me @my ~user" i).isSome →
        Text.behind? "@user~me @my ~user" i ≠ some (.char '~') := by decide
    intro i k hk
    exact all i (Template.lt_length_of_tokenAt? hk) (by rw [hk]; rfl)
  · rfl

end Message
end Narration
