import Narration.Proofs.CapitalForms
import Narration.Proofs.Passes

/-! # A target that comes later

A message for the being that acts alone still holds the tokens of the being acted on, so its text
can serve as a template once this being is known. Both passes together give the same, unless the
capital at the beginning of the first message falls on a word behind the second marker. Then it may
spoil the name of a token, or make one of a word that was none. What words these are follows from
the tables: names begin with small letters, which no capital is, but for one that is a capital. -/
namespace Narration

namespace Text

theorem isWord_of_isInitial {c : CodePoint} (h : isInitial c = true) : isWord c = true := by
  simp only [isInitial, Bool.and_eq_true] at h
  exact h.1.1

/-- The capital of a text falls on its first word, or leaves this word alone. -/
theorem word_capitalize (t : Text) : word t.capitalize = (word t).capitalize := by
  induction t with
  | nil => rfl
  | cons c rest ih =>
    by_cases initial : isInitial c = true
    · have begins := isWord_of_isInitial (capitalOf_settles initial).1
      simp [capitalize, word, initial, begins, isWord_of_isInitial initial]
    · by_cases goes : isWord c = true
      · simpa [capitalize, word, initial, goes] using ih
      · simp [capitalize, word, initial, goes]

/-- A capital that is another character comes from a stretch of the tables. -/
theorem exists_of_capitalOf_ne {c : CodePoint} (other : capitalOf c ≠ c)
    (pos : 0 < (capitalOf c).toNat) :
    ∃ s ∈ titleShifts ++ upperShifts,
      s.holds c.toNat = true ∧ s.image c.toNat = (capitalOf c).toNat := by
  by_cases some : ∃ d, Capital c d
  · obtain ⟨d, capital⟩ := some
    rw [capitalOf_eq capital] at other pos ⊢
    obtain ⟨k, codes, rfl⟩ := List.map_eq_singleton_iff.mp capital.titleOf_eq
    have code : (CodePoint.ofNat k).toNat = k :=
      (CodePoint.toNat_ofNat k).resolve_right (Nat.ne_of_gt pos)
    rw [code]
    rcases title_cases codes with rfl | ⟨s, hs, holds, rfl⟩ | ⟨s, hs, holds, rfl⟩
    · exact absurd (CodePoint.ofNat_toNat c) other
    · exact ⟨s, List.mem_append_left _ hs, holds, rfl⟩
    · exact ⟨s, List.mem_append_right _ (List.mem_filter.mp hs).1, holds, rfl⟩
  · exact absurd (capitalOf_eq_self_of_none (not_exists.mp some)) other

/-- No small letter is the capital of another character. -/
theorem capitalOf_eq_self_of_small {c : CodePoint} (low : 0x61 ≤ (capitalOf c).toNat)
    (high : (capitalOf c).toNat ≤ 0x7A) : capitalOf c = c := by
  refine Decidable.byContradiction fun other => ?_
  have outside : ∀ s ∈ titleShifts ++ upperShifts,
      s.last + s.distance < 0x61 ∨ 0x7A < s.first + s.distance := by decide +kernel
  obtain ⟨s, hs, holds, image⟩ := exists_of_capitalOf_ne other (by omega)
  have range := Shift.bounds holds
  have away := outside s hs
  unfold Shift.image at image
  omega

/-- Two letters have the capital of the pronoun in first person, one of them without its dot. -/
theorem eq_of_capitalOf_eq_I {c : CodePoint} (h : capitalOf c = .char 'I') :
    c = .char 'I' ∨ c = .char 'i' ∨ c = .char '\u0131' := by
  by_cases own : capitalOf c = c
  · exact .inl (own.symm.trans h)
  · refine .inr ?_
    have sources : ∀ s ∈ titleShifts ++ upperShifts, s.holds (0x49 - s.distance).toNat = true →
        (0x49 - s.distance).toNat = 0x69 ∨ (0x49 - s.distance).toNat = 0x131 := by decide +kernel
    obtain ⟨s, hs, holds, image⟩ := exists_of_capitalOf_ne own (by rw [h]; decide)
    rw [h] at image
    have image : ((c.toNat : Int) + s.distance).toNat = 0x49 := image
    have source : (0x49 - s.distance).toNat = c.toNat := by omega
    have known := sources s hs
    rw [source] at known
    exact (known holds).imp (fun code => CodePoint.toNat_injective code)
      fun code => CodePoint.toNat_injective code

/-- What the first character of a text was before the text got its capital. -/
theorem exists_of_capitalize_eq_cons {w r : Text} {d : CodePoint} (initial : isInitial d = true)
    (h : w.capitalize = d :: r) : ∃ c, w = c :: r ∧ capitalOf c = d := by
  cases w with
  | nil => cases h
  | cons c rest =>
    by_cases begins : isInitial c = true
    · rw [capitalize, if_pos begins] at h
      exact ⟨c, by rw [(List.cons.inj h).2], (List.cons.inj h).1⟩
    · rw [capitalize, if_neg begins] at h
      rw [(List.cons.inj h).1] at begins
      exact absurd initial begins

end Text

namespace Token

/-- A name begins with a small letter, but for one that is a capital. -/
theorem exists_head (k : Token) : ∃ d r, k.text = d :: r ∧ Text.isInitial d = true ∧
    (k = .form .subject ∧ d = .char 'I' ∧ r = [] ∨
      k ≠ .form .subject ∧ 0x61 ≤ d.toNat ∧ d.toNat ≤ 0x7A) := by
  rcases k with n | f
  · cases n <;> exact ⟨_, _, rfl, by decide, by decide⟩
  · cases f <;> exact ⟨_, _, rfl, by decide, by decide⟩

/-- The words that a capital makes the name of a token, or no longer one. -/
def Fragile (w : Text) : Prop :=
  w = "i" ∨ w = "\u0131" ∨ ∃ k : Token, k ≠ .form .subject ∧ w = k.text

theorem Fragile.exists_head {w : Text} (h : Fragile w) :
    ∃ c r, w = c :: r ∧ Text.isInitial c = true := by
  rcases h with rfl | rfl | ⟨k, _, rfl⟩
  · exact ⟨_, _, rfl, by decide⟩
  · exact ⟨_, _, rfl, by decide +kernel⟩
  · obtain ⟨d, r, same, initial, _⟩ := k.exists_head
    exact ⟨d, r, same, initial⟩

/-- What a name was before it got its capital. -/
theorem eq_or_of_capitalize_eq {k : Token} {w : Text} (h : w.capitalize = k.text) :
    w = k.text ∨ w = "i" ∨ w = "\u0131" := by
  obtain ⟨d, r, name, initial, letter⟩ := k.exists_head
  rw [name] at h ⊢
  obtain ⟨c, rfl, capital⟩ := Text.exists_of_capitalize_eq_cons initial h
  rcases letter with ⟨_, rfl, rfl⟩ | ⟨_, low, high⟩
  · rcases Text.eq_of_capitalOf_eq_I capital with rfl | rfl | rfl
    · exact .inl rfl
    · exact .inr (.inl rfl)
    · exact .inr (.inr rfl)
  · rw [← capital] at low high ⊢
    rw [Text.capitalOf_eq_self_of_small low high]
    exact .inl rfl

theorem ofName?_capitalize_eq_iff {w : Text} :
    ofName? w.capitalize = ofName? w ↔ ¬Fragile w := by
  constructor
  · rintro same (rfl | rfl | ⟨k, other, rfl⟩)
    · exact absurd same (by decide)
    · exact absurd same (by decide +kernel)
    · rw [ofName?_text, ofName?_eq_some_iff] at same
      have spoilt : ∀ k : Token, k ≠ .form .subject → k.text.capitalize ≠ k.text := by decide
      exact spoilt k other same
  · intro sturdy
    refine Option.ext fun k => ?_
    rw [ofName?_eq_some_iff, ofName?_eq_some_iff]
    constructor
    · intro name
      rcases eq_or_of_capitalize_eq name with same | dotted | dotless
      · exact same
      · exact absurd (.inl dotted) sturdy
      · exact absurd (.inr (.inl dotless)) sturdy
    · rintro rfl
      by_cases subject : k = .form .subject
      · subst subject
        decide
      · exact absurd (.inr (.inr ⟨k, subject, rfl⟩)) sturdy

end Token

namespace Template

/-! ## Tokens in their order -/

/-- The tokens of a template for a marker, without their places. -/
def tokens (m : Marker) (t : Text) : List Token := (occurrences m t).map fun x => x.2.2

section

variable {m : Marker} {t : Text}

theorem map_found (p q : Nat) (pieces : List Piece) :
    (found p pieces).map (fun x => x.2.2) = (found q pieces).map fun x => x.2.2 := by
  induction pieces generalizing p q with
  | nil => rfl
  | cons piece rest ih =>
    cases piece with
    | literal c => exact ih _ _
    | token k => exact congrArg (k :: ·) (ih _ _)

theorem tokens_literal {c : CodePoint} (h : tokenAt? m (c :: t) 0 = none) :
    tokens m (c :: t) = tokens m t := by
  rw [tokens, occurrences, pieces_literal h]
  exact map_found 1 0 _

theorem tokens_token {k : Token} (h : t.beginsWord = false) :
    tokens m (m.char :: (k.text ++ t)) = k :: tokens m t := by
  rw [tokens, occurrences, pieces_token h]
  exact congrArg (k :: ·) (map_found _ 0 _)

theorem tokens_append {s : Text} (h : m.char ∉ s) : tokens m (s ++ t) = tokens m t := by
  induction s with
  | nil => rfl
  | cons c s ih =>
    obtain ⟨hc, hs⟩ : m.char ≠ c ∧ m.char ∉ s := by simpa using h
    have none : tokenAt? m (c :: (s ++ t)) 0 = none := tokenAt?_eq_none (by simpa using Ne.symm hc)
    rw [List.cons_append, tokens_literal none, ih hs]

/-- The tokens from a place on are the one there, if there is one, and those from the next place
on. -/
theorem tokens_cons (c : CodePoint) :
    tokens m (c :: t) = (tokenAt? m (c :: t) 0).toList ++ tokens m t := by
  cases here : tokenAt? m (c :: t) 0 with
  | none => exact tokens_literal here
  | some k =>
    obtain ⟨rest, written, ends⟩ := exists_eq_written here
    obtain ⟨rfl, rfl⟩ := List.cons.inj written
    rw [tokens_token ends, tokens_append (marker_not_mem_name m k)]
    rfl

/-- The first of two passes leaves the tokens of the second, in their order. -/
theorem tokens_substitute {u v : Marker} {f : Token → Text} (ne : u.char ≠ v.char)
    (clean : ∀ k, v.char ∉ f k) (apart : Apart u v t) :
    tokens v (substitute u f t) = tokens v t := by
  induction t using scan_induction (fun m => m = u ∨ m = v) with
  | nil => rfl
  | literal c rest literal ih =>
    have second : tokenAt? v (c :: rest) 0 = none := literal v (.inr rfl)
    have still : tokenAt? v (c :: substitute u f rest) 0 = none :=
      (tokenAt?_cons_substitute apart).trans second
    rw [substitute_literal (literal u (.inl rfl)), tokens_literal still, tokens_literal second,
      ih apart.of_cons]
  | token m k rest hm ends ih =>
    have inner := ih (Apart.of_append (s := m.char :: k.text) apart)
    rcases hm with rfl | rfl
    · have within : tokens v (m.char :: (k.text ++ rest)) = tokens v rest :=
        tokens_append (marker_not_mem_token (Ne.symm ne) k)
      rw [substitute_token ends, tokens_append (clean k), within, inner]
    · obtain ⟨first, still⟩ := substitute_other_token (f := f) ne ends apart
      rw [first, tokens_token still, tokens_token ends, inner]

end

/-! ## A capital between two passes -/

/-- The capital of a text falls on a word directly behind the marker that is fragile. -/
def Spoilt (m : Marker) (t : Text) : Prop :=
  ∃ s rest : Text, t = s ++ m.char :: rest ∧ (∀ c ∈ s, Text.isInitial c = false) ∧
    Token.Fragile rest.word

section

variable {m : Marker} {t : Text} {c : CodePoint}

theorem marker_ne_of_isInitial (initial : Text.isInitial c = true) : c ≠ m.char := by
  rintro rfl
  exact absurd (Text.isWord_of_isInitial initial) (Bool.eq_false_iff.mp m.notWord)

theorem tokenAt?_of_isInitial (initial : Text.isInitial c = true) :
    tokenAt? m (c :: t) 0 = none :=
  tokenAt?_eq_none (by simpa using marker_ne_of_isInitial initial)

theorem not_spoilt_of_isInitial (initial : Text.isInitial c = true) : ¬Spoilt m (c :: t) := by
  rintro ⟨s, rest, split, before, _⟩
  cases s with
  | nil => exact marker_ne_of_isInitial initial (List.cons.inj split).1
  | cons d s =>
    obtain rfl := (List.cons.inj split).1
    exact absurd initial (Bool.eq_false_iff.mp (before _ List.mem_cons_self))

/-- A fragile word at the front keeps the capital to itself. -/
theorem not_spoilt_of_fragile (fragile : Token.Fragile t.word) : ¬Spoilt m t := by
  obtain ⟨c, r, word, initial⟩ := fragile.exists_head
  cases t with
  | nil => cases word
  | cons d rest =>
    obtain rfl : d = c := by
      by_cases goes : Text.isWord d = true
      · rw [Text.word, List.takeWhile_cons_of_pos goes] at word
        exact (List.cons.inj word).1
      · rw [Text.word, List.takeWhile_cons_of_neg goes] at word
        cases word
    exact not_spoilt_of_isInitial initial

theorem spoilt_cons_iff (passed : Text.isInitial c = false) :
    Spoilt m (c :: t) ↔ c = m.char ∧ Token.Fragile t.word ∨ Spoilt m t := by
  constructor
  · rintro ⟨s, rest, split, before, fragile⟩
    cases s with
    | nil =>
      obtain ⟨rfl, rfl⟩ := List.cons.inj split
      exact .inl ⟨rfl, fragile⟩
    | cons d s =>
      exact .inr ⟨s, rest, (List.cons.inj split).2, (List.forall_mem_cons.mp before).2, fragile⟩
  · rintro (⟨rfl, fragile⟩ | ⟨s, rest, rfl, before, fragile⟩)
    · exact ⟨[], t, rfl, by simp, fragile⟩
    · exact ⟨c :: s, rest, rfl, List.forall_mem_cons.mpr ⟨passed, before⟩, fragile⟩

/-- Of what begins in front of the capital only a token on a fragile word is changed by it. -/
theorem tokenAt?_cons_capitalize_iff :
    tokenAt? m (c :: t.capitalize) 0 = tokenAt? m (c :: t) 0 ↔
      ¬(c = m.char ∧ Token.Fragile t.word) := by
  rw [tokenAt?_cons_zero, tokenAt?_cons_zero, Text.word_capitalize]
  by_cases marker : c = m.char
  · rw [if_pos marker, if_pos marker, Token.ofName?_capitalize_eq_iff]
    simp only [marker, true_and]
  · rw [if_neg marker, if_neg marker]
    simp only [marker, false_and, not_false_eq_true]

/-- A text with its capital asks for the same tokens exactly if it is not spoilt by it. -/
theorem tokens_capitalize_iff : tokens m t.capitalize = tokens m t ↔ ¬Spoilt m t := by
  induction t with
  | nil =>
    refine iff_of_true rfl ?_
    rintro ⟨s, rest, split, _⟩
    cases s <;> cases split
  | cons c rest ih =>
    by_cases initial : Text.isInitial c = true
    · refine iff_of_true ?_ (not_spoilt_of_isInitial initial)
      rw [Text.capitalize, if_pos initial,
        tokens_literal (tokenAt?_of_isInitial (Text.capitalOf_settles initial).1),
        tokens_literal (tokenAt?_of_isInitial initial)]
    · have passed := Bool.eq_false_iff.mpr initial
      rw [Text.capitalize, if_neg initial, tokens_cons, tokens_cons, spoilt_cons_iff passed]
      -- The capital can change the token here or those behind it, but not both.
      by_cases here : c = m.char ∧ Token.Fragile (Text.word rest)
      · have later := ih.mpr (not_spoilt_of_fragile here.2)
        have other := mt tokenAt?_cons_capitalize_iff.mp (not_not_intro here)
        refine iff_of_false (fun same => other ?_) (not_not_intro (.inl here))
        rw [later] at same
        refine Option.ext fun k => ?_
        rw [← Option.mem_toList, ← Option.mem_toList, List.append_cancel_right same]
      · rw [tokenAt?_cons_capitalize_iff.mpr here, List.append_cancel_left_eq, ih]
        simp only [here, false_or]

/-- A capital before a pass does not show after it, unless it spoils a token. The induction reads
the template; the capital falls on the part that is read, or is put off to the rest. -/
theorem capitalize_substitute_capitalize {fill : Token → Text} (sound : ¬Spoilt m t) :
    (substitute m fill t.capitalize).capitalize = (substitute m fill t).capitalize := by
  induction t using scan_induction (· = m) with
  | nil => rfl
  | literal c rest literal ih =>
    have alone : tokenAt? m (c :: rest) 0 = none := literal m rfl
    rw [substitute_literal alone]
    by_cases initial : Text.isInitial c = true
    · obtain ⟨begins, own⟩ := Text.capitalOf_settles initial
      rw [Text.capitalize, if_pos initial, substitute_literal (tokenAt?_of_isInitial begins),
        Text.capitalize, if_pos begins, own, Text.capitalize, if_pos initial]
    · have passed := Bool.eq_false_iff.mpr initial
      obtain ⟨here, later⟩ := not_or.mp (mt (spoilt_cons_iff passed).mpr sound)
      have still := (tokenAt?_cons_capitalize_iff.mpr here).trans alone
      rw [Text.capitalize, if_neg initial, substitute_literal still, Text.capitalize,
        if_neg initial, ih later, Text.capitalize, if_neg initial]
  | token m' k rest same ends ih =>
    subst same
    have name : Text.word (k.text ++ rest) = k.text := by
      rw [Text.word_append fun c hc => Token.isWord_of_mem_text hc, Text.word_eq_nil ends,
        List.append_nil]
    obtain rfl : k = .form .subject := by
      refine Decidable.byContradiction fun other => sound ⟨[], _, rfl, by simp, ?_⟩
      exact .inr (.inr ⟨k, other, name⟩)
    have passed : Text.isInitial m'.char = false := Bool.eq_false_iff.mpr fun initial =>
      marker_ne_of_isInitial initial rfl
    have stays : Text.capitalize (m'.char :: ((Token.form .subject).text ++ rest)) =
        m'.char :: ((Token.form .subject).text ++ rest) := by
      rw [Text.capitalize, if_neg (Bool.eq_false_iff.mp passed)]
      rfl
    rw [stays]

end

end Template

namespace Message

/-- **A being acted on can come later.** Let the first pass put no marker of the second anywhere and
have no token where the word behind such a marker ends. Then the message for the being that acts
alone has the tokens of the template for the other one, in their order, exactly if its capital does
not spoil one, and then a pass for the other being and a capital make of it what both passes at once
make of the template. -/
theorem later_target_completes_message [Host] {s : Settings} {u v : Marker}
    (hu : s.userMarker = [u.char]) (hv : s.targetMarker = [v.char]) (ne : u.char ≠ v.char)
    (user : BeingSpec) (t : Text) (clean : ∀ k, v.char ∉ user.being.fill user.person k)
    (apart : ∀ i k, Template.tokenAt? u t i = some k → t.behind? i ≠ some v.char) :
    ∃ (plain : Text) (given left : List (Nat × Nat × Token)),
      (render s user.address none false t).outcome = .ok ⟨plain, t⟩ ∧
      (render s user.address none true t).outcome = .ok ⟨plain.capitalize, t⟩ ∧
      Phrasing.occurrences (.text [v.char]) (.text t) = .ok given ∧
      Phrasing.occurrences (.text [v.char]) (.text plain.capitalize) = .ok left ∧
      ((left.map fun x => x.2.2) = (given.map fun x => x.2.2) ↔ ¬Template.Spoilt v plain) ∧
      (¬Template.Spoilt v plain → ∀ (strict : Bool) (target : BeingSpec), ∃ out,
        Phrasing.phrase strict (.text [v.char]) target.address plain.capitalize = .ok out ∧
        (render s user.address (some target.address) true t).outcome =
          .ok ⟨out.capitalize, t⟩) := by
  have markerU : Marker.ofDatum (.text s.userMarker) = .ok u := by rw [hu, Marker.ofDatum_char]
  have markerV : Marker.ofDatum (.text s.targetMarker) = .ok v := by rw [hv, Marker.ofDatum_char]
  have alone (capitalize : Bool) :=
    congrArg Run.outcome (render_of_phrase user none (phrase_none (t := t) markerU) capitalize)
  have tokens := Phrasing.occurrences_char v
  let plain := Template.substitute u (user.being.fill user.person) t
  refine ⟨plain, _, _, alone false, alone true, tokens t, tokens _, ?_, ?_⟩
  · have kept := Template.tokens_substitute ne clean apart
    rw [← Template.tokens_capitalize_iff, kept]
    rfl
  · intro sound strict target
    refine ⟨_, Phrasing.phrase_address v.ofDatum_char strict target _, ?_⟩
    have both : phrase s user.address (some target.address) t =
        .ok (Template.substitute v (target.being.fill target.person) plain) :=
      phrase_some markerU markerV target
    rw [Template.capitalize_substitute_capitalize sound]
    exact congrArg Run.outcome (render_of_phrase user (some target) both true)

/-- A capital that a token has already, and a token behind it. -/
theorem later_target_completes_message_echo :
    let rogue : BeingSpec := ⟨.second, "rogue", .female, none⟩
    let owl : BeingSpec := ⟨.third, "owl", .female, none⟩
    let given : Text := "~I and @I met ~me."
    (∀ k, .char '~' ∉ rogue.being.fill rogue.person k) ∧
    (∀ i k, Template.tokenAt? ⟨.char '@', rfl⟩ given i = some k →
      given.behind? i ≠ some (.char '~')) ∧
    (render {} rogue.address none true given).outcome = .ok ⟨"~I and you met ~me.", given⟩ ∧
    ¬Template.Spoilt ⟨.char '~', rfl⟩ "~I and you met ~me." ∧
    Phrasing.phrase true (.text "~") owl.address "~I and you met ~me." =
      .ok "she and you met her." ∧
    (render {} rogue.address (some owl.address) true given).outcome =
      .ok ⟨"She and you met her.", given⟩ := by
  intro rogue owl given
  have clean : ∀ k, .char '~' ∉ rogue.being.fill rogue.person k := by decide
  have apart : Template.Apart ⟨.char '@', rfl⟩ ⟨.char '~', rfl⟩ given := by decide
  obtain ⟨plain, first, second, alone, capital, tokens, left, same, complete⟩ :=
    later_target_completes_message (s := {}) (u := ⟨.char '@', rfl⟩) (v := ⟨.char '~', rfl⟩) rfl rfl
      (by decide) rogue given clean apart
  have text : (render {} rogue.address none false given).outcome =
      .ok ⟨"~I and you met ~me.", given⟩ := rfl
  obtain rfl : plain = "~I and you met ~me." :=
    congrArg Message.text (Except.ok.inj (alone.symm.trans text))
  obtain rfl : first = [(0, 2, .form .subject), (14, 17, .form .object)] :=
    Except.ok.inj (tokens.symm.trans rfl)
  obtain rfl : second = [(0, 2, .form .subject), (15, 18, .form .object)] :=
    Except.ok.inj (left.symm.trans rfl)
  have sound := same.mp rfl
  obtain ⟨out, pass, both⟩ := complete sound true owl
  obtain rfl : out = "she and you met her." :=
    Except.ok.inj (congrArg Run.outcome (pass.symm.trans rfl))
  exact ⟨clean, apart, capital, sound, pass, both⟩

/-- A message for the being that acts can lose the tokens of the other one to its capital. -/
theorem capital_spoils_later_target :
    let rogue : BeingSpec := ⟨.second, "rogue", .female, none⟩
    let goblin : BeingSpec := ⟨.third, "goblin", .male, none⟩
    let given : Text := "~my hat fell on @me."
    ({} : Settings).userMarker = "@" ∧ ({} : Settings).targetMarker = "~" ∧
    (∀ k, .char '~' ∉ rogue.being.fill rogue.person k) ∧
    (∀ i k, Template.tokenAt? ⟨.char '@', rfl⟩ given i = some k →
      given.behind? i ≠ some (.char '~')) ∧
    (render {} rogue.address none true given).outcome = .ok ⟨"~My hat fell on you.", given⟩ ∧
    Phrasing.occurrences (.text "~") (.text given) = .ok [(0, 3, .form .determiner)] ∧
    Phrasing.occurrences (.text "~") (.text "~My hat fell on you.") = .ok [] ∧
    Phrasing.phrase true (.text "~") goblin.address "~My hat fell on you." =
      .ok "~My hat fell on you." ∧
    (render {} rogue.address (some goblin.address) true given).outcome =
      .ok ⟨"His hat fell on you.", given⟩ ∧
    Text.capitalize "~My hat fell on you." ≠ "His hat fell on you." := by
  intro rogue goblin given
  have clean : ∀ k, .char '~' ∉ rogue.being.fill rogue.person k := by decide
  have apart : Template.Apart ⟨.char '@', rfl⟩ ⟨.char '~', rfl⟩ given := by decide
  exact ⟨rfl, rfl, clean, apart, rfl, rfl, rfl, rfl, rfl, by decide⟩

end Message
end Narration
