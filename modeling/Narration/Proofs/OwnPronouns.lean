import Narration.Proofs.Capitals
import Narration.Proofs.Placeholders

/-! # Pronouns that the caller puts in

For a being of other gender a pass leaves placeholders, and the caller puts its own pronouns in
their place afterwards. This does what a row of these pronouns in the table would have done, and a
capital that a placeholder has received in between passes to the pronoun. Tokens must not follow
one another at once, as the text of the second could continue the placeholder of the first. -/
namespace Narration

namespace Template

/-- No token begins where another ends. -/
def Spaced (m : Marker) (t : Text) : Prop :=
  ∀ i j k l, tokenAt? m t i = some k → tokenAt? m t j = some l → j ≠ i + (k.text.length + 1)

theorem spaced_iff {m : Marker} {t : Text} :
    Spaced m t ↔ ∀ i < t.length, ((tokenAt? m t i).all fun k =>
      (tokenAt? m t (i + (k.text.length + 1))).isNone) = true := by
  constructor
  · intro h i _
    cases hi : tokenAt? m t i with
    | none => rfl
    | some k =>
      cases hj : tokenAt? m t (i + (k.text.length + 1)) with
      | none => simp [hj]
      | some l => exact absurd rfl (h i _ k l hi hj)
  · rintro h i j k l hi hj rfl
    have := h i (lt_length_of_tokenAt? hi)
    simp [hi, hj] at this

instance (m : Marker) (t : Text) : Decidable (Spaced m t) := decidable_of_iff _ spaced_iff.symm

theorem Spaced.of_append {m : Marker} {s t : Text} (h : Spaced m (s ++ t)) : Spaced m t := by
  intro i j k l hi hj he
  refine h (s.length + i) (s.length + j) k l ?_ ?_ (by omega)
  · rw [tokenAt?_append]
    exact hi
  · rw [tokenAt?_append]
    exact hj

/-- What follows a token at once is no token. -/
theorem Spaced.tokenAt?_behind {m : Marker} {k : Token} {t : Text}
    (h : Spaced m (m.char :: (k.text ++ t))) (ends : t.beginsWord = false) :
    tokenAt? m t 0 = none := by
  cases hl : tokenAt? m t 0 with
  | none => rfl
  | some l =>
    have behind : tokenAt? m (m.char :: (k.text ++ t)) (k.text.length + 1) = some l :=
      (tokenAt?_append k.text 0).trans hl
    exact absurd (Nat.zero_add _).symm (h 0 _ k l (tokenAt?_written ends) behind)

end Template

namespace Being

/-- What each token stands for, with a row that need not be in the table. -/
def fillWith (b : Being) (p : Person) (row : PronounSet) : Token → Text
  | .name n => b.named n p
  | .form f => row.form f

theorem fill_eq_fillWith (b : Being) (p : Person) :
    b.fill p = b.fillWith p (PronounSet.row p b.gender) := by
  funext k
  cases k <;> rfl

end Being

/-- Whether every pronoun begins with a letter that has one capital form for sentences and titles
alike. The copula is not asked for. -/
def PronounSet.TakesCapital (s : PronounSet) : Prop :=
  ∀ f, f ≠ .copula → ∃ c rest d, s.form f = c :: rest ∧ Text.isInitial c = true ∧
    Text.upperOf c = [d] ∧ Text.titleOf c = [d]

namespace Placeholder

theorem tick_not_mem_capitalize {t : Text} (h : tick ∉ t) : tick ∉ t.capitalize := by
  intro hm
  rcases Text.mem_capitalize hm with ht | ⟨c, hc, he⟩
  · exact h ht
  · have code : (Text.capitalOf c).toNat = 0x60 := by
      rw [← he]
      rfl
    have upper : Text.avoids Text.upperShifts Text.upperLonger 0x60 0x60 = true := by decide
    have title : Text.avoids Text.titleShifts Text.titleLonger 0x60 0x60 = true := by decide
    have same := Text.capitalOf_eq_self upper title (by decide) (c := c) (by omega) (by omega)
    rw [he, same] at h
    exact h hc

/-- Whether a text becomes another when pronouns are put in, and still does when both have got
their capital. -/
def Becomes (forms : PronounSet) (t out : Text) : Prop :=
  customize t forms = .ok out ∧
    (forms.TakesCapital → customize t.capitalize forms = .ok out.capitalize)

namespace Becomes

variable {forms : PronounSet} {t out : Text}

/-- A text without placeholders, or the character it begins with, takes the capital on both
sides. -/
theorem append {s : Text} (plain : tick ∉ s) (h : Becomes forms t out) :
    Becomes forms (s ++ t) (s ++ out) := by
  refine ⟨customize_append plain h.1, fun takes => ?_⟩
  by_cases hs : ∃ c ∈ s, Text.isInitial c = true
  · rw [Text.capitalize_append_left hs, Text.capitalize_append_left hs]
    exact customize_append (tick_not_mem_capitalize plain) h.1
  · have none : ∀ c ∈ s, Text.isInitial c = false := by
      intro c hc
      by_contra hi
      exact hs ⟨c, hc, by simpa using hi⟩
    rw [Text.capitalize_append_right none, Text.capitalize_append_right none]
    exact customize_append plain (h.2 takes)

/-- A placeholder begins with no character of a sentence but in its suffix, so the capital of the
suffix is that of the pronoun. -/
theorem placeholder {s : Text} {f : Form} (hs : (s, f) ∈ suffixes) (ends : t.beginsWord = false)
    (h : Becomes forms t out) :
    Becomes forms (PronounSet.placeholderMark ++ s ++ t) (forms.form f ++ out) := by
  have small : ∀ p ∈ suffixes, spells p.1 p.1 = true ∧ suffixes.lookup (Text.lower p.1) = some p.2 ∧
      p.1.head?.any CodePoint.isAsciiUpper = false := by decide
  have large : ∀ p ∈ suffixes, spells p.1 p.1.capitalize = true ∧
      suffixes.lookup (Text.lower p.1.capitalize) = some p.2 ∧
      p.1.capitalize.head?.any CodePoint.isAsciiUpper = true ∧ p.2 ≠ .copula ∧
      (∃ c ∈ p.1, Text.isInitial c = true) := by decide
  have mark : ∀ c ∈ PronounSet.placeholderMark, Text.isInitial c = false := by decide
  constructor
  · obtain ⟨spelled, known, case⟩ := small _ hs
    have same : (Piece.placeholder s).replaced forms = .ok (forms.form f) := by
      simp [Piece.replaced, known, case]
    rw [List.append_assoc]
    exact customize_placeholder ⟨_, hs, spelled⟩ ends same h.1
  · intro takes
    obtain ⟨spelled, known, case, asked, initial⟩ := large _ hs
    obtain ⟨c, rest, d, form, letter, upper, title⟩ := takes f asked
    have raised : (Piece.placeholder s.capitalize).replaced forms = .ok (d :: rest) := by
      simp [Piece.replaced, known, case, form, capitalised, upper]
    have capital : Text.capitalize (c :: rest ++ out) = d :: rest ++ out := by
      simp [Text.capitalize, letter, Text.capitalOf, title]
    rw [List.append_assoc, Text.capitalize_append_right mark, Text.capitalize_append_left initial,
      form, capital]
    exact customize_placeholder ⟨_, hs, spelled⟩ ends raised h.1

end Becomes
end Placeholder

namespace Being

open Placeholder (tick)

/-- Whether no name holds the character of the mark. -/
def NamedPlainly (b : Being) : Prop :=
  tick ∉ b.generalName ∧ ∀ n, b.specificName = some n → tick ∉ n

theorem NamedPlainly.tick_not_mem {b : Being} (plain : b.NamedPlainly) (n : NameToken) :
    tick ∉ b.named n .third := by
  have article : tick ∉ ("the " : Text) := by decide
  have general : tick ∉ b.generalDisplayName := by
    intro h
    rcases List.mem_append.mp h with h | h
    · exact article h
    · exact plain.1 h
  have display : tick ∉ b.displayName := by
    unfold displayName
    cases hs : b.specificName with
    | none => exact general
    | some s => exact plain.2 s hs
  show tick ∉ if n = .general then b.generalDisplayName else b.displayName
  split
  · exact general
  · exact display

/-- The fills of a being of other gender are placeholders for the caller's pronouns. The names and
the copula are the same in both rows. -/
theorem fill_other {b : Being} (other : b.gender = .other) (plain : b.NamedPlainly)
    (forms : PronounSet) (k : Token) :
    (∃ s f, (s, f) ∈ Placeholder.suffixes ∧
      b.fill .third k = PronounSet.placeholderMark ++ s ∧
      b.fillWith .third { forms with copula := "was" } k = forms.form f) ∨
    (tick ∉ b.fill .third k ∧
      b.fillWith .third { forms with copula := "was" } k = b.fill .third k) := by
  rcases k with n | f
  · exact .inr ⟨plain.tick_not_mem n, rfl⟩
  · have row : b.fill .third (.form f) = PronounSet.other.form f := by
      rw [fill_eq_fillWith, other]
      rfl
    rw [row]
    cases f with
    | copula => exact .inr ⟨by decide, rfl⟩
    | subject => exact .inl ⟨"e", .subject, by decide, rfl, rfl⟩
    | object => exact .inl ⟨"im", .object, by decide, rfl, rfl⟩
    | determiner => exact .inl ⟨"is", .determiner, by decide, rfl, rfl⟩
    | possessive => exact .inl ⟨"iss", .possessive, by decide, rfl, rfl⟩
    | reflexive => exact .inl ⟨"imself", .reflexive, by decide, rfl, rfl⟩

end Being

namespace Placeholder

/-- A pass that leaves placeholders becomes one with the caller's row. -/
theorem becomes_substitute {b : Being} (other : b.gender = .other) (plain : b.NamedPlainly)
    (forms : PronounSet) {m : Marker} {t : Text} (spaced : Template.Spaced m t) (ht : tick ∉ t) :
    Becomes forms (Template.substitute m (b.fill .third) t)
      (Template.substitute m (b.fillWith .third { forms with copula := "was" }) t) := by
  induction t using Template.scan_induction (· = m) with
  | nil => exact ⟨customize_nil, fun _ => customize_nil⟩
  | literal c rest h ih =>
    obtain ⟨hc, hr⟩ : tick ≠ c ∧ tick ∉ rest := by simpa using ht
    have itself : tick ∉ [c] := by simpa using hc
    rw [Template.substitute_literal (h m rfl), Template.substitute_literal (h m rfl)]
    exact (ih (Template.Spaced.of_append (s := [c]) spaced) hr).append itself
  | token m' k rest hm ends ih =>
    subst hm
    have behind := spaced.tokenAt?_behind ends
    have later := ih (Template.Spaced.of_append (s := m'.char :: k.text) spaced) fun h =>
      ht (by simp [h])
    rw [Template.substitute_token ends, Template.substitute_token ends]
    rcases b.fill_other other plain forms k with ⟨s, f, hs, mark, form⟩ | ⟨same, eq⟩
    · rw [mark, form]
      exact later.placeholder hs ((Template.beginsWord_substitute behind).trans ends)
    · rw [eq]
      exact later.append same

end Placeholder

namespace Phrasing

open Placeholder (tick)

/-- **Own pronouns come in as from the table.** A pass for a being of other gender, over a template
without the character of the mark whose tokens do not touch, leaves a text from which the caller's
pronouns make what their own row would have given. A capital put on it before is then where it
would have been put afterwards, if every pronoun can take one. -/
theorem customize_phrase [Host] (strict : Bool) (m : Marker) {b : Being} {t : Text}
    (forms : PronounSet) (other : b.gender = .other) (plain : b.NamedPlainly)
    (spaced : Template.Spaced m t) (ht : tick ∉ t) :
    ∃ out own, phrase strict (.text [m.char]) ⟨.person .third, b⟩ t = .ok out ∧
      own = Template.substitute m (b.fillWith .third { forms with copula := "was" }) t ∧
      Placeholder.customize out forms = .ok own ∧
      (forms.TakesCapital →
        Placeholder.customize out.capitalize forms = .ok own.capitalize) := by
  have done : phrase strict (.text [m.char]) ⟨.person .third, b⟩ t =
      .ok (Template.substitute m (b.fill .third) t) :=
    phrase_of_accepted (Marker.ofDatum_char m) rfl strict b t
  obtain ⟨becomes, capital⟩ :=
    Placeholder.becomes_substitute other plain forms spaced ht
  exact ⟨_, _, done, rfl, becomes, capital⟩

/-- Three forms that begin alike, a name in between and a capital that a placeholder receives. -/
theorem customize_phrase_kit :
    (Being.mk "fox" .other (some "Kit")).gender = .other ∧
    Being.NamedPlainly ⟨"fox", .other, some "Kit"⟩ ∧
    Template.Spaced ⟨.char '@', rfl⟩ "@my, @mine. @user: @me!" ∧
    tick ∉ Text.ofString "@my, @mine. @user: @me!" ∧
    PronounSet.TakesCapital ⟨"zie", "zim", "zir", "zirs", "zirself", "is"⟩ ∧
    ∃ out own,
      phrase true (.text "@") ⟨.person .third, ⟨"fox", .other, some "Kit"⟩⟩
        "@my, @mine. @user: @me!" = .ok out ∧
      own = Template.substitute ⟨.char '@', rfl⟩
        (Being.fillWith ⟨"fox", .other, some "Kit"⟩ .third
          ⟨"zie", "zim", "zir", "zirs", "zirself", "was"⟩) "@my, @mine. @user: @me!" ∧
      Placeholder.customize out ⟨"zie", "zim", "zir", "zirs", "zirself", "is"⟩ = .ok own ∧
      Placeholder.customize out.capitalize ⟨"zie", "zim", "zir", "zirs", "zirself", "is"⟩ =
        .ok own.capitalize := by
  have plain : Being.NamedPlainly ⟨"fox", .other, some "Kit"⟩ := by
    refine ⟨by decide, ?_⟩
    rintro n ⟨⟩
    decide
  have spaced : Template.Spaced ⟨.char '@', rfl⟩ "@my, @mine. @user: @me!" := by decide
  have ticks : tick ∉ Text.ofString "@my, @mine. @user: @me!" := by decide
  have takes : PronounSet.TakesCapital ⟨"zie", "zim", "zir", "zirs", "zirself", "is"⟩ := by
    intro f hf
    cases f with
    | copula => exact absurd rfl hf
    | _ => exact ⟨.char 'z', _, .char 'Z', rfl, by decide, by decide, by decide⟩
  obtain ⟨out, own, done, row, becomes, capital⟩ :=
    customize_phrase true ⟨.char '@', rfl⟩ ⟨"zie", "zim", "zir", "zirs", "zirself", "is"⟩ rfl plain
      spaced ticks
  exact ⟨rfl, plain, spaced, ticks, takes, out, own, done, row, becomes, capital takes⟩

end Phrasing
end Narration
