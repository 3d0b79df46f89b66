import Narration.Proofs.Courses

/-! # What a message does not tell

Two renderings are compared that differ in the being that acts and in nothing else. In first person
a message tells no more of this being than its number, in second person not even that unless the
template asks for the reflexive, and in third person no more than its gender and the name that it
goes by unless the template asks for the general name. Beings that are alike in this are told alike
as whole runs, with events and errors. -/
namespace Narration

/-- A marker is told by its text. -/
theorem Marker.eq_of_text {m m' : Marker} (h : ([m.char] : Text) = [m'.char]) : m = m' := by
  cases m
  cases m'
  cases h
  rfl

namespace Template

/-- Whether a token of a template asks for something. -/
def AsksFor (m : Marker) (t : Text) (k : Token) : Prop := ∃ i, tokenAt? m t i = some k

instance (m : Marker) (t : Text) (k : Token) : Decidable (AsksFor m t k) :=
  decidable_of_iff (∃ i < t.length, tokenAt? m t i = some k)
    ⟨fun ⟨i, _, h⟩ => ⟨i, h⟩, fun ⟨i, h⟩ => ⟨i, lt_length_of_tokenAt? h, h⟩⟩

/-- Only what a template asks for counts. -/
theorem substitute_congr {m : Marker} {f g : Token → Text} {t : Text}
    (same : ∀ k, AsksFor m t k → f k = g k) : substitute m f t = substitute m g t := by
  have edits : edit? m f t = edit? m g t := by
    funext i
    unfold edit?
    cases hk : tokenAt? m t i with
    | none => rfl
    | some k => rw [Option.map_some, Option.map_some, same k ⟨i, hk⟩]
  rw [substitute_eq_edited, substitute_eq_edited, edits]

end Template

namespace Being

/-- Whether two beings cannot be told apart in a person by what is asked for. -/
def Alike (asked : Token → Prop) (b c : Being) : Person → Prop
  | .first => b.isPlural = c.isPlural
  | .second => b.isPlural = c.isPlural ∨ ¬asked (.form .reflexive)
  | .third => b.gender = c.gender ∧ b.displayName = c.displayName ∧ ¬asked (.name .general)

section

variable {b c : Being}

theorem plural_iff (number : b.isPlural = c.isPlural) :
    b.gender = .plural ↔ c.gender = .plural := by
  simpa [isPlural] using number

/-- In first and second person a row of pronouns follows from the number. -/
theorem row_congr (number : b.isPlural = c.isPlural) {p : Person} (spoken : p ≠ .third) :
    PronounSet.row p b.gender = PronounSet.row p c.gender := by
  cases p with
  | first => simp only [PronounSet.row, plural_iff number]
  | second => simp only [PronounSet.row, plural_iff number]
  | third => exact absurd rfl spoken

/-- In second person number shows in the reflexive only. -/
theorem row_second {f : Form} (h : f ≠ .reflexive) (g g' : Gender) :
    (PronounSet.row .second g).form f = (PronounSet.row .second g').form f := by
  have forms : ∀ g, (PronounSet.row .second g).form f = PronounSet.secondSingular.form f := by
    intro g
    change (if g = .plural then PronounSet.secondPlural else PronounSet.secondSingular).form f = _
    split
    · cases f with
      | reflexive => exact absurd rfl h
      | _ => rfl
    · rfl
  rw [forms g, forms g']

/-- Alike beings have the same text for whatever is asked for. -/
theorem Alike.fill_eq {asked : Token → Prop} {p : Person} (alike : Alike asked b c p) {k : Token}
    (hk : asked k) : b.fill p k = c.fill p k := by
  cases p with
  | first =>
    cases k with
    | name n => simp only [fill, named, show b.isPlural = c.isPlural from alike]
    | form f => simp only [fill, row_congr alike (p := .first) (by decide)]
  | second =>
    cases k with
    | name n => rfl
    | form f =>
      rcases alike with number | unasked
      · simp only [fill, row_congr number (p := .second) (by decide)]
      · exact row_second (fun h => unasked (h ▸ hk)) b.gender c.gender
  | third =>
    obtain ⟨gender, name, unasked⟩ := alike
    cases k with
    | name n =>
      have specific : n ≠ .general := fun h => unasked (h ▸ hk)
      simp only [fill, named, if_neg specific, name]
    | form f => simp only [fill, gender]

end

end Being

namespace Phrasing

variable [Host]

/-- What is settled of a label, if anything, is the person it counts as. -/
theorem settle_cases (strict : Bool) (l : Label) :
    (∃ r, settle strict l = .fail r) ∨
      ∃ events, settle strict l = ⟨events, .ok (Person.meant l)⟩ := by
  unfold settle Person.meant
  cases Person.ofLabel l with
  | ok p => exact .inr ⟨[], rfl⟩
  | error r =>
    cases r with
    | unwritten h => exact .inl ⟨.unwritten h, rfl⟩
    | breach b =>
      cases strict with
      | true => exact .inl ⟨.breach b, rfl⟩
      | false => exact .inr ⟨[.personOutOfRange l.quoted], rfl⟩

/-- A pass tells alike beings alike. Under a marker that does not fit it tells nothing of any. -/
theorem phrase_congr (strict : Bool) {marker : Text} {l : Label} {b c : Being} {t : Text}
    (alike : ∀ m : Marker, marker = [m.char] →
      Being.Alike (Template.AsksFor m t) b c (Person.meant l)) :
    phrase strict (.text marker) ⟨l, b⟩ t = phrase strict (.text marker) ⟨l, c⟩ t := by
  rcases Marker.ofDatum_text marker with ⟨m, rfl, read⟩ | ⟨_, refused⟩
  · have texts : Template.substitute m (b.fill (Person.meant l)) t =
        Template.substitute m (c.fill (Person.meant l)) t :=
      Template.substitute_congr fun k => (alike m rfl).fill_eq
    unfold phrase prepare
    rw [read]
    rcases settle_cases strict l with ⟨r, stopped⟩ | ⟨events, settled⟩
    · simp [stopped]
    · simp [settled, Run.andThen, Run.ok, texts]
  · rw [phrase_of_bad_marker refused, phrase_of_bad_marker refused]

end Phrasing

namespace Message

/-- **Beings that are alike are told alike.** A pass under any marker, and a whole run under any
settings, with the being that is acted on, if there is one, and its label as they may be, are the
same for two beings that cannot be told apart by what the template asks for under the marker of the
being that acts. This is so for every label that is read as a person or counts as the third. -/
theorem alike_beings_are_told_alike [Host] (l : Label) (b c : Being) (t : Text) :
    (∀ (strict : Bool) (m : Marker), Being.Alike (Template.AsksFor m t) b c (Person.meant l) →
      Phrasing.phrase strict (.text [m.char]) ⟨l, b⟩ t =
        Phrasing.phrase strict (.text [m.char]) ⟨l, c⟩ t) ∧
    ∀ (s : Settings) (target : Option Address) (capitalize : Bool),
      (∀ m : Marker, s.userMarker = [m.char] →
        Being.Alike (Template.AsksFor m t) b c (Person.meant l)) →
      render s ⟨l, b⟩ target capitalize t = render s ⟨l, c⟩ target capitalize t := by
  refine ⟨fun strict m alike => Phrasing.phrase_congr strict fun m' same => ?_,
    fun s target capitalize alike => ?_⟩
  · rw [← Marker.eq_of_text same]
    exact alike
  · have first : Phrasing.user s none ⟨l, b⟩ t = Phrasing.user s none ⟨l, c⟩ t :=
      Phrasing.phrase_congr _ alike
    have passes : phrase s ⟨l, b⟩ target t = phrase s ⟨l, c⟩ target t := by
      rw [phrase, first]
      rfl
    rw [render, passes]
    rfl

/-- A second person in a digit, between words that only begin with the reflexive, and behind it a
pass for a label that is none: one being and several are told alike. -/
theorem alike_beings_are_told_alike_myselfish :
    Person.meant (.datum (.text " 2")) = .second ∧
    ¬Template.AsksFor ⟨.char '@', rfl⟩ "@myselfish @user lost @my way to ~me." (.form .reflexive) ∧
    render {} ⟨.datum (.text " 2"), ⟨"scouts", .plural, none⟩⟩
        (some ⟨.datum (.int 7), ⟨"owl", .genderless, none⟩⟩) true
        "@myselfish @user lost @my way to ~me." =
      render {} ⟨.datum (.text " 2"), ⟨"rogue", .female, some "Vex"⟩⟩
        (some ⟨.datum (.int 7), ⟨"owl", .genderless, none⟩⟩) true
        "@myselfish @user lost @my way to ~me." := by
  have meant : Person.meant (.datum (.text " 2")) = .second := rfl
  have unasked : ¬Template.AsksFor ⟨.char '@', rfl⟩ "@myselfish @user lost @my way to ~me."
      (.form .reflexive) := by decide
  refine ⟨meant, unasked, (alike_beings_are_told_alike _ _ _ _).2 {} _ true fun m fits => ?_⟩
  rw [← Marker.eq_of_text (m := ⟨.char '@', rfl⟩) fits]
  exact .inr unasked

end Message
end Narration
