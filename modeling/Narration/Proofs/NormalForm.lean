import Narration.Proofs.Checking

/-! # Validation is a normal form

A value that has passed a check is written as a datum in one way, with every field there and every
label in its plain form, and the check reads this datum as the same value. It reads others as
this value too: it asks for some fields by name, so the others may come and go, as may the order of
all, and it asks of a label only what it stands for. Both are said here for beings, for beings with
a person and for requests, each of which contains the one before. -/
namespace Narration

open Checked

/-! ## Alike records -/

/-- Whether two records have data that are alike in a field, or both leave it out. -/
def Datum.SameField (alike : Datum → Datum → Prop) (name : Text)
    (fields fields' : List (Text × Datum)) : Prop :=
  Option.Rel alike (Datum.field? name fields) (Datum.field? name fields')

/-- Two labels that are read and stand for the same. -/
def Datum.SameLabel {α : Type} (read : Label → Except Refusal α) (d d' : Datum) : Prop :=
  ∃ x, read (.datum d) = .ok x ∧ read (.datum d') = .ok x

section

variable [Host]

/-- Data of a being that differ at most in how the gender is spelled, in fields that no being has,
and in the order of all fields. -/
inductive Being.Respelled : Datum → Datum → Prop
  | object {fields fields' : List (Text × Datum)}
      (general : Datum.SameField (· = ·) "general_name" fields fields')
      (gender : Datum.SameField (Datum.SameLabel Gender.ofLabel) "gender" fields fields')
      (specific : Datum.SameField (· = ·) "specific_name" fields fields') :
      Respelled (.object fields) (.object fields')

/-- The same of a being with its person. -/
inductive BeingSpec.Respelled : Datum → Datum → Prop
  | object {fields fields' : List (Text × Datum)}
      (person : Datum.SameField (Datum.SameLabel Person.ofLabel) "person" fields fields')
      (being : Datum.SameField Being.Respelled "being" fields fields') :
      Respelled (.object fields) (.object fields')

/-- What may stand for the being acted on: no being in both, or two data of one. -/
inductive BeingSpec.RespelledIfAny : Datum → Datum → Prop
  | null : RespelledIfAny .null .null
  | given {d d' : Datum} (h : BeingSpec.Respelled d d') : RespelledIfAny d d'

/-- The same of a request. -/
inductive RenderRequest.Respelled : Datum → Datum → Prop
  | object {fields fields' : List (Text × Datum)}
      (template : Datum.SameField (· = ·) "template" fields fields')
      (user : Datum.SameField BeingSpec.Respelled "user" fields fields')
      (target : Datum.SameField BeingSpec.RespelledIfAny "target" fields fields')
      (capitalize : Datum.SameField (· = ·) "capitalize" fields fields') :
      Respelled (.object fields) (.object fields')

end

/-- Whether a check accepts of two alike data either both, with one value, or only the second. -/
def Checked.Keeps {α : Type} (alike : Datum → Datum → Prop) (check : Datum → Checked α) : Prop :=
  ∀ d d' x, alike d d' → check d = .ok x → check d' = .ok x

namespace Checked

section

variable {α : Type} {alike : Datum → Datum → Prop} {check : Datum → Checked α} {name : Text}
  {fields fields' : List (Text × Datum)} {x : α}

theorem keeps_eq : Keeps (· = ·) check := by
  intro d d' x same h
  rw [← same]
  exact h

theorem Keeps.required (keeps : Keeps alike check)
    (same : Datum.SameField alike name fields fields')
    (h : required name check fields = .ok x) : Checked.required name check fields' = .ok x := by
  obtain ⟨d, hd, hx⟩ := required_eq_ok.mp h
  unfold Datum.SameField at same
  rw [hd] at same
  cases found : Datum.field? name fields' with
  | none =>
    rw [found] at same
    cases same
  | some d' =>
    rw [found] at same
    cases same with
    | some alike => exact required_eq_ok.mpr ⟨d', found, keeps d d' x alike hx⟩

theorem Keeps.optional (keeps : Keeps alike check)
    (same : Datum.SameField alike name fields fields') {default : α}
    (h : optional name default check fields = .ok x) :
    Checked.optional name default check fields' = .ok x := by
  unfold Datum.SameField at same
  rcases optional_eq_ok.mp h with ⟨absent, hx⟩ | ⟨d, hd, hx⟩
  · rw [absent] at same
    cases found : Datum.field? name fields' with
    | none => exact optional_eq_ok.mpr (.inl ⟨found, hx⟩)
    | some d' =>
      rw [found] at same
      cases same
  · rw [hd] at same
    cases found : Datum.field? name fields' with
    | none =>
      rw [found] at same
      cases same
    | some d' =>
      rw [found] at same
      cases same with
      | some alike => exact optional_eq_ok.mpr (.inr ⟨d', found, keeps d d' x alike hx⟩)

end

end Checked

/-! ## Labels -/

theorem Datum.SameLabel.read {α : Type} {read : Label → Except Refusal α} {d d' : Datum} {x : α}
    (same : SameLabel read d d') (h : read (.datum d) = .ok x) : read (.datum d') = .ok x := by
  obtain ⟨y, first, second⟩ := same
  rw [second, ← first, h]

theorem Label.check_eq_ok {α : Type} {read : Label → Except Refusal α} {d : Datum} {x : α} :
    Label.check read d = .ok x ↔ read (.datum d) = .ok x := by
  unfold Label.check
  cases read (.datum d) <;> simp [reject]

section

variable [Host]

theorem Gender.keeps_check : Keeps (Datum.SameLabel Gender.ofLabel) Gender.check := by
  intro d d' g same h
  exact Label.check_eq_ok.mpr (same.read (Label.check_eq_ok.mp h))

/-- The word of a gender is a label of it. -/
theorem Gender.check_word (g : Gender) : Gender.check (.text g.word) = .ok g := by
  have word : Gender.ofText? g.word = some g := by cases g <;> rfl
  refine Label.check_eq_ok.mpr ?_
  rw [Gender.ofLabel_text, word]
  rfl

theorem Person.keeps_check : Keeps (Datum.SameLabel Person.ofLabel) Person.check := by
  intro d d' p same h
  exact Label.check_eq_ok.mpr (same.read (Label.check_eq_ok.mp h))

/-- The number of a person is a label of it. -/
theorem Person.check_number (p : Person) : Person.check (.int p.number) = .ok p := by
  cases p <;> rfl

/-! ## Records -/

section

variable (o : Offer)

theorem Being.check_toDatum (b : Being) : Being.check o b.toDatum = .ok b := by
  refine Being.check_eq_ok.mpr ⟨_, rfl, rfl, ?_, ?_⟩
  · exact optional_eq_ok.mpr (.inr ⟨_, rfl, Gender.check_word b.gender⟩)
  · refine optional_eq_ok.mpr (.inr ⟨_, rfl, ?_⟩)
    cases b.specificName <;> rfl

theorem Being.keeps_check : Keeps Being.Respelled (Being.check o) := by
  rintro _ _ b ⟨general, gender, specific⟩ h
  obtain ⟨_, same, hg, hn, hs⟩ := Being.check_eq_ok.mp h
  cases same
  exact Being.check_eq_ok.mpr ⟨_, rfl, keeps_eq.required general hg,
    Gender.keeps_check.optional gender hn, keeps_eq.optional specific hs⟩

theorem BeingSpec.check_toDatum (s : BeingSpec) : BeingSpec.check o s.toDatum = .ok s := by
  refine BeingSpec.check_eq_ok.mpr ⟨_, rfl, ?_, ?_⟩
  · exact optional_eq_ok.mpr (.inr ⟨_, rfl, Person.check_number s.person⟩)
  · exact required_eq_ok.mpr ⟨_, rfl, s.being.check_toDatum o⟩

theorem BeingSpec.keeps_check : Keeps BeingSpec.Respelled (BeingSpec.check o) := by
  rintro _ _ s ⟨person, being⟩ h
  obtain ⟨_, same, hp, hb⟩ := BeingSpec.check_eq_ok.mp h
  cases same
  exact BeingSpec.check_eq_ok.mpr ⟨_, rfl, Person.keeps_check.optional person hp,
    (Being.keeps_check o).required being hb⟩

theorem BeingSpec.keeps_nullable :
    Keeps BeingSpec.RespelledIfAny (nullable (BeingSpec.check o)) := by
  intro d d' a same h
  cases same with
  | null => exact h
  | given same =>
    rcases nullable_eq_ok.mp h with ⟨rfl, _⟩ | ⟨_, s, hs, rfl⟩
    · cases same
    · have given := BeingSpec.keeps_check o d d' s same hs
      refine nullable_eq_ok.mpr (.inr ⟨?_, s, given, rfl⟩)
      cases same
      exact fun null => (nomatch null)

theorem RenderRequest.check_toDatum (r : RenderRequest) :
    RenderRequest.check o r.toDatum = .ok r := by
  refine RenderRequest.check_eq_ok.mpr ⟨_, rfl, rfl, ?_, ?_, rfl⟩
  · exact required_eq_ok.mpr ⟨_, rfl, r.user.check_toDatum o⟩
  · refine optional_eq_ok.mpr (.inr ⟨_, rfl, nullable_eq_ok.mpr ?_⟩)
    cases r.target with
    | none => exact .inl ⟨rfl, rfl⟩
    | some a => exact .inr ⟨fun null => (nomatch null), a, a.check_toDatum o, rfl⟩

theorem RenderRequest.keeps_check : Keeps RenderRequest.Respelled (RenderRequest.check o) := by
  rintro _ _ r ⟨template, user, target, capitalize⟩ h
  obtain ⟨_, same, ht, hu, ha, hc⟩ := RenderRequest.check_eq_ok.mp h
  cases same
  exact RenderRequest.check_eq_ok.mpr ⟨_, rfl, keeps_eq.required template ht,
    (BeingSpec.keeps_check o).required user hu, (BeingSpec.keeps_nullable o).optional target ha,
    keeps_eq.optional capitalize hc⟩

end

/-- **A check settles its data.** What is accepted as a being, as a being with its person or as a
request is accepted with the same value in its plain form, and in every other form in which no
label stands for anything else. -/
theorem accepted_data_settle (o : Offer) :
    (∀ d b, Being.check o d = .ok b → Being.check o b.toDatum = .ok b ∧
      ∀ d', Being.Respelled d d' → Being.check o d' = .ok b) ∧
    (∀ d s, BeingSpec.check o d = .ok s → BeingSpec.check o s.toDatum = .ok s ∧
      ∀ d', BeingSpec.Respelled d d' → BeingSpec.check o d' = .ok s) ∧
    ∀ d r, RenderRequest.check o d = .ok r → RenderRequest.check o r.toDatum = .ok r ∧
      ∀ d', RenderRequest.Respelled d d' → RenderRequest.check o d' = .ok r := by
  refine ⟨?_, ?_, ?_⟩
  · intro d b accepted
    exact ⟨b.check_toDatum o, fun d' same => Being.keeps_check o d d' b same accepted⟩
  · intro d s accepted
    exact ⟨s.check_toDatum o, fun d' same => BeingSpec.keeps_check o d d' s same accepted⟩
  · intro d r accepted
    exact ⟨r.check_toDatum o, fun d' same => RenderRequest.keeps_check o d d' r same accepted⟩

end

/-- A request in words. -/
def plea : Datum :=
  .object [("template", .text "@I beg ~me."),
    ("user", .object [("person", .text "First"),
      ("being", .object [("general_name", .text "scouts"), ("gender", .text " GROUP")])]),
    ("target", .object [("being",
      .object [("general_name", .text "owl"), ("specific_name", .null)])])]

/-- The same in numbers and abbreviations, in another order, and with fields that say nothing. -/
def pleaRespelled : Datum :=
  .object [("mood", .float .nan),
    ("target", .object [("being", .object [("wings", .int 2), ("specific_name", .null),
      ("general_name", .text "owl")])]),
    ("user", .object [("being", .object [("gender", .text "pl"), ("general_name", .text "scouts")]),
      ("person", .text "\u0661"), ("rank", .list [])]),
    ("template", .text "@I beg ~me.")]

theorem accepted_data_settle_plea :
    ∃ r, RenderRequest.check .data plea = .ok r ∧ RenderRequest.check .data r.toDatum = .ok r ∧
      RenderRequest.Respelled plea pleaRespelled ∧
      RenderRequest.check .data pleaRespelled = .ok r := by
  have accepted : RenderRequest.check .data plea =
      .ok ⟨"@I beg ~me.", ⟨.first, "scouts", .plural, none⟩,
        some ⟨.third, "owl", .genderless, none⟩, true⟩ := rfl
  have user : Datum.SameLabel Person.ofLabel (.text "First") (.text "\u0661") := ⟨.first, rfl, rfl⟩
  have gender : Datum.SameLabel Gender.ofLabel (.text " GROUP") (.text "pl") := ⟨.plural, rfl, rfl⟩
  have same : RenderRequest.Respelled plea pleaRespelled :=
    .object (.some rfl)
      (.some (.object (.some user) (.some (.object (.some rfl) (.some gender) .none))))
      (.some (.given (.object .none (.some (.object (.some rfl) .none (.some rfl)))))) .none
  obtain ⟨settled, respelled⟩ := (accepted_data_settle .data).2.2 _ _ accepted
  exact ⟨_, accepted, settled, same, respelled _ same⟩

end Narration
