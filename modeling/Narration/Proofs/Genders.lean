import Narration.Proofs.NormalForm
import Narration.Proofs.Persons
import Narration.Proofs.Reports
import Narration.Proofs.Signs

/-! # Labels of genders

A label of a gender is the gender or a word for it. Data of other kinds are read as they are written
out, so it is for the way in which they are written that none of them is a label. All words for a
gender are made of letters, and what is written for other data has a sign in it, but for null, the
truth values and the numbers that are not finite, which are no such words either. What stands for
no gender is refused with its text, unless it has none because it cannot be written out. So the
field of a being takes the same labels, and one fault tells of any other. -/
namespace Narration

/-! ## Words -/

namespace Gender

/-- The labels that stand for a gender. A text may have white space around it and be in any letter
case. -/
inductive Denotes : Label → Gender → Prop
  | itself (g : Gender) : Denotes (.gender g) g
  | word {t : Text} {g : Gender} (spelled : Text.lower t.strip = g.word) :
      Denotes (.datum (.text t)) g
  | name {t : Text} {g : Gender} (spelled : Text.lower t.strip = Text.lower g.name) :
      Denotes (.datum (.text t)) g
  | synonym {t : Text} {g : Gender} (known : (Text.lower t.strip, g) ∈ synonyms) :
      Denotes (.datum (.text t)) g

theorem lower_name (g : Gender) : Text.lower g.name = g.word := by cases g <;> decide

section

variable {t : Text} {g : Gender}

theorem mem_vocabulary : (t, g) ∈ vocabulary ↔ t = g.word ∨ (t, g) ∈ synonyms := by
  have every : g ∈ all := by cases g <;> decide
  rw [vocabulary, List.mem_append, List.mem_map]
  refine or_congr ⟨?_, ?_⟩ Iff.rfl
  · intro ⟨g', _, same⟩
    cases same
    rfl
  · intro same
    exact ⟨g, every, by rw [same]⟩

/-- No word is there twice, so each is found. -/
theorem lookup_vocabulary : vocabulary.lookup t = some g ↔ (t, g) ∈ vocabulary := by
  constructor
  · intro found
    obtain ⟨before, behind, cut, _⟩ := List.lookup_eq_some_iff.mp found
    rw [cut]
    simp
  · intro mem
    have once : ∀ e ∈ vocabulary, vocabulary.lookup e.1 = some e.2 := by decide
    exact once (t, g) mem

theorem ofText?_eq_some_iff : ofText? t = some g ↔ Denotes (.datum (.text t)) g := by
  rw [ofText?, lookup_vocabulary, mem_vocabulary]
  constructor
  · intro known
    rcases known with spelled | known
    · exact .word spelled
    · exact .synonym known
  · intro denotes
    cases denotes with
    | word spelled => exact .inl spelled
    | name spelled => exact .inl (spelled.trans (lower_name g))
    | synonym known => exact .inr known

/-! ## Data of other kinds -/

theorem ofText?_of_signed (h : t.Signed) : ofText? t = none := by
  have plain : ∀ e ∈ vocabulary, ∀ c ∈ e.1, Text.isSign c = false := by decide
  cases found : ofText? t with
  | none => rfl
  | some g =>
    obtain ⟨c, mem, sign⟩ := h.lower_strip
    rw [plain _ (lookup_vocabulary.mp found) c mem] at sign
    cases sign

end

/-- What is written for a datum other than a text is no word for a gender. -/
theorem ofText?_quoted {d : Datum} (h : ∀ t, d ≠ .text t) : ofText? d.quoted = none := by
  cases d with
  | null => decide
  | bool b => cases b <;> decide
  | int n => exact ofText?_of_signed (Text.signed_ofInt n)
  | float x =>
    cases x with
    | nan => decide
    | infinite negative => cases negative <;> decide
    | finite negative units => exact ofText?_of_signed (Binary64.signed_text negative units)
  | text t => exact absurd rfl (h t)
  | list items => exact ofText?_of_signed (Text.signed_cons rfl _)
  | object fields => exact ofText?_of_signed (Text.signed_cons rfl _)

/-! ## Labels -/

theorem ofText?_plain {l : Label} {g : Gender} (h : ∀ g, l ≠ .gender g) :
    ofText? l.plain = some g ↔ Denotes l g := by
  have other (unread : ofText? l.plain = none) (stranger : ¬Denotes l g) :
      ofText? l.plain = some g ↔ Denotes l g := by
    rw [unread]
    exact ⟨fun found => (nomatch found), fun denotes => absurd denotes stranger⟩
  cases l with
  | gender g => exact absurd rfl (h g)
  | person p =>
    exact other (ofText?_of_signed (Text.signed_ofNat _)) fun denotes => (nomatch denotes)
  | datum d =>
    cases d with
    | text t => exact ofText?_eq_some_iff
    | _ =>
      exact other (ofText?_quoted fun _ same => (nomatch same)) fun denotes => (nomatch denotes)

section

variable [Host] {l : Label} {g : Gender}

/-- What stands for a gender can be written out. -/
theorem Denotes.written (denotes : Denotes l g) : l.hindrance? = none := by
  cases denotes with
  | itself => rfl
  | word | name | synonym =>
    rw [Label.hindrance?, Datum.hindrance?, Datum.hindranceWithin?_text]

/-- A label that is no gender is read from its text, if it has one. -/
theorem ofLabel_of_ne (h : ∀ g, l ≠ .gender g) :
    ofLabel l = match l.hindrance?, ofText? l.plain with
      | none, some g => .ok g
      | hindrance, _ => .error ((Breach.gender l.plain).refusal hindrance) := by
  cases l with
  | gender g => exact absurd rfl (h g)
  | person p => rfl
  | datum d => rfl

theorem ofLabel_eq_ok_iff : ofLabel l = .ok g ↔ Denotes l g := by
  by_cases other : ∀ g, l ≠ .gender g
  · rw [← ofText?_plain other, ofLabel_of_ne other]
    cases hindrance : l.hindrance? with
    | none => cases ofText? l.plain <;> simp
    | some reason =>
      refine iff_of_false (fun accepted => nomatch accepted) fun read => ?_
      cases hindrance.symm.trans ((ofText?_plain other).mp read).written
  · obtain ⟨g', rfl⟩ := not_forall_not.mp other
    constructor
    · intro same
      cases same
      exact .itself g
    · intro denotes
      cases denotes
      rfl

/-- What is refused is refused with its text, unless it cannot be written out. -/
theorem eq_of_refused {r : Refusal} (h : ofLabel l = .error r) :
    r = (Breach.gender l.plain).refusal l.hindrance? := by
  by_cases other : ∀ g, l ≠ .gender g
  · rw [ofLabel_of_ne other] at h
    split at h
    · cases h
    · exact (Except.error.inj h).symm
  · obtain ⟨g, rfl⟩ := not_forall_not.mp other
    cases h

theorem ofLabel_eq_error_iff {r : Refusal} : ofLabel l = .error r ↔
    r = (Breach.gender l.plain).refusal l.hindrance? ∧ ∀ g, ¬Denotes l g :=
  Label.refused_iff (fun _ => ofLabel_eq_ok_iff) fun _ => eq_of_refused

theorem ofLabel_eq_breach_iff {b : Breach} : ofLabel l = .error (.breach b) ↔
    b = .gender l.plain ∧ l.hindrance? = none ∧ ∀ g, ¬Denotes l g := by
  rw [ofLabel_eq_error_iff, eq_comm, Breach.refusal_eq_breach, and_assoc, eq_comm]

/-- Whatever cannot be written out is refused for this reason. -/
theorem ofLabel_eq_unwritten_iff {h : Hindrance} :
    ofLabel l = .error (.unwritten h) ↔ l.hindrance? = some h := by
  rw [ofLabel_eq_error_iff, eq_comm, Breach.refusal_eq_unwritten]
  refine and_iff_left_of_imp fun hindered g denotes => ?_
  cases hindered.symm.trans denotes.written

end

end Gender

/-! ## The field of a being -/

open Checked

section

variable [Host]

theorem Gender.reports_check {d : Datum} {f : Fault} : (Gender.check d).Reports f ↔
    f = ⟨((Breach.gender d.plain).refusal d.hindrance?).kind, [], d⟩ ∧
      ∀ g, ¬Denotes (.datum d) g := by
  unfold Gender.check Label.check
  cases read : Gender.ofLabel (.datum d) with
  | ok g =>
    constructor
    · intro reports
      exact absurd reports (not_reports_ok g)
    · intro ⟨_, stranger⟩
      exact absurd (ofLabel_eq_ok_iff.mp read) (stranger g)
  | error r =>
    obtain ⟨given, stranger⟩ := ofLabel_eq_error_iff.mp read
    rw [given]
    refine reports_reject.trans ⟨fun same => ⟨same, stranger⟩, And.left⟩

/-- The gender of a being is found wrong where its field has a label that stands for none. -/
theorem Being.reports_gender {o : Offer} {fields : List (Text × Datum)} {d : Datum}
    {k : Fault.Kind} :
    (Being.check o (.object fields)).Reports ⟨k, ["gender"], d⟩ ↔
      Datum.field? "gender" fields = some d ∧
        k = ((Breach.gender d.plain).refusal d.hindrance?).kind ∧
        ∀ g, ¬Gender.Denotes (.datum d) g := by
  rw [Being.reports_check]
  constructor
  · intro reports
    rcases reports with general | gender | specific
    · cases location_of_required general
    · obtain ⟨d', found, g, reports, same⟩ := reports_optional.mp gender
      obtain ⟨rfl, stranger⟩ := Gender.reports_check.mp reports
      cases same
      exact ⟨found, rfl, stranger⟩
    · cases location_of_optional specific
  · rintro ⟨found, rfl, stranger⟩
    exact .inr (.inl (reports_optional.mpr
      ⟨d, found, _, Gender.reports_check.mpr ⟨rfl, stranger⟩, rfl⟩))

/-- A label that can be written out is told of with its text. -/
theorem Being.reports_stranger {o : Offer} {fields : List (Text × Datum)} {d : Datum} :
    (Being.check o (.object fields)).Reports ⟨.breach (.gender d.plain), ["gender"], d⟩ ↔
      Datum.field? "gender" fields = some d ∧ d.hindrance? = none ∧
        ∀ g, ¬Gender.Denotes (.datum d) g := by
  rw [Being.reports_gender]
  cases d.hindrance? <;> simp [Breach.refusal, Refusal.kind]

/-- One that cannot is told of with the reason. -/
theorem Being.reports_unwritten {o : Offer} {fields : List (Text × Datum)} {d : Datum}
    {h : Hindrance} :
    (Being.check o (.object fields)).Reports ⟨.unwritten h, ["gender"], d⟩ ↔
      Datum.field? "gender" fields = some d ∧ d.hindrance? = some h := by
  rw [Being.reports_gender]
  cases hindrance : d.hindrance? with
  | none => simp [Breach.refusal, Refusal.kind]
  | some reason =>
    have stranger : ∀ g, ¬Gender.Denotes (.datum d) g := fun g denotes => by
      cases hindrance.symm.trans denotes.written
    simp [Breach.refusal, Refusal.kind, stranger, eq_comm]

/-- What is accepted as a being has no gender field or a label of its gender in it. -/
theorem Being.check_eq_ok_iff_denotes {o : Offer} {d : Datum} {b : Being} :
    Being.check o d = .ok b ↔ ∃ fields, d = .object fields ∧
      required "general_name" text fields = .ok b.generalName ∧
      (Datum.field? "gender" fields = none ∧ b.gender = .genderless ∨
        ∃ label, Datum.field? "gender" fields = some label ∧
          Gender.Denotes (.datum label) b.gender) ∧
      optional "specific_name" none (nullable text) fields = .ok b.specificName := by
  simp only [Being.check_eq_ok, optional_eq_ok, Gender.check, Label.check_eq_ok,
    Gender.ofLabel_eq_ok_iff,
    eq_comm (a := Gender.genderless)]

/-- **Genders are read from words alone.** A label is accepted for the gender that it stands for and
for no other. One that stands for none is refused with its text in the message if it can be written
out, and else for what keeps it from being written, and nothing else is refused. The field of a
being takes the labels that stand for a gender, and of any other the same is reported. -/
theorem genders_are_read_from_words :
    (∀ g : Gender, Text.lower g.name = g.word) ∧
    (∀ l, (∀ g, Gender.ofLabel l = .ok g ↔ Gender.Denotes l g) ∧
      (∀ b, Gender.ofLabel l = .error (.breach b) ↔
        b = .gender l.plain ∧ l.hindrance? = none ∧ ∀ g, ¬Gender.Denotes l g) ∧
      (∀ h, Gender.ofLabel l = .error (.unwritten h) ↔ l.hindrance? = some h) ∧
      (Breach.gender l.plain).message = "Unknown gender '" ++ l.plain ++ "'.") ∧
    (∀ o d b, Being.check o d = .ok b ↔ ∃ fields, d = .object fields ∧
      required "general_name" text fields = .ok b.generalName ∧
      (Datum.field? "gender" fields = none ∧ b.gender = .genderless ∨
        ∃ label, Datum.field? "gender" fields = some label ∧
          Gender.Denotes (.datum label) b.gender) ∧
      optional "specific_name" none (nullable text) fields = .ok b.specificName) ∧
    ∀ o fields d,
      ((Being.check o (.object fields)).Reports ⟨.breach (.gender d.plain), ["gender"], d⟩ ↔
        Datum.field? "gender" fields = some d ∧ d.hindrance? = none ∧
          ∀ g, ¬Gender.Denotes (.datum d) g) ∧
      ∀ h, (Being.check o (.object fields)).Reports ⟨.unwritten h, ["gender"], d⟩ ↔
        Datum.field? "gender" fields = some d ∧ d.hindrance? = some h := by
  refine ⟨Gender.lower_name, fun l => ⟨?accepted, ?refused, ?unwritten, rfl⟩,
    fun o d b => Being.check_eq_ok_iff_denotes, fun o fields d => ⟨?stranger, ?untold⟩⟩
  case accepted => exact fun g => Gender.ofLabel_eq_ok_iff
  case refused => exact fun b => Gender.ofLabel_eq_breach_iff
  case unwritten => exact fun h => Gender.ofLabel_eq_unwritten_iff
  case stranger => exact Being.reports_stranger
  case untold => exact fun h => Being.reports_unwritten

end

/-- Not every datum that is no word is refused with its text. A whole number with a digit too many
has none to be refused with. -/
theorem long_number_is_no_unknown_gender :
    let d : Datum := .int (Nat.pow 10 Text.digitLimit : Nat)
    Gender.ofLabel (.datum d) = .error (.unwritten .tooLong) ∧
    ¬∀ d : Datum, (∀ t, d ≠ .text t) →
      Gender.ofLabel (.datum d) = .error (.breach (.gender d.plain)) := by
  intro d
  have refused : Gender.ofLabel (.datum d) = .error (.unwritten .tooLong) :=
    Gender.ofLabel_eq_unwritten_iff.mpr (Label.hindrance?_long rfl)
  refine ⟨refused, fun every => ?_⟩
  have breached := every d fun _ same => nomatch same
  rw [refused] at breached
  cases breached

end Narration
