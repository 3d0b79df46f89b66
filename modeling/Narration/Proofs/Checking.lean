import Narration.Proofs.Sending
import Narration.Request

/-! # What a check accepts and what it finds

Of each way to put checks together it is said here what it accepts, and that the faults it finds
lie in the data, so that they can be told if the data can be sent. A request offered as data and one
offered with attributes are accepted alike: only the wording of a fault differs. -/
namespace Narration

namespace Checked

variable {α β : Type}

/-! ## What is accepted -/

section

variable {name : Text} {default : α} {check : Datum → Checked α} {fields : List (Text × Datum)}

theorem both_eq_ok {a : Checked α} {b : Checked β} {x : α} {y : β} :
    both a b = .ok (x, y) ↔ a = .ok x ∧ b = .ok y := by
  cases a <;> cases b <;> simp [both]

theorem under_eq_ok {c : Checked α} {x : α} : c.under name = .ok x ↔ c = .ok x := by
  cases c with
  | error fs => exact ⟨fun h => (nomatch h), fun h => (nomatch h)⟩
  | ok y => exact Iff.rfl

theorem required_eq_ok {x : α} :
    required name check fields = .ok x ↔
      ∃ d, Datum.field? name fields = some d ∧ check d = .ok x := by
  unfold required
  cases Datum.field? name fields with
  | none => simp [under_eq_ok, reject]
  | some d => simp [under_eq_ok]

theorem optional_eq_ok {x : α} :
    optional name default check fields = .ok x ↔
      (Datum.field? name fields = none ∧ default = x) ∨
        ∃ d, Datum.field? name fields = some d ∧ check d = .ok x := by
  unfold optional
  cases Datum.field? name fields with
  | none => simp
  | some d => simp [under_eq_ok]

theorem nullable_eq_ok {d : Datum} {x : Option α} :
    nullable check d = .ok x ↔
      (d = .null ∧ x = none) ∨ (d ≠ .null ∧ ∃ y, check d = .ok y ∧ x = some y) := by
  have given : d ≠ .null → nullable check d = (check d).map some := by
    intro h
    cases d with
    | null => exact absurd rfl h
    | _ => rfl
  by_cases h : d = .null
  · subst h
    simp [nullable, eq_comm]
  · rw [given h]
    constructor
    · intro hx
      cases hc : check d with
      | error fs =>
        rw [hc] at hx
        cases hx
      | ok y =>
        rw [hc] at hx
        cases hx
        exact .inr ⟨h, y, rfl, rfl⟩
    · rintro (⟨hn, _⟩ | ⟨_, y, hc, rfl⟩)
      · exact absurd hn h
      · rw [hc]
        rfl

end

theorem text_eq_ok {d : Datum} {t : Text} : text d = .ok t ↔ d = .text t := by
  cases d <;> simp [text, reject]

/-- What stands in a field that must be a text. -/
theorem required_text_eq_ok {name : Text} {fields : List (Text × Datum)} {t : Text} :
    required name text fields = .ok t ↔ Datum.field? name fields = some (.text t) := by
  rw [required_eq_ok]
  constructor
  · rintro ⟨d, hd, ht⟩
    rw [hd, text_eq_ok.mp ht]
  · intro hd
    exact ⟨_, hd, rfl⟩

/-- What a field that may be left out or be null has given if it has given anything. -/
theorem optional_nullable_eq_some {name : Text} {check : Datum → Checked α}
    {fields : List (Text × Datum)} {x : α}
    (h : optional name none (nullable check) fields = .ok (some x)) :
    ∃ d, Datum.field? name fields = some d ∧ check d = .ok x := by
  rcases optional_eq_ok.mp h with ⟨_, he⟩ | ⟨d, hd, hx⟩
  · cases he
  · rcases nullable_eq_ok.mp hx with ⟨_, he⟩ | ⟨_, y, hy, he⟩
    · cases he
    · cases he
      exact ⟨d, hd, hy⟩

end Checked

open Checked

theorem Offer.record_eq_ok {o : Offer} {schema : Schema} {d : Datum}
    {fields : List (Text × Datum)} : o.record schema d = .ok fields ↔ d = .object fields := by
  cases d <;> cases o <;> simp [record, reject]

section

variable [Host]

theorem Being.check_eq_ok {o : Offer} {d : Datum} {b : Being} :
    Being.check o d = .ok b ↔ ∃ fields, d = .object fields ∧
      required "general_name" text fields = .ok b.generalName ∧
      optional "gender" .genderless Gender.check fields = .ok b.gender ∧
      optional "specific_name" none (nullable text) fields = .ok b.specificName := by
  constructor
  · intro h
    obtain ⟨fields, record, h⟩ := bind_eq_ok.mp h
    obtain ⟨⟨general, gender, specific⟩, parts, h⟩ := bind_eq_ok.mp h
    obtain ⟨hg, parts⟩ := both_eq_ok.mp parts
    obtain ⟨hn, hs⟩ := both_eq_ok.mp parts
    cases h
    exact ⟨fields, Offer.record_eq_ok.mp record, hg, hn, hs⟩
  · rintro ⟨fields, rfl, hg, hn, hs⟩
    exact bind_eq_ok.mpr ⟨fields, rfl, bind_eq_ok.mpr
      ⟨_, both_eq_ok.mpr ⟨hg, both_eq_ok.mpr ⟨hn, hs⟩⟩, rfl⟩⟩

theorem BeingSpec.check_eq_ok {o : Offer} {d : Datum} {s : BeingSpec} :
    BeingSpec.check o d = .ok s ↔ ∃ fields, d = .object fields ∧
      optional "person" .third Person.check fields = .ok s.person ∧
      required "being" (Being.check o) fields = .ok s.being := by
  constructor
  · intro h
    obtain ⟨fields, record, h⟩ := bind_eq_ok.mp h
    obtain ⟨⟨person, being⟩, parts, h⟩ := bind_eq_ok.mp h
    obtain ⟨hp, hb⟩ := both_eq_ok.mp parts
    cases h
    exact ⟨fields, Offer.record_eq_ok.mp record, hp, hb⟩
  · rintro ⟨fields, rfl, hp, hb⟩
    exact bind_eq_ok.mpr ⟨fields, rfl, bind_eq_ok.mpr ⟨_, both_eq_ok.mpr ⟨hp, hb⟩, rfl⟩⟩

theorem RenderRequest.check_eq_ok {o : Offer} {d : Datum} {r : RenderRequest} :
    RenderRequest.check o d = .ok r ↔ ∃ fields, d = .object fields ∧
      required "template" text fields = .ok r.template ∧
      required "user" (BeingSpec.check o) fields = .ok r.user ∧
      optional "target" none (nullable (BeingSpec.check o)) fields = .ok r.target ∧
      optional "capitalize" true bool fields = .ok r.capitalize := by
  constructor
  · intro h
    obtain ⟨fields, record, h⟩ := bind_eq_ok.mp h
    obtain ⟨⟨template, user, target, capitalize⟩, parts, h⟩ := bind_eq_ok.mp h
    obtain ⟨ht, parts⟩ := both_eq_ok.mp parts
    obtain ⟨hu, parts⟩ := both_eq_ok.mp parts
    obtain ⟨ha, hc⟩ := both_eq_ok.mp parts
    cases h
    exact ⟨fields, Offer.record_eq_ok.mp record, ht, hu, ha, hc⟩
  · rintro ⟨fields, rfl, ht, hu, ha, hc⟩
    exact bind_eq_ok.mpr ⟨fields, rfl, bind_eq_ok.mpr
      ⟨_, both_eq_ok.mpr ⟨ht, both_eq_ok.mpr ⟨hu, both_eq_ok.mpr ⟨ha, hc⟩⟩⟩, rfl⟩⟩

/-! ## However it is offered -/

theorem BeingSpec.check_offer (o o' : Offer) {d : Datum} {s : BeingSpec}
    (h : BeingSpec.check o d = .ok s) : BeingSpec.check o' d = .ok s := by
  obtain ⟨fields, rfl, hp, hb⟩ := BeingSpec.check_eq_ok.mp h
  obtain ⟨d, hd, hb⟩ := required_eq_ok.mp hb
  have being : Being.check o' d = .ok s.being := Being.check_eq_ok.mpr (Being.check_eq_ok.mp hb)
  exact BeingSpec.check_eq_ok.mpr ⟨fields, rfl, hp, required_eq_ok.mpr ⟨d, hd, being⟩⟩

/-- A request is accepted or not, whichever way it is offered. -/
theorem RenderRequest.check_offer (o o' : Offer) {d : Datum} {r : RenderRequest}
    (h : RenderRequest.check o d = .ok r) : RenderRequest.check o' d = .ok r := by
  obtain ⟨fields, rfl, ht, hu, ha, hc⟩ := RenderRequest.check_eq_ok.mp h
  have user : required "user" (BeingSpec.check o') fields = .ok r.user := by
    obtain ⟨d, hd, hu⟩ := required_eq_ok.mp hu
    exact required_eq_ok.mpr ⟨d, hd, BeingSpec.check_offer o o' hu⟩
  have target : optional "target" none (nullable (BeingSpec.check o')) fields = .ok r.target := by
    refine optional_eq_ok.mpr ?_
    rcases optional_eq_ok.mp ha with ha | ⟨d, hd, ha⟩
    · exact .inl ha
    · refine .inr ⟨d, hd, nullable_eq_ok.mpr ?_⟩
      rcases nullable_eq_ok.mp ha with ha | ⟨given, a, ha, he⟩
      · exact .inl ha
      · exact .inr ⟨given, a, BeingSpec.check_offer o o' ha, he⟩
  exact RenderRequest.check_eq_ok.mpr ⟨fields, rfl, ht, user, target, hc⟩

end

/-! ## What is found

Each fault quotes a part of the datum that was checked, and what explains it is told in the words
of that part. So all of it can be sent if the datum can be. -/

/-- A datum, and what stands in its fields at every depth. -/
inductive Datum.Part (e : Datum) : Datum → Prop
  | self : Part e e
  | field {name : Text} {d : Datum} {fields : List (Text × Datum)}
    (given : field? name fields = some d) (inside : Part e d) : Part e (.object fields)

theorem Datum.Sendable.part {d e : Datum} (h : d.Sendable) (inside : e.Part d) : e.Sendable := by
  induction inside with
  | self => exact h
  | field given _ ih => exact ih (h.field given)

/-- What stands in a datum that can be written out. -/
theorem Datum.hindrance?_part [Host] {d e : Datum} (h : d.hindrance? = none)
    (inside : e.Part d) : e.hindrance? = none := by
  induction inside with
  | self => exact h
  | field given _ ih => exact ih (hindranceWithin?_field h given)

namespace Fault

section

variable [Host]

/-- Whether a kind of fault is explained by the datum that was given. -/
def Kind.Explains : Kind → Datum → Prop
  | .breach b, d => b = .gender d.plain ∨ b = .person (.datum d)
  | .unwritten h, d => d.hindrance? = some h
  | _, _ => True

/-- A fault found in a datum. -/
structure FoundIn (d : Datum) (f : Fault) : Prop where
  explained : f.kind.Explains f.given
  location : ∀ name ∈ f.location, name.isWhole = true
  inside : f.given.Part d

end

end Fault

theorem Hindrance.isWhole_message (h : Hindrance) : h.message.isWhole = true := by
  cases h <;> simp [message]

namespace Fault

section

variable [Host]

/-- A breach is told without halves if the given datum, on its own, has none. -/
theorem Kind.Explains.isWhole_message {b : Breach} {d : Datum} (h : (breach b).Explains d)
    (plain : d.plain.isWhole = true) : b.message.isWhole = true := by
  rcases h with rfl | rfl
  · simp [Breach.message, plain]
  · simp [Breach.message, Label.quoted]

/-- Only what cannot be written out ends a check. -/
theorem FoundIn.isFatal_eq_false {d : Datum} {f : Fault} (h : f.FoundIn d)
    (written : d.hindrance? = none) : f.kind.isFatal = false := by
  have told := Datum.hindrance?_part written h.inside
  have explained := h.explained
  cases same : f.kind with
  | unwritten reason =>
    rw [same] at explained
    cases explained.symm.trans told
  | _ => rfl

theorem FoundIn.under {d : Datum} {f : Fault} (h : f.FoundIn d) {name : Text}
    (hn : name.isWhole = true) {fields : List (Text × Datum)}
    (given : Datum.field? name fields = some d) : (f.under name).FoundIn (.object fields) := by
  refine ⟨h.explained, ?_, .field given h.inside⟩
  intro n hm
  rcases List.mem_cons.mp hm with rfl | hm
  · exact hn
  · exact h.location n hm

end

theorem isWhole_code (k : Kind) : k.code.isWhole = true := by
  cases k <;> exact Text.isWhole_ofString _

/-- Only a breach is told in words that may have halves. -/
theorem Kind.isWhole_message {k : Kind} (h : ∀ b, k = .breach b → b.message.isWhole = true) :
    k.message.isWhole = true := by
  cases k with
  | breach b => simp [message, h b rfl]
  | noRecord schema =>
    have : schema.name.isWhole = true := by cases schema <;> exact Text.isWhole_ofString _
    simp [message, this]
  | unwritten reason => simp [message, reason.isWhole_message]
  | _ => exact Text.isWhole_ofString _

/-- Only a breach can have halves in its words. -/
theorem Kind.unencodable?_eq_none_iff {k : Kind} :
    k.unencodable? = none ↔ ∀ b, k = .breach b → b.message.isWhole = true := by
  cases k with
  | breach b =>
    refine Text.unencodable?_eq_none_iff.trans ⟨fun h c same => ?_, fun h => h b rfl⟩
    cases same
    exact h
  | _ => exact ⟨fun _ b h => (nomatch h), fun _ => rfl⟩

/-- Faults can be told unless one of them has ended the check or a breach has halves in its words.
-/
theorem untold?_eq_none_iff {fs : List Fault} :
    untold? fs = none ↔ (∀ f ∈ fs, f.kind.isFatal = false) ∧
      ∀ f ∈ fs, ∀ b, f.kind = .breach b → b.message.isWhole = true := by
  have fatal : fs.any (·.kind.isFatal) = false ↔ ∀ f ∈ fs, f.kind.isFatal = false := by simp
  have told : fs.findSome? (·.kind.unencodable?) = none ↔
      ∀ f ∈ fs, ∀ b, f.kind = .breach b → b.message.isWhole = true := by
    refine List.findSome?_eq_none_iff.trans (forall₂_congr fun f _ => ?_)
    exact Kind.unencodable?_eq_none_iff
  unfold untold?
  split
  · rename_i ended
    exact ⟨fun h => (nomatch h), fun h => absurd (fatal.mpr h.1) (by simp [ended])⟩
  · rename_i goesOn
    rw [Option.map_eq_none_iff, told, ← fatal]
    exact ⟨fun h => ⟨by simpa using goesOn, h⟩, fun h => h.2⟩

end Fault
namespace Checked

variable {α β : Type} {d : Datum}

variable [Host]

/-- Whether all that a check finds is found in a datum. -/
def Finds (d : Datum) (c : Checked α) : Prop := ∀ fs, c = .error fs → ∀ f ∈ fs, f.FoundIn d

theorem finds_ok (x : α) : Finds d (.ok x) := by
  intro fs h
  cases h

theorem finds_reject {kind : Fault.Kind} (h : kind.Explains d) :
    Finds d (reject kind d : Checked α) := by
  intro fs he f hf
  cases he
  rw [List.mem_singleton.mp hf]
  exact ⟨h, fun _ hn => (nomatch hn), .self⟩

theorem Finds.bind {a : Checked α} {next : α → Checked β} (ha : a.Finds d)
    (hn : ∀ x, a = .ok x → (next x).Finds d) : (a >>= next).Finds d := by
  cases a with
  | error fs =>
    intro gs h
    cases h
    exact ha fs rfl
  | ok x => exact hn x rfl

theorem Finds.both {a : Checked α} {b : Checked β} (ha : a.Finds d) (hb : b.Finds d) :
    (both a b).Finds d := by
  cases a with
  | ok x =>
    cases b with
    | ok y => exact finds_ok _
    | error gs =>
      intro hs h
      cases h
      exact hb gs rfl
  | error fs =>
    cases b with
    | ok y =>
      intro hs h
      cases h
      exact ha fs rfl
    | error gs =>
      intro hs h f hf
      cases h
      rcases List.mem_append.mp hf with hf | hf
      · exact ha fs rfl f hf
      · exact hb gs rfl f hf

section

variable {name : Text} (hn : name.isWhole = true) {fields : List (Text × Datum)}

include hn

theorem Finds.under {c : Checked α} (hc : c.Finds d) (given : Datum.field? name fields = some d) :
    (c.under name).Finds (.object fields) := by
  cases c with
  | ok x => exact finds_ok x
  | error fs =>
    intro gs h f hf
    cases h
    obtain ⟨g, hg, rfl⟩ := List.mem_map.mp hf
    exact (hc fs rfl g hg).under hn given

variable {check : Datum → Checked α} (hc : ∀ d : Datum, (check d).Finds d)

include hc

theorem finds_required : (required name check fields).Finds (.object fields) := by
  unfold required
  cases hd : Datum.field? name fields with
  | none =>
    -- a field that is not there is a fault of the whole record
    intro fs h f hf
    cases h
    rw [List.mem_singleton.mp hf]
    exact ⟨trivial, fun _ hm => List.mem_singleton.mp hm ▸ hn, .self⟩
  | some d => exact (hc d).under hn hd

theorem finds_optional (default : α) :
    (optional name default check fields).Finds (.object fields) := by
  unfold optional
  cases hd : Datum.field? name fields with
  | none => exact finds_ok default
  | some d => exact (hc d).under hn hd

end

theorem finds_nullable {check : Datum → Checked α} (hc : ∀ d : Datum, (check d).Finds d)
    (d : Datum) : (nullable check d).Finds d := by
  have given : Finds d ((check d).map some) := by
    cases he : check d with
    | ok x => exact finds_ok (some x)
    | error fs =>
      intro gs hg
      cases hg
      exact hc d fs he
  cases d with
  | null => exact finds_ok none
  | _ => exact given

theorem finds_text (d : Datum) : (text d).Finds d := by
  cases d with
  | text t => exact finds_ok t
  | _ => exact finds_reject trivial

theorem finds_bool (d : Datum) : (bool d).Finds d := by
  unfold bool
  repeat' split
  all_goals first
    | exact finds_ok _
    | exact finds_reject trivial

end Checked

variable [Host]

theorem Offer.finds_record (o : Offer) (schema : Schema) (d : Datum) :
    Finds d (o.record schema d) := by
  cases d with
  | object fields => exact finds_ok fields
  | _ => cases o <;> exact finds_reject trivial

/-- A label is refused as a breach, or because it cannot be written out. -/
theorem Breach.explains_refusal {b : Breach} {d : Datum}
    (told : b = .gender d.plain ∨ b = .person (.datum d)) :
    (b.refusal d.hindrance?).kind.Explains d := by
  cases h : d.hindrance? with
  | none => exact told
  | some reason => exact h

theorem Gender.explains_of_refused {d : Datum} {r : Refusal}
    (h : Gender.ofLabel (.datum d) = .error r) : r.kind.Explains d := by
  rw [Gender.ofLabel] at h
  · split at h
    · cases h
    · cases h
      exact Breach.explains_refusal (.inl rfl)
  · rintro g ⟨⟩

theorem Person.explains_of_refused {d : Datum} {r : Refusal}
    (h : Person.ofLabel (.datum d) = .error r) : r.kind.Explains d := by
  rw [Person.ofLabel] at h
  split at h
  · cases h
  · cases h
    exact Breach.explains_refusal (.inr rfl)

theorem Gender.finds_check (d : Datum) : (Gender.check d).Finds d := by
  unfold Gender.check Label.check
  cases hg : Gender.ofLabel (.datum d) with
  | ok g => exact finds_ok g
  | error r => exact finds_reject (Gender.explains_of_refused hg)

theorem Person.finds_check (d : Datum) : (Person.check d).Finds d := by
  unfold Person.check Label.check
  cases hp : Person.ofLabel (.datum d) with
  | ok p => exact finds_ok p
  | error r => exact finds_reject (Person.explains_of_refused hp)

theorem Being.finds_check (o : Offer) (d : Datum) : (Being.check o d).Finds d := by
  refine (o.finds_record _ d).bind fun fields hf => ?_
  obtain rfl := Offer.record_eq_ok.mp hf
  refine Finds.bind (.both ?_ (.both ?_ ?_)) fun _ _ => finds_ok _
  · exact finds_required (Text.isWhole_ofString _) finds_text
  · exact finds_optional (Text.isWhole_ofString _) Gender.finds_check _
  · exact finds_optional (Text.isWhole_ofString _) (finds_nullable finds_text) _

theorem BeingSpec.finds_check (o : Offer) (d : Datum) : (BeingSpec.check o d).Finds d := by
  refine (o.finds_record _ d).bind fun fields hf => ?_
  obtain rfl := Offer.record_eq_ok.mp hf
  refine Finds.bind (.both ?_ ?_) fun _ _ => finds_ok _
  · exact finds_optional (Text.isWhole_ofString _) Person.finds_check _
  · exact finds_required (Text.isWhole_ofString _) (Being.finds_check o)

/-- What the check of a request finds. -/
theorem RenderRequest.finds_check (o : Offer) (d : Datum) : (RenderRequest.check o d).Finds d := by
  refine (o.finds_record _ d).bind fun fields hf => ?_
  obtain rfl := Offer.record_eq_ok.mp hf
  refine Finds.bind (.both ?_ (.both ?_ (.both ?_ ?_))) fun _ _ => finds_ok _
  · exact finds_required (Text.isWhole_ofString _) finds_text
  · exact finds_required (Text.isWhole_ofString _) (BeingSpec.finds_check o)
  · exact finds_optional (Text.isWhole_ofString _) (finds_nullable (BeingSpec.finds_check o)) _
  · exact finds_optional (Text.isWhole_ofString _) finds_bool _

end Narration
