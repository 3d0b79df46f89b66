import Narration.Proofs.Checking

/-! # What a check reports

A fault is reported by a record if a check of one of its fields reports it, and its location begins
with the name of this field. -/
namespace Narration

namespace Checked

variable {α β : Type} {f : Fault}

/-- Whether a check reports a fault. -/
def Reports (c : Checked α) (f : Fault) : Prop := ∃ fs, c = .error fs ∧ f ∈ fs

theorem not_reports_ok (x : α) : ¬Reports (.ok x) f := by
  intro ⟨fs, same, _⟩
  cases same

theorem reports_reject {kind : Fault.Kind} {d : Datum} :
    (reject kind d : Checked α).Reports f ↔ f = ⟨kind, [], d⟩ := by
  constructor
  · intro ⟨fs, same, mem⟩
    cases same
    exact List.mem_singleton.mp mem
  · intro same
    exact ⟨_, rfl, List.mem_singleton.mpr same⟩

theorem reports_bind {a : Checked α} {next : α → Checked β} :
    (a >>= next).Reports f ↔ a.Reports f ∨ ∃ x, a = .ok x ∧ (next x).Reports f := by
  cases a with
  | error fs =>
    constructor
    · intro ⟨gs, same, mem⟩
      cases same
      exact .inl ⟨_, rfl, mem⟩
    · intro reports
      rcases reports with ⟨gs, same, mem⟩ | ⟨x, same, _⟩
      · cases same
        exact ⟨_, rfl, mem⟩
      · cases same
  | ok x =>
    constructor
    · intro reports
      exact .inr ⟨x, rfl, reports⟩
    · intro reports
      rcases reports with reports | ⟨x, same, reports⟩
      · exact absurd reports (not_reports_ok x)
      · cases same
        exact reports

/-- Of two checks each fault of either is reported. -/
theorem reports_both {a : Checked α} {b : Checked β} :
    (both a b).Reports f ↔ a.Reports f ∨ b.Reports f := by
  cases a <;> cases b <;> simp [Reports, both]

theorem reports_under {c : Checked α} {name : Text} :
    (c.under name).Reports f ↔ ∃ g, c.Reports g ∧ f = g.under name := by
  cases c with
  | ok x =>
    constructor
    · intro reports
      exact absurd reports (not_reports_ok x)
    · intro ⟨g, reports, _⟩
      exact absurd reports (not_reports_ok x)
  | error fs =>
    constructor
    · intro ⟨gs, same, mem⟩
      cases same
      obtain ⟨g, inner, same⟩ := List.mem_map.mp mem
      exact ⟨g, ⟨fs, rfl, inner⟩, same.symm⟩
    · intro ⟨g, ⟨gs, same, mem⟩, outer⟩
      cases same
      exact ⟨_, rfl, List.mem_map.mpr ⟨g, mem, outer.symm⟩⟩

section

variable {name : Text} {default : α} {check : Datum → Checked α} {fields : List (Text × Datum)}

theorem reports_optional : (optional name default check fields).Reports f ↔
    ∃ d, Datum.field? name fields = some d ∧ ∃ g, (check d).Reports g ∧ f = g.under name := by
  unfold optional
  cases Datum.field? name fields with
  | none =>
    constructor
    · intro reports
      exact absurd reports (not_reports_ok default)
    · intro ⟨_, same, _⟩
      cases same
  | some d =>
    rw [reports_under]
    constructor
    · intro reports
      exact ⟨d, rfl, reports⟩
    · intro ⟨_, same, reports⟩
      cases same
      exact reports

theorem location_of_required (h : (required name check fields).Reports f) :
    f.location.head? = some name := by
  unfold required at h
  split at h
  all_goals
    obtain ⟨g, _, same⟩ := reports_under.mp h
    rw [same]
    rfl

theorem location_of_optional (h : (optional name default check fields).Reports f) :
    f.location.head? = some name := by
  obtain ⟨_, _, g, _, same⟩ := reports_optional.mp h
  rw [same]
  rfl

end

end Checked

open Checked

theorem Being.reports_check [Host] {o : Offer} {fields : List (Text × Datum)} {f : Fault} :
    (Being.check o (.object fields)).Reports f ↔
      (required "general_name" text fields).Reports f ∨
      (optional "gender" .genderless Gender.check fields).Reports f ∨
      (optional "specific_name" none (nullable text) fields).Reports f := by
  have taken : Being.check o (.object fields) =
      both (required "general_name" text fields)
        (both (optional "gender" .genderless Gender.check fields)
          (optional "specific_name" none (nullable text) fields)) >>= fun parts =>
      .ok ⟨parts.1, parts.2.1, parts.2.2⟩ := rfl
  rw [taken, reports_bind, reports_both, reports_both]
  constructor
  · intro reports
    rcases reports with reports | ⟨parts, _, reports⟩
    · exact reports
    · exact absurd reports (not_reports_ok _)
  · intro reports
    exact .inl reports

end Narration
