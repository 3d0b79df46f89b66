import Narration.Proofs.Checking
import Narration.Proofs.Courses

/-! # Accepted requests do not go wrong

Loose labels end at the check: an accepted request names its persons as such. So every person has a
number, no person is in doubt, and it makes no difference whether contracts are enforced. Markers
come from the settings and are all that is left to go wrong. -/
namespace Narration

namespace Phrasing

variable [Host] {marker : Text} (a : BeingSpec)

/-- A person as such leaves nothing to enforce. -/
theorem phrase_address_strict (strict strict' : Bool) (d : Datum) (t : Text) :
    phrase strict d a.address t = phrase strict' d a.address t := by
  have settled : settle strict a.address.person = settle strict' a.address.person := rfl
  rw [phrase, prepare, settled]
  rfl

variable {a}

theorem Obstacle.of_address {strict : Bool} {r : Refusal} (h : Obstacle strict marker a.address r) :
    ¬Marker.Fits marker := by
  cases h with
  | marker misfit => exact misfit
  | person _ _ none | unwritten _ none => exact absurd ⟨a.person, rfl⟩ none

end Phrasing

namespace Message

theorem numbered_address (user : BeingSpec) (target : Option BeingSpec) :
    Numbered user.address (target.map BeingSpec.address) user.person.number
      (target.map fun a => (a.person.number : Int)) := by
  refine ⟨rfl, ?_⟩
  cases target <;> rfl

section

variable [Host]

section

variable (s : Settings) (user : BeingSpec) (target : Option BeingSpec) (capitalize : Bool)
  (t : Text)

/-- Settings with the same markers render alike, whatever they say of contracts. -/
theorem render_address_contracts (debug : Bool) (strict : Option Bool) :
    render { s with debug := debug, strictContracts := strict } user.address
        (target.map BeingSpec.address) capitalize t =
      render s user.address (target.map BeingSpec.address) capitalize t := by
  have passes : phrase { s with debug := debug, strictContracts := strict } user.address
      (target.map BeingSpec.address) t =
        phrase s user.address (target.map BeingSpec.address) t := by
    unfold phrase Phrasing.user Phrasing.target
    rw [Phrasing.phrase_address_strict user _ s.contractsEnforced]
    cases target with
    | none => rfl
    | some a =>
      simp only [Option.map_some, Option.getD_none,
        Phrasing.phrase_address_strict a _ s.contractsEnforced]
  rw [render, passes]
  rfl

/-- No person of a checked being is reported as none. -/
theorem personOutOfRange_not_mem (reported : Text) :
    .personOutOfRange reported ∉
      (render s user.address (target.map BeingSpec.address) capitalize t).events := by
  intro h
  -- The run is the same where contracts are enforced, and there nothing of the kind is reported.
  rw [← render_address_contracts s user target capitalize t s.debug (some true)] at h
  exact Bool.noConfusion ((render_course _ _ _ _ _).lenient h)

end

/-- **What has been accepted fails by a marker only.** Of every datum that passes the check there is
a message with its template exactly if the markers that are needed fit. Otherwise the first that
does not is the breach. No person is reported as none, and whether contracts are enforced makes no
difference. -/
theorem accepted_fails_by_marker_only {o : Offer} {d : Datum} {r : RenderRequest}
    (accepted : RenderRequest.check o d = .ok r) (s : Settings) :
    let run (s : Settings) :=
      render s r.user.address (r.target.map BeingSpec.address) r.capitalize r.template
    ((∃ m, (run s).outcome = .ok m) ↔
      Marker.Fits s.userMarker ∧ (r.target = none ∨ Marker.Fits s.targetMarker)) ∧
    (∀ m, (run s).outcome = .ok m → ∃ fields, d = .object fields ∧
      Datum.field? "template" fields = some (.text m.template)) ∧
    (¬Marker.Fits s.userMarker →
      (run s).outcome = .error (.breach (.marker (.text s.userMarker)))) ∧
    (Marker.Fits s.userMarker → r.target ≠ none → ¬Marker.Fits s.targetMarker →
      (run s).outcome = .error (.breach (.marker (.text s.targetMarker)))) ∧
    (∀ reported, .personOutOfRange reported ∉ (run s).events) ∧
    ∀ debug strict, run { s with debug := debug, strictContracts := strict } = run s := by
  intro run
  have course := render_course s r.user.address (r.target.map BeingSpec.address) r.capitalize
    r.template
  have numbers := numbered_address r.user r.target
  have first : ¬Marker.Fits s.userMarker →
      (run s).outcome = .error (.breach (.marker (.text s.userMarker))) := course.misfit numbers
  have second : Marker.Fits s.userMarker → r.target ≠ none → ¬Marker.Fits s.targetMarker →
      (run s).outcome = .error (.breach (.marker (.text s.targetMarker))) := by
    intro fits given misfit
    obtain ⟨a, target⟩ := Option.ne_none_iff_exists'.mp given
    exact course.misfitBehind numbers (fun _ obstacle => obstacle.of_address fits)
      (congrArg (Option.map BeingSpec.address) target) misfit
  refine ⟨⟨?_, ?_⟩, ?_, first, second, personOutOfRange_not_mem s _ _ _ _,
    render_address_contracts s _ _ _ _⟩
  · rintro ⟨m, message⟩
    have fits : Marker.Fits s.userMarker := by
      by_contra misfit
      rw [first misfit] at message
      cases message
    refine ⟨fits, or_iff_not_imp_left.mpr fun given => ?_⟩
    by_contra misfit
    rw [second fits given misfit] at message
    cases message
  · rintro ⟨fits, fitsBoth⟩
    refine course.exists_message numbers (fun _ obstacle => obstacle.of_address fits) ?_
    intro a given _ obstacle
    obtain ⟨target, present, rfl⟩ := Option.map_eq_some_iff.mp given
    have needed : r.target ≠ none := by simp [present]
    exact obstacle.of_address (fitsBoth.resolve_left needed)
  · intro m message
    obtain ⟨fields, rfl, template, _⟩ := RenderRequest.check_eq_ok.mp accepted
    rw [course.template message]
    exact ⟨fields, rfl, Checked.required_text_eq_ok.mp template⟩

end

/-- A request with a person in digits of another script, another in words, a gender by a synonym and
a field that nobody asked for. -/
def looseFields : List (Text × Datum) :=
  [("template", .text "@I hid from ~me."),
    ("user", .object [("person", .text " \u0662"),
      ("being", .object [("general_name", .text "scouts"), ("gender", .text "Group ")])]),
    ("target", .object [("person", .text "Third\n"),
      ("being", .object [("general_name", .text "owl"), ("mood", .null)])])]

def looseRequest : RenderRequest :=
  ⟨"@I hid from ~me.", ⟨.second, "scouts", .plural, none⟩, some ⟨.third, "owl", .genderless, none⟩,
    true⟩

/-- Its message, and its breach under a marker of two characters. -/
theorem accepted_fails_by_marker_only_loose :
    RenderRequest.check .data (.object looseFields) = .ok looseRequest ∧
    (∃ m, (render {} looseRequest.user.address (looseRequest.target.map BeingSpec.address) true
      looseRequest.template).outcome = .ok m) ∧
    (render { targetMarker := "~~" } looseRequest.user.address
      (looseRequest.target.map BeingSpec.address) true looseRequest.template).outcome =
        .error (.breach (.marker (.text "~~"))) := by
  have accepted : RenderRequest.check .data (.object looseFields) = .ok looseRequest := by rfl
  refine ⟨accepted, (accepted_fails_by_marker_only accepted {}).1.mpr ?_,
    (accepted_fails_by_marker_only accepted { targetMarker := "~~" }).2.2.2.1 ?_ ?_ ?_⟩ <;> decide

end Message
end Narration
