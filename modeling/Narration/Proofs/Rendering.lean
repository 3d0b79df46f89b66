import Narration.Message
import Narration.Proofs.Tokens
import Narration.Request

/-! # Rendering for beings that have been checked

A checked being has a person as such, so there is always a number to report and nothing to fall
back on. What is left to go wrong is a marker. -/
namespace Narration

namespace Phrasing

theorem phrase_address [Host] {d : Datum} {m : Marker} (marker : Marker.ofDatum d = .ok m)
    (strict : Bool) (a : BeingSpec) (t : Text) :
    phrase strict d a.address t = .ok (Template.substitute m (a.being.fill a.person) t) :=
  phrase_of_accepted marker rfl strict a.being t

end Phrasing

namespace Message

/-- The report at the beginning. -/
def started (user : BeingSpec) (target : Option BeingSpec) : Event :=
  .renderStarted user.person.number (target.map fun a => (a.person.number : Int))

theorem start_address (user : BeingSpec) (target : Option BeingSpec) :
    start user.address (target.map BeingSpec.address) = .emit (started user target) := by
  cases target <;> rfl

/-- What becomes of the text of both passes. -/
def finished (capitalize : Bool) (t : Text) : Text := if capitalize then t.capitalize else t

section

variable [Host] {s : Settings} {t : Text}

section

variable (user : BeingSpec) (target : Option BeingSpec)

/-- The whole run, where both passes end with a text. -/
theorem render_of_phrase {out : Text}
    (h : phrase s user.address (target.map BeingSpec.address) t = .ok out) (capitalize : Bool) :
    render s user.address (target.map BeingSpec.address) capitalize t =
      ⟨[started user target, .renderSuccess (preview (finished capitalize out))],
        .ok ⟨finished capitalize out, t⟩⟩ := by
  rw [render, start_address, h]
  rfl

/-- The whole run, where a pass ends with a broken contract. -/
theorem render_of_breach {b : Breach}
    (h : phrase s user.address (target.map BeingSpec.address) t = .fail (.breach b))
    (capitalize : Bool) :
    render s user.address (target.map BeingSpec.address) capitalize t =
      ⟨[started user target, rejected b], .error (.breach b)⟩ := by
  rw [render, start_address, h]
  rfl

end

variable {user : BeingSpec}

theorem phrase_none {u : Marker} (hu : Marker.ofDatum (.text s.userMarker) = .ok u) :
    phrase s user.address none t = .ok (Template.substitute u (user.being.fill user.person) t) := by
  simp [phrase, Phrasing.user, Phrasing.phrase_address hu]

theorem phrase_some {u v : Marker} (hu : Marker.ofDatum (.text s.userMarker) = .ok u)
    (hv : Marker.ofDatum (.text s.targetMarker) = .ok v) (a : BeingSpec) :
    phrase s user.address (some a.address) t =
      .ok (Template.substitute v (a.being.fill a.person)
        (Template.substitute u (user.being.fill user.person) t)) := by
  simp [phrase, Phrasing.user, Phrasing.target, Phrasing.phrase_address hu,
    Phrasing.phrase_address hv]

theorem phrase_of_bad_user {b : Breach}
    (hu : Marker.ofDatum (.text s.userMarker) = .error (.breach b)) (a : Option Address) :
    phrase s user.address a t = .fail (.breach b) := by
  simp [phrase, Phrasing.user, Phrasing.phrase_of_bad_marker hu]

theorem phrase_of_bad_target {u : Marker} {b : Breach}
    (hu : Marker.ofDatum (.text s.userMarker) = .ok u)
    (hv : Marker.ofDatum (.text s.targetMarker) = .error (.breach b)) (a : Address) :
    phrase s user.address (some a) t = .fail (.breach b) := by
  simp [phrase, Phrasing.user, Phrasing.target, Phrasing.phrase_address hu,
    Phrasing.phrase_of_bad_marker hv]

end

end Message
end Narration
