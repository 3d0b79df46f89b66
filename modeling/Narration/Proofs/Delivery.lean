import Narration.CommandLine.Basic
import Narration.Proofs.Checking
import Narration.Proofs.Courses
import Narration.Web.Service

/-! # Delivering a message

A request that has passed the check goes the same way on the command line and in the service: it is
rendered, and what can go wrong is a marker. The words of the table have no halves, so a message
has none if the request has none, and it can be sent. -/
namespace Narration

namespace Being

theorem sendable_toDatum {b : Being} : b.toDatum.Sendable ↔
    b.generalName.isWhole = true ∧ ∀ n, b.specificName = some n → n.isWhole = true := by
  have word : b.gender.word.isWhole = true := by cases b.gender <;> exact Text.isWhole_ofString _
  cases hs : b.specificName <;> simp [toDatum, hs, word]

/-- What passes the check can be sent if it was read from what has no halves. -/
theorem sendable_of_check [Host] {o : Offer} {d : Datum} {b : Being} (h : d.isWhole = true)
    (hb : Being.check o d = .ok b) : b.toDatum.Sendable := by
  obtain ⟨fields, rfl, general, _, specific⟩ := check_eq_ok.mp hb
  refine sendable_toDatum.mpr ⟨?_, ?_⟩
  · exact Datum.isWhole_field h (Checked.required_text_eq_ok.mp general)
  · intro n hn
    rw [hn] at specific
    obtain ⟨d, hd, ht⟩ := Checked.optional_nullable_eq_some specific
    rw [Checked.text_eq_ok.mp ht] at hd
    exact Datum.isWhole_field h hd

theorem isWhole_row (p : Person) (g : Gender) (f : Form) :
    ((PronounSet.row p g).form f).isWhole = true := by
  cases p <;> cases g <;> cases f <;> rfl

theorem isWhole_named {b : Being} (h : b.toDatum.Sendable) (n : NameToken) (p : Person) :
    (b.named n p).isWhole = true := by
  obtain ⟨general, specific⟩ := sendable_toDatum.mp h
  have article : b.generalDisplayName.isWhole = true := by simp [generalDisplayName, general]
  have display : b.displayName.isWhole = true := by
    unfold displayName
    cases hs : b.specificName with
    | none => exact article
    | some s => exact specific s hs
  cases p with
  | first =>
    show (if b.isPlural then Text.ofString "we" else "I").isWhole = true
    split <;> exact Text.isWhole_ofString _
  | second => exact Text.isWhole_ofString _
  | third =>
    show (if n = .general then b.generalDisplayName else b.displayName).isWhole = true
    split
    · exact article
    · exact display

theorem isWhole_fill {b : Being} (h : b.toDatum.Sendable) (p : Person) (k : Token) :
    (b.fill p k).isWhole = true := by
  cases k with
  | name n => exact isWhole_named h n p
  | form f => exact isWhole_row p b.gender f

end Being

namespace BeingSpec

theorem sendable_toDatum {s : BeingSpec} : s.toDatum.Sendable ↔ s.being.toDatum.Sendable := by
  simp [toDatum]

theorem sendable_of_check [Host] {o : Offer} {d : Datum} {s : BeingSpec}
    (h : d.isWhole = true) (hs : BeingSpec.check o d = .ok s) : s.toDatum.Sendable := by
  obtain ⟨fields, rfl, _, being⟩ := check_eq_ok.mp hs
  obtain ⟨d, hd, hb⟩ := Checked.required_eq_ok.mp being
  exact sendable_toDatum.mpr (Being.sendable_of_check (Datum.isWhole_field h hd) hb)

end BeingSpec

namespace RenderRequest

theorem sendable_toDatum {r : RenderRequest} : r.toDatum.Sendable ↔
    r.template.isWhole = true ∧ r.user.toDatum.Sendable ∧
      ∀ a, r.target = some a → a.toDatum.Sendable := by
  cases ht : r.target <;> simp [toDatum, ht]

theorem sendable_of_check [Host] {o : Offer} {d : Datum} {r : RenderRequest}
    (h : d.isWhole = true) (hr : RenderRequest.check o d = .ok r) : r.toDatum.Sendable := by
  obtain ⟨fields, rfl, template, user, target, _⟩ := check_eq_ok.mp hr
  refine sendable_toDatum.mpr ⟨?_, ?_, ?_⟩
  · exact Datum.isWhole_field h (Checked.required_text_eq_ok.mp template)
  · obtain ⟨d, hd, hu⟩ := Checked.required_eq_ok.mp user
    exact BeingSpec.sendable_of_check (Datum.isWhole_field h hd) hu
  · intro a ha
    rw [ha] at target
    obtain ⟨d, hd, hb⟩ := Checked.optional_nullable_eq_some target
    exact BeingSpec.sendable_of_check (Datum.isWhole_field h hd) hb

end RenderRequest

/-! ## Messages without halves -/

theorem Template.isWhole_substitute {m : Marker} {fill : Token → Text}
    (hf : ∀ k, (fill k).isWhole = true) {t : Text} (ht : t.isWhole = true) :
    (substitute m fill t).isWhole = true := by
  induction t using scan_induction (· = m) with
  | nil => rfl
  | literal c rest h ih =>
    obtain ⟨hc, hr⟩ : c.isHalf = false ∧ Text.isWhole rest = true := by simpa using ht
    rw [substitute_literal (h m rfl)]
    simp [hc, ih hr]
  | token m' k rest hm ends ih =>
    subst hm
    obtain ⟨_, _, hr⟩ :
        m'.char.isHalf = false ∧ k.text.isWhole = true ∧ Text.isWhole rest = true := by
      simpa using ht
    rw [substitute_token ends]
    simp [hf k, ih hr]

namespace Message

variable {s : Settings} {t : Text}

/-- Both passes end with a text unless a marker is bad, and it has no halves if nothing that goes
into it has any. -/
theorem phrase_checked [Host] (user : BeingSpec) (target : Option BeingSpec) :
    (∃ out, phrase s user.address (target.map BeingSpec.address) t = .ok out ∧
      (user.toDatum.Sendable → (∀ a, target = some a → a.toDatum.Sendable) → t.isWhole = true →
        out.isWhole = true)) ∨
    ∃ b, phrase s user.address (target.map BeingSpec.address) t = .fail (.breach b) := by
  rcases Marker.ofDatum_text s.userMarker with ⟨u, _, um⟩ | ⟨_, um⟩
  · have first (hu : user.toDatum.Sendable) (ht : t.isWhole = true) :=
      Template.isWhole_substitute (m := u)
        (Being.isWhole_fill (BeingSpec.sendable_toDatum.mp hu) user.person) ht
    cases target with
    | none => exact .inl ⟨_, phrase_none um, fun hu _ ht => first hu ht⟩
    | some a =>
      rcases Marker.ofDatum_text s.targetMarker with ⟨v, _, tm⟩ | ⟨_, tm⟩
      · refine .inl ⟨_, phrase_some um tm a, fun hu ha ht => ?_⟩
        exact Template.isWhole_substitute (m := v)
          (Being.isWhole_fill (BeingSpec.sendable_toDatum.mp (ha a rfl)) a.person) (first hu ht)
      · exact .inr ⟨_, phrase_of_bad_target um tm _⟩
  · exact .inr ⟨_, phrase_of_bad_user um _⟩

theorem isWhole_finished {out : Text} (h : out.isWhole = true) (capitalize : Bool) :
    (finished capitalize out).isWhole = true := by
  unfold finished
  split
  · exact Text.isWhole_capitalize h
  · exact h

end Message

/-- A text without halves can always be printed. -/
theorem CommandLine.World.unprintable?_eq_none (w : World) {t : Text} (h : t.isWhole = true) :
    w.unprintable? t = none := by
  rw [unprintable?, Text.unencodable?_eq_none_iff.mpr h, ite_self]

/-- What the command line and the service do with a request that has passed the check. -/
theorem deliver_checked [Host] (w : CommandLine.World) {r : RenderRequest}
    (h : r.toDatum.Sendable) :
    (∃ text, (CommandLine.deliver w r).outcome = .ok (.rendered text) ∧
      (Web.deliver w.settings r).2 = Web.json (Message.mk text r.template).toDatum) ∨
    ∃ b : Breach, (CommandLine.deliver w r).outcome = .ok (.refused ("Error: " ++ b.message)) ∧
      (Web.deliver w.settings r).2 = .failed 422 b.message := by
  obtain ⟨template, user, target⟩ := RenderRequest.sendable_toDatum.mp h
  rcases Message.phrase_checked (s := w.settings) (t := r.template) r.user r.target with
    ⟨out, done, whole⟩ | ⟨b, broken⟩
  · have run := Message.render_of_phrase r.user r.target done r.capitalize
    have sent := Message.isWhole_finished (whole user target template) r.capitalize
    refine .inl ⟨Message.finished r.capitalize out, ?_, ?_⟩
    · simp [CommandLine.deliver, run, w.unprintable?_eq_none sent]
    · have first := Text.unencodable?_eq_none_iff.mpr sent
      have second := Text.unencodable?_eq_none_iff.mpr template
      simp [Web.deliver, run, Web.delivery, first, second]
  · have run := Message.render_of_breach r.user r.target broken r.capitalize
    exact .inr ⟨b, by simp [CommandLine.deliver, run], by simp [Web.deliver, run]⟩

end Narration
