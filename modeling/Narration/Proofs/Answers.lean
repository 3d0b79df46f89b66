import Narration.Proofs.Delivery

/-! # Answers to a request to render

A body with faults is answered with the rejected data in it, and a message with its text and its
template. Whether such an answer can be sent depends on those data and texts alone: the rest of it
is worded by the service. -/
namespace Narration

namespace Web

open Datum

/-! ## Faults -/

theorem isWhole_plain_of_shared {d : Datum} (h : (shared d).Sendable) : d.plain.isWhole = true := by
  cases d with
  | text t => exact sendable_text.mp h
  | _ => exact isWhole_quoted _

/-- What explains a breach beyond its wording is the datum that was given. -/
theorem sendable_shared_breach [Host] {b : Breach} {d : Datum}
    (h : (Fault.Kind.breach b).Explains d) (given : (shared d).Sendable) :
    (shared b.toDatum).Sendable := by
  have plain := isWhole_plain_of_shared given
  have wording : (shared (.text b.message)).Sendable :=
    sendable_text.mpr (h.isWhole_message plain)
  have label : (shared (.text d.plain)).Sendable := sendable_text.mpr plain
  refine sendable_shared_object.mpr ?_
  rcases h with rfl | rfl
  · simp [wording, label]
  · simp [wording, given, Label.toDatum]

/-- A fault can be shown exactly if what is shown of the rejected datum can be sent. -/
theorem sendable_shared_fault [Host] {f : Fault} {d : Datum} (h : f.FoundIn d) :
    (shared (BodyFault.datum f).toDatum).Sendable ↔ (shared f.given).Sendable := by
  unfold BodyFault.toDatum
  dsimp only
  constructor
  · intro sent
    exact (sendable_shared_object.mp sent ("input", f.given) (by simp) rfl).2
  · intro given
    have wording : f.kind.message.isWhole = true := by
      refine Fault.Kind.isWhole_message fun b hb => ?_
      have explained := h.explained
      rw [hb] at explained
      exact explained.isWhole_message (isWhole_plain_of_shared given)
    have location : (shared (.list (f.location.map .text))).Sendable := by
      refine sendable_shared_list.mpr fun e he => ?_
      obtain ⟨name, hn, rfl⟩ := List.mem_map.mp he
      exact sendable_text.mpr (h.location name hn)
    refine sendable_shared_object.mpr fun p hp _ => ?_
    simp only [List.mem_cons] at hp
    rcases hp with rfl | rfl | rfl | rfl | hp
    · exact ⟨Text.isWhole_ofString _, sendable_text.mpr (Fault.isWhole_code _)⟩
    · exact ⟨Text.isWhole_ofString _, location⟩
    · exact ⟨Text.isWhole_ofString _, sendable_text.mpr wording⟩
    · exact ⟨Text.isWhole_ofString _, given⟩
    · cases hk : f.kind with
      | breach b =>
        have explained := h.explained
        rw [hk] at explained hp
        cases List.mem_singleton.mp hp
        refine ⟨Text.isWhole_ofString _, sendable_shared_object.mpr fun q hq _ => ?_⟩
        cases List.mem_singleton.mp hq
        exact ⟨Text.isWhole_ofString _, sendable_shared_breach explained given⟩
      | _ =>
        rw [hk] at hp
        cases hp

/-- The list of faults can be sent exactly if each of them can be shown. -/
theorem sendable_detail {fs : List BodyFault} :
    (shared (.object [("detail", .list (fs.map BodyFault.toDatum))])).Sendable ↔
      ∀ f ∈ fs, (shared f.toDatum).Sendable := by
  have shown : Text.startsWith "detail" "_sa" = false := rfl
  simp [sendable_shared_object, sendable_shared_list, shown]

theorem rejection_faults {fs : List BodyFault} (h : ∀ f ∈ fs, (shared f.toDatum).Sendable) :
    ∃ d, rejection (.faults fs) = .answered { status := 422, content := .json d } := by
  have sent := unsendable?_eq_none_iff.mpr (sendable_detail.mpr h)
  unfold rejection
  dsimp only
  rw [sent]
  exact ⟨_, rfl⟩

theorem rejection_malformed (fault : Json.Fault) (position : Nat) :
    ∃ d, rejection (.faults [.malformed fault position]) =
      .answered { status := 422, content := .json d } := by
  refine rejection_faults fun f hf => Sendable.shared ?_
  cases List.mem_singleton.mp hf
  have wording : fault.message.isWhole = true := by
    cases fault <;> exact Text.isWhole_ofString _
  simp [BodyFault.toDatum, wording]

section

variable [Host] {d : Datum} {fs : List Fault} (found : ∀ f ∈ fs, f.FoundIn d)

include found

theorem sendable_shared_located :
    (∀ f ∈ fs.map fun f => BodyFault.datum (f.under "body"), (shared f.toDatum).Sendable) ↔
      ∀ f ∈ fs, (shared f.given).Sendable := by
  rw [List.forall_mem_map]
  refine forall₂_congr fun f hf => ?_
  have outside : (f.under "body").FoundIn (.object [("body", d)]) :=
    (found f hf).under (Text.isWhole_ofString _) rfl
  exact sendable_shared_fault outside

/-- Faults are answered as the client's if the rejected data can be sent. -/
theorem rejection_located (written : d.hindrance? = none)
    (given : ∀ f ∈ fs, (shared f.given).Sendable) :
    ∃ e, rejection (located fs) = .answered { status := 422, content := .json e } := by
  have told : Fault.untold? fs = none := by
    refine Fault.untold?_eq_none_iff.mpr
      ⟨fun f hf => (found f hf).isFatal_eq_false written, fun f hf b hb => ?_⟩
    have explained := (found f hf).explained
    rw [hb] at explained
    exact explained.isWhole_message (isWhole_plain_of_shared (given f hf))
  unfold located
  rw [told]
  exact rejection_faults ((sendable_shared_located found).mpr given)

/-- Else no answer comes of them. -/
theorem rejection_broken {f : Fault} (hf : f ∈ fs) (given : ¬(shared f.given).Sendable) :
    ∃ reason, rejection (located fs) = .broken reason := by
  unfold located
  cases Fault.untold? fs with
  | some u => exact ⟨u.reason, rfl⟩
  | none =>
    unfold rejection
    dsimp only
    split
    · exact ⟨_, rfl⟩
    · rename_i sent
      have shown := sendable_detail.mp (unsendable?_eq_none_iff.mp sent)
      exact absurd ((sendable_shared_located found).mp shown f hf) given

end

/-! ## Messages -/

/-- A message is told, or breaks its answer, as its texts have halves or not. -/
theorem delivery_cases (m : Message) :
    (m.toDatum.Sendable ∧ delivery m = json m.toDatum) ∨
      (¬m.toDatum.Sendable ∧ ∃ reason, delivery m = .broken reason) := by
  have texts : m.toDatum.Sendable ↔
      m.text.unencodable?.or m.template.unencodable? = none := by
    simp [Message.toDatum, Text.unencodable?_eq_none_iff]
  rw [texts]
  unfold delivery
  split
  · rename_i broken
    rw [broken]
    exact .inr ⟨nofun, _, rfl⟩
  · rename_i whole
    exact .inl ⟨whole, rfl⟩

end Web

/-- A request that has passed the check, rendered. -/
def RenderRequest.message [Host] (s : Settings) (r : RenderRequest) :
    Run Message.Failure Message :=
  Message.render s r.user.address (r.target.map BeingSpec.address) r.capitalize r.template

namespace Web

/-- What becomes of a request that has passed the check. -/
theorem deliver_cases [Host] (s : Settings) (r : RenderRequest) :
    (∃ m, (r.message s).outcome = .ok m ∧ (r.toDatum.Sendable → m.toDatum.Sendable) ∧
      deliver s r = ([Message.started r.user r.target, .renderSuccess (Message.preview m.text)],
        delivery m)) ∨
    ∃ b : Breach, (r.message s).outcome = .error (.breach b) ∧
      deliver s r = ([Message.started r.user r.target, Message.rejected b,
        .renderBadRequest b.message], .failed 422 b.message) := by
  rcases Message.phrase_checked (s := s) (t := r.template) r.user r.target with
    ⟨out, done, whole⟩ | ⟨b, broken⟩
  · have run := Message.render_of_phrase r.user r.target done r.capitalize
    refine .inl ⟨⟨Message.finished r.capitalize out, r.template⟩, congrArg Run.outcome run, ?_, ?_⟩
    · intro given
      obtain ⟨template, user, target⟩ := RenderRequest.sendable_toDatum.mp given
      have sent := Message.isWhole_finished (whole user target template) r.capitalize
      simp [Message.toDatum, sent, template]
    · simp [deliver, run]
  · have run := Message.render_of_breach r.user r.target broken r.capitalize
    exact .inr ⟨b, congrArg Run.outcome run, by simp [deliver, run]⟩

/-! ## From the answer to the reply -/

/-- A request that does not ask for permission is answered, whatever is sent along. -/
theorem answer_of_ne_options [Host] {s : Settings} {r : Request} (h : r.method ≠ "OPTIONS") :
    answer s r = answer.respond s r := by
  unfold answer
  split
  · rw [if_neg h]
  · rfl

section

variable [Host] {s : Settings} {r : Request} (method : r.method = "POST")

include method

theorem answer_post : answer s r = answer.respond s r := by
  refine answer_of_ne_options ?_
  rw [method]
  decide

variable (path : r.target.path = "/api/v1/render")

include path

theorem route_render : route s r = render s r := by
  have found : resource? s r.target.path = some .render := by
    rw [path]
    rfl
  have known : Resource.render.methods.contains r.method = true := by
    rw [method]
    decide
  unfold route
  rw [found]
  dsimp only
  rw [if_pos known]
  rfl

theorem answer_of_answered {events : List Event} {response : Response}
    (h : render s r = (events, .answered response)) :
    answer s r = ⟨events, { response with allowOrigin := allowedOrigin? s r }, false⟩ := by
  rw [answer_post method, answer.respond, route_render method path, h]

theorem answer_of_broken {events : List Event} {reason : Text}
    (h : render s r = (events, .broken reason)) :
    answer s r = ⟨events ++ [.unhandled reason], apology s reason, true⟩ := by
  rw [answer_post method, answer.respond, route_render method path, h]

end

end Web
end Narration
