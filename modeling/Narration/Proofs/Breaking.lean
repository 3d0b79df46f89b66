import Mathlib
import Narration.Proofs.Answers
import Narration.Proofs.Bodies

/-! # When a request to render breaks the service

Whatever a client sends as a body, it is read, checked and rendered without a fault of the service:
bytes that are no text, bad JSON, faults and bad markers are all told to the client. What breaks
the service is only what it has to send. JSON has no numbers that are not finite and UTF-8 has no
halves, but a client can send both, and an answer that would quote them is given up. -/
namespace Narration.Web

/-- What asks for an answer that cannot be sent: a rejected datum to quote, or a message. -/
inductive Unanswerable [Host] (s : Settings) (r : Request) : Prop
  | quoted {d : Datum} {fs : List Fault} {f : Fault} (body : r.body ≠ []) (read : r.datum = .ok d)
    (found : RenderRequest.check .attributes d = .error fs) (fault : f ∈ fs)
    (given : ¬(shared f.given).Sendable)
  | told {request : RenderRequest} {m : Message} (accepted : r.rendering = .ok request)
    (rendered : (request.message s).outcome = .ok m) (unsent : ¬m.toDatum.Sendable)

/-- An answer that tells the client of its request, with no fault of the service on the way. -/
structure Calm (events : List Event) (response : Response) : Prop where
  status : response.status = 200 ∨ response.status = 400 ∨ response.status = 422
  handled : ∀ reason, .unhandled reason ∉ events

section

variable [Host] {s : Settings} {r : Request}

/-! ## How a body is taken -/

/-- A body that gives no datum cannot be read at all, or is malformed somewhere. -/
theorem datum_error {e : BodyError} (h : r.datum = .error e) :
    e = .unreadable ∨ ∃ fault position, e = .faults [.malformed fault position] := by
  unfold Request.datum at h
  repeat' split at h
  all_goals cases h
  · exact .inl rfl
  · exact .inr ⟨_, _, rfl⟩
  · exact .inl rfl

/-- A body gives nothing that cannot be written out. -/
theorem hindrance?_of_datum {d : Datum} (h : r.datum = .ok d) : d.hindrance? = none := by
  unfold Request.datum at h
  split at h
  · split at h
    · cases h
    · split at h
      · rename_i read
        cases h
        exact Json.hindrance?_of_read read
      · cases h
      · cases h
  · cases h
    exact Datum.hindranceWithin?_text _

/-- **How a body is taken**: there is none, or it gives no datum, or its datum is checked. -/
theorem rendering_cases (r : Request) :
    (r.body = [] ∧ r.rendering = .error (located [⟨.missing, [], .null⟩])) ∨
    (∃ e, r.datum = .error e ∧ r.rendering = .error e) ∨
    ∃ d, r.body ≠ [] ∧ r.datum = .ok d ∧
      r.rendering = (RenderRequest.check .attributes d).mapError located := by
  by_cases body : r.body = []
  · exact .inl ⟨body, if_pos body⟩
  refine .inr ?_
  cases read : r.datum with
  | error e =>
    refine .inl ⟨e, rfl, ?_⟩
    rw [Request.rendering, if_neg body, read]
    rfl
  | ok d =>
    refine .inr ⟨d, body, rfl, ?_⟩
    rw [Request.rendering, if_neg body, read]
    rfl

theorem exists_of_accepted {request : RenderRequest} (h : r.rendering = .ok request) :
    ∃ d, r.datum = .ok d ∧ RenderRequest.check .attributes d = .ok request := by
  rcases rendering_cases r with ⟨_, rendering⟩ | ⟨e, _, rendering⟩ | ⟨d, _, read, rendering⟩
  · cases rendering.symm.trans h
  · cases rendering.symm.trans h
  · refine ⟨d, read, ?_⟩
    rw [rendering] at h
    cases checked : RenderRequest.check .attributes d with
    | error fs =>
      rw [checked] at h
      cases h
    | ok request =>
      rw [checked] at h
      cases h
      rfl

omit [Host] in
theorem calm_rejected (d : Datum) : Calm [] { status := 422, content := .json d } :=
  ⟨.inr (.inr rfl), fun _ => List.not_mem_nil⟩

/-- A body that gives no datum is the client's fault. -/
theorem calm_of_unread {e : BodyError} (h : r.datum = .error e) :
    ∃ response, rejection e = .answered response ∧ Calm [] response := by
  rcases datum_error h with rfl | ⟨fault, position, rfl⟩
  · exact ⟨_, rfl, .inr (.inl rfl), fun _ => List.not_mem_nil⟩
  · obtain ⟨d, rejected⟩ := rejection_malformed fault position
    exact ⟨_, rejected, calm_rejected d⟩

/-! ## What comes of it -/

/-- What the service does with a request to render: it answers, or it cannot send what is asked. -/
inductive Course (s : Settings) (r : Request) : Prop
  | answered {events : List Event} {response : Response}
    (outcome : render s r = (events, .answered response)) (calm : Calm events response)
    (answerable : ¬Unanswerable s r)
  | broken {events : List Event} {reason : Text} (outcome : render s r = (events, .broken reason))
    (unanswerable : Unanswerable s r)

theorem render_of_error {e : BodyError} (h : r.rendering = .error e) :
    render s r = ([], rejection e) := by
  rw [render, h]

/-- A rejection that is answered, where nothing is rejected that cannot be quoted. -/
theorem Course.of_answered {e : BodyError} {response : Response}
    (rendering : r.rendering = .error e) (rejected : rejection e = .answered response)
    (calm : Calm [] response)
    (quotable : ∀ d fs, r.body ≠ [] → r.datum = .ok d →
      RenderRequest.check .attributes d = .error fs → ∀ f ∈ fs, (shared f.given).Sendable) :
    Course s r := by
  have outcome := render_of_error (s := s) rendering
  rw [rejected] at outcome
  refine .answered outcome calm ?_
  rintro (⟨body, read, found, fault, unsent⟩ | ⟨accepted, _, _⟩)
  · exact unsent (quotable _ _ body read found _ fault)
  · cases rendering.symm.trans accepted

theorem Course.of_rejected {d : Datum} {fs : List Fault} (body : r.body ≠ [])
    (read : r.datum = .ok d) (found : RenderRequest.check .attributes d = .error fs)
    (rendering : r.rendering = .error (located fs)) : Course s r := by
  have inside := RenderRequest.finds_check .attributes d fs found
  by_cases unsent : ∃ f ∈ fs, ¬(shared f.given).Sendable
  · obtain ⟨f, fault, unsent⟩ := unsent
    obtain ⟨reason, rejected⟩ := rejection_broken inside fault unsent
    have outcome := render_of_error (s := s) rendering
    rw [rejected] at outcome
    exact .broken outcome (.quoted body read found fault unsent)
  · have given : ∀ f ∈ fs, (shared f.given).Sendable := by
      simpa using unsent
    obtain ⟨e, rejected⟩ := rejection_located inside (hindrance?_of_datum read) given
    refine .of_answered rendering rejected (calm_rejected e) ?_
    intro d' fs' _ read' found'
    cases read.symm.trans read'
    cases found.symm.trans found'
    exact given

theorem Course.of_accepted {d : Datum} {request : RenderRequest} (read : r.datum = .ok d)
    (passed : RenderRequest.check .attributes d = .ok request)
    (rendering : r.rendering = .ok request) : Course s r := by
  have outcome : render s r = deliver s request := by rw [render, rendering]
  have only (h : Unanswerable s r) :
      ∃ m, (request.message s).outcome = .ok m ∧ ¬m.toDatum.Sendable := by
    rcases h with ⟨_, read', found, _, _⟩ | ⟨accepted, rendered, unsent⟩
    · cases read.symm.trans read'
      cases passed.symm.trans found
    · cases rendering.symm.trans accepted
      exact ⟨_, rendered, unsent⟩
  rcases deliver_cases s request with ⟨m, rendered, _, done⟩ | ⟨b, failed, done⟩
  · rcases delivery_cases m with ⟨sent, delivered⟩ | ⟨unsent, reason, delivered⟩
    · rw [done, delivered] at outcome
      refine .answered outcome ⟨.inl rfl, by simp [Message.started]⟩ fun h => ?_
      obtain ⟨m', rendered', unsent⟩ := only h
      cases rendered.symm.trans rendered'
      exact unsent sent
    · rw [done, delivered] at outcome
      exact .broken outcome (.told rendering rendered unsent)
  · rw [done] at outcome
    refine .answered outcome ⟨.inr (.inr rfl), ?_⟩ fun h => ?_
    · simp [Message.started, Message.rejected]
    · obtain ⟨m, rendered, _⟩ := only h
      cases failed.symm.trans rendered

/-- **Every request to render takes its course**, whatever its body. -/
theorem render_course (s : Settings) (r : Request) : Course s r := by
  rcases rendering_cases r with
    ⟨empty, rendering⟩ | ⟨e, unread, rendering⟩ | ⟨d, body, read, rendering⟩
  · have inside : ∀ f ∈ [(⟨.missing, [], .null⟩ : Fault)], f.FoundIn .null := by
      intro f hf
      cases List.mem_singleton.mp hf
      exact ⟨trivial, by simp, .self⟩
    have given : ∀ f ∈ [(⟨.missing, [], .null⟩ : Fault)], (shared f.given).Sendable := by
      simp [shared]
    obtain ⟨d, rejected⟩ := rejection_located inside Datum.hindranceWithin?_null given
    exact .of_answered rendering rejected (calm_rejected d) fun _ _ body => absurd empty body
  · obtain ⟨response, rejected, calm⟩ := calm_of_unread unread
    refine .of_answered rendering rejected calm fun d _ _ read => ?_
    cases unread.symm.trans read
  · cases checked : RenderRequest.check .attributes d with
    | error fs => exact .of_rejected body read checked (by rw [rendering, checked]; rfl)
    | ok request => exact .of_accepted read checked (by rw [rendering, checked]; rfl)

/-- What can be sent asks for nothing else. -/
theorem not_unanswerable_of_sendable (h : ∀ d, r.datum = .ok d → d.Sendable) :
    ¬Unanswerable s r := by
  rintro (⟨_, read, found, fault, unsent⟩ | ⟨accepted, rendered, unsent⟩)
  · have inside := RenderRequest.finds_check .attributes _ _ found _ fault
    exact unsent (Sendable.shared ((h _ read).part inside.inside))
  · obtain ⟨d, read, passed⟩ := exists_of_accepted accepted
    have given := RenderRequest.sendable_of_check (h d read).whole passed
    rcases deliver_cases s _ with ⟨m, rendered', sent, _⟩ | ⟨b, failed, _⟩
    · cases rendered.symm.trans rendered'
      exact unsent (sent given)
    · cases failed.symm.trans rendered

/-- **What breaks the service.** A service with a name replies to every request to render. Its reply
breaks exactly if it would have to quote a rejected datum, or to tell a message, that cannot be
sent; so it never breaks over a body whose datum can be. Unless it breaks, it tells of success or of
a fault of the client, and reports no fault of its own. -/
theorem serve_breaks_iff_unanswerable (s : Settings) (r : Request) (method : r.method = "POST")
    (path : r.target.path = "/api/v1/render") :
    (s.appName ≠ [] → ∃ reply, serve? s r = some reply) ∧
    ∀ reply, serve? s r = some reply →
      (reply.breaks = true ↔ Unanswerable s r) ∧
      (reply.breaks = false →
        (reply.response.status = 200 ∨ reply.response.status = 400 ∨
          reply.response.status = 422) ∧
        ∀ reason, .unhandled reason ∉ reply.events) ∧
      (reply.breaks = true →
        reply.response.status = 500 ∧ ∃ reason, .unhandled reason ∈ reply.events) ∧
      ((∀ d, r.datum = .ok d → d.Sendable) → reply.breaks = false) := by
  refine ⟨fun named => ⟨answer s r, if_neg named⟩, fun reply served => ?_⟩
  have reply_eq : reply = answer s r := by
    unfold serve? at served
    split at served
    · cases served
    · cases served
      rfl
  subst reply_eq
  cases render_course s r with
  | answered outcome calm answerable =>
    rw [answer_of_answered method path outcome]
    exact ⟨⟨fun h => Bool.noConfusion h, fun h => absurd h answerable⟩,
      fun _ => ⟨calm.status, calm.handled⟩, fun h => Bool.noConfusion h, fun _ => rfl⟩
  | broken outcome unanswerable =>
    rw [answer_of_broken method path outcome]
    refine ⟨⟨fun _ => unanswerable, fun _ => rfl⟩, fun h => Bool.noConfusion h,
      fun _ => ⟨rfl, ?_⟩, fun h => ?_⟩
    · exact ⟨_, List.mem_append_right _ (List.mem_singleton.mpr rfl)⟩
    · exact absurd unanswerable (not_unanswerable_of_sendable h)

end

/-- A request whose body is a text of JSON. -/
def jsonPost (t : Text) : Request :=
  { method := "POST"
    target := ⟨"/api/v1/render", []⟩
    headers := [("Content-Type", "application/json")]
    body := t.utf8 }

theorem isJson_jsonPost (t : Text) : (jsonPost t).isJson = true := by
  have plain : (jsonPost []).isJson = true := by decide +kernel
  exact plain

/-- A template that is half a character, escaped in ASCII. -/
def halfText : Text :=
  "\x7b\"template\":\"\\ud800\",\"capitalize\":false,\"user\":"
    ++ "\x7b\"being\":\x7b\"general_name\":\"fox\"\x7d\x7d\x7d"

def halfRequest : RenderRequest :=
  { template := [.half 0]
    user := ⟨.third, ⟨"fox", .genderless, none⟩⟩
    target := none
    capitalize := false }

theorem rendering_halfText : (jsonPost halfText).rendering = .ok halfRequest := by
  have read : Json.read halfText = .ok (.object [("template", .text [.half 0]),
      ("capitalize", .bool false),
      ("user", .object [("being", .object [("general_name", .text "fox")])])]) := by
    cbv
  rw [Request.rendering_of_object (isJson_jsonPost _) rfl rfl read]
  rfl

theorem told_halfRequest :
    (halfRequest.message {}).outcome = .ok ⟨[.half 0], [.half 0]⟩ := by
  cbv

/-- A half that passes the check comes back in the message. -/
theorem serve_breaks_iff_unanswerable_half :
    (jsonPost halfText).method = "POST" ∧
    (jsonPost halfText).target.path = "/api/v1/render" ∧
    ∃ reply, serve? {} (jsonPost halfText) = some reply ∧ reply.breaks = true ∧
      reply.response.status = 500 := by
  have breaking := serve_breaks_iff_unanswerable {} (jsonPost halfText) rfl rfl
  obtain ⟨reply, served⟩ := breaking.1 (by decide)
  obtain ⟨breaks_iff, _, apology, _⟩ := breaking.2 reply served
  have told : Unanswerable {} (jsonPost halfText) :=
    .told rendering_halfText told_halfRequest fun h => absurd h.whole (by decide)
  have breaks := breaks_iff.mpr told
  exact ⟨rfl, rfl, reply, served, breaks, (apology breaks).1⟩

/-- A template that is no number is quoted, and no number cannot be. -/
def nanText : Text := "\x7b\"template\":NaN\x7d"

/-- Not every request to render is answered as a success or a fault of the client. -/
theorem nan_breaks_serve :
    (jsonPost nanText).method = "POST" ∧ (jsonPost nanText).target.path = "/api/v1/render" ∧
    ∃ reply, serve? {} (jsonPost nanText) = some reply ∧ reply.response.status = 500 ∧
      .unhandled "Out of range float values are not JSON compliant" ∈ reply.events := by
  have read : Json.read nanText = .ok (.object [("template", .float .nan)]) := by cbv
  have rendering := Request.rendering_of_object (isJson_jsonPost _) rfl rfl read
  have outcome : render {} (jsonPost nanText) =
      ([], .broken "Out of range float values are not JSON compliant") := by
    rw [render_of_error rendering]
    rfl
  refine ⟨rfl, rfl, answer {} (jsonPost nanText), rfl, ?_⟩
  rw [answer_of_broken rfl rfl outcome]
  exact ⟨rfl, List.mem_singleton.mpr rfl⟩

end Narration.Web
