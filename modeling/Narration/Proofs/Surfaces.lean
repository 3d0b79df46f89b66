import Mathlib
import Narration.Proofs.Bodies
import Narration.Proofs.Endings
import Narration.Proofs.LevelNames

/-! # Two surfaces, one answer

The command line reads a request from standard input and ends; the service reads it from a body and
answers. Both begin with setting up the journal, and the service needs a name. From there on each
reads, checks and tells faults in its own way. For one text that holds an object both render the
same message, or both refuse. -/
namespace Narration

/-! ## Programs that begin -/

namespace Journal

/-- What a journal needs to be set up as a program begins. -/
structure Begins (env : Environment) (s : Settings) : Prop where
  level : ∀ r, ¬Level.Misnames (levelName env s) r
  file : env.file ≠ [] → ∃ name, Directory.pathToWrite env.directories env.file = .ok name

section

variable {env : Environment} {s : Settings}

/-- The file of the environment is opened if there is one and a path leads to it. -/
theorem mapM_fileFor_null_iff : (∃ file, (env.fileFor .null).mapM env.opened = .ok file) ↔
    (env.file ≠ [] → ∃ name, Directory.pathToWrite env.directories env.file = .ok name) := by
  by_cases quiet : env.file = []
  · exact ⟨fun _ named => absurd quiet named, fun _ => ⟨none, mapM_fileFor_null quiet⟩⟩
  · rw [Environment.fileFor, if_pos quiet, Option.mapM_some, Environment.opened]
    cases Directory.pathToWrite env.directories env.file with
    | ok name => exact ⟨fun _ _ => ⟨name, rfl⟩, fun _ => ⟨some name, rfl⟩⟩
    | error e =>
      constructor
      · rintro ⟨_, opened⟩
        cases opened
      · intro leads
        obtain ⟨_, found⟩ := leads quiet
        cases found

theorem verdict_granted_iff :
    (∃ root n, Request.verdict env s {} = .granted root n) ↔ Begins env s := by
  have limit : Request.limit env s {} = Level.ofName (levelName env s) := rfl
  constructor
  · rintro ⟨root, n, verdict⟩
    rw [Request.verdict] at verdict
    cases file : (env.fileFor .null).mapM env.opened with
    | error e =>
      rw [file] at verdict
      cases verdict
    | ok file? =>
      refine ⟨fun r misnames => ?_, mapM_fileFor_null_iff.mp ⟨file?, file⟩⟩
      rw [file, limit, misnames.root] at verdict
      cases verdict
  · rintro ⟨plain, leads⟩
    obtain ⟨file?, file⟩ := mapM_fileFor_null_iff.mpr leads
    obtain ⟨n, names⟩ := Level.exists_names (levelName env s)
    refine ⟨.ofNumber n, n, ?_⟩
    rw [Request.verdict, file, limit, Level.ofName_of_names names plain]
    dsimp only
    rw [Level.root]
    dsimp only
    rw [names.threshold]

/-- **What a journal needs to begin.** -/
theorem start_iff : (∃ j, start env s = .ok j) ↔ Begins env s := by
  have due : ¬(({} : Journal).ready && !({} : Request).force) = true := by decide
  rw [← verdict_granted_iff, start, setUp_due due]
  cases Request.verdict env s {} with
  | granted root n => exact ⟨fun _ => ⟨root, n, rfl⟩, fun _ => ⟨_, rfl⟩⟩
  | unopened e | refused root r =>
    refine iff_of_false ?_ ?_
    · rintro ⟨_, same⟩
      cases same
    · rintro ⟨_, _, same⟩
      cases same

end

end Journal

section

variable [Host] {env : Journal.Environment} {s : Settings}

theorem CommandLine.launch_eq_ok {w : World} {words : List Text} {run : Run Failure Ending} :
    launch env w words = .ok run ↔ Journal.Begins env w.settings ∧ call w words = run := by
  rw [← Journal.start_iff, launch]
  cases Journal.start env w.settings with
  | error e =>
    refine iff_of_false ?_ ?_
    · intro same
      cases same
    · rintro ⟨⟨_, same⟩, _⟩
      cases same
  | ok j => exact ⟨fun same => ⟨⟨j, rfl⟩, Except.ok.inj same⟩, fun h => congrArg _ h.2⟩

theorem Web.launch_eq_ok {r : Request} {reply : Reply} :
    launch env s r = .ok reply ↔ Journal.Begins env s ∧ s.appName ≠ [] ∧ answer s r = reply := by
  rw [← Journal.start_iff, launch]
  cases Journal.start env s with
  | error e =>
    refine iff_of_false ?_ ?_
    · intro same
      cases same
    · rintro ⟨⟨_, same⟩, _⟩
      cases same
  | ok j =>
    by_cases named : s.appName = []
    · rw [serve?, if_pos named]
      refine iff_of_false ?_ fun h => h.2.1 named
      intro same
      cases same
    · rw [serve?, if_neg named]
      exact ⟨fun same => ⟨⟨j, rfl⟩, named, Except.ok.inj same⟩, fun h => congrArg _ h.2.2⟩

end

/-! ## One request on each surface -/

namespace Web

section

variable [Host] {s : Settings} {r : Request} {d : Datum}
  (body : r.rendering = (RenderRequest.check .attributes d).mapError located)

include body

/-- A body is accepted if its datum is, offered as data. -/
theorem render_of_accepted {request : RenderRequest}
    (h : RenderRequest.check .data d = .ok request) : render s r = deliver s request := by
  unfold render
  rw [body, RenderRequest.check_offer .data .attributes h]
  rfl

theorem render_of_rejected (sendable : d.Sendable) (written : d.hindrance? = none)
    {fs : List Fault}
    (h : RenderRequest.check .data d = .error fs) :
    ∃ e, (render s r).2 = .answered { status := 422, content := .json e } := by
  cases found : RenderRequest.check .attributes d with
  | ok request =>
    have := RenderRequest.check_offer .attributes .data found
    rw [h] at this
    cases this
  | error gs =>
    have inside := RenderRequest.finds_check .attributes d gs found
    obtain ⟨e, rejected⟩ := rejection_located inside written fun f hf =>
      Sendable.shared (sendable.part (inside f hf).inside)
    refine ⟨e, ?_⟩
    unfold render
    rw [body, found]
    exact rejected

end

/-- The response to a request to render that is answered. -/
theorem response_of_render [Host] {s : Settings} {r : Request} (method : r.method = "POST")
    (path : r.target.path = "/api/v1/render") {response : Response}
    (h : (render s r).2 = .answered response) :
    (answer s r).response = { response with allowOrigin := allowedOrigin? s r } := by
  rw [answer_of_answered method path (Prod.ext rfl h)]

end Web

namespace CommandLine

/-- The call that reads its request from standard input. -/
def renderInput : List Text := ["render", "--input", "-"]

theorem ofWords_renderInput [host : Host] :
    Arguments.ofWords renderInput = .ok { input := some (.text "-") } := by
  obtain ⟨room, drops⟩ := host
  cases drops <;> rfl

section

variable [Host] {w : World} {fields : List (Text × Datum)}
  (read : Json.read w.input = .ok (.object fields))

include read

/-- An object on standard input is the request. -/
theorem asks_renderInput : Asks w { input := some (.text "-") } (.object fields) :=
  .input rfl (.input rfl) read

theorem call_of_accepted {r : RenderRequest}
    (h : RenderRequest.check .data (.object fields) = .ok r) :
    call w renderInput = deliver w r := by
  rw [call_of_words ofWords_renderInput, run_of_asks_accepted (asks_renderInput read) h]

theorem call_of_rejected {fs : List Fault}
    (h : RenderRequest.check .data (.object fields) = .error fs)
    (told : Fault.untold? fs = none) : call w renderInput = .ok (.invalid fs) := by
  rw [call_of_words ofWords_renderInput, run_of_asks_told (asks_renderInput read) h told]

end

end CommandLine

/-! ## The same text on both surfaces -/

/-- Whether an ending and a response tell the same of an object: that a message is rendered, and
which, or that there is none. -/
def Agree (fields : List (Text × Datum)) (e : CommandLine.Ending) (r : Web.Response) : Prop :=
  (∀ text, (e.code = 0 ∧ e.output = text ++ "\n") ↔
    r.status = 200 ∧ ∃ template, Datum.field? "template" fields = some (.text template) ∧
      r.content = .json (.object [("text", .text text), ("template", .text template)])) ∧
  ((∃ text, e.code = 0 ∧ e.output = text ++ "\n") ∨
    (e.code = 1 ∧ e.output = [] ∧ r.status = 422))

theorem agree_rendered {fields : List (Text × Datum)} {text template : Text}
    (h : Datum.field? "template" fields = some (.text template)) {r : Web.Response}
    (status : r.status = 200) (content : r.content = .json (Message.mk text template).toDatum) :
    Agree fields (.rendered text) r := by
  refine ⟨fun other => ⟨?_, ?_⟩, .inl ⟨text, rfl, rfl⟩⟩
  · rintro ⟨_, same⟩
    have same : text = other := List.append_cancel_right same
    subst same
    exact ⟨status, template, h, content⟩
  · rintro ⟨_, _, _, other⟩
    rw [content] at other
    cases other
    exact ⟨rfl, rfl⟩

theorem agree_refused {fields : List (Text × Datum)} {e : CommandLine.Ending} (code : e.code = 1)
    (silent : e.output = []) {r : Web.Response} (status : r.status = 422) : Agree fields e r := by
  refine ⟨fun text => ⟨?_, ?_⟩, .inr ⟨code, silent, status⟩⟩
  · rintro ⟨success, _⟩
    rw [code] at success
    cases success
  · rintro ⟨success, _⟩
    rw [status] at success
    cases success

section

variable [Host] {s : Settings} {t : Text} {fields : List (Text × Datum)} {r : Web.Request}

/-- What becomes of one object on each surface agrees. -/
theorem agree_of_object (whole : t.isWhole = true) (read : Json.read t = .ok (.object fields))
    (finite : (Datum.object fields).allFinite = true)
    (inside : (Datum.object fields).isWhole = true) (files : List (Text × Bytes)) (encodes : Bool)
    (method : r.method = "POST") (path : r.target.path = "/api/v1/render")
    (json : r.isJson = true) (body : r.body = t.utf8) :
    ∃ ending, (CommandLine.call ⟨s, t, files, encodes⟩ CommandLine.renderInput).outcome =
      .ok ending ∧ Agree fields ending (Web.answer s r).response := by
  have sendable : (Datum.object fields).Sendable := ⟨finite, inside⟩
  have body := Web.Request.rendering_of_object json body whole read
  cases data : RenderRequest.check .data (.object fields) with
  | ok request =>
    have given := RenderRequest.sendable_of_check inside data
    have call := CommandLine.call_of_accepted (w := ⟨s, t, files, encodes⟩) read data
    have render : Web.render s r = Web.deliver s request := Web.render_of_accepted body data
    rcases deliver_checked ⟨s, t, files, encodes⟩ given with
      ⟨text, printed, sent⟩ | ⟨b, printed, sent⟩
    · rw [← call] at printed
      rw [← render] at sent
      have response := Web.response_of_render method path sent
      obtain ⟨_, same, template, _⟩ := RenderRequest.check_eq_ok.mp data
      cases same
      have agree := agree_rendered (Checked.required_text_eq_ok.mp template)
        (congrArg Web.Response.status response) (congrArg Web.Response.content response)
      exact ⟨_, printed, agree⟩
    · rw [← call] at printed
      rw [← render] at sent
      have response := Web.response_of_render method path sent
      refine ⟨_, printed, agree_refused rfl rfl ?_⟩
      exact congrArg Web.Response.status response
  | error fs =>
    have written := Json.hindrance?_of_read read
    have told := RenderRequest.untold?_eq_none inside written data
    have call := CommandLine.call_of_rejected (w := ⟨s, t, files, encodes⟩) read data told
    obtain ⟨d, render⟩ := Web.render_of_rejected (s := s) body sendable written data
    have response := Web.response_of_render method path render
    have printed := congrArg Run.outcome call
    refine ⟨_, printed, agree_refused rfl rfl ?_⟩
    exact congrArg Web.Response.status response

end

/-- A short request, as a text, as an object and as the body of a request to the service. -/
def nod : Text :=
  "\x7b\"template\":\"@I nod.\",\"user\":\x7b\"being\":\x7b\"general_name\":\"fox\"\x7d\x7d\x7d"

def nodFields : List (Text × Datum) :=
  [("template", .text "@I nod."),
    ("user", .object [("being", .object [("general_name", .text "fox")])])]

def nodPost : Web.Request :=
  { method := "POST"
    target := ⟨"/api/v1/render", []⟩
    headers := [("Content-Type", "application/json")]
    body := nod.utf8 }

theorem read_nod : Json.read nod = .ok (.object nodFields) := by cbv

theorem isJson_nodPost : nodPost.isJson = true := by decide +kernel

end Narration
