import Narration.Proofs.Answers

/-! # How a call ends

What a call asks for comes from its words or from an input, is checked and is rendered, and each of
these can go wrong. Most of what goes wrong is told with an exit code, and then nothing is printed.
The rest breaks the call off: an input that is not reached or is no text, a number in it of too many
digits, objects in it that lie too deep, a rejected gender with halves in its label, which cannot be
quoted, and a message with halves, which cannot be printed. -/
namespace Narration

/-- What stands in a datum without halves has none either. -/
theorem Datum.isWhole_part {d e : Datum} (whole : d.isWhole = true) (inside : e.Part d) :
    e.isWhole = true := by
  induction inside with
  | self => exact whole
  | field given _ ih => exact ih (isWhole_field whole given)

/-- The faults of a datum that has no halves and can be written out can be told. -/
theorem RenderRequest.untold?_eq_none [Host] {o : Offer} {d : Datum} {fs : List Fault}
    (whole : d.isWhole = true) (written : d.hindrance? = none)
    (rejected : RenderRequest.check o d = .error fs) : Fault.untold? fs = none := by
  have found := RenderRequest.finds_check o d fs rejected
  refine Fault.untold?_eq_none_iff.mpr ⟨fun f fault => ?_, fun f fault b breach => ?_⟩
  · exact (found f fault).isFatal_eq_false written
  · have explained := (found f fault).explained
    rw [breach] at explained
    exact explained.isWhole_message
      (Datum.isWhole_plain (Datum.isWhole_part whole (found f fault).inside))

namespace CommandLine

/-- What a call says of a fault that it ends with. -/
def Ending.message : Ending → Text
  | refused message => message
  | invalid _ => invalidRequest
  | usage complaint => complaint
  | _ => []

/-! ## What a call asks for -/

/-- The text of an input. -/
inductive Supplies (w : World) (path : Text) : Text → Prop
  | input (dash : path = "-") : Supplies w path w.input
  | file {bytes : Bytes} {t : Text} (other : path ≠ "-")
    (found : Directory.find w.files path = .ok bytes) (decoded : Text.ofUtf8? bytes = some t) :
    Supplies w path t.unifyLineEnds

section

variable [Host]

/-- The datum that arguments ask to render. -/
inductive Asks (w : World) (a : Arguments) : Datum → Prop
  | flags {d : Datum} (unnamed : a.input? = none) (given : a.datum = .ok d) : Asks w a d
  | input {path t : Text} {fields : List (Text × Datum)} (named : a.input? = some path)
    (supplied : Supplies w path t) (read : Json.read t = .ok (.object fields)) :
    Asks w a (.object fields)

/-- Arguments, or an input, that ask for nothing that could be checked, and what is said of them. -/
inductive Refuses (w : World) (a : Arguments) : Text → Prop
  | template (unnamed : a.input? = none) (lacking : a.template = none) :
    Refuses w a "Error: --template or --input is required."
  | user {template : Given} (unnamed : a.input? = none) (given : a.template = some template)
    (lacking : ∀ name, a.user.name = some name → name.isEmpty = true) :
    Refuses w a "Error: --user-name is required."
  | malformed {path t : Text} {fault : Json.Fault} {position : Nat}
    (named : a.input? = some path) (supplied : Supplies w path t)
    (read : Json.read t = .error (.malformed fault position)) :
    Refuses w a ("Error: invalid JSON input (" ++ Json.describe t fault position ++ ").")
  | shapeless {path t : Text} {d : Datum} (named : a.input? = some path)
    (supplied : Supplies w path t) (read : Json.read t = .ok d)
    (shape : ∀ fields, d ≠ .object fields) :
    Refuses w a "Error: expected a JSON object at top level."

/-- An input that nothing is said of. -/
inductive Fails (w : World) (a : Arguments) : Failure → Prop
  | unreached {path : Text} {e : PathError} (named : a.input? = some path) (other : path ≠ "-")
    (lost : Directory.find w.files path = .error e) : Fails w a (.path e)
  | undecodable {path : Text} {bytes : Bytes} (named : a.input? = some path) (other : path ≠ "-")
    (found : Directory.find w.files path = .ok bytes) (undecoded : Text.ofUtf8? bytes = none) :
    Fails w a .undecodable
  | tooLong {path t : Text} {digits : Nat} (named : a.input? = some path)
    (supplied : Supplies w path t) (read : Json.read t = .error (.tooLong digits)) :
    Fails w a (.tooLong digits)
  | tooDeep {path t : Text} (named : a.input? = some path) (supplied : Supplies w path t)
    (read : Json.read t = .error .tooDeep) : Fails w a .tooDeep

end

section

variable {w : World} {a : Arguments} {path t : Text}

theorem source_of_supplies (supplied : Supplies w path t) : source w path = .ok t := by
  cases supplied with
  | input dash => exact if_pos dash
  | file other found decoded =>
    rw [source, if_neg other, found]
    dsimp only
    rw [decoded]

theorem source_of_undecoded {bytes : Bytes} (other : path ≠ "-")
    (found : Directory.find w.files path = .ok bytes) (undecoded : Text.ofUtf8? bytes = none) :
    source w path = .error .undecodable := by
  rw [source, if_neg other, found]
  dsimp only
  rw [undecoded]

/-- The text of an input, or why there is none. -/
theorem supplies_or_not (w : World) (path : Text) :
    (∃ t, Supplies w path t) ∨
    (path ≠ "-" ∧ ∃ e, Directory.find w.files path = .error e) ∨
    (path ≠ "-" ∧ ∃ bytes, Directory.find w.files path = .ok bytes ∧
      Text.ofUtf8? bytes = none) := by
  by_cases dash : path = "-"
  · exact .inl ⟨_, .input dash⟩
  cases found : Directory.find w.files path with
  | error e => exact .inr (.inl ⟨dash, e, rfl⟩)
  | ok bytes =>
    cases decoded : Text.ofUtf8? bytes with
    | none => exact .inr (.inr ⟨dash, bytes, rfl, decoded⟩)
    | some t => exact .inl ⟨_, .file dash found decoded⟩

theorem datum?_eq_none {b : BeingArguments}
    (lacking : ∀ name, b.name = some name → name.isEmpty = true) : b.datum? = none := by
  unfold BeingArguments.datum?
  cases given : b.name with
  | none => rfl
  | some name => exact if_pos (lacking name given)

theorem exists_datum? {b : BeingArguments} {name : Given} (given : b.name = some name)
    (filled : name.isEmpty = false) : ∃ d, b.datum? = some d := by
  unfold BeingArguments.datum?
  rw [given]
  dsimp only
  rw [if_neg (by simp [filled])]
  exact ⟨_, rfl⟩

variable [Host]

theorem request_of_flags (unnamed : a.input? = none) : a.request w = a.datum := by
  rw [Arguments.request, unnamed]

theorem request_of_supplies (named : a.input? = some path) (supplied : Supplies w path t) :
    a.request w = written t := by
  rw [Arguments.request, named]
  dsimp only
  rw [source_of_supplies supplied]

theorem request_of_lost {f : Failure} (named : a.input? = some path)
    (lost : source w path = .error f) : a.request w = .error (.failed f) := by
  rw [Arguments.request, named]
  dsimp only
  rw [lost]

theorem request_of_asks {d : Datum} (asks : Asks w a d) : a.request w = .ok d := by
  cases asks with
  | flags unnamed given => rw [request_of_flags unnamed, given]
  | input named supplied read => rw [request_of_supplies named supplied, written, read]

theorem request_of_refuses {message : Text} (refuses : Refuses w a message) :
    a.request w = .error (.refused message) := by
  cases refuses with
  | template unnamed lacking => rw [request_of_flags unnamed, Arguments.datum, lacking]
  | user unnamed given lacking =>
    rw [request_of_flags unnamed, Arguments.datum, given, datum?_eq_none lacking]
  | malformed named supplied read => rw [request_of_supplies named supplied, written, read]
  | @shapeless _ _ d named supplied read shape =>
    rw [request_of_supplies named supplied, written, read]
    cases d with
    | object fields => exact absurd rfl (shape fields)
    | _ => rfl

theorem request_of_fails {f : Failure} (fails : Fails w a f) :
    a.request w = .error (.failed f) := by
  cases fails with
  | unreached named other lost =>
    exact request_of_lost named (by rw [source, if_neg other, lost])
  | undecodable named other found undecoded =>
    exact request_of_lost named (source_of_undecoded other found undecoded)
  | tooLong named supplied read => rw [request_of_supplies named supplied, written, read]
  | tooDeep named supplied read => rw [request_of_supplies named supplied, written, read]

/-- **What becomes of arguments**: they ask for a datum, or are refused, or their input fails. -/
theorem asks_or_refuses_or_fails (w : World) (a : Arguments) :
    (∃ d, Asks w a d) ∨ (∃ message, Refuses w a message) ∨ ∃ f, Fails w a f := by
  cases named : a.input? with
  | none =>
    cases template : a.template with
    | none => exact .inr (.inl ⟨_, .template named template⟩)
    | some t =>
      by_cases lacking : ∀ name, a.user.name = some name → name.isEmpty = true
      · exact .inr (.inl ⟨_, .user named template lacking⟩)
      · push Not at lacking
        obtain ⟨name, given, filled⟩ := lacking
        obtain ⟨d, user⟩ := exists_datum? given (Bool.eq_false_iff.mpr filled)
        exact .inl ⟨_, .flags named (by rw [Arguments.datum, template, user])⟩
  | some path =>
    rcases supplies_or_not w path with ⟨t, supplied⟩ | ⟨other, e, lost⟩ |
      ⟨other, bytes, found, undecoded⟩
    · cases read : Json.read t with
      | error e =>
        cases e with
        | malformed fault position => exact .inr (.inl ⟨_, .malformed named supplied read⟩)
        | tooLong digits => exact .inr (.inr ⟨_, .tooLong named supplied read⟩)
        | tooDeep => exact .inr (.inr ⟨_, .tooDeep named supplied read⟩)
      | ok d =>
        by_cases shape : ∃ fields, d = .object fields
        · obtain ⟨fields, rfl⟩ := shape
          exact .inl ⟨_, .input named supplied read⟩
        · exact .inr (.inl ⟨_, .shapeless named supplied read (not_exists.mp shape)⟩)
    · exact .inr (.inr ⟨_, .unreached named other lost⟩)
    · exact .inr (.inr ⟨_, .undecodable named other found undecoded⟩)

end

/-! ## What a call comes to -/

section

variable [Host]

/-- What breaks a call off: an input that fails, a rejected datum whose faults cannot be told, or a
message that cannot be printed. -/
inductive Breaks (w : World) (words : List Text) : Failure → Prop
  | failed {a : Arguments} {f : Failure} (said : Arguments.ofWords words = .ok a)
    (fails : Fails w a f) : Breaks w words f
  | untold {a : Arguments} {d : Datum} {fs : List Fault} {reason : Fault.Untold}
    (said : Arguments.ofWords words = .ok a) (asks : Asks w a d)
    (rejected : RenderRequest.check .data d = .error fs)
    (untold : Fault.untold? fs = some reason) : Breaks w words (.untold reason)
  | unprinted {a : Arguments} {d : Datum} {r : RenderRequest} {m : Message} {reason : Text}
    (said : Arguments.ofWords words = .ok a) (asks : Asks w a d)
    (accepted : RenderRequest.check .data d = .ok r)
    (rendered : (r.message w.settings).outcome = .ok m)
    (halves : w.unprintable? m.text = some reason) : Breaks w words (.unprinted reason)

/-- How a call ends that is not broken off: its exit code, what it prints and what it says of a
fault. -/
inductive Ends (w : World) (words : List Text) : (code : Nat) → (output message : Text) → Prop
  | helped {text : Text} (said : Arguments.ofWords words = .error (.help text)) :
    Ends w words 0 text []
  | misused {program : Text} {e : UsageError}
    (said : Arguments.ofWords words = .error (.usage program e)) :
    Ends w words 2 [] (complaint program e)
  | refused {a : Arguments} {message : Text} (said : Arguments.ofWords words = .ok a)
    (refuses : Refuses w a message) : Ends w words 1 [] message
  | invalid {a : Arguments} {d : Datum} {fs : List Fault} (said : Arguments.ofWords words = .ok a)
    (asks : Asks w a d) (rejected : RenderRequest.check .data d = .error fs)
    (told : Fault.untold? fs = none) : Ends w words 1 [] invalidRequest
  | breached {a : Arguments} {d : Datum} {r : RenderRequest} {b : Breach}
    (said : Arguments.ofWords words = .ok a) (asks : Asks w a d)
    (accepted : RenderRequest.check .data d = .ok r)
    (breached : (r.message w.settings).outcome = .error (.breach b)) :
    Ends w words 1 [] ("Error: " ++ b.message)
  | rendered {a : Arguments} {d : Datum} {r : RenderRequest} {m : Message}
    (said : Arguments.ofWords words = .ok a) (asks : Asks w a d)
    (accepted : RenderRequest.check .data d = .ok r)
    (rendered : (r.message w.settings).outcome = .ok m)
    (printable : w.unprintable? m.text = none) : Ends w words 0 (m.text ++ "\n") []

section

variable {w : World} {words : List Text} {a : Arguments}

theorem call_of_words (said : Arguments.ofWords words = .ok a) : call w words = a.run w := by
  rw [call, said]

section

variable {d : Datum} (asks : Asks w a d)

include asks

theorem run_of_asks_accepted {r : RenderRequest} (accepted : RenderRequest.check .data d = .ok r) :
    a.run w = deliver w r := by
  rw [Arguments.run, request_of_asks asks]
  dsimp only
  rw [accepted]

theorem run_of_asks_told {fs : List Fault} (rejected : RenderRequest.check .data d = .error fs)
    (told : Fault.untold? fs = none) : a.run w = .ok (.invalid fs) := by
  rw [Arguments.run, request_of_asks asks]
  dsimp only
  rw [rejected]
  dsimp only
  rw [told]

theorem run_of_asks_untold {fs : List Fault} (rejected : RenderRequest.check .data d = .error fs)
    {reason : Fault.Untold} (untold : Fault.untold? fs = some reason) :
    a.run w = .fail (.untold reason) := by
  rw [Arguments.run, request_of_asks asks]
  dsimp only
  rw [rejected]
  dsimp only
  rw [untold]

end

theorem deliver_of_message {r : RenderRequest} {m : Message}
    (rendered : (r.message w.settings).outcome = .ok m) (printable : w.unprintable? m.text = none) :
    (deliver w r).outcome = .ok (.rendered m.text) := by
  unfold RenderRequest.message at rendered
  simp [deliver, rendered, printable]

theorem deliver_of_unprintable {r : RenderRequest} {m : Message} {reason : Text}
    (rendered : (r.message w.settings).outcome = .ok m)
    (halves : w.unprintable? m.text = some reason) :
    (deliver w r).outcome = .error (.unprinted reason) := by
  unfold RenderRequest.message at rendered
  simp [deliver, rendered, halves]

theorem deliver_of_breach {r : RenderRequest} {b : Breach}
    (breached : (r.message w.settings).outcome = .error (.breach b)) :
    (deliver w r).outcome = .ok (.refused ("Error: " ++ b.message)) := by
  unfold RenderRequest.message at breached
  simp [deliver, breached]

theorem outcome_of_breaks {f : Failure} (breaks : Breaks w words f) :
    (call w words).outcome = .error f := by
  cases breaks with
  | failed said fails =>
    rw [call_of_words said, Arguments.run, request_of_fails fails]
    rfl
  | untold said asks rejected untold =>
    rw [call_of_words said, run_of_asks_untold asks rejected untold]
    rfl
  | unprinted said asks accepted rendered halves =>
    rw [call_of_words said, run_of_asks_accepted asks accepted,
      deliver_of_unprintable rendered halves]

theorem outcome_of_ends {code : Nat} {output message : Text}
    (ends : Ends w words code output message) :
    ∃ e, (call w words).outcome = .ok e ∧ e.code = code ∧ e.output = output ∧
      e.message = message := by
  cases ends with
  | helped said =>
    refine ⟨.help output, ?_, rfl, rfl, rfl⟩
    rw [call, said]
    rfl
  | @misused program e said =>
    refine ⟨.usage (complaint program e), ?_, rfl, rfl, rfl⟩
    rw [call, said]
    rfl
  | refused said refuses =>
    refine ⟨.refused message, ?_, rfl, rfl, rfl⟩
    rw [call_of_words said, Arguments.run, request_of_refuses refuses]
    rfl
  | @invalid _ _ fs said asks rejected told =>
    refine ⟨.invalid fs, ?_, rfl, rfl, rfl⟩
    rw [call_of_words said, run_of_asks_told asks rejected told]
    rfl
  | @breached _ _ _ b said asks accepted breached =>
    refine ⟨.refused ("Error: " ++ b.message), ?_, rfl, rfl, rfl⟩
    rw [call_of_words said, run_of_asks_accepted asks accepted, deliver_of_breach breached]
  | @rendered _ _ _ m said asks accepted rendered printable =>
    refine ⟨.rendered m.text, ?_, rfl, rfl, rfl⟩
    rw [call_of_words said, run_of_asks_accepted asks accepted,
      deliver_of_message rendered printable]

section

variable {d : Datum} {r : RenderRequest} (said : Arguments.ofWords words = .ok a)
  (asks : Asks w a d) (accepted : RenderRequest.check .data d = .ok r)

include said asks accepted

/-- A request that has passed the check is rendered, or a marker is bad. A message is printed, or
cannot be. -/
theorem breaks_or_ends_of_accepted :
    (∃ f, Breaks w words f) ∨ ∃ code output message, Ends w words code output message := by
  rcases Web.deliver_cases w.settings r with ⟨m, rendered, _⟩ | ⟨b, breached, _⟩
  · cases printable : w.unprintable? m.text with
    | none => exact .inr ⟨_, _, _, .rendered said asks accepted rendered printable⟩
    | some reason => exact .inl ⟨_, .unprinted said asks accepted rendered printable⟩
  · exact .inr ⟨_, _, _, .breached said asks accepted breached⟩

/-- A request without halves has a message without halves, if it has one. -/
theorem ends_of_whole (whole : d.isWhole = true) :
    ∃ code output message, Ends w words code output message := by
  rcases Web.deliver_cases w.settings r with ⟨m, rendered, sent, _⟩ | ⟨b, breached, _⟩
  · have sendable := sent (RenderRequest.sendable_of_check whole accepted)
    have given : Datum.field? "text" [("text", .text m.text), ("template", .text m.template)] =
      some (.text m.text) := rfl
    have text : m.text.isWhole = true := Datum.sendable_text.mp (sendable.field given)
    exact ⟨_, _, _, .rendered said asks accepted rendered (w.unprintable?_eq_none text)⟩
  · exact ⟨_, _, _, .breached said asks accepted breached⟩

end

/-- **What a call comes to**: every call is broken off or ends. -/
theorem breaks_or_ends (w : World) (words : List Text) :
    (∃ f, Breaks w words f) ∨ ∃ code output message, Ends w words code output message := by
  cases said : Arguments.ofWords words with
  | error refusal =>
    cases refusal with
    | help text => exact .inr ⟨_, _, _, .helped said⟩
    | usage program e => exact .inr ⟨_, _, _, .misused said⟩
  | ok a =>
    rcases asks_or_refuses_or_fails w a with ⟨d, asks⟩ | ⟨message, refuses⟩ | ⟨f, fails⟩
    · cases checked : RenderRequest.check .data d with
      | error fs =>
        cases told : Fault.untold? fs with
        | none => exact .inr ⟨_, _, _, .invalid said asks checked told⟩
        | some reason => exact .inl ⟨_, .untold said asks checked told⟩
      | ok r => exact breaks_or_ends_of_accepted said asks checked
    · exact .inr ⟨_, _, _, .refused said refuses⟩
    · exact .inl ⟨_, .failed said fails⟩

theorem Refuses.message_ne_nil {message : Text} (refuses : Refuses w a message) :
    message ≠ [] := by
  cases refuses with
  | malformed =>
    rw [List.append_assoc]
    exact List.append_ne_nil_of_left_ne_nil (by decide) _
  | _ => decide

/-- An ending that is no success says so, and prints nothing. -/
theorem Ends.clean {code : Nat} {output message : Text} (ends : Ends w words code output message) :
    (code = 0 ∨ (code = 1 ∧ message ≠ []) ∨ code = 2) ∧ (output ≠ [] → code = 0) := by
  cases ends with
  | helped => exact ⟨.inl rfl, fun _ => rfl⟩
  | misused => exact ⟨.inr (.inr rfl), fun printed => absurd rfl printed⟩
  | refused said refuses =>
    exact ⟨.inr (.inl ⟨rfl, refuses.message_ne_nil⟩), fun printed => absurd rfl printed⟩
  | invalid => exact ⟨.inr (.inl ⟨rfl, by decide⟩), fun printed => absurd rfl printed⟩
  | breached =>
    have said := List.append_ne_nil_of_left_ne_nil (s := Text.ofString "Error: ") (by decide)
    exact ⟨.inr (.inl ⟨rfl, said _⟩), fun printed => absurd rfl printed⟩
  | rendered => exact ⟨.inl rfl, fun _ => rfl⟩

end

/-- **A call ends cleanly unless it is broken off.** A call is broken off exactly by an input that
fails, by rejected data that cannot be told of or by a message that cannot be printed, and in every
other case it ends: with the code 0 and a text for a message or for help, with the code 1 and words
for an input that is refused, for data that are rejected and for a bad marker, and with the code 2
for words that are wrong. Whatever is printed is printed with the code 0. Data that have no halves
and can be written out never break a call off. -/
theorem call_ends_unless_broken (w : World) (words : List Text) :
    (∀ f, (call w words).outcome = .error f ↔ Breaks w words f) ∧
    (∀ code output message, Ends w words code output message ↔
      ∃ e, (call w words).outcome = .ok e ∧ e.code = code ∧ e.output = output ∧
        e.message = message) ∧
    (∀ code output message, Ends w words code output message →
      (code = 0 ∨ (code = 1 ∧ message ≠ []) ∨ code = 2) ∧ (output ≠ [] → code = 0)) ∧
    (∀ a d, Arguments.ofWords words = .ok a → Asks w a d → d.isWhole = true →
      d.hindrance? = none → ∃ code output message, Ends w words code output message) := by
  refine ⟨fun f => ⟨fun broken => ?_, outcome_of_breaks⟩,
    fun code output message => ⟨outcome_of_ends, ?_⟩, fun _ _ _ ends => ends.clean, ?_⟩
  · rcases breaks_or_ends w words with ⟨f', breaks⟩ | ⟨code, output, message, ends⟩
    · cases broken.symm.trans (outcome_of_breaks breaks)
      exact breaks
    · obtain ⟨e, ended, _⟩ := outcome_of_ends ends
      cases broken.symm.trans ended
  · rintro ⟨e, ended, rfl, rfl, rfl⟩
    rcases breaks_or_ends w words with ⟨f, breaks⟩ | ⟨code, output, message, ends⟩
    · cases ended.symm.trans (outcome_of_breaks breaks)
    · obtain ⟨e', same, rfl, rfl, rfl⟩ := outcome_of_ends ends
      cases ended.symm.trans same
      exact ends
  · intro a d said asks whole written
    cases checked : RenderRequest.check .data d with
    | error fs =>
      have told := RenderRequest.untold?_eq_none whole written checked
      exact ⟨_, _, _, .invalid said asks checked told⟩
    | ok r => exact ends_of_whole said asks checked whole

end

/-- A file that holds no text breaks its call off, while a call without flags ends with words. -/
theorem call_ends_unless_broken_bytes :
    let w : World := { files := [("note", [0xff])] }
    (call w ["render", "--input", "note"]).outcome = .error .undecodable ∧
    ∃ e, (call w ["render"]).outcome = .ok e ∧ e.code = 1 ∧ e.output = [] ∧
      e.message = "Error: --template or --input is required." := by
  intro w
  have said : Arguments.ofWords ["render", "--input", "note"] =
      .ok { input := some (.text "note") } := by
    decide
  have found : Directory.find w.files "note" = .ok [0xff] := by decide
  have breaks : Breaks w ["render", "--input", "note"] .undecodable :=
    .failed said (.undecodable rfl (by decide) found (by decide))
  have bare : Arguments.ofWords ["render"] = .ok {} := by decide
  have ends : Ends w ["render"] 1 [] "Error: --template or --input is required." :=
    .refused bare (.template rfl rfl)
  exact ⟨((call_ends_unless_broken w _).1 _).mpr breaks,
    ((call_ends_unless_broken w ["render"]).2.1 _ _ _).mp ends⟩

/-- Not every call ends: a path that leads nowhere, one to a directory and bytes that are no text
all break it off. -/
theorem unread_input_breaks_call :
    (call {} ["render", "--input", "missing.json"]).outcome =
      .error (.path (.missing "missing.json")) ∧
    (call { files := [("notes/one", [])] } ["render", "--input", "notes"]).outcome =
      .error (.path (.directory "notes")) ∧
    (call { files := [("note", [0xff])] } ["render", "--input", "note"]).outcome =
      .error .undecodable ∧
    ¬∀ (w : World) (words : List Text), ∃ e, (call w words).outcome = .ok e := by
  have missing : (call {} ["render", "--input", "missing.json"]).outcome =
      .error (.path (.missing "missing.json")) := by
    rfl
  refine ⟨missing, by rfl, by rfl, fun every => ?_⟩
  obtain ⟨e, ended⟩ := every {} ["render", "--input", "missing.json"]
  cases missing.symm.trans ended

end CommandLine
end Narration
