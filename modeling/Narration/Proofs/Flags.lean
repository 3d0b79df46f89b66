import Narration.Proofs.FlagWords
import Narration.Proofs.Surfaces

/-! # Flags and inputs

A request can be put together from flags or be written as an object. Flags and an object that say
the same are checked alike and rendered alike. Once an input is named, the flags beside it are not
looked at. -/
namespace Narration

/-! ## Objects that are checked alike -/

namespace Checked

variable {α : Type} {name : Text} {check : Datum → Checked α} {fields others : List (Text × Datum)}

/-- A field that may be left out is checked as if it stood there with a datum of its own. -/
theorem optional_eq {default : α} {base : Datum} (spare : check base = .ok default) :
    optional name default check fields =
      (check ((Datum.field? name fields).getD base)).under name := by
  unfold optional
  cases Datum.field? name fields with
  | some d => rfl
  | none =>
    rw [Option.getD_none, spare]
    rfl

theorem optional_congr {default : α} (base : Datum) (spare : check base = .ok default)
    (same : check ((Datum.field? name fields).getD base) =
      check ((Datum.field? name others).getD base)) :
    optional name default check fields = optional name default check others := by
  rw [optional_eq spare, optional_eq spare, same]

theorem required_congr {d e : Datum} (given : Datum.field? name fields = some d)
    (given' : Datum.field? name others = some e) (same : check d = check e) :
    required name check fields = required name check others := by
  rw [required, given, required, given']
  dsimp only
  rw [same]

end Checked

section

variable [Host] {o : Offer} {fields others : List (Text × Datum)}

theorem Being.check_congr
    (general : Checked.required "general_name" Checked.text fields =
      Checked.required "general_name" Checked.text others)
    (gender : Checked.optional "gender" .genderless Gender.check fields =
      Checked.optional "gender" .genderless Gender.check others)
    (specific : Checked.optional "specific_name" none (Checked.nullable Checked.text) fields =
      Checked.optional "specific_name" none (Checked.nullable Checked.text) others) :
    Being.check o (.object fields) = Being.check o (.object others) := by
  unfold Being.check
  rw [bind_of_ok (Offer.record_eq_ok.mpr rfl), bind_of_ok (Offer.record_eq_ok.mpr rfl), general,
    gender, specific]

theorem BeingSpec.check_congr
    (person : Checked.optional "person" .third Person.check fields =
      Checked.optional "person" .third Person.check others)
    (being : Checked.required "being" (Being.check o) fields =
      Checked.required "being" (Being.check o) others) :
    BeingSpec.check o (.object fields) = BeingSpec.check o (.object others) := by
  unfold BeingSpec.check
  rw [bind_of_ok (Offer.record_eq_ok.mpr rfl), bind_of_ok (Offer.record_eq_ok.mpr rfl), person,
    being]

theorem RenderRequest.check_congr
    (template : Checked.required "template" Checked.text fields =
      Checked.required "template" Checked.text others)
    (user : Checked.required "user" (BeingSpec.check o) fields =
      Checked.required "user" (BeingSpec.check o) others)
    (target : Checked.optional "target" none (Checked.nullable (BeingSpec.check o)) fields =
      Checked.optional "target" none (Checked.nullable (BeingSpec.check o)) others)
    (capitalize : Checked.optional "capitalize" true Checked.bool fields =
      Checked.optional "capitalize" true Checked.bool others) :
    RenderRequest.check o (.object fields) = RenderRequest.check o (.object others) := by
  unfold RenderRequest.check
  rw [bind_of_ok (Offer.record_eq_ok.mpr rfl), bind_of_ok (Offer.record_eq_ok.mpr rfl), template,
    user, target, capitalize]

end

namespace CommandLine

/-! ## What an object says -/

/-- An object that describes a being by its flags. What is left out, here or there, is what flags
stand at by themselves. -/
structure DescribesBeing (given : Part → Option Text) (name : Text)
    (fields : List (Text × Datum)) : Prop where
  person : (Datum.field? "person" fields).getD (.text "3") = .text ((given .person).getD "3")
  being : ∃ inner, Datum.field? "being" fields = some (.object inner) ∧
    Datum.field? "general_name" inner = some (.text name) ∧
    (Datum.field? "gender" inner).getD (.text "genderless") =
      .text ((given .gender).getD "genderless") ∧
    (Datum.field? "specific_name" inner).getD .null = ((given .specific).map .text).getD .null

/-- What describes a being that need not be there. Without a name, or with an empty one, there is
none. -/
inductive DescribesTarget (given : Part → Option Text) : Datum → Prop
  | absent (unnamed : (given .name).getD [] = []) : DescribesTarget given .null
  | present {name : Text} {fields : List (Text × Datum)} (named : given .name = some name)
    (filled : name ≠ []) (being : DescribesBeing given name fields) :
    DescribesTarget given (.object fields)

/-- An object that says what flags say. -/
structure Describes (flags : List (Key × Text)) (fields : List (Text × Datum)) : Prop where
  template : ∃ t, last? flags .template = some t ∧
    Datum.field? "template" fields = some (.text t)
  user : ∃ name inner, last? flags (.user .name) = some name ∧ name ≠ [] ∧
    Datum.field? "user" fields = some (.object inner) ∧
    DescribesBeing (fun p => last? flags (.user p)) name inner
  target : DescribesTarget (fun p => last? flags (.target p))
    ((Datum.field? "target" fields).getD .null)
  capitalize : (Datum.field? "capitalize" fields).getD (.bool true) =
    .bool (last? flags .noCapitalize).isNone

section

variable [Host] {given : Part → Option Text} {name : Text}
  {fields others : List (Text × Datum)}

/-- Objects that describe one being are checked alike. -/
theorem check_eq_of_describesBeing (h : DescribesBeing given name fields)
    (h' : DescribesBeing given name others) :
    BeingSpec.check .data (.object fields) = BeingSpec.check .data (.object others) := by
  obtain ⟨inner, being, general, gender, specific⟩ := h.being
  obtain ⟨inner', being', general', gender', specific'⟩ := h'.being
  have within : Being.check .data (.object inner) = Being.check .data (.object inner') := by
    refine Being.check_congr (Checked.required_congr general general' rfl) ?_ ?_
    · exact Checked.optional_congr (.text "genderless") rfl (by rw [gender, gender'])
    · exact Checked.optional_congr .null rfl (by rw [specific, specific'])
  refine BeingSpec.check_congr ?_ (Checked.required_congr being being' within)
  exact Checked.optional_congr (.text "3") rfl (by rw [h.person, h'.person])

theorem check_eq_of_describesTarget {d e : Datum} (h : DescribesTarget given d)
    (h' : DescribesTarget given e) :
    Checked.nullable (BeingSpec.check .data) d = Checked.nullable (BeingSpec.check .data) e := by
  cases h with
  | absent unnamed =>
    cases h' with
    | absent => rfl
    | present named filled =>
      rw [named] at unnamed
      exact absurd unnamed filled
  | present named filled being =>
    cases h' with
    | absent unnamed =>
      rw [named] at unnamed
      exact absurd unnamed filled
    | present named' filled' being' =>
      cases named.symm.trans named'
      exact congrArg (Except.map some) (check_eq_of_describesBeing being being')

/-- **Objects that say what the same flags say are checked alike.** -/
theorem check_eq_of_describes {flags : List (Key × Text)} (h : Describes flags fields)
    (h' : Describes flags others) :
    RenderRequest.check .data (.object fields) = RenderRequest.check .data (.object others) := by
  obtain ⟨t, said, template⟩ := h.template
  obtain ⟨t', said', template'⟩ := h'.template
  cases said.symm.trans said'
  obtain ⟨name, inner, named, _, user, being⟩ := h.user
  obtain ⟨name', inner', named', _, user', being'⟩ := h'.user
  cases named.symm.trans named'
  refine RenderRequest.check_congr (Checked.required_congr template template' rfl)
    (Checked.required_congr user user' (check_eq_of_describesBeing being being')) ?_ ?_
  · exact Checked.optional_congr .null rfl (check_eq_of_describesTarget h.target h'.target)
  · exact Checked.optional_congr (.bool true) rfl (by rw [h.capitalize, h'.capitalize])

end

/-! ## The object of flags -/

/-- A being that flags describe, as an object. -/
def beingFields (given : Part → Option Text) (name : Text) : List (Text × Datum) :=
  [("person", .text ((given .person).getD "3")),
    ("being", .object
      [("general_name", .text name), ("gender", .text ((given .gender).getD "genderless")),
        ("specific_name", ((given .specific).map .text).getD .null)])]

/-- A being that need not be there. -/
def targetDatum (given : Part → Option Text) : Datum :=
  match given .name with
  | some (c :: name) => .object (beingFields given (c :: name))
  | _ => .null

/-- The object that says what flags with a template and a name say. -/
def flagFields (flags : List (Key × Text)) (template name : Text) : List (Text × Datum) :=
  [("template", .text template),
    ("user", .object (beingFields (fun p => last? flags (.user p)) name)),
    ("target", targetDatum fun p => last? flags (.target p)),
    ("capitalize", .bool (last? flags .noCapitalize).isNone)]

theorem describesBeing_beingFields (given : Part → Option Text) (name : Text) :
    DescribesBeing given name (beingFields given name) :=
  ⟨rfl, _, rfl, rfl, rfl, rfl⟩

theorem describesTarget_targetDatum (given : Part → Option Text) :
    DescribesTarget given (targetDatum given) := by
  unfold targetDatum
  split
  · rename_i named
    exact .present named (List.cons_ne_nil _ _) (describesBeing_beingFields given _)
  · rename_i unnamed
    refine .absent ?_
    match found : given .name with
    | none => rfl
    | some [] => rfl
    | some (c :: name) => exact absurd found (unnamed c name)

theorem describes_flagFields {flags : List (Key × Text)} {template name : Text}
    (said : last? flags .template = some template) (named : last? flags (.user .name) = some name)
    (filled : name ≠ []) : Describes flags (flagFields flags template name) :=
  ⟨⟨template, said, rfl⟩, ⟨name, _, named, filled, rfl, describesBeing_beingFields _ name⟩,
    describesTarget_targetDatum _, rfl⟩

section

variable (given : Part → Option Text)

theorem datum?_ofGiven {name : Text} (named : given .name = some name) (filled : name ≠ []) :
    (BeingArguments.ofGiven fun p => (given p).map .text).datum? =
      some (.object (beingFields given name)) := by
  have full : ¬name.isEmpty = true := by simpa using filled
  unfold BeingArguments.datum? BeingArguments.ofGiven
  dsimp only
  rw [named, Option.map_some]
  dsimp only
  rw [Given.isEmpty, if_neg full]
  unfold beingFields
  cases given .person <;> cases given .gender <;> cases given .specific <;> rfl

theorem getD_datum?_ofGiven :
    (BeingArguments.ofGiven fun p => (given p).map .text).datum?.getD .null =
      targetDatum given := by
  unfold targetDatum
  split
  · rename_i named
    rw [datum?_ofGiven given named (List.cons_ne_nil _ _), Option.getD_some]
  · rename_i unnamed
    unfold BeingArguments.datum? BeingArguments.ofGiven
    dsimp only
    match found : given .name with
    | none => rfl
    | some [] => rfl
    | some (c :: name) => exact absurd found (unnamed c name)

end

section

variable [Host] (keeps : Host.dropsDashes = false) {flags : List (Key × Text)}

include keeps

/-- Values are taken as they stand. -/
theorem map_ofText_last? (key : Key) :
    (last? flags key).map Given.ofText = (last? flags key).map .text :=
  congrFun (congrArg Option.map (funext (Given.ofText_of_keeps keeps))) _

/-- The flags put together the object that says the same. -/
theorem datum_ofFlags {template name : Text} (said : last? flags .template = some template)
    (named : last? flags (.user .name) = some name) (filled : name ≠ []) :
    (Arguments.ofFlags flags).datum = .ok (.object (flagFields flags template name)) := by
  unfold Arguments.datum Arguments.ofFlags
  simp only [map_ofText_last? keeps]
  have user := datum?_ofGiven (fun p => last? flags (.user p)) named filled
  have target := getD_datum?_ofGiven fun p => last? flags (.target p)
  rw [said, Option.map_some, user, target]
  rfl

theorem input?_ofFlags_of_unnamed (unnamed : (last? flags .input).getD [] = []) :
    (Arguments.ofFlags flags).input? = none := by
  unfold Arguments.input? Arguments.ofFlags
  dsimp only
  rw [map_ofText_last? keeps]
  match found : last? flags .input with
  | none => rfl
  | some [] => rfl
  | some (c :: path) =>
    rw [found] at unnamed
    cases unnamed

theorem input?_ofFlags_of_named {path : Text} (named : last? flags .input = some path)
    (filled : path ≠ []) : (Arguments.ofFlags flags).input? = some path := by
  unfold Arguments.input? Arguments.ofFlags
  dsimp only
  rw [map_ofText_last? keeps, named]
  cases path with
  | nil => exact absurd rfl filled
  | cons c path => rfl

end

/-! ## Calls that ask for the same -/

section

variable [Host]

/-- What is delivered depends on the settings and on how it is printed. -/
theorem deliver_congr {w w' : World} (settings : w.settings = w'.settings)
    (encodes : w.encodes = w'.encodes) (r : RenderRequest) : deliver w r = deliver w' r := by
  have printing : w.unprintable? = w'.unprintable? := by
    funext t
    rw [World.unprintable?, World.unprintable?, encodes]
  unfold deliver
  rw [settings, printing]

/-- Calls whose requests are checked alike go the same way. -/
theorem run_congr {w w' : World} {a a' : Arguments} {d d' : Datum}
    (settings : w.settings = w'.settings) (encodes : w.encodes = w'.encodes)
    (asked : a.request w = .ok d) (asked' : a'.request w' = .ok d')
    (checked : RenderRequest.check .data d = RenderRequest.check .data d') :
    a.run w = a'.run w' := by
  rw [Arguments.run, asked, Arguments.run, asked']
  dsimp only
  rw [checked]
  cases RenderRequest.check .data d' with
  | error fs => rfl
  | ok r => exact deliver_congr settings encodes r

/-- Words that name one input do the same, whatever else they say. -/
theorem call_eq_of_input {words words' : List Text} {a a' : Arguments} {path : Text}
    (said : Arguments.ofWords words = .ok a) (said' : Arguments.ofWords words' = .ok a')
    (named : a.input? = some path) (named' : a'.input? = some path) (w : World) :
    call w words = call w words' := by
  rw [call_of_words said, call_of_words said', Arguments.run, Arguments.run, Arguments.request,
    Arguments.request, named, named']

/-- **Flags and inputs ask for the same.** Where a flag is given what stands behind its equals sign,
whatever that is, flags that name no input do what an object on standard input does that says the
same: the same is reported, and the call ends in the same way. Flags that name an input do what the
input alone does, whatever else they say; and so do any words that name it. -/
theorem flags_ask_as_inputs (keeps : Host.dropsDashes = false) (flags : List (Key × Text)) :
    (∀ fields t, (last? flags .input).getD [] = [] → Describes flags fields →
      Json.read t = .ok (.object fields) → ∀ (s : Settings) (input : Text)
      (files files' : List (Text × Bytes)) (encodes : Bool),
      call ⟨s, input, files, encodes⟩ ("render" :: flags.map flagWord) =
        call ⟨s, t, files', encodes⟩ ["render", "--input", "-"]) ∧
    (∀ path, last? flags .input = some path → path ≠ [] →
      ∀ w, call w ("render" :: flags.map flagWord) = call w ["render", "--input=" ++ path]) ∧
    ∀ words words' a a' path, Arguments.ofWords words = .ok a → Arguments.ofWords words' = .ok a' →
      a.input? = some path → a'.input? = some path → ∀ w, call w words = call w words' := by
  refine ⟨fun fields t unnamed describes read s input files files' encodes => ?_,
    fun path named filled w => ?_, fun _ _ _ _ _ => call_eq_of_input⟩
  · obtain ⟨template, said, _⟩ := describes.template
    obtain ⟨name, _, named, filled, _⟩ := describes.user
    have asks : Asks ⟨s, input, files, encodes⟩ (.ofFlags flags)
        (.object (flagFields flags template name)) :=
      .flags (input?_ofFlags_of_unnamed keeps unnamed) (datum_ofFlags keeps said named filled)
    have checked := check_eq_of_describes (describes_flagFields said named filled) describes
    calc call ⟨s, input, files, encodes⟩ ("render" :: flags.map flagWord)
        = (Arguments.ofFlags flags).run ⟨s, input, files, encodes⟩ :=
        call_of_words (ofWords_flags flags)
      _ = Arguments.run ⟨s, t, files', encodes⟩ { input := some (.text "-") } :=
        run_congr rfl rfl (request_of_asks asks) (request_of_asks (asks_renderInput read)) checked
      _ = call ⟨s, t, files', encodes⟩ ["render", "--input", "-"] :=
        (call_of_words ofWords_renderInput).symm
  · have alone : last? [(.input, path)] .input = some path := rfl
    exact call_eq_of_input (ofWords_flags flags) (ofWords_flags [(.input, path)])
      (input?_ofFlags_of_named keeps named filled) (input?_ofFlags_of_named keeps alone filled) w

end

/-- Flags whose values look like flags, are dashes alone, hold equals signs and are quoted, and an
object that says the same. -/
def riddleFlags : List (Key × Text) :=
  [(.noCapitalize, []), (.template, "-@I said \"a=b\"."), (.user .name, "--"),
    (.user .specific, "=Kit")]

def riddle : Text :=
  "\x7b\"template\":\"-@I said \\\"a=b\\\".\",\"capitalize\":false,\"user\":\x7b\"being\":"
    ++ "\x7b\"general_name\":\"--\",\"specific_name\":\"=Kit\"\x7d\x7d\x7d"

def riddleFields : List (Text × Datum) :=
  [("template", .text "-@I said \"a=b\"."), ("capitalize", .bool false),
    ("user", .object [("being", .object
      [("general_name", .text "--"), ("specific_name", .text "=Kit")])])]

theorem describes_riddleFields : Describes riddleFlags riddleFields :=
  ⟨⟨_, rfl, rfl⟩, ⟨_, _, rfl, by decide, rfl, ⟨rfl, _, rfl, rfl, rfl, rfl⟩⟩, .absent rfl, rfl⟩

/-- The riddle is asked by its flags as by its object, and an input by its short name as by its
long one beside other flags, also if two dashes are its path. -/
theorem flags_ask_as_inputs_riddle :
    Host.dropsDashes = false ∧ Json.read riddle = .ok (.object riddleFields) ∧
    call {} ("render" :: riddleFlags.map flagWord) =
      call { input := riddle } ["render", "--input", "-"] ∧
    call {} ["render", "--template=--", "--input=--"] = call {} ["render", "--input=--"] ∧
    call {} ["render", "-i", "riddle.json"] = call {} ["render", "--input=riddle.json"] := by
  have read : Json.read riddle = .ok (.object riddleFields) := by cbv
  have short : Arguments.ofWords ["render", "-i", "riddle.json"] =
      .ok { input := some (.text "riddle.json") } := by
    decide
  have long : Arguments.ofWords ["render", "--input=riddle.json"] =
      .ok { input := some (.text "riddle.json") } := by
    decide
  refine ⟨rfl, read, ?_, ?_, ?_⟩
  · exact (flags_ask_as_inputs rfl riddleFlags).1 riddleFields riddle rfl describes_riddleFields
      read {} [] [] [] true
  · exact (flags_ask_as_inputs rfl [(.template, "--"), (.input, "--")]).2.1 "--" rfl (by decide) {}
  · exact (flags_ask_as_inputs rfl []).2.2 _ _ _ _ "riddle.json" short long rfl rfl {}

end CommandLine
end Narration
