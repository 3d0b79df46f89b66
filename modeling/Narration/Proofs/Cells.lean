import Narration.Proofs.Answers
import Narration.Proofs.Genders

/-! # What the service shows of the table

The service shows a row of the pronoun table for two loose labels. It reads the labels as a pass
reads them and takes the row from the same table, so each entry is what a pass puts in the place of
a template that is one token. A label that a pass would refuse is refused in the same words, the
person before the gender. -/
namespace Narration

namespace Text

variable {separator : CodePoint} {s : Text}

theorem splitAt_append (h : separator ∉ s) (t : Text) :
    splitAt separator (s ++ separator :: t) = s :: splitAt separator t := by
  induction s with
  | nil => simp [splitAt]
  | cons c rest ih =>
    rw [List.mem_cons, not_or] at h
    rw [List.cons_append, splitAt, if_neg (Ne.symm h.1), ih h.2]

theorem after?_append (start t : Text) : after? start (start ++ t) = some t := by
  have begins : (start ++ t).startsWith start = true :=
    List.isPrefixOf_iff_prefix.mpr (List.prefix_append start t)
  rw [after?, if_pos begins, List.drop_left]

end Text

/-! ## A template that is one token -/

/-- A pass puts the whole text of a token in the place of a template that is nothing else. -/
theorem Phrasing.phrase_token [Host] {l : Label} {p : Person}
    (accepted : Person.ofLabel l = .ok p) (strict : Bool) (m : Marker) (b : Being) (k : Token) :
    phrase strict (.text [m.char]) ⟨l, b⟩ (m.char :: k.text) = .ok (b.fill p k) := by
  have one : Template.substitute m (b.fill p) (m.char :: k.text) = b.fill p k := by
    have ends : Text.beginsWord [] = false := rfl
    rw [← List.append_nil k.text, Template.substitute_token ends, Template.substitute_nil,
      List.append_nil]
  rw [phrase_of_accepted (Marker.ofDatum_char m) accepted, one]

namespace Web

/-! ## The answer for two labels -/

section

variable [Host]

/-- What is wrong with the labels of a person and a gender. The person is looked at first. -/
inductive Refused (p g : Text) : Breach → Prop
  | person {b : Breach} (stranger : Person.ofLabel (.datum (.text p)) = .error (.breach b)) :
    Refused p g b
  | gender {person : Person} {b : Breach}
    (addressed : Person.ofLabel (.datum (.text p)) = .ok person)
    (unknown : Gender.ofLabel (.datum (.text g)) = .error (.breach b)) : Refused p g b

/-- A row as the service shows it. -/
def entries (set : PronounSet) : List (Text × Datum) :=
  set.tokenForms.map fun (k, t) => (k, .text t)

section

variable {p g : Text} {b : Breach}

theorem Refused.unique (h : Refused p g b) {b' : Breach} (h' : Refused p g b') : b = b' := by
  cases h with
  | person stranger =>
    cases h' with
    | person stranger' =>
      cases stranger.symm.trans stranger'
      rfl
    | gender addressed _ => cases stranger.symm.trans addressed
  | gender addressed unknown =>
    cases h' with
    | person stranger => cases stranger.symm.trans addressed
    | gender _ unknown' =>
      cases unknown.symm.trans unknown'
      rfl

theorem Refused.not_read (h : Refused p g b) :
    ¬((∃ person, Person.ofLabel (.datum (.text p)) = .ok person) ∧
      ∃ gender, Gender.ofLabel (.datum (.text g)) = .ok gender) := by
  rintro ⟨⟨_, addressed⟩, _, known⟩
  cases h with
  | person stranger => cases stranger.symm.trans addressed
  | gender _ unknown => cases unknown.symm.trans known

/-- A person is quoted with its halves escaped, and a gender stands in the message as it is. -/
theorem Refused.isWhole_message (h : Refused p g b) (whole : g.isWhole = true) :
    b.message.isWhole = true := by
  cases h with
  | person stranger =>
    rw [(Person.ofLabel_eq_breach_iff.mp stranger).1]
    simp [Breach.message, Label.quoted]
  | gender _ unknown =>
    rw [(Gender.ofLabel_eq_breach_iff.mp unknown).1]
    simp [Breach.message, Label.plain, Datum.plain, whole]

end

/-- A text can be written out, so nothing else is wrong with a label that is one. -/
theorem text_ne_unwritten (t : Text) (h : Hindrance) :
    Person.ofLabel (.datum (.text t)) ≠ .error (.unwritten h) ∧
      Gender.ofLabel (.datum (.text t)) ≠ .error (.unwritten h) := by
  have written : Label.hindrance? (.datum (.text t)) = none := by
    rw [Label.hindrance?, Datum.hindrance?, Datum.hindranceWithin?_text]
  constructor
  · intro refused
    cases (Person.ofLabel_eq_unwritten_iff.mp refused).symm.trans written
  · intro refused
    cases (Gender.ofLabel_eq_unwritten_iff.mp refused).symm.trans written

/-- **How two labels are answered**: by a row, or by what is wrong with them. -/
theorem pronouns_cases (p g : Text) :
    (∃ person gender, Person.ofLabel (.datum (.text p)) = .ok person ∧
      Gender.ofLabel (.datum (.text g)) = .ok gender ∧
      pronouns p g = json (.object (entries (PronounSet.row person gender)))) ∨
    ∃ b, Refused p g b ∧ pronouns p g = .failed 422 b.message := by
  unfold pronouns
  cases addressed : Person.ofLabel (.datum (.text p)) with
  | error r =>
    cases r with
    | breach b => exact .inr ⟨b, .person addressed, rfl⟩
    | unwritten h => exact absurd addressed (text_ne_unwritten p h).1
  | ok person =>
    cases known : Gender.ofLabel (.datum (.text g)) with
    | error r =>
      cases r with
      | breach b => exact .inr ⟨b, .gender addressed known, rfl⟩
      | unwritten h => exact absurd known (text_ne_unwritten g h).2
    | ok gender => exact .inl ⟨person, gender, rfl, rfl, rfl⟩

end

/-- The entry of a row under a token is the form that it asks for. -/
theorem field?_entries (set : PronounSet) (f : Form) :
    Datum.field? f.token (entries set) = some (.text (set.form f)) := by
  cases f <;> rfl

theorem sendable_row (p : Person) (g : Gender) :
    (Datum.object (entries (PronounSet.row p g))).Sendable := by
  refine Datum.sendable_object.mpr fun e he => ?_
  obtain ⟨_, hf, rfl⟩ := List.mem_map.mp he
  obtain ⟨f, _, rfl⟩ := List.mem_map.mp hf
  have token : f.token.isWhole = true := by cases f <;> exact Text.isWhole_ofString _
  exact ⟨token, Datum.sendable_text.mpr (Being.isWhole_row p g f)⟩

theorem sendable_failed {message : Text} (h : message.isWhole = true) (status : Nat) :
    (Datum.object [("status", .text "error"), ("code", .int status),
      ("message", .text message)]).Sendable := by
  simp [h]

/-! ## The way to a cell -/

/-- What the paths of all cells begin with. -/
def cellRoot : Text := "/api/v1/pronouns/"

/-- The path of the cell for two labels. -/
def cellPath (p g : Text) : Text := cellRoot ++ p ++ "/" ++ g

section

variable {s : Settings} {p g : Text}

/-- No other path begins as those of the cells do. -/
theorem startsWith_fixedPaths : ∀ e ∈ fixedPaths s,
    e.1.startsWith cellRoot = false ∧ (e.1 ++ "\n").startsWith cellRoot = false := by
  unfold fixedPaths pagePaths
  split <;> decide

theorem resource?_cellPath (hp : p ≠ [] ∧ .char '/' ∉ p) (hg : g ≠ [] ∧ .char '/' ∉ g) :
    resource? s (cellPath p g) = some (.pronouns p g) := by
  have path : cellPath p g = cellRoot ++ (p ++ .char '/' :: g) := by
    simp [cellPath, Text.ofString]
  have begins : (cellPath p g).startsWith cellRoot = true := by
    rw [path]
    exact List.isPrefixOf_iff_prefix.mpr (List.prefix_append _ _)
  have cell : cell? (cellPath p g) = some (.pronouns p g) := by
    unfold cell?
    rw [path]
    change (Text.after? cellRoot _).bind _ = _
    rw [Text.after?_append, Option.bind_some, Text.splitAt_append hp.2,
      Text.splitAt_of_not_mem hg.2]
    dsimp only
    rw [if_neg (not_or.mpr ⟨hp.1, hg.1⟩)]
  unfold resource?
  rw [List.find?_eq_none.mpr]
  · exact cell
  · intro e he same
    obtain ⟨other, other'⟩ := startsWith_fixedPaths e he
    rcases Bool.or_eq_true_iff.mp same with same | same
    · rw [eq_of_beq same, other] at begins
      cases begins
    · rw [eq_of_beq same, other'] at begins
      cases begins

theorem serve?_cell [Host] {r : Request} (named : s.appName ≠ []) (method : r.method = "GET")
    (path : r.target.path = cellPath p g) (hp : p ≠ [] ∧ .char '/' ∉ p)
    (hg : g ≠ [] ∧ .char '/' ∉ g) {response : Response}
    (answered : pronouns p g = .answered response) :
    serve? s r = some ⟨[], { response with allowOrigin := allowedOrigin? s r }, false⟩ := by
  have noQuestion : r.method ≠ "OPTIONS" := by
    rw [method]
    decide
  have known : (Resource.pronouns p g).methods.contains r.method = true := by
    rw [method]
    rfl
  have routed : route s r = ([], .answered response) := by
    unfold route
    rw [path, resource?_cellPath hp hg]
    dsimp only
    rw [if_pos known, ← answered]
    rfl
  rw [serve?, if_neg named, answer_of_ne_options noQuestion, answer.respond, routed]

end

/-! ## What is shown -/

/-- **What the service shows is what a pass puts in.** Every two labels are answered: with success
if both can be read, and then the body has an entry for each token of a pronoun, and the entry is
what a strict pass for this person puts in the place of a template that is the token alone, whatever
the marker and the being of this gender. Otherwise the client is told what is wrong with the person,
or with the gender if the person can be read. The answer can be sent if the labels can, and a
service with a name sends it for every request that has the labels in its path. -/
theorem cells_show_what_is_put_in [Host] (p g : Text) : ∃ response,
    pronouns p g = .answered response ∧
    (response.status = 200 ↔ (∃ person, Person.ofLabel (.datum (.text p)) = .ok person) ∧
      ∃ gender, Gender.ofLabel (.datum (.text g)) = .ok gender) ∧
    (∀ gender, response.status = 200 → Gender.ofLabel (.datum (.text g)) = .ok gender →
      ∃ fields, response.content = .json (.object fields) ∧
        fields.map (·.1) = Form.all.map Form.token ∧
        ∀ (f : Form) (m : Marker) (b : Being), b.gender = gender → ∃ t,
          Datum.field? f.token fields = some (.text t) ∧
          Phrasing.phrase true (.text [m.char]) ⟨.datum (.text p), b⟩ (m.char :: f.token) =
            .ok t) ∧
    (∀ b, Refused p g b → response.status = 422 ∧ response.content = .json (.object
      [("status", .text "error"), ("code", .int 422), ("message", .text b.message)])) ∧
    (∀ d, response.content = .json d → g.isWhole = true → d.Sendable) ∧
    ∀ (s : Settings) (r : Request), s.appName ≠ [] → r.method = "GET" →
      r.target.path = cellPath p g → p ≠ [] ∧ .char '/' ∉ p → g ≠ [] ∧ .char '/' ∉ g →
      serve? s r = some ⟨[], { response with allowOrigin := allowedOrigin? s r }, false⟩ := by
  rcases pronouns_cases p g with ⟨person, gender, addressed, known, answered⟩ | ⟨b, bad, answered⟩
  · refine ⟨_, answered, ?_, ?_, ?_, ?_, fun s r named method path hp hg =>
      serve?_cell named method path hp hg answered⟩
    · exact ⟨fun _ => ⟨⟨person, addressed⟩, gender, known⟩, fun _ => rfl⟩
    · intro gender' _ known'
      cases known.symm.trans known'
      refine ⟨_, rfl, rfl, fun f m b of => ⟨_, field?_entries _ f, ?_⟩⟩
      rw [← of]
      exact Phrasing.phrase_token addressed true m b (.form f)
    · intro b bad
      exact absurd ⟨⟨person, addressed⟩, gender, known⟩ bad.not_read
    · intro d content _
      cases content
      exact sendable_row person gender
  · refine ⟨_, answered, ?_, ?_, ?_, ?_, fun s r named method path hp hg =>
      serve?_cell named method path hp hg answered⟩
    · exact ⟨fun success => (nomatch success), fun read => absurd read bad.not_read⟩
    · intro _ success
      cases success
    · intro b' bad'
      rw [bad.unique bad']
      exact ⟨rfl, rfl⟩
    · intro d content whole
      cases content
      exact sendable_failed (bad.isWhole_message whole) 422

/-- A person with a ligature in it and a gender by a synonym. -/
def looseCell : Request :=
  { method := "GET"
    target := ⟨cellPath "\uFB01rst" " Group", []⟩ }

theorem cells_show_what_is_put_in_loose : ∃ response fields,
    serve? {} looseCell = some ⟨[], response, false⟩ ∧ response.status = 200 ∧
    response.content = .json (.object fields) ∧
    Datum.field? "mine" fields = some (.text "ours") := by
  obtain ⟨response, _, success, shown, _, _, served⟩ :=
    cells_show_what_is_put_in "\uFB01rst" " Group"
  have answered := success.mpr ⟨⟨.first, rfl⟩, .plural, rfl⟩
  obtain ⟨fields, content, _, entry⟩ := shown .plural answered rfl
  obtain ⟨t, given, put⟩ := entry .possessive ⟨.char '#', rfl⟩ ⟨"owls", .plural, none⟩ rfl
  have ours : t = "ours" := by
    have run : Phrasing.phrase true (.text "#")
        ⟨.datum (.text "\uFB01rst"), ⟨"owls", .plural, none⟩⟩ "#mine" = .ok "ours" := rfl
    cases run.symm.trans put
    rfl
  refine ⟨_, fields, served {} looseCell (by decide) rfl rfl (by decide) (by decide), answered,
    content, ?_⟩
  rw [← ours]
  exact given

end Web
end Narration
