import Narration.Proofs.Hindrances
import Narration.Proofs.Rendering

/-! # The course of a rendering

A rendering for persons that nobody has checked. Before it starts each person must have a number to
report. Then come the passes, of which each looks at its marker first and at its person second: a
bad marker always ends the run, and a person that is none ends it where contracts are enforced and
is reported elsewhere. A person that is none and cannot even be written out ends the run as well,
and for this reason alone no event is left. Which events a run leaves behind follows from how it
ended. -/
namespace Narration

namespace Marker

/-- A single character that is no word character. -/
def Fits (t : Text) : Prop := ∃ c, t = [c] ∧ Text.isWord c = false

theorem fits_char (m : Marker) : Fits [m.char] := ⟨m.char, rfl, m.notWord⟩

/-- What does not fit is refused as it was given. -/
theorem ofDatum_text [Host] (t : Text) :
    (∃ m : Marker, t = [m.char] ∧ ofDatum (.text t) = .ok m) ∨
      (¬Fits t ∧ ofDatum (.text t) = .error (.breach (.marker (.text t)))) := by
  by_cases fits : Fits t
  · obtain ⟨c, rfl, notWord⟩ := fits
    exact .inl ⟨⟨c, notWord⟩, rfl, ofDatum_char ⟨c, notWord⟩⟩
  · refine .inr ⟨fits, ?_⟩
    have unread : ofText? t = none := by
      match t with
      | [] | _ :: _ :: _ => rfl
      | [c] => exact dif_neg fun notWord => fits ⟨c, rfl, notWord⟩
    rw [ofDatum, unread]

instance (t : Text) : Decidable (Fits t) :=
  decidable_of_iff ((ofText? t).isSome = true) <| by
    constructor
    · intro h
      rcases ofDatum_text t with ⟨m, rfl, _⟩ | ⟨_, refused⟩
      · exact fits_char m
      · rw [ofDatum] at refused
        split at refused
        · cases refused
        · rename_i unread
          rw [unread] at h
          cases h
    · rintro ⟨c, rfl, notWord⟩
      rw [ofText?_singleton ⟨c, notWord⟩]
      rfl

end Marker

namespace Person

variable [Host]

/-- Whether a label stands for a person. -/
def Reads (l : Label) : Prop := ∃ p, ofLabel l = .ok p

/-- What stands for no person is refused as it was given, unless it cannot be written out. -/
theorem ofLabel_of_not_reads {l : Label} (h : ¬Reads l) :
    ofLabel l = .error ((Breach.person l).refusal l.hindrance?) := by
  cases l with
  | person p => exact absurd ⟨p, rfl⟩ h
  | gender g => rfl
  | datum d =>
    cases hd : ofDatum? d with
    | none => rw [ofLabel, hd]
    | some p => exact absurd ⟨p, by rw [ofLabel, hd]⟩ h

/-- The person that a label counts as: the one it stands for, and the third if it stands for
none. -/
def meant (l : Label) : Person :=
  match ofLabel l with
  | .ok p => p
  | .error _ => .third

/-- What cannot be written out stands for no person. -/
theorem not_reads_of_hindered {l : Label} {h : Hindrance} (hindered : l.hindrance? = some h) :
    ¬Reads l := by
  rintro ⟨p, read⟩
  cases l with
  | person q | gender g => cases hindered
  | datum d =>
    cases d with
    | int k =>
      rw [Label.hindrance?, Datum.hindrance?, Datum.hindranceWithin?_int] at hindered
      obtain ⟨long, _⟩ := Option.ite_none_right_eq_some.mp hindered
      rw [ofLabel, ofDatum?] at read
      cases found : ofNumber? k with
      | none =>
        rw [found] at read
        cases read
      | some q =>
        have same : (q.number : Int) = k := by simpa using List.find?_some found
        subst same
        cases q <;> cases long
    | null | bool | list | object => cases read
    | float | text =>
      rw [Label.hindrance?, Datum.hindrance?] at hindered
      simp at hindered

theorem Reads.written {l : Label} (reads : Reads l) : l.hindrance? = none := by
  cases hindered : l.hindrance? with
  | none => rfl
  | some h => exact absurd reads (not_reads_of_hindered hindered)

instance (l : Label) : Decidable (Reads l) :=
  match h : ofLabel l with
  | .ok p => .isTrue ⟨p, h⟩
  | .error _ => .isFalse fun ⟨_, read⟩ => nomatch h.symm.trans read

end Person

namespace Phrasing

variable [Host]

/-- Whether a pass goes on with a label: it stands for a person, or contracts are not enforced and
the label can be written out. -/
def Takes (strict : Bool) (l : Label) : Prop :=
  Person.Reads l ∨ strict = false ∧ l.hindrance? = none

/-- What ends a pass: a marker that does not fit, or behind one that does a person that is none,
where contracts are enforced or the person cannot be written out. -/
inductive Obstacle (strict : Bool) (marker : Text) (a : Address) : Refusal → Prop
  | marker (misfit : ¬Marker.Fits marker) :
    Obstacle strict marker a (.breach (.marker (.text marker)))
  | person (fits : Marker.Fits marker) (enforced : strict = true) (none : ¬Person.Reads a.person)
    (told : a.person.hindrance? = Option.none) :
    Obstacle strict marker a (.breach (.person a.person))
  | unwritten (fits : Marker.Fits marker) (none : ¬Person.Reads a.person) {h : Hindrance}
    (hindered : a.person.hindrance? = some h) : Obstacle strict marker a (.unwritten h)

/-- What a pass reports: once that its person is none, if its marker fits, contracts are not
enforced and the person can be written out. -/
def doubts (strict : Bool) (marker : Text) (a : Address) : List Event :=
  if Marker.Fits marker ∧ strict = false ∧ ¬Person.Reads a.person ∧ a.person.hindrance? = none then
    [.personOutOfRange a.person.quoted]
  else []

section

variable {strict : Bool} {marker : Text} {a : Address}

theorem mem_doubts {e : Event} (h : e ∈ doubts strict marker a) :
    strict = false ∧ e = .personOutOfRange a.person.quoted := by
  unfold doubts at h
  split at h
  · rename_i due
    exact ⟨due.2.1, List.mem_singleton.mp h⟩
  · cases h

theorem doubts_of_obstacle {r : Refusal} (h : Obstacle strict marker a r) :
    doubts strict marker a = [] := by
  refine if_neg fun ⟨fits, lenient, _, told⟩ => ?_
  cases h with
  | marker misfit => exact misfit fits
  | person _ enforced => exact Bool.noConfusion (lenient.symm.trans enforced)
  | unwritten _ _ hindered => cases told.symm.trans hindered

theorem Obstacle.enforced {l : Label} (h : Obstacle strict marker a (.breach (.person l))) :
    strict = true := by
  cases h with
  | person _ enforced => exact enforced

theorem Obstacle.hindered {h : Hindrance} (obstacle : Obstacle strict marker a (.unwritten h)) :
    a.person.hindrance? = some h := by
  cases obstacle with
  | unwritten _ _ hindered => exact hindered

theorem Obstacle.of_hindered {r : Refusal} (obstacle : Obstacle strict marker a r)
    (fits : Marker.Fits marker) {h : Hindrance} (hindered : a.person.hindrance? = some h) :
    r = .unwritten h := by
  cases obstacle with
  | marker misfit => exact absurd fits misfit
  | person _ _ _ told => cases told.symm.trans hindered
  | unwritten _ _ hindered' =>
    cases hindered'.symm.trans hindered
    rfl

theorem Obstacle.of_misfit {r : Refusal} (h : Obstacle strict marker a r)
    (misfit : ¬Marker.Fits marker) : r = .breach (.marker (.text marker)) := by
  cases h with
  | marker _ => rfl
  | person fits | unwritten fits => exact absurd fits misfit

/-- A label that stands for no person is reported and counts as the third. -/
theorem settle_lenient {l : Label} (none : ¬Person.Reads l) (told : l.hindrance? = Option.none) :
    settle false l = ⟨[.personOutOfRange l.quoted], .ok .third⟩ := by
  unfold settle
  rw [Person.ofLabel_of_not_reads none, told]
  rfl

/-- A pass that goes on with a label reports its doubts and fills the template for the person that
the label counts as. -/
theorem phrase_meant {m : Marker} (settled : Takes strict a.person) (t : Text) :
    phrase strict (.text [m.char]) a t =
      ⟨doubts strict [m.char] a,
        .ok (Template.substitute m (a.being.fill (Person.meant a.person)) t)⟩ := by
  by_cases reads : Person.Reads a.person
  · obtain ⟨p, accepted⟩ := reads
    rw [doubts, if_neg fun due => due.2.2.1 ⟨p, accepted⟩, Person.meant, accepted]
    exact phrase_of_accepted m.ofDatum_char accepted strict a.being t
  · obtain ⟨rfl, told⟩ := settled.resolve_left reads
    rw [doubts, if_pos ⟨m.fits_char, rfl, reads, told⟩, phrase, prepare, settle_lenient reads told,
      Person.meant, m.ofDatum_char, Person.ofLabel_of_not_reads reads]
    rfl

/-- What keeps a pass from going on with a label is an obstacle. -/
theorem exists_obstacle {m : Marker} (stuck : ¬Takes strict a.person) (t : Text) :
    ∃ r, Obstacle strict [m.char] a r ∧ phrase strict (.text [m.char]) a t = .fail r := by
  obtain ⟨none, lenient⟩ := not_or.mp stuck
  have refused := Person.ofLabel_of_not_reads none
  cases told : a.person.hindrance? with
  | none =>
    obtain rfl : strict = true := by simpa [told] using lenient
    rw [told] at refused
    refine ⟨_, .person m.fits_char rfl none told, ?_⟩
    simp [phrase, prepare, settle, m.ofDatum_char, refused, Breach.refusal]
  | some h =>
    rw [told] at refused
    refine ⟨_, .unwritten m.fits_char none told, ?_⟩
    simp [phrase, prepare, settle, m.ofDatum_char, refused, Breach.refusal]

theorem not_obstacle {m : Marker} (settled : Takes strict a.person) (r : Refusal) :
    ¬Obstacle strict [m.char] a r := by
  rintro (misfit | ⟨_, rfl, none, _⟩ | ⟨_, none, hindered⟩)
  · exact misfit m.fits_char
  · exact Bool.noConfusion (settled.resolve_left none).1
  · cases (settled.resolve_left none).2.symm.trans hindered

/-- **What a pass can do**: it ends at an obstacle and reports nothing, or it meets none, reports
its doubts and gives a text. -/
theorem phrase_cases (strict : Bool) (marker : Text) (a : Address) (t : Text) :
    (∃ r, Obstacle strict marker a r ∧ phrase strict (.text marker) a t = .fail r) ∨
      (∀ r, ¬Obstacle strict marker a r) ∧
        ∃ out, phrase strict (.text marker) a t = ⟨doubts strict marker a, .ok out⟩ := by
  rcases Marker.ofDatum_text marker with ⟨m, rfl, read⟩ | ⟨misfit, refused⟩
  · by_cases settled : Takes strict a.person
    · exact .inr ⟨not_obstacle settled, _, phrase_meant settled t⟩
    · exact .inl (exists_obstacle settled t)
  · exact .inl ⟨_, .marker misfit, phrase_of_bad_marker refused strict a t⟩

end

end Phrasing

namespace Message

open Phrasing

/-- The numbers that are reported of the persons. -/
structure Numbered (user : Address) (target : Option Address) (u : Int) (n : Option Int) :
    Prop where
  user : number user.person = .ok u
  target : (target.mapM fun a => number a.person) = .ok n

/-- Why there are no numbers to report. The one of the being that acts is asked for first. -/
inductive Unnumbered (user : Address) (target : Option Address) (e : NumberError) : Prop
  | user (failed : number user.person = .error e)
  | target (u : Int) (numbered : number user.person = .ok u)
    (failed : (target.mapM fun a => number a.person) = .error e)

theorem Numbered.not_unnumbered {user : Address} {target : Option Address} {u : Int}
    {n : Option Int} (h : Numbered user target u n) {e : NumberError} :
    ¬Unnumbered user target e := by
  rintro (failed | ⟨_, _, failed⟩)
  · exact nomatch h.user.symm.trans failed
  · exact nomatch h.target.symm.trans failed

theorem Numbered.unique {user : Address} {target : Option Address} {u u' : Int}
    {n n' : Option Int} (h : Numbered user target u n) (h' : Numbered user target u' n') :
    u = u' ∧ n = n' :=
  ⟨Except.ok.inj (h.user.symm.trans h'.user), Except.ok.inj (h.target.symm.trans h'.target)⟩

/-- A number that is reported and cannot be written out is a whole number of too many digits. -/
theorem overlong_of_number {l : Label} {k : Int} (numbered : number l = .ok k) [Host]
    {h : Hindrance} (hindered : l.hindrance? = some h) :
    h = .tooLong ∧ ∃ k, l = .datum (.int k) ∧ Text.isOverlong k = true := by
  cases l with
  | person p => cases hindered
  | gender g => cases hindered
  | datum d =>
    cases d with
    | int n =>
      rw [Label.hindrance?, Datum.hindrance?, Datum.hindranceWithin?_int] at hindered
      obtain ⟨long, same⟩ := Option.ite_none_right_eq_some.mp hindered
      exact ⟨(Option.some.inj same).symm, n, rfl, long⟩
    | null | list | object => cases numbered
    | bool | float | text =>
      rw [Label.hindrance?, Datum.hindrance?] at hindered
      simp at hindered

theorem Numbered.overlong [Host] {user a : Address} {target : Option Address} {u : Int}
    {n : Option Int} (numbers : Numbered user target u n) (given : a = user ∨ target = some a)
    {h : Hindrance} (hindered : a.person.hindrance? = some h) :
    h = .tooLong ∧ ∃ k, a.person = .datum (.int k) ∧ Text.isOverlong k = true := by
  rcases given with rfl | rfl
  · exact overlong_of_number numbers.user hindered
  · have number := numbers.target
    rw [Option.mapM_some] at number
    cases found : Message.number a.person with
    | error e =>
      rw [found] at number
      cases number
    | ok k => exact overlong_of_number found hindered

/-- A rejection is reported as such. -/
theorem rejection?_ne (r : Refusal) (given : Text) :
    rejection? r ≠ some (.personOutOfRange given) := by
  cases r <;> simp [rejection?, rejected]

theorem Failure.ofRefusal_eq_breach {r : Refusal} {b : Breach} :
    ofRefusal r = .breach b ↔ r = .breach b := by
  cases r <;> simp [ofRefusal]

theorem start_cases (user : Address) (target : Option Address) :
    (∃ e, Unnumbered user target e ∧ start user target = .fail (.number e)) ∨
      ∃ u n, Numbered user target u n ∧ start user target = .emit (.renderStarted u n) := by
  unfold start
  cases hu : number user.person with
  | error e => exact .inl ⟨e, .user hu, rfl⟩
  | ok u =>
    cases hn : target.mapM fun a => number a.person with
    | error e => exact .inl ⟨e, .target u hu hn, rfl⟩
    | ok n => exact .inr ⟨u, n, ⟨hu, hn⟩, rfl⟩

section

variable [Host]

/-- All courses that a rendering can take. -/
inductive Course (s : Settings) (user : Address) (target : Option Address) (t : Text) :
    Run Failure Message → Prop
  | unnumbered {e : NumberError} (failed : Unnumbered user target e) :
    Course s user target t ⟨[], .error (.number e)⟩
  | stoppedFirst {u : Int} {n : Option Int} {r : Refusal} (numbers : Numbered user target u n)
    (obstacle : Obstacle s.contractsEnforced s.userMarker user r) :
    Course s user target t
      ⟨.renderStarted u n :: (rejection? r).toList, .error (.ofRefusal r)⟩
  | stoppedSecond {u : Int} {n : Option Int} {a : Address} {r : Refusal}
    (numbers : Numbered user target u n) (given : target = some a)
    (passed : ∀ r, ¬Obstacle s.contractsEnforced s.userMarker user r)
    (obstacle : Obstacle s.contractsEnforced s.targetMarker a r) :
    Course s user target t
      ⟨.renderStarted u n ::
          (doubts s.contractsEnforced s.userMarker user ++ (rejection? r).toList),
        .error (.ofRefusal r)⟩
  | rendered {u : Int} {n : Option Int} {text : Text} (numbers : Numbered user target u n)
    (passed : ∀ r, ¬Obstacle s.contractsEnforced s.userMarker user r)
    (passedBoth : ∀ a, target = some a → ∀ r, ¬Obstacle s.contractsEnforced s.targetMarker a r) :
    Course s user target t
      ⟨.renderStarted u n :: (doubts s.contractsEnforced s.userMarker user
          ++ target.elim [] (doubts s.contractsEnforced s.targetMarker)
          ++ [.renderSuccess (preview text)]),
        .ok ⟨text, t⟩⟩

section

variable (s : Settings) (user : Address) (target : Option Address) (capitalize : Bool) (t : Text)

/-- **What both passes can do**, the second on what the first has left. -/
theorem passes_cases :
    (∃ r, Obstacle s.contractsEnforced s.userMarker user r ∧ phrase s user target t = .fail r) ∨
      (∀ r, ¬Obstacle s.contractsEnforced s.userMarker user r) ∧
        ((∃ a r, target = some a ∧ Obstacle s.contractsEnforced s.targetMarker a r ∧
            phrase s user target t =
              ⟨doubts s.contractsEnforced s.userMarker user, .error r⟩) ∨
          (∀ a, target = some a → ∀ r, ¬Obstacle s.contractsEnforced s.targetMarker a r) ∧
            ∃ out, phrase s user target t =
              ⟨doubts s.contractsEnforced s.userMarker user
                ++ target.elim [] (doubts s.contractsEnforced s.targetMarker), .ok out⟩) := by
  unfold phrase Phrasing.user Phrasing.target
  rw [Option.getD_none]
  rcases phrase_cases s.contractsEnforced s.userMarker user t with
    ⟨r, obstacle, first⟩ | ⟨passed, out, first⟩
  · rw [first]
    exact .inl ⟨r, obstacle, rfl⟩
  refine .inr ⟨passed, ?_⟩
  rw [first]
  cases target with
  | none => exact .inr ⟨fun a given => (nomatch given), out, rfl⟩
  | some a =>
    rcases phrase_cases s.contractsEnforced s.targetMarker a out with
      ⟨r, obstacle, second⟩ | ⟨passedBoth, text, second⟩
    · refine .inl ⟨a, r, rfl, obstacle, ?_⟩
      simp only [Run.bind_eq, Run.andThen, second, Run.fail, List.append_nil]
    · refine .inr ⟨fun _ given => Option.some.inj given ▸ passedBoth, text, ?_⟩
      simp only [Run.bind_eq, Run.andThen, second, Option.elim_some]

section

variable {s user target t} {u : Int} {n : Option Int}
  (start : start user target = .emit (.renderStarted u n)) {events : List Event}

include start

theorem render_of_stopped {r : Refusal} (passes : phrase s user target t = ⟨events, .error r⟩) :
    render s user target capitalize t =
      ⟨.renderStarted u n :: (events ++ (rejection? r).toList), .error (.ofRefusal r)⟩ := by
  rw [render, start, passes]
  rfl

theorem render_of_passed {out : Text} (passes : phrase s user target t = ⟨events, .ok out⟩) :
    render s user target capitalize t =
      ⟨.renderStarted u n :: (events ++ [.renderSuccess (preview (finished capitalize out))]),
        .ok ⟨finished capitalize out, t⟩⟩ := by
  rw [render, start, passes]
  rfl

end

/-- **What a rendering can do.** -/
theorem render_course : Course s user target t (render s user target capitalize t) := by
  rcases start_cases user target with ⟨e, failed, start⟩ | ⟨u, n, numbers, start⟩
  · rw [render, start]
    exact .unnumbered failed
  rcases passes_cases s user target t with
    ⟨r, obstacle, passes⟩ | ⟨passed, ⟨a, r, given, obstacle, passes⟩ | ⟨passedBoth, out, passes⟩⟩
  · rw [render_of_stopped capitalize start passes]
    exact .stoppedFirst numbers obstacle
  · rw [render_of_stopped capitalize start passes]
    exact .stoppedSecond numbers given passed obstacle
  · rw [render_of_passed capitalize start passes]
    exact .rendered numbers passed passedBoth

end

namespace Course

variable {s : Settings} {user : Address} {target : Option Address} {t : Text}
  {run : Run Failure Message} (course : Course s user target t run)

include course

/-- Doubts are reported only where contracts are not enforced. -/
theorem lenient {reported : Text} (h : .personOutOfRange reported ∈ run.events) :
    s.contractsEnforced = false := by
  cases course with
  | unnumbered failed => cases h
  | stoppedFirst numbers obstacle => simp [rejection?_ne] at h
  | stoppedSecond numbers given passed obstacle =>
    have doubt : .personOutOfRange reported ∈ doubts s.contractsEnforced s.userMarker user := by
      simpa [rejection?_ne] using h
    exact (mem_doubts doubt).1
  | rendered numbers passed passedBoth =>
    have doubt : .personOutOfRange reported ∈ doubts s.contractsEnforced s.userMarker user ∨
        .personOutOfRange reported ∈
          target.elim [] (doubts s.contractsEnforced s.targetMarker) := by
      simpa using h
    rcases doubt with doubt | doubt
    · exact (mem_doubts doubt).1
    · cases target with
      | none => cases doubt
      | some a => exact (mem_doubts doubt).1

/-- A person ends a run only where contracts are enforced. -/
theorem enforced {l : Label} (h : run.outcome = .error (.breach (.person l))) :
    s.contractsEnforced = true := by
  cases course with
  | unnumbered failed => cases h
  | stoppedFirst numbers obstacle =>
    obtain rfl := Failure.ofRefusal_eq_breach.mp (Except.error.inj h)
    exact obstacle.enforced
  | stoppedSecond numbers given passed obstacle =>
    obtain rfl := Failure.ofRefusal_eq_breach.mp (Except.error.inj h)
    exact obstacle.enforced
  | rendered numbers passed passedBoth => cases h

/-- A marker that does not fit comes before the person behind it. -/
theorem misfit {u : Int} {n : Option Int} (numbers : Numbered user target u n)
    (misfit : ¬Marker.Fits s.userMarker) :
    run.outcome = .error (.breach (.marker (.text s.userMarker))) := by
  cases course with
  | unnumbered failed => exact absurd failed numbers.not_unnumbered
  | stoppedFirst numbers obstacle =>
    obtain rfl := obstacle.of_misfit misfit
    rfl
  | stoppedSecond numbers given passed obstacle => exact absurd (.marker misfit) (passed _)
  | rendered numbers passed passedBoth => exact absurd (.marker misfit) (passed _)

/-- The second marker comes before the person behind it. -/
theorem misfitBehind {u : Int} {n : Option Int} (numbers : Numbered user target u n)
    (passed : ∀ r, ¬Obstacle s.contractsEnforced s.userMarker user r) {a : Address}
    (given : target = some a) (misfit : ¬Marker.Fits s.targetMarker) :
    run.outcome = .error (.breach (.marker (.text s.targetMarker))) := by
  cases course with
  | unnumbered failed => exact absurd failed numbers.not_unnumbered
  | stoppedFirst numbers obstacle => exact absurd obstacle (passed _)
  | stoppedSecond numbers given' passed obstacle =>
    cases given.symm.trans given'
    obtain rfl := obstacle.of_misfit misfit
    rfl
  | rendered numbers passed passedBoth => exact absurd (.marker misfit) (passedBoth a given _)

/-- A person that cannot be written out ends the run where its pass looks at it. -/
theorem unwritten {u : Int} {n : Option Int} (numbers : Numbered user target u n)
    (fits : Marker.Fits s.userMarker) {h : Hindrance} (hindered : user.person.hindrance? = some h) :
    run = ⟨[.renderStarted u n], .error (.unwritten h)⟩ := by
  have obstacle : Obstacle s.contractsEnforced s.userMarker user (.unwritten h) :=
    .unwritten fits (Person.not_reads_of_hindered hindered) hindered
  cases course with
  | unnumbered failed => exact absurd failed numbers.not_unnumbered
  | stoppedFirst started met =>
    obtain rfl := met.of_hindered fits hindered
    obtain ⟨rfl, rfl⟩ := numbers.unique started
    rfl
  | stoppedSecond _ _ passed => exact absurd obstacle (passed _)
  | rendered _ passed => exact absurd obstacle (passed _)

/-- The second person does so too, behind what is reported of the first. -/
theorem unwrittenBehind {u : Int} {n : Option Int} (numbers : Numbered user target u n)
    (passed : ∀ r, ¬Obstacle s.contractsEnforced s.userMarker user r) {a : Address}
    (given : target = some a) (fits : Marker.Fits s.targetMarker) {h : Hindrance}
    (hindered : a.person.hindrance? = some h) :
    run = ⟨.renderStarted u n :: doubts s.contractsEnforced s.userMarker user,
      .error (.unwritten h)⟩ := by
  have obstacle : Obstacle s.contractsEnforced s.targetMarker a (.unwritten h) :=
    .unwritten fits (Person.not_reads_of_hindered hindered) hindered
  cases course with
  | unnumbered failed => exact absurd failed numbers.not_unnumbered
  | stoppedFirst _ met => exact absurd met (passed _)
  | stoppedSecond started given' _ met =>
    cases given.symm.trans given'
    obtain rfl := met.of_hindered fits hindered
    obtain ⟨rfl, rfl⟩ := numbers.unique started
    rw [rejection?, Option.toList_none, List.append_nil]
    rfl
  | rendered _ _ passedBoth => exact absurd obstacle (passedBoth a given _)

/-- Where nothing is in the way there is a message. -/
theorem exists_message {u : Int} {n : Option Int} (numbers : Numbered user target u n)
    (passed : ∀ r, ¬Obstacle s.contractsEnforced s.userMarker user r)
    (passedBoth : ∀ a, target = some a → ∀ r, ¬Obstacle s.contractsEnforced s.targetMarker a r) :
    ∃ m, run.outcome = .ok m := by
  cases course with
  | unnumbered failed => exact absurd failed numbers.not_unnumbered
  | stoppedFirst numbers obstacle => exact absurd obstacle (passed _)
  | stoppedSecond numbers given passed obstacle => exact absurd obstacle (passedBoth _ given _)
  | rendered numbers passed passedBoth => exact ⟨_, rfl⟩

/-- The template of a message is the one that was asked for. -/
theorem template {m : Message} (h : run.outcome = .ok m) : m.template = t := by
  cases course with
  | rendered numbers passed passedBoth =>
    cases h
    rfl
  | _ => cases h

end Course

end

end Message
end Narration
