import Narration.Proofs.Persons

/-! # Where leniency ends

A pass under lenient settings takes every label that can be written out: what stands for no person
counts as the third. A rendering under the same settings does not, as it reports each person as a
number before it starts. Which labels have such a number is another matter than which stand for a
person: a name such as second stands for one and has no number, and nine has a number and stands for
none. With all numbers there, and none of them too long, the message is that of the persons that the
labels count as. -/
namespace Narration

namespace Address

variable [Host]

/-- The being with the person that its label counts as. -/
def meant (a : Address) : BeingSpec := ⟨Person.meant a.person, a.being⟩

end Address

namespace Message

open Phrasing

/-- The labels with a number: persons, truth values, numbers that are finite, and texts that spell
an integer. -/
inductive Reportable : Label → Prop
  | person (p : Person) : Reportable (.person p)
  | bool (b : Bool) : Reportable (.datum (.bool b))
  | int (n : Int) : Reportable (.datum (.int n))
  | finite (negative : Bool) (units : Nat) : Reportable (.datum (.float (.finite negative units)))
  | text {t : Text} {n : Int} (spelled : Text.readInt t = .ok n) : Reportable (.datum (.text t))

theorem exists_number_iff {l : Label} : (∃ n, number l = .ok n) ↔ Reportable l := by
  constructor
  · rintro ⟨n, numbered⟩
    match l, numbered with
    | .person p, _ => exact .person p
    | .datum (.bool b), _ => exact .bool b
    | .datum (.int n), _ => exact .int n
    | .datum (.float (.finite negative units)), _ => exact .finite negative units
    | .datum (.text t), numbered =>
      cases spelled : Text.readInt t with
      | ok n => exact .text spelled
      | error e =>
        rw [number, spelled] at numbered
        cases e <;> cases numbered
  · intro reportable
    cases reportable with
    | text spelled => exact ⟨_, by rw [number, spelled]⟩
    | _ => exact ⟨_, rfl⟩

/-- Whether all persons of a rendering can be reported. -/
def AllReportable (user : Address) (target : Option Address) : Prop :=
  Reportable user.person ∧ ∀ a, target = some a → Reportable a.person

/-- Whether all labels of a rendering can be written out. -/
def AllWritten [Host] (user : Address) (target : Option Address) : Prop :=
  user.person.hindrance? = none ∧ ∀ a, target = some a → a.person.hindrance? = none

theorem allWritten_none [Host] {user : Address} (h : user.person.hindrance? = none) :
    AllWritten user none := ⟨h, fun _ given => nomatch given⟩

theorem allWritten_some [Host] {user a : Address} (h : user.person.hindrance? = none)
    (behind : a.person.hindrance? = none) : AllWritten user (some a) := by
  refine ⟨h, ?_⟩
  rintro _ ⟨⟩
  exact behind

section

variable {user : Address} {target : Option Address}

theorem Numbered.allReportable {u : Int} {n : Option Int} (h : Numbered user target u n) :
    AllReportable user target := by
  refine ⟨exists_number_iff.mp ⟨u, h.user⟩, ?_⟩
  rintro a rfl
  cases numbered : number a.person with
  | ok n => exact exists_number_iff.mp ⟨n, numbered⟩
  | error e =>
    have failed : (some a).mapM (fun a => number a.person) = .error e := by
      rw [Option.mapM_some, numbered]
      rfl
    exact nomatch h.target.symm.trans failed

theorem Unnumbered.not_allReportable {e : NumberError} (h : Unnumbered user target e) :
    ¬AllReportable user target := by
  rintro ⟨first, second⟩
  cases h with
  | user failed =>
    obtain ⟨n, numbered⟩ := exists_number_iff.mpr first
    exact nomatch numbered.symm.trans failed
  | target u numbered failed =>
    cases target with
    | none => cases failed
    | some a =>
      obtain ⟨n, numbered⟩ := exists_number_iff.mpr (second a rfl)
      rw [Option.mapM_some, numbered] at failed
      cases failed

variable [Host] {s : Settings} {u v : Marker}

/-- A label that is no obstacle can be written out. -/
theorem written_of_passed {strict : Bool} {marker : Text} {a : Address}
    (fits : Marker.Fits marker) (passed : ∀ r, ¬Obstacle strict marker a r) :
    a.person.hindrance? = none := by
  by_cases reads : Person.Reads a.person
  · exact reads.written
  · cases hindered : a.person.hindrance? with
    | none => rfl
    | some h => exact absurd (.unwritten fits reads hindered) (passed _)

section

variable (hu : s.userMarker = [u.char]) (hv : s.targetMarker = [v.char])

include hu hv

/-- Both passes give a text for the persons that the labels count as. -/
theorem exists_phrase_meant (user : Address) (target : Option Address) (t : Text) :
    ∃ out, phrase s user.meant.address ((target.map Address.meant).map BeingSpec.address) t =
      .ok out := by
  have fitsUser : Marker.ofDatum (.text s.userMarker) = .ok u := by rw [hu, u.ofDatum_char]
  have fitsTarget : Marker.ofDatum (.text s.targetMarker) = .ok v := by rw [hv, v.ofDatum_char]
  cases target with
  | none => exact ⟨_, phrase_none fitsUser⟩
  | some a => exact ⟨_, phrase_some fitsUser fitsTarget a.meant⟩

variable (lenient : s.contractsEnforced = false)

include lenient

/-- They give the same for the labels as such, if these can be written out. -/
theorem phrase_lenient (written : AllWritten user target) {t out : Text}
    (meant : phrase s user.meant.address ((target.map Address.meant).map BeingSpec.address) t =
      .ok out) : (phrase s user target t).outcome = .ok out := by
  have fitsUser : Marker.ofDatum (.text s.userMarker) = .ok u := by rw [hu, u.ofDatum_char]
  have fitsTarget : Marker.ofDatum (.text s.targetMarker) = .ok v := by rw [hv, v.ofDatum_char]
  have first : Phrasing.user s none user t =
      ⟨doubts s.contractsEnforced [u.char] user,
        .ok (Template.substitute u (user.being.fill (Person.meant user.person)) t)⟩ := by
    rw [Phrasing.user, hu]
    exact phrase_meant (.inr ⟨lenient, written.1⟩) t
  cases target with
  | none =>
    cases meant.symm.trans (phrase_none fitsUser)
    rw [phrase, first]
    rfl
  | some a =>
    cases meant.symm.trans (phrase_some fitsUser fitsTarget a.meant)
    have second (t : Text) : Phrasing.target s none a t =
        ⟨doubts s.contractsEnforced [v.char] a,
          .ok (Template.substitute v (a.being.fill (Person.meant a.person)) t)⟩ := by
      rw [Phrasing.target, hv]
      exact phrase_meant (.inr ⟨lenient, written.2 a rfl⟩) t
    rw [phrase, first, Run.bind_eq, Run.andThen]
    simp only [second]
    rfl

/-- A person that cannot be written out ends a pass. -/
theorem render_of_unwritten {n : Int} {k : Option Int} (numbers : Numbered user target n k)
    (unwritten : ¬AllWritten user target) (capitalize : Bool) (t : Text) :
    ∃ n k, Numbered user target n k ∧ render s user target capitalize t =
      ⟨.renderStarted n k :: doubts false s.userMarker user, .error (.unwritten .tooLong)⟩ := by
  have fitsUser : Marker.Fits s.userMarker := by rw [hu]; exact u.fits_char
  have fitsTarget : Marker.Fits s.targetMarker := by rw [hv]; exact v.fits_char
  have course := render_course s user target capitalize t
  generalize render s user target capitalize t = run at course ⊢
  cases course with
  | unnumbered failed => exact absurd failed numbers.not_unnumbered
  | @stoppedFirst n k r numbers obstacle =>
    have none := doubts_of_obstacle obstacle
    cases obstacle with
    | marker misfit => exact absurd fitsUser misfit
    | person _ enforced => exact Bool.noConfusion (lenient.symm.trans enforced)
    | unwritten _ _ hindered =>
      obtain ⟨rfl, _⟩ := numbers.overlong (.inl rfl) hindered
      rw [lenient] at none
      exact ⟨n, k, numbers, by rw [none]; rfl⟩
  | @stoppedSecond n k a r numbers given passed obstacle =>
    cases obstacle with
    | marker misfit => exact absurd fitsTarget misfit
    | person _ enforced => exact Bool.noConfusion (lenient.symm.trans enforced)
    | unwritten _ _ hindered =>
      obtain ⟨rfl, _⟩ := numbers.overlong (.inr given) hindered
      rw [lenient, rejection?, Option.toList_none, List.append_nil]
      exact ⟨n, k, numbers, rfl⟩
  | rendered _ passed passedBoth =>
    refine absurd ⟨?_, fun a given => ?_⟩ unwritten
    · exact written_of_passed fitsUser passed
    · exact written_of_passed fitsTarget (passedBoth a given)

end

end

/-- **Lenient settings forgive a label that has a number and can be written out.** Whatever labels
stand in the place of persons, there is a message for the persons that they count as. Under lenient
settings a run gives it exactly if all labels have a number and can be written out. If one has no
number, the run ends with that and reports nothing. If all have one and one cannot be written out,
the run starts, reports the first if it is none and can be written, and ends for the length of the
number. -/
theorem lenient_render_needs_numbers [Host] {s : Settings} {u v : Marker}
    (hu : s.userMarker = [u.char]) (hv : s.targetMarker = [v.char])
    (lenient : s.contractsEnforced = false) (user : Address) (target : Option Address)
    (capitalize : Bool) (t : Text) :
    let run := render s user target capitalize t
    ∃ m, (render s user.meant.address ((target.map Address.meant).map BeingSpec.address) capitalize
        t).outcome = .ok m ∧
      (run.outcome = .ok m ↔ AllReportable user target ∧ AllWritten user target) ∧
      (¬AllReportable user target →
        ∃ e, Unnumbered user target e ∧ run = ⟨[], .error (.number e)⟩) ∧
      (AllReportable user target → ¬AllWritten user target →
        ∃ n k, Numbered user target n k ∧ run =
          ⟨.renderStarted n k :: doubts false s.userMarker user,
            .error (.unwritten .tooLong)⟩) := by
  intro run
  obtain ⟨out, meant⟩ := exists_phrase_meant hu hv user target t
  have message := congrArg Run.outcome (render_of_phrase user.meant _ meant capitalize)
  rcases start_cases user target with ⟨e, failed, start⟩ | ⟨n, k, numbers, start⟩
  · have ended : run = ⟨[], .error (.number e)⟩ := by
      show render s user target capitalize t = _
      rw [render, start]
      rfl
    have missing := failed.not_allReportable
    refine ⟨_, message, ⟨fun gives => ?_, fun all => absurd all.1 missing⟩,
      fun _ => ⟨e, failed, ended⟩, fun all => absurd all missing⟩
    rw [ended] at gives
    cases gives
  · refine ⟨_, message, ⟨fun gives => ⟨numbers.allReportable, ?_⟩, fun all => ?_⟩,
      fun missing => absurd numbers.allReportable missing, fun _ unwritten =>
        render_of_unwritten hu hv lenient numbers unwritten capitalize t⟩
    · by_contra unwritten
      obtain ⟨_, _, _, ended⟩ := render_of_unwritten hu hv lenient numbers unwritten capitalize t
      rw [show run.outcome = _ from congrArg Run.outcome ended] at gives
      cases gives
    · have passes := phrase_lenient hu hv lenient all.2 meant
      have given : phrase s user target t = ⟨(phrase s user target t).events, .ok out⟩ := by
        rw [← passes]
      exact congrArg Run.outcome (render_of_passed capitalize start given)

/-- A truth value counts as the third person. So would null, but it has no number, and so would a
whole number of too many digits, but it cannot be written out. -/
theorem lenient_render_needs_numbers_bool :
    let s : Settings := { debug := false }
    let user : Address := ⟨.datum (.text " 2"), ⟨"owl", .female, none⟩⟩
    let imp (l : Label) : Option Address := some ⟨l, ⟨"imp", .male, none⟩⟩
    s.contractsEnforced = false ∧
    (render s user (imp (.datum (.bool true))) true "@I saw ~me and ~general.").outcome =
      .ok ⟨"You saw him and the imp.", "@I saw ~me and ~general."⟩ ∧
    (∃ e, render s user (imp (.datum .null)) true "@I saw ~me and ~general." =
      ⟨[], .error (.number e)⟩) ∧
    (render s user (imp (.datum (.int (Nat.pow 10 Text.digitLimit : Nat)))) true
      "@I saw ~me and ~general.").outcome = .error (.unwritten .tooLong) := by
  intro s user imp
  have lenient (l : Label) := lenient_render_needs_numbers (s := s) (u := ⟨.char '@', rfl⟩)
    (v := ⟨.char '~', rfl⟩) rfl rfl rfl user (imp l) true "@I saw ~me and ~general."
  have spelled : Text.readInt " 2" = .ok 2 := rfl
  refine ⟨rfl, ?_, ?_, ?_⟩
  · obtain ⟨m, meant, gives, _⟩ := lenient (.datum (.bool true))
    have all : AllReportable user (imp (.datum (.bool true))) := by
      refine ⟨.text spelled, ?_⟩
      rintro a ⟨⟩
      exact .bool true
    have written : AllWritten user (imp (.datum (.bool true))) := allWritten_some rfl rfl
    exact (gives.mpr ⟨all, written⟩).trans (meant.symm.trans rfl)
  · obtain ⟨_, _, _, ends, _⟩ := lenient (.datum .null)
    have missing : ¬AllReportable user (imp (.datum .null)) := fun all => nomatch all.2 _ rfl
    obtain ⟨e, _, ended⟩ := ends missing
    exact ⟨e, ended⟩
  · obtain ⟨_, _, _, _, ends⟩ := lenient (.datum (.int (Nat.pow 10 Text.digitLimit : Nat)))
    have all : AllReportable user (imp (.datum (.int (Nat.pow 10 Text.digitLimit : Nat)))) := by
      refine ⟨.text spelled, ?_⟩
      rintro a ⟨⟩
      exact .int _
    have unwritten (l : Label) (h : l.hindrance? = some .tooLong) : ¬AllWritten user (imp l) :=
      fun written => nomatch h.symm.trans (written.2 _ rfl)
    obtain ⟨_, _, _, ended⟩ := ends all (unwritten _ (Label.hindrance?_long rfl))
    exact congrArg Run.outcome ended

/-- Lenient settings do not forgive every label. The name of a person stands for this person and
ends the run all the same, and so does null. -/
theorem second_by_name_ends_lenient_render :
    let s : Settings := { strictContracts := some false }
    let run (d : Datum) := render s ⟨.datum d, ⟨"goblin", .male, none⟩⟩ none true "@I fled."
    s.contractsEnforced = false ∧ Marker.Fits s.userMarker ∧ Marker.Fits s.targetMarker ∧
    Person.ofLabel (.datum (.text "second")) = .ok .second ∧
    run (.text "second") = ⟨[], .error (.number (.malformed (.datum (.text "second"))))⟩ ∧
    run .null = ⟨[], .error (.number .noNumber)⟩ ∧
    ¬∀ d, ∃ m, (run d).outcome = .ok m := by
  intro s run
  have second : run (.text "second") =
      ⟨[], .error (.number (.malformed (.datum (.text "second"))))⟩ := rfl
  refine ⟨rfl, by decide, by decide, rfl, second, rfl, fun every => ?_⟩
  obtain ⟨m, message⟩ := every (.text "second")
  rw [second] at message
  cases message

end Message
end Narration
