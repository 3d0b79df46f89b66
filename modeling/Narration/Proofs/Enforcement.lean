import Narration.Proofs.Accepted
import Narration.Proofs.Leniency

/-! # What enforced contracts decide

Whether contracts are enforced decides over labels that stand for no person and over nothing else.
Enforced, such a label ends the run; otherwise it is reported once and counts as the third person.
A marker or a label that cannot even be written out ends the run in both cases. This is said of a
single pass first and then of a rendering. There each pass forgives its own label, and the second
may still end after the first has forgiven, so forgiving does not always lead to a message. -/
namespace Narration

namespace Address

/-- An address whose label stands for no person, with the third person in its place. -/
def asThird (a : Address) : Address := ⟨.person .third, a.being⟩

theorem meant_of_stranger [Host] {a : Address} (none : ¬Person.Reads a.person) :
    a.meant.address = a.asThird := by
  have third : Person.meant a.person = .third := by
    rw [Person.meant, Person.ofLabel_of_not_reads none]
  rw [BeingSpec.address, meant, third]
  rfl

end Address

namespace Marker

variable [Host]

/-- **How a datum is read as a marker**: as one, or refused as it was given, or refused because it
cannot be written out. -/
theorem ofDatum_cases (d : Datum) :
    (∃ m, ofDatum d = .ok m) ∨ ofDatum d = .error (.breach (.marker d)) ∨
      ∃ h, d.hindrance? = some h ∧ ofDatum d = .error (.unwritten h) := by
  have other (read : ofDatum d = .error ((Breach.marker d).refusal d.hindrance?)) :
      ofDatum d = .error (.breach (.marker d)) ∨
        ∃ h, d.hindrance? = some h ∧ ofDatum d = .error (.unwritten h) := by
    rw [read]
    cases d.hindrance? with
    | none => exact .inl rfl
    | some h => exact .inr ⟨h, rfl, rfl⟩
  cases d with
  | text t =>
    rcases ofDatum_text t with ⟨m, _, read⟩ | ⟨_, refused⟩
    · exact .inl ⟨m, read⟩
    · exact .inr (.inl refused)
  | _ => exact .inr (other rfl)

theorem not_fits_of_refused {t : Text} {r : Refusal} (h : ofDatum (.text t) = .error r) :
    ¬Fits t := by
  intro ⟨c, same, notWord⟩
  rw [same, ofDatum_char ⟨c, notWord⟩] at h
  cases h

end Marker

theorem Datum.hindrance?_text [Host] (t : Text) : hindrance? (.text t) = none := by
  rw [hindrance?, hindranceWithin?_text]

namespace Phrasing

section

variable [Host]

/-- A pass under enforced contracts, and the same pass where they are not enforced. What both give
or forgo is what a pass gives for the person that the label counts as. -/
inductive Relaxed (marker : Datum) (a : Address) (t : Text) :
    Run Refusal Text → Run Refusal Text → Prop
  | text {out : Text} (reads : Person.Reads a.person)
    (meant : ∀ strict, phrase strict marker a.meant.address t = .ok out) :
    Relaxed marker a t (.ok out) (.ok out)
  | marker (refused : Marker.ofDatum marker = .error (.breach (.marker marker))) :
    Relaxed marker a t (.fail (.breach (.marker marker))) (.fail (.breach (.marker marker)))
  | unwrittenMarker {h : Hindrance} (hindered : marker.hindrance? = some h) :
    Relaxed marker a t (.fail (.unwritten h)) (.fail (.unwritten h))
  | person {out : Text} (none : ¬Person.Reads a.person)
    (told : a.person.hindrance? = Option.none)
    (third : ∀ strict, phrase strict marker a.asThird t = .ok out) :
    Relaxed marker a t (.fail (.breach (.person a.person)))
      ⟨[.personOutOfRange a.person.quoted], .ok out⟩
  | unwritten {m : Marker} {h : Hindrance} (fits : Marker.ofDatum marker = .ok m)
    (hindered : a.person.hindrance? = some h) :
    Relaxed marker a t (.fail (.unwritten h)) (.fail (.unwritten h))

theorem phrase_of_unwritten {marker : Datum} {m : Marker} (fits : Marker.ofDatum marker = .ok m)
    {a : Address} {h : Hindrance} (hindered : a.person.hindrance? = some h) (strict : Bool)
    (t : Text) : phrase strict marker a t = .fail (.unwritten h) := by
  have refused : Person.ofLabel a.person = .error (.unwritten h) :=
    Person.ofLabel_eq_unwritten_iff.mpr hindered
  simp [phrase, prepare, settle, fits, refused]

theorem phrase_relaxed (marker : Datum) (a : Address) (t : Text) :
    Relaxed marker a t (phrase true marker a t) (phrase false marker a t) := by
  rcases Marker.ofDatum_cases marker with ⟨m, fits⟩ | refused | ⟨h, hindered, refused⟩
  · by_cases reads : Person.Reads a.person
    · obtain ⟨p, accepted⟩ := reads
      have given (strict : Bool) := phrase_of_accepted fits accepted strict a.being t
      have counts : a.meant.person = p := by
        show Person.meant a.person = p
        rw [Person.meant, accepted]
      rw [given true, given false]
      refine .text ⟨p, accepted⟩ fun strict => ?_
      rw [phrase_address fits, counts]
      rfl
    · have refused := Person.ofLabel_of_not_reads reads
      cases told : a.person.hindrance? with
      | none =>
        rw [told, Breach.refusal] at refused
        have ends : phrase true marker a t = .fail (.breach (.person a.person)) := by
          simp [phrase, prepare, settle, fits, refused]
        have goes : phrase false marker a t = ⟨[.personOutOfRange a.person.quoted],
            .ok (Template.substitute m (a.being.fill .third) t)⟩ := by
          rw [phrase, prepare, settle_lenient reads told, fits]
          rfl
        rw [ends, goes]
        exact .person reads told fun strict => phrase_of_accepted fits rfl strict a.being t
      | some h =>
        rw [phrase_of_unwritten fits told, phrase_of_unwritten fits told]
        exact .unwritten fits told
  · rw [phrase_of_bad_marker refused, phrase_of_bad_marker refused]
    exact .marker refused
  · rw [phrase_of_bad_marker refused, phrase_of_bad_marker refused]
    exact .unwrittenMarker hindered

end

end Phrasing

/-- Settings that agree on all but what decides whether contracts are enforced. -/
def Settings.AgreeElsewhere (s s' : Settings) : Prop :=
  s' = { s with debug := s'.debug, strictContracts := s'.strictContracts }

section

variable {s s' : Settings} (agree : s.AgreeElsewhere s')

include agree

theorem Settings.AgreeElsewhere.userMarker : s'.userMarker = s.userMarker := by rw [agree]

theorem Settings.AgreeElsewhere.targetMarker : s'.targetMarker = s.targetMarker := by rw [agree]

namespace Phrasing

variable [Host] (a : Address) (t : Text)

theorem user_congr (same : s'.contractsEnforced = s.contractsEnforced) :
    user s' none a t = user s none a t := by
  rw [user, user, Option.getD_none, Option.getD_none, same, agree.userMarker]

theorem target_congr (same : s'.contractsEnforced = s.contractsEnforced) :
    target s' none a t = target s none a t := by
  rw [target, target, Option.getD_none, Option.getD_none, same, agree.targetMarker]

variable (enforced : s.contractsEnforced = true) (lenient : s'.contractsEnforced = false)

include enforced lenient

theorem user_relaxed :
    Relaxed (.text s.userMarker) a t (user s none a t) (user s' none a t) := by
  rw [user, user, Option.getD_none, Option.getD_none, enforced, lenient, agree.userMarker]
  exact phrase_relaxed (.text s.userMarker) a t

theorem target_relaxed :
    Relaxed (.text s.targetMarker) a t (target s none a t) (target s' none a t) := by
  rw [target, target, Option.getD_none, Option.getD_none, enforced, lenient, agree.targetMarker]
  exact phrase_relaxed (.text s.targetMarker) a t

end Phrasing

end

namespace Message

open Phrasing

section

variable [Host]

/-- The labels of a rendering that stand for no person, in the order of the passes. -/
def strangers (user : Address) (target : Option Address) : List Label :=
  ((user :: target.toList).map Address.person).filter fun l => ¬Person.Reads l

/-- What is reported of a label that counts as the third person. -/
def doubted (l : Label) : Event := .personOutOfRange l.quoted

/-- A rendering under enforced contracts, and the same rendering where they are not enforced. Once
there are numbers to report, the second ends as a rendering for the persons that the labels count
as, which is `meant`. -/
inductive Relaxed (s : Settings) (user : Address) (target : Option Address)
    (meant : Run Failure Message) : Run Failure Message → Run Failure Message → Prop
  | unnumbered {e : NumberError} (failed : Unnumbered user target e) :
    Relaxed s user target meant ⟨[], .error (.number e)⟩ ⟨[], .error (.number e)⟩
  | rendered {u : Int} {n : Option Int} {m : Message} (all : strangers user target = [])
    (counts : meant.outcome = .ok m) :
    Relaxed s user target meant ⟨[.renderStarted u n, .renderSuccess (preview m.text)], .ok m⟩
      ⟨[.renderStarted u n, .renderSuccess (preview m.text)], .ok m⟩
  | misfit {u : Int} {n : Option Int} {given : Datum}
    (counts : meant.outcome = .error (.breach (.marker given))) :
    Relaxed s user target meant
      ⟨[.renderStarted u n, rejected (.marker given)], .error (.breach (.marker given))⟩
      ⟨[.renderStarted u n, rejected (.marker given)], .error (.breach (.marker given))⟩
  | unwritten {u : Int} {n : Option Int} {a : Address} {h : Hindrance}
    (given : a = user ∨ Person.Reads user.person ∧ target = some a)
    (hindered : a.person.hindrance? = some h) :
    Relaxed s user target meant ⟨[.renderStarted u n], .error (.unwritten h)⟩
      ⟨[.renderStarted u n], .error (.unwritten h)⟩
  | forgiven {u : Int} {n : Option Int} {l : Label} {rest : List Label} {m : Message}
    (some : strangers user target = l :: rest) (told : AllWritten user target)
    (counts : meant.outcome = .ok m) :
    Relaxed s user target meant
      ⟨[.renderStarted u n, rejected (.person l)], .error (.breach (.person l))⟩
      ⟨.renderStarted u n :: ((l :: rest).map doubted ++ [.renderSuccess (preview m.text)]), .ok m⟩
  | misfitBehind {u : Int} {n : Option Int} {a : Address} (none : ¬Person.Reads user.person)
    (given : target = some a) (misfit : ¬Marker.Fits s.targetMarker)
    (counts : meant.outcome = .error (.breach (.marker (.text s.targetMarker)))) :
    Relaxed s user target meant
      ⟨[.renderStarted u n, rejected (.person user.person)],
        .error (.breach (.person user.person))⟩
      ⟨[.renderStarted u n, doubted user.person, rejected (.marker (.text s.targetMarker))],
        .error (.breach (.marker (.text s.targetMarker)))⟩
  | unwrittenBehind {u : Int} {n : Option Int} {a : Address} {h : Hindrance}
    (none : ¬Person.Reads user.person) (told : user.person.hindrance? = Option.none)
    (given : target = some a) (hindered : a.person.hindrance? = some h) :
    Relaxed s user target meant
      ⟨[.renderStarted u n, rejected (.person user.person)],
        .error (.breach (.person user.person))⟩
      ⟨[.renderStarted u n, doubted user.person], .error (.unwritten h)⟩

/-! ## Both passes -/

section

variable {s : Settings} {user : Address} {target : Option Address} {t : Text} {events : List Event}

theorem render_of_unnumbered {e : NumberError} (capitalize : Bool)
    (start : start user target = .fail (.number e)) :
    render s user target capitalize t = ⟨[], .error (.number e)⟩ := by
  rw [render, start]
  rfl

theorem phrase_of_stopped {r : Refusal}
    (first : Phrasing.user s none user t = ⟨events, .error r⟩) :
    phrase s user target t = ⟨events, .error r⟩ := by
  rw [phrase, first]
  rfl

theorem phrase_alone {out : Text} (first : Phrasing.user s none user t = ⟨events, .ok out⟩) :
    phrase s user none t = ⟨events, .ok out⟩ := by
  rw [phrase, first]
  simp [Run.andThen, Run.ok]

theorem phrase_both {a : Address} {out : Text} {second : Run Refusal Text}
    (first : Phrasing.user s none user t = ⟨events, .ok out⟩)
    (behind : Phrasing.target s none a out = second) :
    phrase s user (some a) t = ⟨events ++ second.events, second.outcome⟩ := by
  rw [phrase, first, ← behind]
  rfl

end

section

variable (s : Settings) (user : Address) (target : Option Address) (capitalize : Bool) (t : Text)

/-- The rendering for the persons that the labels count as. -/
def renderMeant : Run Failure Message :=
  render s user.meant.address ((target.map Address.meant).map BeingSpec.address) capitalize t

variable {s user target t}

theorem renderMeant_of_passed {out : Text}
    (passes : phrase s user.meant.address ((target.map Address.meant).map BeingSpec.address) t =
      .ok out) :
    (renderMeant s user target capitalize t).outcome = .ok ⟨finished capitalize out, t⟩ := by
  rw [renderMeant, render_of_phrase user.meant _ passes]

theorem renderMeant_of_stopped {b : Breach}
    (passes : phrase s user.meant.address ((target.map Address.meant).map BeingSpec.address) t =
      .fail (.breach b)) :
    (renderMeant s user target capitalize t).outcome = .error (.breach b) := by
  rw [renderMeant, render_of_breach user.meant _ passes]

end

section

variable {s s' : Settings} (agree : s.AgreeElsewhere s')

include agree

theorem render_congr (same : s'.contractsEnforced = s.contractsEnforced) (user : Address)
    (target : Option Address) (capitalize : Bool) (t : Text) :
    render s' user target capitalize t = render s user target capitalize t := by
  have passes : phrase s' user target t = phrase s user target t := by
    unfold phrase
    rw [user_congr agree user t same]
    cases target with
    | none => rfl
    | some a => simp only [target_congr agree a _ same]
  rw [render, passes]
  rfl

variable (enforced : s.contractsEnforced = true) (lenient : s'.contractsEnforced = false)
  {user : Address} {target : Option Address} {capitalize : Bool} {t out : Text} {u : Int}
  {n : Option Int} (start : start user target = .emit (.renderStarted u n))
  (first : ∀ strict, Phrasing.phrase strict (.text s.userMarker) user.meant.address t = .ok out)

include enforced lenient start first

/-- Behind a first pass for a label that stands for a person. -/
theorem relaxed_of_read (reads : Person.Reads user.person)
    (strictly : Phrasing.user s none user t = .ok out)
    (leniently : Phrasing.user s' none user t = .ok out) :
    Relaxed s user target (renderMeant s user target capitalize t)
      (render s user target capitalize t) (render s' user target capitalize t) := by
  cases target with
  | none =>
    rw [render_of_passed capitalize start (phrase_alone strictly),
      render_of_passed capitalize start (phrase_alone leniently)]
    have among : strangers user none = [] := by simp [strangers, reads]
    exact .rendered among (renderMeant_of_passed capitalize (phrase_alone (first _)))
  | some a =>
    have second := target_relaxed agree a out enforced lenient
    generalize strictly' : Phrasing.target s none a out = r at second
    generalize leniently' : Phrasing.target s' none a out = r' at second
    cases second with
    | marker refused =>
      rw [render_of_stopped capitalize start (phrase_both strictly strictly'),
        render_of_stopped capitalize start (phrase_both leniently leniently')]
      exact .misfit (renderMeant_of_stopped capitalize
        (phrase_both (first _) (phrase_of_bad_marker refused _ _ _)))
    | unwrittenMarker hindered => exact nomatch (Datum.hindrance?_text _).symm.trans hindered
    | unwritten fits hindered =>
      rw [render_of_stopped capitalize start (phrase_both strictly strictly'),
        render_of_stopped capitalize start (phrase_both leniently leniently')]
      exact .unwritten (.inr ⟨reads, rfl⟩) hindered
    | text readsToo second =>
      rw [render_of_passed capitalize start (phrase_both strictly strictly'),
        render_of_passed capitalize start (phrase_both leniently leniently')]
      have among : strangers user (some a) = [] := by simp [strangers, reads, readsToo]
      exact .rendered among (renderMeant_of_passed capitalize (phrase_both (first _) (second _)))
    | person stranger told second =>
      rw [render_of_stopped capitalize start (phrase_both strictly strictly'),
        render_of_passed capitalize start (phrase_both leniently leniently')]
      rw [← Address.meant_of_stranger stranger] at second
      have among : strangers user (some a) = [a.person] := by simp [strangers, reads, stranger]
      exact .forgiven among (allWritten_some reads.written told)
        (renderMeant_of_passed capitalize (phrase_both (first _) (second _)))

/-- Behind a first pass for a label that stands for none. -/
theorem relaxed_of_stranger (stranger : ¬Person.Reads user.person)
    (told : user.person.hindrance? = none)
    (strictly : Phrasing.user s none user t = .fail (.breach (.person user.person)))
    (leniently : Phrasing.user s' none user t = ⟨[doubted user.person], .ok out⟩) :
    Relaxed s user target (renderMeant s user target capitalize t)
      (render s user target capitalize t) (render s' user target capitalize t) := by
  rw [render_of_stopped capitalize start (phrase_of_stopped strictly)]
  cases target with
  | none =>
    rw [render_of_passed capitalize start (phrase_alone leniently)]
    have among : strangers user none = [user.person] := by simp [strangers, stranger]
    exact .forgiven among (allWritten_none told)
      (renderMeant_of_passed capitalize (phrase_alone (first _)))
  | some a =>
    have second := target_relaxed agree a out enforced lenient
    generalize Phrasing.target s none a out = r at second
    generalize leniently' : Phrasing.target s' none a out = r' at second
    cases second with
    | marker refused =>
      rw [render_of_stopped capitalize start (phrase_both leniently leniently')]
      have misfit := Marker.not_fits_of_refused refused
      exact .misfitBehind stranger rfl misfit (renderMeant_of_stopped capitalize
        (phrase_both (first _) (phrase_of_bad_marker refused _ _ _)))
    | unwrittenMarker hindered => exact nomatch (Datum.hindrance?_text _).symm.trans hindered
    | unwritten fits hindered =>
      rw [render_of_stopped capitalize start (phrase_both leniently leniently')]
      exact .unwrittenBehind stranger told rfl hindered
    | text reads second =>
      rw [render_of_passed capitalize start (phrase_both leniently leniently')]
      have among : strangers user (some a) = [user.person] := by simp [strangers, reads, stranger]
      exact .forgiven among (allWritten_some told reads.written)
        (renderMeant_of_passed capitalize (phrase_both (first _) (second _)))
    | person strangerToo toldToo second =>
      rw [render_of_passed capitalize start (phrase_both leniently leniently')]
      rw [← Address.meant_of_stranger strangerToo] at second
      have among : strangers user (some a) = [user.person, a.person] := by
        simp [strangers, stranger, strangerToo]
      exact .forgiven among (allWritten_some told toldToo)
        (renderMeant_of_passed capitalize (phrase_both (first _) (second _)))

omit start first

theorem render_relaxed (user : Address) (target : Option Address) (capitalize : Bool) (t : Text) :
    Relaxed s user target (renderMeant s user target capitalize t)
      (render s user target capitalize t) (render s' user target capitalize t) := by
  rcases start_cases user target with ⟨e, failed, start⟩ | ⟨u, n, _, start⟩
  · rw [render_of_unnumbered capitalize start, render_of_unnumbered capitalize start]
    exact .unnumbered failed
  have first := user_relaxed agree user t enforced lenient
  generalize strictly : Phrasing.user s none user t = r at first
  generalize leniently : Phrasing.user s' none user t = r' at first
  cases first with
  | marker refused =>
    rw [render_of_stopped capitalize start (phrase_of_stopped strictly),
      render_of_stopped capitalize start (phrase_of_stopped leniently)]
    exact .misfit (renderMeant_of_stopped capitalize (phrase_of_bad_user refused _))
  | unwrittenMarker hindered => exact nomatch (Datum.hindrance?_text _).symm.trans hindered
  | unwritten fits hindered =>
    rw [render_of_stopped capitalize start (phrase_of_stopped strictly),
      render_of_stopped capitalize start (phrase_of_stopped leniently)]
    exact .unwritten (.inl rfl) hindered
  | text reads first =>
    exact relaxed_of_read agree enforced lenient start first reads strictly leniently
  | person stranger told first =>
    rw [← Address.meant_of_stranger stranger] at first
    exact relaxed_of_stranger agree enforced lenient start first stranger told strictly leniently

end

/-- **Contracts decide over strangers only.** For every datum in the place of a marker and every
label in the place of a person, a pass gives the same text and the same refusal of the marker
whether contracts are enforced or not, and reports nothing then. A label that stands for no person
ends it where they are enforced, and is reported once and counts as the third person where they are
not. What cannot be written out ends it in both cases. The same holds of the passes and of a
rendering under settings that agree on all else: the label that ends a rendering is the first that
stands for no person, and what is reported instead are all of them, unless the second marker is
refused or the second label cannot be written out. -/
theorem contracts_decide_over_strangers :
    (∀ marker a t, Phrasing.Relaxed marker a t (Phrasing.phrase true marker a t)
      (Phrasing.phrase false marker a t)) ∧
    ∀ s s' : Settings, s.AgreeElsewhere s' →
      (s'.contractsEnforced = s.contractsEnforced →
        (∀ a t, Phrasing.user s' none a t = Phrasing.user s none a t) ∧
        (∀ a t, Phrasing.target s' none a t = Phrasing.target s none a t) ∧
        ∀ user target capitalize t,
          render s' user target capitalize t = render s user target capitalize t) ∧
      (s.contractsEnforced = true → s'.contractsEnforced = false →
        (∀ a t, Phrasing.Relaxed (.text s.userMarker) a t (Phrasing.user s none a t)
          (Phrasing.user s' none a t)) ∧
        (∀ a t, Phrasing.Relaxed (.text s.targetMarker) a t (Phrasing.target s none a t)
          (Phrasing.target s' none a t)) ∧
        ∀ user target capitalize t,
          Relaxed s user target (renderMeant s user target capitalize t)
            (render s user target capitalize t) (render s' user target capitalize t)) := by
  refine ⟨phrase_relaxed, fun s s' agree => ⟨fun same => ?_, fun enforced lenient => ?_⟩⟩
  · exact ⟨fun a t => user_congr agree a t same, fun a t => target_congr agree a t same,
      fun user target capitalize t => render_congr agree same user target capitalize t⟩
  · exact ⟨fun a t => user_relaxed agree a t enforced lenient,
      fun a t => target_relaxed agree a t enforced lenient,
      fun user target capitalize t =>
        render_relaxed agree enforced lenient user target capitalize t⟩

end

/-- Nine and a truth value, neither of which is a person, once with a marker for both passes and
once with none for the second. -/
theorem contracts_decide_over_strangers_nine :
    let owl (l : Label) : Address := ⟨l, ⟨"owl", .female, none⟩⟩
    let imp (l : Label) : Option Address := some ⟨l, ⟨"imp", .male, none⟩⟩
    let strict (m : Text) : Settings := { targetMarker := m, strictContracts := some true }
    let lenient (m : Text) : Settings := { targetMarker := m, debug := false }
    let run (s : Settings) (user target : Label) :=
      render s (owl user) (imp target) false "@I saw ~me."
    let nine : Label := .datum (.int 9)
    let yes : Label := .datum (.bool true)
    (∀ m, (strict m).AgreeElsewhere (lenient m) ∧ (strict m).contractsEnforced = true ∧
      (lenient m).contractsEnforced = false ∧
      Relaxed (strict m) (owl nine) (imp yes) (run (strict m) (.person .third) (.person .third))
        (run (strict m) nine yes) (run (lenient m) nine yes)) ∧
    run (strict "~") nine yes =
      ⟨[.renderStarted 9 (some 1), rejected (.person nine)], .error (.breach (.person nine))⟩ ∧
    run (lenient "~") nine yes =
      ⟨[.renderStarted 9 (some 1), .personOutOfRange "9", .personOutOfRange "True",
        .renderSuccess "she saw him."], .ok ⟨"she saw him.", "@I saw ~me."⟩⟩ ∧
    run (lenient "x") nine yes =
      ⟨[.renderStarted 9 (some 1), .personOutOfRange "9", rejected (.marker (.text "x"))],
        .error (.breach (.marker (.text "x")))⟩ := by
  intro owl imp strict lenient run nine yes
  refine ⟨fun m => ?_, rfl, rfl, rfl⟩
  have agree : (strict m).AgreeElsewhere (lenient m) := rfl
  have relaxed := ((contracts_decide_over_strangers.2 _ _ agree).2 rfl rfl).2.2
  exact ⟨agree, rfl, rfl, relaxed (owl nine) (imp yes) false _⟩

/-- What holds of one pass does not hold of a rendering as it stands. Where enforced contracts end
it at the first of two strangers, both of them are reported otherwise, and where the second marker
does not fit there is no message. -/
theorem second_stranger_is_reported_too :
    let nine : Address := ⟨.datum (.int 9), ⟨"owl", .female, none⟩⟩
    let eight : Address := ⟨.datum (.int 8), ⟨"imp", .male, none⟩⟩
    let strict (m : Text) : Settings := { targetMarker := m, strictContracts := some true }
    let lenient (m : Text) : Settings := { targetMarker := m, strictContracts := some false }
    let run (s : Settings) := render s nine (some eight) true "@I saw ~me."
    (∀ m, (strict m).AgreeElsewhere (lenient m) ∧
      (run (strict m)).outcome = .error (.breach (.person nine.person))) ∧
    run (lenient "~") =
      ⟨[.renderStarted 9 (some 8), .personOutOfRange "9", .personOutOfRange "8",
        .renderSuccess "She saw him."], .ok ⟨"She saw him.", "@I saw ~me."⟩⟩ ∧
    (run (lenient "x")).outcome = .error (.breach (.marker (.text "x"))) ∧
    ¬∀ (s s' : Settings) (user : Address) (target : Option Address) (t : Text) (l : Label),
      s.AgreeElsewhere s' → s.contractsEnforced = true → s'.contractsEnforced = false →
      (render s user target true t).outcome = .error (.breach (.person l)) →
      (∃ m, (render s' user target true t).outcome = .ok m) ∧
      (render s' user target true t).events.filter (fun e => e matches .personOutOfRange _) =
        [doubted l] := by
  intro nine eight strict lenient run
  have both : run (lenient "~") =
      ⟨[.renderStarted 9 (some 8), .personOutOfRange "9", .personOutOfRange "8",
        .renderSuccess "She saw him."], .ok ⟨"She saw him.", "@I saw ~me."⟩⟩ := rfl
  refine ⟨fun m => ⟨rfl, rfl⟩, both, rfl, fun every => ?_⟩
  have once := (every (strict "~") (lenient "~") nine (some eight) "@I saw ~me." nine.person
    rfl rfl rfl rfl).2
  rw [show render (lenient "~") nine (some eight) true "@I saw ~me." = _ from both] at once
  exact nomatch once

end Message
end Narration
