import Narration.Proofs.FailedSetUp

/-! # Levels that the environment names

Where the caller gives no level, the environment names one, or else the settings do. A name is
looked up in any letter case, and one that is not known means information. But the table of names
has two entries that are no numbers: a text by one of these names is no level, so neither a set-up
nor any report behind it goes through, whatever the journal is like. Every other text names a number
that both filters take. -/
namespace Narration

namespace Level

/-- The number of the standard name that a text is in some letter case, or else that of information.
-/
inductive Names (t : Text) : Int → Prop
  | standard {name : Text} {n : Int} (listed : (name, n) ∈ standard)
    (spelled : Text.upper t = name) : Names t n
  | unknown (other : ∀ p ∈ Level.standard, Text.upper t ≠ p.1) : Names t 20

/-- The names in the table that are not of numbers, and how each is refused as a level. -/
inductive Misnames (t : Text) : Refusal → Prop
  | form (spelled : Text.upper t = "BASIC_FORMAT") : Misnames t (.unknown basicFormat)
  | forms (spelled : Text.upper t = "_STYLES") : Misnames t .noLevel

section

variable {t : Text} {n : Int} {r : Refusal}

/-- No standard name is there twice, so each is found. -/
theorem lookup_standard : ∀ p ∈ standard, standard.lookup p.1 = some p.2 := by decide

theorem exists_names (t : Text) : ∃ n, Names t n := by
  cases found : standard.lookup (Text.upper t) with
  | none =>
    refine ⟨20, .unknown fun p listed same => ?_⟩
    rw [same, lookup_standard p listed] at found
    cases found
  | some n =>
    obtain ⟨before, behind, cut, _⟩ := List.lookup_eq_some_iff.mp found
    exact ⟨n, .standard (by simp [cut]) rfl⟩

theorem lookup_of_names (names : Names t n) : (standard.lookup (Text.upper t)).getD 20 = n := by
  cases names with
  | standard listed spelled => rw [spelled, lookup_standard _ listed, Option.getD_some]
  | unknown other =>
    cases found : standard.lookup (Text.upper t) with
    | none => rfl
    | some n =>
      obtain ⟨before, behind, cut, _⟩ := List.lookup_eq_some_iff.mp found
      exact absurd rfl (other (Text.upper t, n) (by simp [cut]))

/-- Every number that has a name is a threshold. -/
theorem Names.threshold (names : Names t n) : (number n).threshold = .ok n := by
  have known : ∀ p ∈ Level.standard, (number p.2).threshold = .ok p.2 := by decide
  cases names with
  | standard listed spelled => exact known _ listed
  | unknown _ => rfl

theorem ofName_of_names (names : Names t n) (plain : ∀ r, ¬Misnames t r) :
    ofName t = .number n := by
  rw [ofName, if_neg fun same => plain _ (.form same), if_neg fun same => plain _ (.forms same),
    lookup_of_names names]

theorem Misnames.root (misnames : Misnames t r) : (ofName t).root = .error r := by
  cases misnames with
  | form spelled =>
    rw [ofName, if_pos spelled]
    decide
  | forms spelled =>
    have other : Text.upper t ≠ "BASIC_FORMAT" := by
      rw [spelled]
      decide
    rw [ofName, if_neg other, if_pos spelled]
    rfl

end

end Level

namespace Journal

section

variable {env : Environment} {s : Settings} {j : Journal}

/-- The text that names the level where the caller gives none. -/
def levelName (env : Environment) (s : Settings) : Text := env.level.getD s.logLevel

section

variable (quiet : env.file = [])

include quiet

theorem mapM_fileFor_null : (env.fileFor .null).mapM env.opened = .ok none := by
  rw [Environment.fileFor, if_neg (fun named => named quiet)]
  rfl

theorem file?_null : Request.file? env {} = none :=
  Request.file?_of_opened (mapM_fileFor_null quiet)

theorem verdict_of_names {n : Int} (names : Level.Names (levelName env s) n)
    (plain : ∀ r, ¬Level.Misnames (levelName env s) r) :
    Request.verdict env s {} = .granted (.ofNumber n) n := by
  have limit : Request.limit env s {} = .number n := Level.ofName_of_names names plain
  rw [Request.verdict, mapM_fileFor_null quiet, limit]
  dsimp only
  rw [Level.root]
  dsimp only
  rw [names.threshold]

theorem verdict_of_misnames {r : Level.Refusal} (misnames : Level.Misnames (levelName env s) r) :
    Request.verdict env s {} = .refused none r := by
  have limit : Request.limit env s {} = Level.ofName (levelName env s) := rfl
  rw [Request.verdict, mapM_fileFor_null quiet, limit]
  dsimp only
  rw [misnames.root]

section

variable (fresh : j.ready = false) {r : Level.Refusal}
  (misnames : Level.Misnames (levelName env s) r)

include fresh misnames

theorem setUp_of_misnames :
    setUp env s {} j = (redirected env {} j, .error (.level r)) := by
  have due : ¬(j.ready && !({} : Request).force) = true := by simp [fresh]
  rw [setUp_due due, verdict_of_misnames quiet misnames]
  rfl

variable [Host]

/-- **One report** fails with the set-up that it asks for, and the next will ask again. -/
theorem deliver_of_misnames (report : Record) :
    deliver env s j (.emit report) = .error (.level r) ∧
      (make env s j (.emit report)).1.ready = false := by
  have made : make env s j (.emit report) = (redirected env {} j, .error (.level r)) := by
    rw [make_eq, Call.request, setUp_of_misnames quiet fresh misnames]
  rw [deliver, made]
  exact ⟨rfl, fresh⟩

/-- **Any number of reports** fail. -/
theorem deliveries_of_misnames (reports : List Record) :
    ∀ o ∈ deliveries env s j (reports.map .emit), o = .error (.level r) := by
  induction reports generalizing j with
  | nil => exact fun o mem => (nomatch mem)
  | cons report rest ih =>
    obtain ⟨failed, still⟩ := deliver_of_misnames quiet fresh misnames report
    intro o mem
    rw [List.map_cons, deliveries] at mem
    rcases List.mem_cons.mp mem with rfl | mem
    · exact failed
    · exact ih still o mem

end

end

/-- **Levels go by name, but for two names.** A journal that is not ready, with no level and no file
asked for, is set up exactly if the name of the level is not one of the two in the table that are
not of numbers. Then it is ready, and both its filters are at the number that the name stands for.
Else it stays as unready as it was, and every report that follows fails for the same reason. -/
theorem levels_go_by_name [Host] (quiet : env.file = []) (s : Settings)
    (fresh : j.ready = false) :
    ∃ k outcome, setUp env s {} j = (k, outcome) ∧
      (outcome = .ok () ↔ ∀ r, ¬Level.Misnames (levelName env s) r) ∧
      (outcome = .ok () → k.ready = true ∧ k.file = none ∧
        ∃ n, Level.Names (levelName env s) n ∧ k.root = .ofNumber n ∧ k.threshold = n) ∧
      ∀ r, Level.Misnames (levelName env s) r →
        outcome = .error (.level r) ∧ k.ready = false ∧
        ∀ (reports : List Record),
          ∀ o ∈ deliveries env s k (reports.map .emit), o = .error (.level r) := by
  by_cases plain : ∀ r, ¬Level.Misnames (levelName env s) r
  · obtain ⟨n, names⟩ := Level.exists_names (levelName env s)
    have due : ¬(j.ready && !({} : Request).force) = true := by simp [fresh]
    have done : setUp env s {} j = (Request.verdict env s {}).carriedOut env s {} j :=
      setUp_due due
    rw [verdict_of_names quiet names plain] at done
    refine ⟨_, _, done, ⟨fun _ => plain, fun _ => rfl⟩, fun _ => ?_, fun r misnames => ?_⟩
    · exact ⟨rfl, file?_null quiet, n, names, rfl, rfl⟩
    · exact absurd misnames (plain r)
  · obtain ⟨r, misnames⟩ := not_forall_not.mp plain
    have failed := setUp_of_misnames quiet fresh misnames
    have still : (redirected env {} j).ready = false := fresh
    refine ⟨_, _, failed, ?_, fun same => (nomatch same), fun r' misnames' => ?_⟩
    · exact ⟨fun same => (nomatch same), fun all => absurd all plain⟩
    · cases failed.symm.trans (setUp_of_misnames quiet fresh misnames')
      exact ⟨rfl, still, deliveries_of_misnames quiet still misnames⟩

/-- A level in mixed letters puts both filters at its number. -/
theorem levels_go_by_name_warn :
    let env : Environment := { level := some "WaRn" }
    ∃ k, setUp env {} {} {} = (k, .ok ()) ∧ k.root = .ofNumber 30 ∧ k.threshold = 30 := by
  intro env
  have quiet : env.file = [] := rfl
  obtain ⟨k, outcome, done, through, named, _⟩ := levels_go_by_name (j := {}) quiet {} rfl
  have plain : ∀ r, ¬Level.Misnames (levelName env {}) r := by
    intro r misnames
    cases misnames with
    | form spelled => exact absurd spelled (by decide)
    | forms spelled => exact absurd spelled (by decide)
  have ok := through.mpr plain
  obtain ⟨_, _, n, names, root, threshold⟩ := named ok
  have number : n = 30 := (Level.lookup_of_names names).symm.trans (by decide)
  rw [ok] at done
  rw [number] at root threshold
  exact ⟨k, done, root, threshold⟩

/-- Not every text in the environment or in the settings leaves a journal that can be set up. -/
theorem form_of_lines_is_no_level :
    (setUp { level := some "basic_format" } {} {} {}).2 =
      .error (.level (.unknown Level.basicFormat)) ∧
    (setUp {} { logLevel := "_Styles" } {} {}).2 = .error (.level .noLevel) ∧
    ¬∀ (env : Environment) (s : Settings) (j : Journal), j.ready = false → env.file = [] →
      (setUp env s {} j).2 = .ok () ∧ (setUp env s {} j).1.ready = true := by
  have form : (setUp { level := some "basic_format" } {} {} {}).2 =
      .error (.level (.unknown Level.basicFormat)) := by
    rfl
  refine ⟨form, by rfl, fun every => ?_⟩
  have done := (every { level := some "basic_format" } {} {} rfl rfl).1
  rw [form] at done
  cases done

end

end Journal
end Narration
