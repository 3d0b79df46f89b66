import Narration.Journal.Basic

/-! # What a set-up does

A set-up that takes effect does its work in three steps: it opens the file and sends the records
there, then it puts in the level of the root, and last the threshold, the layout and the flag. How
far it comes depends on the request alone. One that comes to its end leaves two filters that
agree. -/
namespace Narration

namespace Level

/-- The number of the least severity that a level lets through. -/
def least : Level → Int
  | number n => n
  | truth b => if b then 1 else 0
  | text t => (standard.lookup t).getD 0
  | other => 0

/-- A standard name that is known to the second filter too means the same to both. -/
theorem threshold_of_standard : ∀ p ∈ standard,
    ∀ n ∈ thresholdNames.lookup (Text.lower p.1), n = p.2 := by
  decide

/-- A level that both filters take means the same to both. -/
theorem least_of_installed {l : Level} {i : Installed} {n : Int} (root : l.root = .ok i)
    (threshold : l.threshold = .ok n) : i.least = l.least ∧ n = l.least := by
  cases l with
  | number k =>
    cases root
    rw [Level.threshold] at threshold
    split at threshold
    · cases threshold
      exact ⟨rfl, rfl⟩
    · cases threshold
  | truth b =>
    cases root
    cases b with
    | true => cases threshold
    | false =>
      cases threshold
      exact ⟨rfl, rfl⟩
  | text t =>
    rw [Level.root] at root
    rw [Level.threshold] at threshold
    rw [least]
    cases known : standard.lookup t with
    | none =>
      rw [known] at root
      cases root
    | some k =>
      rw [known] at root
      cases root
      cases known' : thresholdNames.lookup (Text.lower t) with
      | none =>
        rw [known'] at threshold
        cases threshold
      | some k' =>
        rw [known'] at threshold
        cases threshold
        obtain ⟨before, after, split, _⟩ := List.lookup_eq_some_iff.mp known
        have listed : (t, k) ∈ standard := by simp [split]
        exact ⟨rfl, threshold_of_standard _ listed _ known'⟩
  | other => cases root

end Level

namespace Journal

/-! ## What a request asks for -/

namespace Request

variable (env : Environment) (s : Settings) (q : Request)

/-- The level that is to be put in. -/
def limit : Level := q.level.getD (Level.fallback env.level s.logLevel)

/-- The number of the least severity to be written. -/
def least : Int := (q.level.getD (Level.fallback env.level s.logLevel)).least

def form : Layout := layoutOf (q.layout.getD s.logFormat)

/-- The file to write to. The environment's counts if it has a name. -/
def file? : Option Text :=
  match if env.file = [] then q.file else .text env.file with
  | .text path => if path = [] then none else (Directory.pathToWrite env.directories path).toOption
  | _ => none

/-- The same file as the one that a set-up opens. -/
theorem file?_eq : q.file? env = (env.fileFor q.file).bind fun d => (env.opened d).toOption := by
  have written (path : Text) : (env.opened (.text path)).toOption =
      (Directory.pathToWrite env.directories path).toOption := by
    rw [Environment.opened]
    cases Directory.pathToWrite env.directories path <;> rfl
  unfold file? Environment.fileFor
  by_cases named : env.file = []
  · rw [if_pos named, if_neg fun unnamed => unnamed named]
    cases q.file with
    | text path => cases path <;> simp [Datum.isTrue, written]
    | _ =>
      change none = Option.bind (if _ then _ else _) _
      split <;> rfl
  · simp [named, written]

variable {env q}

theorem file?_of_opened {file : Option Text}
    (opened : (env.fileFor q.file).mapM env.opened = .ok file) : q.file? env = file := by
  rw [file?_eq]
  cases asked : env.fileFor q.file with
  | none =>
    rw [asked] at opened
    cases opened
    rfl
  | some d =>
    rw [asked, Option.mapM_some] at opened
    cases found : env.opened d with
    | error e =>
      rw [found] at opened
      cases opened
    | ok name =>
      rw [found] at opened
      cases opened
      exact congrArg Except.toOption found

end Request

/-! ## What comes of a request -/

/-- How far a request comes that takes effect, whatever the journal. -/
inductive Verdict
  | unopened (e : Failure)
  /-- The level is refused, perhaps only after the root has taken it. -/
  | refused (root : Option Level.Installed) (r : Level.Refusal)
  | granted (root : Level.Installed) (threshold : Int)

/-- Why a level is refused, and the root's level then. -/
inductive Refused (l : Level) (before : Level.Installed) (r : Level.Refusal) :
    Level.Installed → Prop
  | byRoot (refused : l.root = .error r) : Refused l before r before
  | byThreshold {root : Level.Installed} (taken : l.root = .ok root)
    (refused : l.threshold = .error r) : Refused l before r root

namespace Request

variable (env : Environment) (s : Settings) (q : Request)

def verdict : Verdict :=
  match (env.fileFor q.file).mapM env.opened with
  | .error e => .unopened e
  | .ok _ =>
    match (q.limit env s).root with
    | .error r => .refused none r
    | .ok root =>
      match (q.limit env s).threshold with
      | .error r => .refused (some root) r
      | .ok threshold => .granted root threshold

variable {env s q}

/-- A file that cannot be opened is no matter of levels. -/
theorem opened_ne_level {asked : Option Datum} {e : Failure} (h : asked.mapM env.opened = .error e)
    (r : Level.Refusal) : e ≠ .level r := by
  cases asked with
  | none => cases h
  | some d =>
    rw [Option.mapM_some] at h
    unfold Environment.opened at h
    cases d with
    | text path =>
      dsimp only at h
      cases found : Directory.pathToWrite env.directories path with
      | ok name =>
        rw [found] at h
        cases h
      | error f =>
        rw [found] at h
        cases h
        nofun
    | _ =>
      cases h
      nofun

variable (env s q)

/-- A verdict over a file is no matter of levels, and one over a level says what became of it. -/
theorem verdict_spec (before : Level.Installed) :
    match q.verdict env s with
    | .unopened e => ∀ r, e ≠ .level r
    | .refused root r => Refused (q.limit env s) before r (root.getD before)
    | .granted root threshold =>
      (q.limit env s).root = .ok root ∧ (q.limit env s).threshold = .ok threshold := by
  unfold verdict
  cases file : (env.fileFor q.file).mapM env.opened with
  | error e => exact opened_ne_level file
  | ok name? =>
    dsimp only
    cases root : (q.limit env s).root with
    | error r => exact .byRoot root
    | ok i =>
      dsimp only
      cases threshold : (q.limit env s).threshold with
      | error r => exact .byThreshold root threshold
      | ok n => exact ⟨rfl, rfl⟩

end Request

/-! ## What becomes of the journal -/

/-- What a set-up has put in force. -/
structure InForce (env : Environment) (s : Settings) (q : Request) (j : Journal) : Prop where
  ready : j.ready = true
  threshold : j.threshold = q.least env s
  root : j.root.least = q.least env s
  layout : j.layout = q.form s
  file : j.file = q.file? env

/-- The files once a request has opened its own. -/
def opened (env : Environment) (q : Request) (files : List (Text × List Entry)) :
    List (Text × List Entry) :=
  (q.file? env).elim files fun name => openFile name files

/-- The journal with its records sent where a request asks. -/
def redirected (env : Environment) (q : Request) (j : Journal) : Journal :=
  { j with file := q.file? env, files := opened env q j.files }

/-- The journal once a verdict is carried out, as far as it goes. -/
def Verdict.carriedOut (env : Environment) (s : Settings) (q : Request) (j : Journal) :
    Verdict → Journal × Except Failure Unit
  | unopened e => (j, .error e)
  | refused root r => ({ redirected env q j with root := root.getD j.root }, .error (.level r))
  | granted root threshold =>
    ({ redirected env q j with
        root := root, threshold := threshold, layout := q.form s, ready := true }, .ok ())

section

variable {env : Environment} {s : Settings} {q : Request} {j j' : Journal}

theorem setUp_idle (idle : (j.ready && !q.force) = true) : setUp env s q j = (j, .ok ()) :=
  if_pos idle

/-- **What a set-up does that takes effect.** -/
theorem setUp_due (due : ¬(j.ready && !q.force) = true) :
    setUp env s q j = (q.verdict env s).carriedOut env s q j := by
  unfold setUp Request.verdict Request.limit
  rw [if_neg due]
  dsimp only
  cases file : (env.fileFor q.file).mapM env.opened with
  | error e => rfl
  | ok name? =>
    have asked : q.file? env = name? := Request.file?_of_opened file
    have sent : redirected env q j =
        { j with
          file := name?, files := name?.elim j.files fun name => openFile name j.files } := by
      rw [redirected, opened, asked]
    dsimp only
    cases (q.level.getD (Level.fallback env.level s.logLevel)).root with
    | error r =>
      rw [Verdict.carriedOut, sent]
      cases name? <;> rfl
    | ok root =>
      dsimp only
      cases (q.level.getD (Level.fallback env.level s.logLevel)).threshold with
      | error r =>
        rw [Verdict.carriedOut, sent]
        cases name? <;> rfl
      | ok threshold =>
        rw [Verdict.carriedOut, sent]
        cases name? <;> rfl

/-- **What a set-up does that goes through**: nothing if the journal is ready and no force is used,
and otherwise all that was asked for. -/
theorem setUp_cases (h : setUp env s q j = (j', .ok ())) :
    (j.ready = true ∧ q.force = false ∧ j' = j) ∨
      ((j.ready = true → q.force = true) ∧ InForce env s q j' ∧
        j'.files = opened env q j.files) := by
  by_cases idle : (j.ready && !q.force) = true
  · rw [setUp_idle idle] at h
    cases h
    rw [Bool.and_eq_true, Bool.not_eq_true'] at idle
    exact .inl ⟨idle.1, idle.2, rfl⟩
  have due : j.ready = true → q.force = true := by
    intro ready
    simpa [ready] using idle
  have spec := q.verdict_spec env s j.root
  rw [setUp_due idle] at h
  cases verdict : q.verdict env s with
  | unopened e | refused root r =>
    rw [verdict] at h
    cases h
  | granted root threshold =>
    rw [verdict] at h spec
    -- Both filters are looked up one after the other, and no check compares what they found.
    obtain ⟨ofRoot, ofEvents⟩ := Level.least_of_installed spec.1 spec.2
    cases h
    exact .inr ⟨due, ⟨rfl, ofEvents, ofRoot, rfl, rfl⟩, rfl⟩

/-- **What a set-up does that fails**: nothing if it fails over its file, and else two steps. -/
theorem setUp_failed {e : Failure} (failed : setUp env s q j = (j', .error e)) :
    (j.ready = true → q.force = true) ∧ ((∀ r, e ≠ .level r) ∧ j' = j ∨
      ∃ r root, e = .level r ∧ Refused (q.limit env s) j.root r root ∧
        j' = { redirected env q j with root := root }) := by
  by_cases idle : (j.ready && !q.force) = true
  · rw [setUp_idle idle] at failed
    cases failed
  have due : j.ready = true → q.force = true := by
    intro ready
    simpa [ready] using idle
  refine ⟨due, ?_⟩
  have spec := q.verdict_spec env s j.root
  rw [setUp_due idle] at failed
  cases verdict : q.verdict env s with
  | unopened e =>
    rw [verdict] at failed spec
    cases failed
    exact .inl ⟨spec, rfl⟩
  | refused root r =>
    rw [verdict] at failed spec
    cases failed
    exact .inr ⟨r, _, rfl, spec, rfl⟩
  | granted root threshold =>
    rw [verdict] at failed
    cases failed

variable (env s q)

theorem ready_of_setUp (h : (setUp env s q j).2 = .ok ()) : (setUp env s q j).1.ready = true := by
  by_cases idle : (j.ready && !q.force) = true
  · rw [setUp_idle idle]
    exact (Bool.and_eq_true_iff.mp idle).1
  · rw [setUp_due idle] at h ⊢
    cases verdict : q.verdict env s with
    | unopened e | refused root r =>
      rw [verdict] at h
      cases h
    | granted root threshold => rfl

end

end Journal
end Narration
