import Narration.Proofs.Records

/-! # What a failed set-up leaves behind

A set-up does its work in three steps and takes none of them back: it opens the file and sends the
records there, then it puts in the level of the root, and last the threshold, the layout and the
flag. One that fails over its file changes nothing. One that fails over its level has sent the
records elsewhere, and perhaps changed the level of the root. Before the journal was ready nobody
can tell; afterwards every report can, until a set-up by force goes through. -/
namespace Narration.Journal

/-! ## What a call delivers -/

section

variable [Host]

/-- Reports an event to a journal that is ready. -/
def report (r : Record) (j : Journal) : Journal × Except Failure (List Entry) :=
  if r.fields.any fun (name, _) => reserved.contains name then (j, .error .wrongArgument)
  else
    match if j.threshold ≤ r.severity.number then j.objection? r else none with
    | some e => (j, .error e)
    | none =>
      let (j, written) := write j { r with logger := loggerName r.logger }
      (j, .ok written)

/-- What a call does behind the set-up. -/
def Call.follow : Call → Journal → Journal × Except Failure (List Entry)
  | setUp _, j => (j, .ok [])
  | emit r, j => report r j

/-- What is written by a call, if it does not fail. -/
def written (o : Except Failure (List Entry)) : List Entry := o.toOption.getD []

/-- What a call delivers: each record that it writes to standard error, with the file that it is
written to besides. -/
def deliver (env : Environment) (s : Settings) (j : Journal) (c : Call) :
    Except Failure (List (Entry × Option Text)) :=
  match make env s j c with
  | (_, .error e) => .error e
  | (j, .ok out) => .ok (out.map fun e => (e, j.file))

/-- Makes calls one after another, and goes on after those that fail. -/
def after (env : Environment) (s : Settings) (j : Journal) (calls : List Call) : Journal :=
  calls.foldl (fun j c => (make env s j c).1) j

def deliveries (env : Environment) (s : Settings) :
    Journal → List Call → List (Except Failure (List (Entry × Option Text)))
  | _, [] => []
  | j, c :: rest => deliver env s j c :: deliveries env s (make env s j c).1 rest

end

section

variable {env : Environment} {s : Settings} {j k : Journal} {c : Call}

@[simp] theorem written_error (e : Failure) : written (.error e) = [] := rfl

@[simp] theorem written_ok (out : List Entry) : written (.ok out) = out := rfl

/-- What is written does not depend on what the files hold. -/
theorem write_files (r : Record) (j : Journal) (files : List (Text × List Entry)) :
    write { j with files := files } r =
      ({ j with files := extended j.file (write j r).2 files }, (write j r).2) := by
  obtain ⟨ready, root, threshold, layout, file, old⟩ := j
  have admitted : admits ⟨ready, root, threshold, layout, file, files⟩ r.severity =
      admits ⟨ready, root, threshold, layout, file, old⟩ r.severity := rfl
  unfold write
  rw [admitted]
  cases admits ⟨ready, root, threshold, layout, file, old⟩ r.severity with
  | false => simp
  | true =>
    cases file with
    | none => simp
    | some name => simp [extended_one]

theorem write_file (r : Record) (j : Journal) : (write j r).1.file = j.file :=
  congrArg (fun p => p.1.file) (write_files r j j.files)

theorem write_snd (r : Record) (j : Journal) :
    (write j r).2 =
      if j.threshold ≤ r.severity.number ∧ j.root.least ≤ r.severity.number then [⟨j.layout, r⟩]
      else [] := by
  unfold write admits
  rw [← Bool.decide_and]
  by_cases pass : j.threshold ≤ r.severity.number ∧ j.root.least ≤ r.severity.number
  · rw [if_pos (decide_eq_true pass), if_pos pass]
    cases j.file <;> rfl
  · rw [if_neg (by simpa using pass), if_neg pass]

variable [Host]

theorem make_eq : make env s j c =
    match setUp env s c.request j with
    | (k, .error e) => (k, .error e)
    | (k, .ok ()) => c.follow k := by
  cases c with
  | setUp q =>
    rw [make, Call.request]
    rcases setUp env s q j with ⟨k, e | ⟨⟩⟩ <;> rfl
  | emit r => rfl

theorem report_ok {r : Record} {j k : Journal} {out : List Entry}
    (h : report r j = (k, .ok out)) :
    write j { r with logger := loggerName r.logger } = (k, out) := by
  unfold report at h
  split at h
  · cases h
  · split at h
    · cases h
    · cases h
      rfl

theorem report_files (r : Record) (j : Journal) (files : List (Text × List Entry)) :
    report r { j with files := files } =
      ({ j with files := extended j.file (written (report r j).2) files }, (report r j).2) := by
  have objection : objection? { j with files := files } r = objection? j r := rfl
  unfold report
  split
  · rw [written_error, extended_nil]
  · dsimp only
    rw [objection]
    cases (if j.threshold ≤ r.severity.number then objection? j r else none) with
    | some e => rw [written_error, extended_nil]
    | none =>
      dsimp only
      rw [written_ok, write_files]

theorem Call.follow_files (c : Call) (j : Journal) (files : List (Text × List Entry)) :
    c.follow { j with files := files } =
      ({ j with files := extended j.file (written (c.follow j).2) files }, (c.follow j).2) := by
  cases c with
  | setUp q =>
    rw [follow, follow, written_ok, extended_nil]
  | emit r => exact report_files r j files

end

/-! ## Two journals -/

/-- Two journals that differ at most in what their files hold, or in what one that is not ready is
set to. -/
structure Alike (j k : Journal) : Prop where
  ready : j.ready = k.ready
  inForce : k.ready = true → ∃ files, j = { k with files := files }

section

variable (env : Environment) (s : Settings) {j k : Journal}

theorem carriedOut_alike (alike : Alike j k) (q : Request) (v : Verdict) :
    (v.carriedOut env s q j).2 = (v.carriedOut env s q k).2 ∧
      Alike (v.carriedOut env s q j).1 (v.carriedOut env s q k).1 := by
  cases v with
  | unopened e => exact ⟨rfl, alike⟩
  | refused root r =>
    refine ⟨rfl, alike.ready, fun ready => ?_⟩
    obtain ⟨files, rfl⟩ := alike.inForce ready
    exact ⟨_, rfl⟩
  | granted root threshold => exact ⟨rfl, rfl, fun _ => ⟨_, rfl⟩⟩

theorem setUp_alike (alike : Alike j k) (q : Request) :
    (setUp env s q j).2 = (setUp env s q k).2 ∧
      Alike (setUp env s q j).1 (setUp env s q k).1 := by
  by_cases idle : (k.ready && !q.force) = true
  · rw [setUp_idle idle, setUp_idle (alike.ready ▸ idle)]
    exact ⟨rfl, alike⟩
  · rw [setUp_due idle, setUp_due (alike.ready ▸ idle)]
    exact carriedOut_alike env s alike q _

variable [Host]

/-- **One call** delivers the same on two such journals, and leaves them so. -/
theorem make_alike (alike : Alike j k) (c : Call) :
    deliver env s j c = deliver env s k c ∧ Alike (make env s j c).1 (make env s k c).1 := by
  have ready := ready_of_setUp env s c.request (j := k)
  obtain ⟨same, alike⟩ := setUp_alike env s alike c.request
  unfold deliver
  rw [make_eq, make_eq]
  generalize setUp env s c.request j = first at same alike ⊢
  generalize setUp env s c.request k = second at ready same alike ⊢
  obtain ⟨j, e | ⟨⟩⟩ := first <;> obtain ⟨k, e' | ⟨⟩⟩ := second <;> cases same
  · exact ⟨rfl, alike⟩
  · obtain ⟨files, rfl⟩ := alike.inForce (ready rfl)
    dsimp only
    have left := c.follow_files k files
    have right : c.follow k = ({ k with files := extended k.file (written (c.follow k).2) k.files },
      (c.follow k).2) := c.follow_files k k.files
    rw [left, right]
    cases (c.follow k).2 with
    | error e => exact ⟨rfl, rfl, fun _ => ⟨_, rfl⟩⟩
    | ok out => exact ⟨rfl, rfl, fun _ => ⟨_, rfl⟩⟩

/-- **A whole run** delivers the same on two such journals. -/
theorem deliveries_alike (alike : Alike j k) (calls : List Call) :
    deliveries env s j calls = deliveries env s k calls := by
  induction calls generalizing j k with
  | nil => rfl
  | cons c rest ih =>
    obtain ⟨same, alike⟩ := make_alike env s alike c
    rw [deliveries, deliveries, same, ih alike]

end

/-! ## What files hold -/

/-- What a file holds. -/
def contents (j : Journal) (name : Text) : List Entry := (j.files.lookup name).getD []

/-- Whether the file in force is open, if the journal is ready. -/
def FileOpen (j : Journal) : Prop :=
  j.ready = true → ∀ name, j.file = some name → (j.files.lookup name).isSome = true

/-- What a delivery adds to a file, as far as UTF-8 can carry it. -/
def sentTo (name : Text) (delivered : Except Failure (List (Entry × Option Text))) : List Entry :=
  match delivered with
  | .error _ => []
  | .ok sent =>
    sent.filterMap fun (e, file) => if file = some name ∧ e.isWhole then some e else none

section

variable {env : Environment} {s : Settings} {q : Request} {j : Journal}

theorem lookup_openFile (name other : Text) (files : List (Text × List Entry)) :
    ((openFile other files).lookup name).getD [] = (files.lookup name).getD [] := by
  unfold openFile
  cases known : files.lookup other with
  | some entries => rfl
  | none =>
    dsimp only
    rw [List.lookup_append]
    by_cases same : name = other
    · subst same
      simp [known]
    · have distinct : (name == other) = false := beq_false_of_ne same
      have none : [(other, ([] : List Entry))].lookup name = none := by
        simp [List.lookup_cons, distinct]
      rw [none, Option.or_none]

theorem isSome_lookup_openFile (name : Text) (files : List (Text × List Entry)) :
    ((openFile name files).lookup name).isSome = true := by
  unfold openFile
  cases known : files.lookup name with
  | some entries => simp [known]
  | none => simp [List.lookup_append, known]

theorem lookup_extended (file : Option Text) (out : List Entry) (files : List (Text × List Entry))
    (name : Text) :
    (extended file out files).lookup name =
      (files.lookup name).map fun entries =>
        if file = some name then entries ++ out.filter Entry.isWhole else entries := by
  induction files with
  | nil => rfl
  | cons p rest ih =>
    obtain ⟨n, entries⟩ := p
    by_cases same : name = n
    · subst same
      simp [extended]
    · have other : (name == n) = false := beq_false_of_ne same
      simpa [extended, List.lookup_cons, other] using ih

/-- Opening a file changes no contents. -/
theorem contents_redirected (name : Text) :
    contents (redirected env q j) name = contents j name := by
  unfold contents redirected opened
  cases q.file? env with
  | none => rfl
  | some other => exact lookup_openFile name other j.files

theorem fileOpen_redirected {name : Text} (h : q.file? env = some name) :
    ((redirected env q j).files.lookup name).isSome = true := by
  unfold redirected opened
  rw [h]
  exact isSome_lookup_openFile name j.files

theorem contents_carriedOut (v : Verdict) (name : Text) :
    contents (v.carriedOut env s q j).1 name = contents j name := by
  cases v with
  | unopened e => rfl
  | refused | granted => exact contents_redirected name

theorem FileOpen.carriedOut (isOpen : FileOpen j) (v : Verdict) :
    FileOpen (v.carriedOut env s q j).1 := by
  cases v with
  | unopened e => exact isOpen
  | refused | granted => exact fun _ _ => fileOpen_redirected

variable (env s q)

theorem contents_setUp (isOpen : FileOpen j) (name : Text) :
    contents (setUp env s q j).1 name = contents j name ∧ FileOpen (setUp env s q j).1 := by
  by_cases idle : (j.ready && !q.force) = true
  · rw [setUp_idle idle]
    exact ⟨rfl, isOpen⟩
  · rw [setUp_due idle]
    exact ⟨contents_carriedOut _ name, isOpen.carriedOut _⟩

theorem sentTo_ok (name : Text) (file : Option Text) (out : List Entry) :
    sentTo name (.ok (out.map fun e => (e, file))) =
      if file = some name then out.filter Entry.isWhole else [] := by
  unfold sentTo
  dsimp only
  induction out with
  | nil => simp
  | cons e rest ih =>
    rw [List.map_cons, List.filterMap_cons, ih]
    by_cases here : file = some name
    · cases whole : e.isWhole <;> simp [here, whole]
    · simp [here]

/-- What is written goes to the end of the file in force. -/
theorem contents_extended (ready : j.ready = true) (isOpen : FileOpen j) (out : List Entry)
    (name : Text) :
    contents { j with files := extended j.file out j.files } name =
        contents j name ++ (if j.file = some name then out.filter Entry.isWhole else []) ∧
      FileOpen { j with files := extended j.file out j.files } := by
  unfold contents
  dsimp only
  constructor
  · rw [lookup_extended]
    by_cases here : j.file = some name
    · obtain ⟨entries, found⟩ := Option.isSome_iff_exists.mp (isOpen ready name here)
      simp [found, here]
    · simp [here]
  · intro _ name here
    dsimp only
    rw [lookup_extended, Option.isSome_map]
    exact isOpen ready name here

variable [Host]

/-- **One call** adds to a file what it delivers there. -/
theorem contents_make (isOpen : FileOpen j) (c : Call) (name : Text) :
    contents (make env s j c).1 name = contents j name ++ sentTo name (deliver env s j c) ∧
      FileOpen (make env s j c).1 := by
  have ready := ready_of_setUp env s c.request (j := j)
  obtain ⟨same, isOpen⟩ := contents_setUp env s c.request isOpen name
  unfold deliver
  rw [make_eq]
  generalize setUp env s c.request j = set at ready same isOpen ⊢
  obtain ⟨k, e | ⟨⟩⟩ := set
  · exact ⟨same.trans (List.append_nil _).symm, isOpen⟩
  · have followed : c.follow k =
        ({ k with files := extended k.file (written (c.follow k).2) k.files }, (c.follow k).2) :=
      c.follow_files k k.files
    dsimp only at same ⊢
    rw [followed, ← same]
    cases (c.follow k).2 with
    | error e =>
      rw [written_error, extended_nil]
      exact ⟨(List.append_nil _).symm, isOpen⟩
    | ok out =>
      dsimp only
      rw [sentTo_ok, written_ok]
      exact contents_extended (ready rfl) isOpen out name

/-- **A whole run** adds to a file what its calls deliver there. -/
theorem contents_after (isOpen : FileOpen j) (calls : List Call) (name : Text) :
    contents (after env s j calls) name =
      contents j name ++ (deliveries env s j calls).flatMap (sentTo name) := by
  induction calls generalizing j with
  | nil => exact (List.append_nil _).symm
  | cons c rest ih =>
    obtain ⟨added, isOpen⟩ := contents_make env s isOpen c name
    rw [after, List.foldl_cons, deliveries, List.flatMap_cons, ← List.append_assoc, ← added]
    exact ih isOpen

end

/-! ## After a failure -/

section

variable {env : Environment} {s : Settings} {q : Request} {j k : Journal}

/-- Behind a set-up by force that goes through, nothing of what was before can be told. -/
theorem alike_of_granted (forced : q.force = true) (through : (setUp env s q j).2 = .ok ()) :
    (setUp env s q k).2 = .ok () ∧ Alike (setUp env s q k).1 (setUp env s q j).1 := by
  have due (j : Journal) : ¬(j.ready && !q.force) = true := by simp [forced]
  rw [setUp_due (due j)] at through ⊢
  rw [setUp_due (due k)]
  cases verdict : q.verdict env s with
  | unopened e | refused root r =>
    rw [verdict] at through
    cases through
  | granted root threshold => exact ⟨rfl, rfl, fun _ => ⟨_, rfl⟩⟩

variable [Host]

theorem deliveries_append (before rest : List Call) :
    deliveries env s j (before ++ rest) =
      deliveries env s j before ++ deliveries env s (after env s j before) rest := by
  induction before generalizing j with
  | nil => rfl
  | cons c before ih => exact congrArg (deliver env s j c :: ·) ih

theorem length_deliveries (env : Environment) (s : Settings) (j : Journal) (calls : List Call) :
    (deliveries env s j calls).length = calls.length := by
  induction calls generalizing j with
  | nil => rfl
  | cons c rest ih => exact congrArg (· + 1) (ih _)

/-- While nobody uses force, each call delivers on its own what it delivers in a run. -/
theorem deliveries_unforced (ready : j.ready = true) {calls : List Call}
    (unforced : ∀ c ∈ calls, c.forces = false) :
    deliveries env s j calls = calls.map (deliver env s j) := by
  induction calls with
  | nil => rfl
  | cons c rest ih =>
    have idle : (j.ready && !c.request.force) = true := by
      have := unforced c List.mem_cons_self
      simpa [ready, Call.forces] using this
    have alike : Alike (make env s j c).1 j := by
      rw [make_eq, setUp_idle idle]
      have followed := c.follow_files j j.files
      dsimp only
      exact ⟨congrArg (fun p => p.1.ready) followed, fun _ => ⟨_, congrArg Prod.fst followed⟩⟩
    have later : ∀ c ∈ rest, c.forces = false := fun c h => unforced c (List.mem_cons_of_mem _ h)
    rw [deliveries, deliveries_alike env s alike, ih later]
    rfl

/-- What a report delivers on a journal that is ready: one record, if both filters let it pass. -/
theorem deliver_report (ready : j.ready = true) {r : Record} {out : List (Entry × Option Text)}
    (h : deliver env s j (.emit r) = .ok out) :
    out = if j.threshold ≤ r.severity.number ∧ j.root.least ≤ r.severity.number then
        [(⟨j.layout, { r with logger := loggerName r.logger }⟩, j.file)]
      else [] := by
  have idle : (j.ready && !(Call.emit r).request.force) = true := by simp [ready, Call.request]
  unfold deliver at h
  rw [make_eq, setUp_idle idle] at h
  dsimp only [Call.follow] at h
  rcases reported : report r j with ⟨k, e | entries⟩
  · rw [reported] at h
    cases h
  · rw [reported] at h
    cases h
    have same := report_ok reported
    have file := write_file { r with logger := loggerName r.logger } j
    have told := write_snd { r with logger := loggerName r.logger } j
    rw [same] at file told
    dsimp only at file told
    rw [told, file]
    split <;> rfl

/-- A journal that nobody can tell from another by what calls deliver and files hold. -/
def Unnoticed (j' j : Journal) : Prop :=
  ∀ (env : Environment) (s : Settings) (calls : List Call),
    deliveries env s j' calls = deliveries env s j calls ∧
    ∀ name, contents (after env s j' calls) name = contents (after env s j calls) name

/-- A journal that is like another but for the level of its root and for its file, until a set-up by
force goes through. -/
structure Diverted (j' j : Journal) : Prop where
  reports : ∀ (env : Environment) (s : Settings) (r : Record) (out : List (Entry × Option Text)),
    deliver env s j' (.emit r) = .ok out →
      out = if j.threshold ≤ r.severity.number ∧ j'.root.least ≤ r.severity.number then
          [(⟨j.layout, { r with logger := loggerName r.logger }⟩, j'.file)]
        else []
  meanwhile : ∀ (env : Environment) (s : Settings) (calls : List Call),
    (∀ c ∈ calls, c.forces = false) →
      deliveries env s j' calls =
        calls.map (deliver env s { j with root := j'.root, file := j'.file }) ∧
      ∀ name, contents (after env s j' calls) name =
        contents j name ++ (deliveries env s j' calls).flatMap (sentTo name)
  later : ∀ (env : Environment) (s : Settings) (before : List Call) (q : Request)
    (calls : List Call), q.force = true → (setUp env s q j).2 = .ok () →
      (deliveries env s j' (before ++ .setUp q :: calls)).drop before.length =
        (deliveries env s j (before ++ .setUp q :: calls)).drop before.length

variable {j' : Journal}

theorem unnoticed_of_not_ready (fresh : j.ready = false) (fresh' : j'.ready = false)
    (same : ∀ name, contents j' name = contents j name) : Unnoticed j' j := by
  intro env s calls
  have alike : Alike j' j := ⟨fresh'.trans fresh.symm, fun ready => by simp [fresh] at ready⟩
  have delivered := deliveries_alike env s alike calls
  refine ⟨delivered, fun name => ?_⟩
  have isOpen : FileOpen j := fun ready => by simp [fresh] at ready
  have isOpen' : FileOpen j' := fun ready => by simp [fresh'] at ready
  rw [contents_after env s isOpen, contents_after env s isOpen', delivered, same]

/-- What is delivered behind a set-up by force that goes through. -/
theorem deliveries_behind (forced : q.force = true) (through : (setUp env s q j).2 = .ok ())
    (k : Journal) (before calls : List Call) :
    (deliveries env s k (before ++ .setUp q :: calls)).drop before.length =
      .ok [] :: deliveries env s (setUp env s q j).1 calls := by
  obtain ⟨through, alike⟩ := alike_of_granted (k := after env s k before) forced through
  have made : make env s (after env s k before) (.setUp q) =
      ((setUp env s q (after env s k before)).1, .ok []) := by
    rw [make]
    generalize setUp env s q (after env s k before) = set at through ⊢
    obtain ⟨k, e | ⟨⟩⟩ := set
    · cases through
    · rfl
  have cut := length_deliveries env s k before
  rw [deliveries_append, ← cut, List.drop_left, deliveries, deliver, made,
    deliveries_alike env s alike]
  rfl

theorem diverted_of_refused (ready : j.ready = true) (root : Level.Installed) :
    Diverted { redirected env q j with root := root } j := by
  refine ⟨fun env' s' r out told => ?_, ?_, ?_⟩
  · exact deliver_report (j := { redirected env q j with root := root }) ready told
  · intro env' s' calls unforced
    let k : Journal := { j with root := root, file := q.file? env }
    have alike : Alike { redirected env q j with root := root } k := ⟨rfl, fun _ => ⟨_, rfl⟩⟩
    have ready : k.ready = true := ready
    refine ⟨?_, fun name => ?_⟩
    · exact (deliveries_alike env' s' alike calls).trans (deliveries_unforced ready unforced)
    · rw [contents_after env' s' fun _ _ => fileOpen_redirected]
      exact congrArg (· ++ _) (contents_redirected name)
  · intro env' s' before q' calls forced through
    rw [deliveries_behind forced through, deliveries_behind forced through]

/-- **What a failed set-up leaves behind.** A journal that was ready is asked by force. One that
fails over its file leaves the journal as it was. One that fails over its level leaves flag,
threshold and layout as they were and what files hold, but the records go where it has asked, and
the root has the new level if it was the threshold that was refused. If the journal was not ready
before, nobody will notice; and if it was, later calls deliver what they would with this file and
this level of the root, until a set-up by force goes through. -/
theorem failed_setUp_leaves_two_steps {e : Failure} (failed : setUp env s q j = (j', .error e)) :
    (j.ready = true → q.force = true) ∧
    ((∀ r, e ≠ .level r) → j' = j) ∧
    ∀ r, e = .level r →
      (∃ root, Refused (q.limit env s) j.root r root ∧
        j' = { j with root := root, file := q.file? env, files := opened env q j.files }) ∧
      (∀ name, contents j' name = contents j name) ∧
      (j.ready = false → Unnoticed j' j) ∧
      (j.ready = true → Diverted j' j) := by
  obtain ⟨due, ⟨other, rfl⟩ | ⟨r, root, rfl, refused, rfl⟩⟩ := setUp_failed failed
  · exact ⟨due, fun _ => rfl, fun r refused => absurd refused (other r)⟩
  · have same (name : Text) : contents { redirected env q j with root := root } name =
        contents j name := contents_redirected name
    refine ⟨due, fun other => absurd rfl (other r), ?_⟩
    rintro r' ⟨⟩
    exact ⟨⟨root, refused, rfl⟩, same, fun fresh => unnoticed_of_not_ready fresh fresh same,
      fun ready => diverted_of_refused ready root⟩

end

/-- A request for a level that the root takes and that has no threshold. -/
def oddRequest : Request := { level := some (.number 45), file := .text "a.log" }

/-- As the first call of a process it fails, and nobody notices. -/
theorem failed_setUp_leaves_two_steps_first :
    ∃ j' e, setUp {} {} oddRequest {} = (j', .error e) ∧ j'.root = .ofNumber 45 ∧
      j'.file = some "a.log" ∧ Unnoticed j' {} := by
  have failed : setUp {} {} oddRequest {} =
      ({ root := .ofNumber 45, file := some "a.log", files := [("a.log", [])] },
        .error (.level (.noThreshold (.number 45)))) := rfl
  obtain ⟨_, _, unnoticed, _⟩ := (failed_setUp_leaves_two_steps failed).2.2 _ rfl
  exact ⟨_, _, failed, rfl, rfl, unnoticed rfl⟩

/-- A failed set-up can be noticed: a journal that is ready loses reports by it. -/
theorem failed_setUp_silences_reports :
    ∃ j j' e, setUp {} {} {} {} = (j, .ok ()) ∧
      setUp {} {} { level := some (.number 45), force := true } j = (j', .error e) ∧
      j.root = .ofNumber 20 ∧ j'.root = .ofNumber 45 ∧
      (emit {} {} ⟨.info, .text "e", "oracle", []⟩ j).2 =
        .ok [⟨.console, ⟨.info, .text "e", "oracle", []⟩⟩] ∧
      (emit {} {} ⟨.info, .text "e", "oracle", []⟩ j').2 = .ok [] :=
  ⟨_, _, _, rfl, rfl, rfl, rfl, rfl, rfl⟩

end Narration.Journal
