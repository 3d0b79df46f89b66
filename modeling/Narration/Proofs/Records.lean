import Mathlib.Data.List.Induction
import Narration.Proofs.Sending
import Narration.Proofs.SetUps

/-! # Where records go

A process calls its journal any number of times, to set it up or to report something, and sets it up
with its first call at the latest. What is in force at a call is what the latest call asked for that
took effect. Of this alone it depends where a record goes: a file that is left keeps what it has and
takes more when it is used again, and a call that has no effect could as well not have been made.
Standard error takes every record. A file is written in UTF-8 and takes those without halves in what
is written of them, so every object, and every record whose own texts have none. -/
namespace Narration

/-! ## What UTF-8 can carry -/

namespace Text

theorem mem_of_mem_splitAt {separator c : CodePoint} {t part : Text}
    (h : part ∈ splitAt separator t) (hc : c ∈ part) : c ∈ t := by
  induction t generalizing part with
  | nil =>
    cases List.mem_singleton.mp h
    exact hc
  | cons d rest ih =>
    rw [splitAt] at h
    split at h
    · rcases List.mem_cons.mp h with rfl | h
      · cases hc
      · exact List.mem_cons_of_mem d (ih h hc)
    · split at h
      · cases List.mem_singleton.mp h
        exact List.mem_cons.mpr (.inl (List.mem_singleton.mp hc))
      · rename_i first more cut
        rcases List.mem_cons.mp h with rfl | h
        · rcases List.mem_cons.mp hc with rfl | hc
          · exact List.mem_cons_self
          · exact List.mem_cons_of_mem d (ih (by rw [cut]; exact List.mem_cons_self) hc)
        · exact List.mem_cons_of_mem d (ih (by rw [cut]; exact List.mem_cons_of_mem _ h) hc)

theorem mem_of_mem_lines {c : CodePoint} {t line : Text} (h : line ∈ lines t) (hc : c ∈ line) :
    c ∈ t := by
  fun_induction lines t generalizing line with
  | case1 => cases h
  | case2 rest ih =>
    rcases List.mem_cons.mp h with rfl | h
    · cases hc
    · exact List.mem_cons_of_mem _ (List.mem_cons_of_mem _ (ih h hc))
  | case3 d rest _ _ ih =>
    rcases List.mem_cons.mp h with rfl | h
    · cases hc
    · exact List.mem_cons_of_mem d (ih h hc)
  | case4 d rest _ _ none ih =>
    cases List.mem_singleton.mp h
    exact List.mem_cons.mpr (.inl (List.mem_singleton.mp hc))
  | case5 d rest _ _ first below cut ih =>
    rcases List.mem_cons.mp h with rfl | h
    · rcases List.mem_cons.mp hc with rfl | hc
      · exact List.mem_cons_self
      · exact List.mem_cons_of_mem d (ih (by rw [cut]; exact List.mem_cons_self) hc)
    · exact List.mem_cons_of_mem d (ih (by rw [cut]; exact List.mem_cons_of_mem _ h) hc)

end Text

namespace Record

theorem isWhole_squeezed {t : Text} (h : t.isWhole = true) : (squeezed t).isWhole = true := by
  refine (Text.isWhole_joined rfl).mpr fun part hp => Text.isWhole_iff.mpr fun c hc => ?_
  have inside := Text.mem_of_mem_splitAt (List.mem_filter.mp hp).1 hc
  obtain ⟨d, hd, rfl⟩ := List.mem_map.mp inside
  split
  · rfl
  · exact Text.isWhole_iff.mp h d hd

/-- A record whose texts have no halves, its data and the names of its fields included. -/
structure IsWhole (r : Record) : Prop where
  event : r.event.isWhole = true
  logger : r.logger.isWhole = true
  fields : ∀ p ∈ r.fields, p.1.isWhole = true ∧ p.2.isWhole = true

section

variable {r : Record} (whole : r.IsWhole)

include whole

theorem IsWhole.field {name : Text} {d : Datum} (given : Datum.field? name r.fields = some d) :
    d.isWhole = true :=
  Datum.isWhole_field (Datum.isWholeFields_iff.mpr whole.fields) given

theorem IsWhole.trace {name : Text} {trace : Option Text} (given : r.trace name = some trace) :
    (trace.getD []).isWhole = true := by
  unfold Record.trace at given
  split at given
  · cases given
    rfl
  · cases given
    rfl
  · rename_i t found
    cases given
    exact whole.field found
  · cases given

theorem IsWhole.traces : (r.traces?.getD []).isWhole = true := by
  have rule : Text.isWhole Record.rule = true := by decide
  unfold traces?
  cases above : r.trace "stack" with
  | none => rfl
  | some stack =>
    cases below : r.trace "exception" with
    | none => cases stack <;> rfl
    | some exception =>
      have stackWhole := whole.trace above
      have exceptionWhole := whole.trace below
      cases stack <;> cases exception <;> simp_all

theorem IsWhole.eventText : r.eventText.isWhole = true := by
  unfold Record.eventText
  split
  · rfl
  · exact Datum.isWhole_plain whole.event

theorem IsWhole.sortedFields : ∀ t ∈ r.sortedFields, t.isWhole = true := by
  intro t ht
  obtain ⟨p, hp, rfl⟩ := List.mem_map.mp ht
  have given := (List.mem_filter.mp (List.mem_mergeSort.mp hp)).1
  obtain ⟨name, value⟩ := whole.fields p (List.mem_filter.mp given).1
  have shown : (fieldText p.2).isWhole = true := by
    unfold fieldText
    split
    · rename_i t same
      rw [same] at value
      split
      · exact Text.isWhole_quoted t
      · exact value
    · exact Datum.isWhole_quoted _
  simp [name, shown]

theorem IsWhole.headline : r.headline.isWhole = true := by
  have word : r.severity.word.isWhole = true := by cases r.severity <;> rfl
  have fields : (Text.joined " " r.sortedFields).isWhole = true :=
    (Text.isWhole_joined (Text.isWhole_ofString _)).mpr whole.sortedFields
  unfold Record.headline
  cases second : Datum.field? "logger_name" r.fields with
  | none => simp [word, fields, whole.eventText, whole.logger]
  | some d =>
    simp [word, fields, whole.eventText, whole.logger, Datum.isWhole_plain (whole.field second)]

theorem IsWhole.named : IsWhole { r with logger := Journal.loggerName r.logger } := by
  refine ⟨whole.event, ?_, whole.fields⟩
  change (Journal.loggerName r.logger).isWhole = true
  unfold Journal.loggerName
  split
  · rfl
  · exact whole.logger

/-- **A record without halves** is written without halves. -/
theorem IsWhole.entry (layout : Layout) : Entry.isWhole ⟨layout, r⟩ = true := by
  cases layout with
  | json => rfl
  | console =>
    have written : (r.headline ++ r.traces?.getD [] ++ "\n" : Text).isWhole = true := by
      simp [whole.headline, whole.traces]
    refine List.all_eq_true.mpr fun line hl => ?_
    obtain ⟨_, hs, rfl⟩ := List.mem_map.mp hl
    obtain ⟨t, ht, rfl⟩ := List.mem_map.mp hs
    exact isWhole_squeezed (Text.isWhole_of_subset (fun c => Text.mem_of_mem_lines ht) written)

end

end Record

namespace Journal

/-! ## Calls -/

/-- What a process does with its journal. -/
inductive Call
  | setUp (q : Request)
  | emit (r : Record)

namespace Call

/-- What a call asks of the set-up. A report leaves everything to the environment. -/
def request : Call → Request
  | setUp q => q
  | emit _ => {}

/-- Whether a call takes effect on a journal that is ready. -/
def forces (c : Call) : Bool := c.request.force

/-- What a call writes while a request is in force. -/
def output (env : Environment) (s : Settings) (q : Request) : Call → List Entry
  | setUp _ => []
  | emit r =>
    if q.least env s ≤ r.severity.number then
      [⟨q.form s, { r with logger := loggerName r.logger }⟩]
    else []

end Call

section

variable [Host]

/-- Makes a call, and gives what goes to standard error. -/
def make (env : Environment) (s : Settings) (j : Journal) :
    Call → Journal × Except Failure (List Entry)
  | .setUp q =>
    match setUp env s q j with
    | (j, .ok ()) => (j, .ok [])
    | (j, .error e) => (j, .error e)
  | .emit r => emit env s r j

/-- Makes calls one after another, and gives what goes to standard error at each. A call that fails
ends the run. -/
def run (env : Environment) (s : Settings) :
    Journal → List Call → Except Failure (Journal × List (List Entry))
  | j, [] => .ok (j, [])
  | j, c :: rest =>
    match make env s j c with
    | (_, .error e) => .error e
    | (j, .ok out) =>
      match run env s j rest with
      | .error e => .error e
      | .ok (j, written) => .ok (j, out :: written)

end

/-! ## What is in force -/

/-- The calls that take effect: the first, and later ones by force. -/
def effective : List Call → List Call
  | [] => []
  | c :: rest => c :: rest.filter Call.forces

/-- The request in force after some calls: that of the latest that took effect. -/
def latest (calls : List Call) : Request := ((effective calls).getLast?.map Call.request).getD {}

/-- The calls, each with the request in force at it. -/
def timeline (calls : List Call) : List (Request × Call) :=
  calls.mapIdx fun i c => (latest (calls.take (i + 1)), c)

/-- The files that were ever in force, in the order in which they first were. -/
def fileNames (env : Environment) (calls : List Call) : List Text :=
  ((timeline calls).filterMap fun (q, _) => q.file? env).eraseDups

/-- The records written while a file was in force. -/
def recordsIn (env : Environment) (s : Settings) (calls : List Call) (name : Text) : List Entry :=
  ((timeline calls).filter fun (q, _) => q.file? env = some name).flatMap
    fun (q, c) => c.output env s q

/-- Those of them that UTF-8 can carry. -/
def carriedIn (env : Environment) (s : Settings) (calls : List Call) (name : Text) : List Entry :=
  (recordsIn env s calls name).filter Entry.isWhole

section

variable {env : Environment} {s : Settings} {calls : List Call}

/-- One call more takes effect if it is the first or uses force. -/
theorem latest_concat (c : Call) :
    latest (calls ++ [c]) = if calls = [] ∨ c.forces = true then c.request else latest calls := by
  cases calls with
  | nil => rfl
  | cons first rest =>
    have shown : effective (first :: rest ++ [c]) =
        effective (first :: rest) ++ [c].filter Call.forces := by
      simp [effective]
    unfold latest
    rw [shown]
    cases forced : c.forces <;> simp [forced]

theorem timeline_concat (c : Call) :
    timeline (calls ++ [c]) = timeline calls ++ [(latest (calls ++ [c]), c)] := by
  unfold timeline
  rw [List.mapIdx_concat, List.take_of_length_le (by simp)]
  congr 1
  refine List.mapIdx_eq_mapIdx_iff.mpr fun i hi => ?_
  rw [List.take_append_of_le_length (by omega)]

theorem fileNames_concat (c : Call) :
    fileNames env (calls ++ [c]) = ((latest (calls ++ [c])).file? env).elim (fileNames env calls)
      fun name => if name ∈ fileNames env calls then fileNames env calls
        else fileNames env calls ++ [name] := by
  unfold fileNames
  rw [timeline_concat, List.filterMap_append, List.eraseDups_append]
  cases file : (latest (calls ++ [c])).file? env with
  | none => simp [file, List.removeAll]
  | some name =>
    by_cases listed : name ∈ (timeline calls).filterMap fun (q, _) => q.file? env
    · simp [file, List.removeAll, listed]
    · simp [file, List.removeAll, listed]
      rfl

theorem recordsIn_concat (c : Call) (name : Text) :
    recordsIn env s (calls ++ [c]) name = recordsIn env s calls name ++
      if (latest (calls ++ [c])).file? env = some name then
        c.output env s (latest (calls ++ [c]))
      else [] := by
  unfold recordsIn
  rw [timeline_concat, List.filter_append, List.flatMap_append]
  congr 1
  split <;> simp_all

theorem carriedIn_concat (c : Call) (name : Text) :
    carriedIn env s (calls ++ [c]) name = carriedIn env s calls name ++
      if (latest (calls ++ [c])).file? env = some name then
        (c.output env s (latest (calls ++ [c]))).filter Entry.isWhole
      else [] := by
  unfold carriedIn
  rw [recordsIn_concat, List.filter_append]
  split <;> rfl

/-- Nothing was written to a file that was never in force. -/
theorem carriedIn_eq_nil {name : Text} (h : name ∉ fileNames env calls) :
    carriedIn env s calls name = [] := by
  have never : ((timeline calls).filter fun (q, _) => q.file? env = some name) = [] := by
    refine List.filter_eq_nil_iff.mpr fun (q, c) listed inForce => h ?_
    exact List.mem_eraseDups.mpr (List.mem_filterMap.mpr ⟨(q, c), listed, by simpa using inForce⟩)
  rw [carriedIn, recordsIn, never, List.flatMap_nil, List.filter_nil]

/-- What is written of records without halves can all be carried. -/
theorem carriedIn_of_whole (whole : ∀ r, .emit r ∈ calls → r.IsWhole) (name : Text) :
    carriedIn env s calls name = recordsIn env s calls name := by
  refine List.filter_eq_self.mpr fun e he => ?_
  obtain ⟨⟨q, c⟩, hc, he⟩ := List.mem_flatMap.mp he
  obtain ⟨i, hi, at_i⟩ := List.mem_mapIdx.mp (List.mem_filter.mp hc).1
  cases at_i
  have made : calls[i] ∈ calls := List.getElem_mem hi
  cases call : calls[i] with
  | setUp q =>
    rw [call] at he
    cases he
  | emit r =>
    rw [call] at he made
    dsimp only [Call.output] at he
    split at he
    · cases List.mem_singleton.mp he
      exact (whole r made).named.entry _
    · cases he

/-- The file in force is one that was in force. -/
theorem mem_fileNames_latest (ne : calls ≠ []) {name : Text}
    (h : (latest calls).file? env = some name) : name ∈ fileNames env calls := by
  obtain ⟨before, c, rfl⟩ := (List.eq_nil_or_concat calls).resolve_left ne
  rw [List.concat_eq_append] at h ⊢
  refine List.mem_eraseDups.mpr (List.mem_filterMap.mpr ⟨(_, c), ?_, h⟩)
  rw [timeline_concat]
  exact List.mem_append_right _ (List.mem_singleton_self _)

end

/-! ## What a call does -/

section

variable {env : Environment} {s : Settings} {q : Request} {j j' : Journal}

/-- What is written goes to the end of the file in force, as far as UTF-8 can carry it. -/
def extended (file : Option Text) (out : List Entry) (files : List (Text × List Entry)) :
    List (Text × List Entry) :=
  files.map fun (name, entries) =>
    (name, if file = some name then entries ++ out.filter Entry.isWhole else entries)

@[simp] theorem extended_nil (file : Option Text) (files : List (Text × List Entry)) :
    extended file [] files = files := by
  simp [extended]

@[simp] theorem extended_none (out : List Entry) (files : List (Text × List Entry)) :
    extended none out files = files := by
  simp [extended]

theorem extended_one (name : Text) (e : Entry) (files : List (Text × List Entry)) :
    extended (some name) [e] files = append name e files := by
  refine List.map_congr_left fun (n, entries) _ => ?_
  by_cases h : n = name
  · cases whole : e.isWhole <;> simp [h, whole]
  · simp [h, Ne.symm h]

/-- **What a report does** while a request is in force. -/
theorem write_eq (inForce : InForce env s q j) (r : Record) :
    write j { r with logger := loggerName r.logger } =
      ({ j with files := extended j.file (Call.output env s q (.emit r)) j.files },
        Call.output env s q (.emit r)) := by
  have admitted : j.admits r.severity = decide (q.least env s ≤ r.severity.number) := by
    rw [admits, inForce.threshold, inForce.root, Bool.and_self]
  unfold write
  rw [admitted, Call.output]
  by_cases grave : q.least env s ≤ r.severity.number
  · rw [if_pos (decide_eq_true grave), if_pos grave, ← inForce.layout]
    obtain ⟨ready, root, threshold, layout, file, files⟩ := j
    cases file with
    | none => rw [extended_none]
    | some name => rw [extended_one]
  · rw [if_neg (by simpa using grave), if_neg grave, extended_nil]

variable [Host]

/-- **What a call does that goes through**: it sets the journal up, as far as this takes effect, and
then writes what is written under the request in force. -/
theorem make_cases {c : Call} {out : List Entry} (h : make env s j c = (j', .ok out)) :
    ∃ ready, setUp env s c.request j = (ready, .ok ()) ∧
      ∀ q, InForce env s q ready → out = c.output env s q ∧
        j' = { ready with files := extended ready.file out ready.files } := by
  cases c with
  | setUp r =>
    unfold make at h
    rcases result : setUp env s r j with ⟨ready, e | ⟨⟩⟩
    · simp [result] at h
    · simp only [result] at h
      cases h
      exact ⟨j', result, fun q _ => ⟨rfl, by rw [extended_nil]⟩⟩
  | emit r =>
    unfold make emit at h
    rcases result : setUp env s {} j with ⟨ready, e | ⟨⟩⟩
    · simp [result] at h
    · simp only [result] at h
      refine ⟨ready, result, fun q inForce => ?_⟩
      split at h
      · cases h
      · split at h
        · cases h
        · rw [write_eq inForce] at h
          cases h
          exact ⟨rfl, rfl⟩

end

/-! ## Runs -/

section

variable {env : Environment} {s : Settings} {calls : List Call} {j j' : Journal}
  {written : List (List Entry)}

theorem lookup_map (names : List Text) (f : Text → List Entry) (name : Text) :
    (names.map fun n => (n, f n)).lookup name = if name ∈ names then some (f name) else none := by
  induction names with
  | nil => rfl
  | cons n rest ih =>
    by_cases h : name = n
    · simp [h]
    · have other : (name == n) = false := beq_false_of_ne h
      simp [List.lookup_cons, other, ih, h]

theorem openFile_map (names : List Text) (f : Text → List Entry) (name : Text) :
    openFile name (names.map fun n => (n, f n)) =
      if name ∈ names then names.map fun n => (n, f n)
      else (names.map fun n => (n, f n)) ++ [(name, [])] := by
  unfold openFile
  rw [lookup_map]
  by_cases known : name ∈ names
  · rw [if_pos known, if_pos known]
  · rw [if_neg known, if_neg known]

/-- What a run without failures keeps. The journal holds what the latest request has put in force,
and every file that was ever in force has the records written meanwhile. -/
structure Kept (env : Environment) (s : Settings) (calls : List Call) (j : Journal) : Prop where
  fresh : calls = [] → j.ready = false
  inForce : calls ≠ [] → InForce env s (latest calls) j
  files : j.files = (fileNames env calls).map fun name => (name, carriedIn env s calls name)

theorem Kept.start : Kept env s [] {} := ⟨fun _ => rfl, fun ne => absurd rfl ne, rfl⟩

/-- Opening a file adds it, without records, unless it was in force before. -/
theorem Kept.opening (kept : Kept env s calls j) (c : Call) :
    opened env (latest (calls ++ [c])) j.files =
      (fileNames env (calls ++ [c])).map fun name => (name, carriedIn env s calls name) := by
  rw [Journal.opened, fileNames_concat, kept.files]
  cases (latest (calls ++ [c])).file? env with
  | none => rfl
  | some name =>
    rw [Option.elim_some, Option.elim_some, openFile_map]
    split
    · rfl
    · rename_i unlisted
      rw [List.map_append, List.map_singleton, carriedIn_eq_nil unlisted]

/-- The file in force is open already. -/
theorem Kept.opened_latest (kept : Kept env s calls j) (ne : calls ≠ []) :
    Journal.opened env (latest calls) j.files = j.files := by
  rw [Journal.opened, kept.files]
  cases file : (latest calls).file? env with
  | none => rfl
  | some name => rw [Option.elim_some, openFile_map, if_pos (mem_fileNames_latest ne file)]

variable [Host]

/-- **One call** keeps what a run keeps, and writes what it has to. -/
theorem Kept.concat (kept : Kept env s calls j) {c : Call} {out : List Entry}
    (made : make env s j c = (j', .ok out)) :
    Kept env s (calls ++ [c]) j' ∧ out = c.output env s (latest (calls ++ [c])) := by
  obtain ⟨ready, set, writes⟩ := make_cases made
  have settled : InForce env s (latest (calls ++ [c])) ready ∧ ready.files =
      (fileNames env (calls ++ [c])).map fun name => (name, carriedIn env s calls name) := by
    rcases setUp_cases set with ⟨isReady, unforced, rfl⟩ | ⟨due, inForce, files⟩
    -- A journal that is ready has been called before, so the call is not the first.
    · have ne : calls ≠ [] := fun none => Bool.noConfusion (isReady.symm.trans (kept.fresh none))
      have same : latest (calls ++ [c]) = latest calls := by
        rw [latest_concat, if_neg]
        rintro (none | forced)
        · exact ne none
        · exact Bool.noConfusion (unforced.symm.trans forced)
      refine ⟨same ▸ kept.inForce ne, ?_⟩
      rw [← kept.opening, same, kept.opened_latest ne]
    · have new : latest (calls ++ [c]) = c.request := by
        rw [latest_concat, if_pos]
        by_cases none : calls = []
        · exact .inl none
        · exact .inr (due (kept.inForce none).ready)
      rw [← kept.opening, new]
      exact ⟨inForce, files⟩
  obtain ⟨inForce, files⟩ := settled
  obtain ⟨rfl, rfl⟩ := writes _ inForce
  refine ⟨⟨fun none => absurd none (by simp), fun _ =>
    ⟨inForce.ready, inForce.threshold, inForce.root, inForce.layout, inForce.file⟩, ?_⟩, rfl⟩
  rw [files, inForce.file, extended, List.map_map]
  refine List.map_congr_left fun name _ => ?_
  rw [carriedIn_concat]
  by_cases here : (latest (calls ++ [c])).file? env = some name
  · simp [here]
  · simp [here]

theorem run_cons {c : Call} {rest : List Call} :
    run env s j (c :: rest) = .ok (j', written) ↔
      ∃ next out more, make env s j c = (next, .ok out) ∧
        run env s next rest = .ok (j', more) ∧ written = out :: more := by
  constructor
  · intro h
    rw [run] at h
    rcases made : make env s j c with ⟨next, e | out⟩
    · simp [made] at h
    · rcases ran : run env s next rest with e | ⟨last, more⟩
      · simp [made, ran] at h
      · simp only [made, ran] at h
        cases h
        exact ⟨next, out, more, rfl, ran, rfl⟩
  · rintro ⟨next, out, more, made, ran, rfl⟩
    simp only [run, made, ran]

theorem run_append {before after : List Call} :
    run env s j (before ++ after) = .ok (j', written) ↔
      ∃ between first more, run env s j before = .ok (between, first) ∧
        run env s between after = .ok (j', more) ∧ written = first ++ more := by
  induction before generalizing j written with
  | nil =>
    constructor
    · intro ran
      exact ⟨j, [], written, rfl, ran, rfl⟩
    · rintro ⟨between, first, more, none, ran, rfl⟩
      cases none
      exact ran
  | cons c rest ih =>
    simp only [List.cons_append, run_cons, ih]
    constructor
    · rintro ⟨next, out, _, made, ⟨between, first, more, ran, ran', rfl⟩, rfl⟩
      exact ⟨between, out :: first, more, ⟨next, out, first, made, ran, rfl⟩, ran', rfl⟩
    · rintro ⟨between, _, more, ⟨next, out, first, made, ran, rfl⟩, ran', rfl⟩
      exact ⟨next, out, first ++ more, made, ⟨between, first, more, ran, ran', rfl⟩, rfl⟩

theorem length_of_run (ran : run env s j calls = .ok (j', written)) :
    written.length = calls.length := by
  induction calls generalizing j written with
  | nil =>
    cases ran
    rfl
  | cons c rest ih =>
    obtain ⟨next, out, more, _, later, rfl⟩ := run_cons.mp ran
    rw [List.length_cons, List.length_cons, ih later]

/-- **A whole run** keeps what each call keeps, and writes at each call what it has to. -/
theorem run_kept (ran : run env s {} calls = .ok (j, written)) :
    Kept env s calls j ∧ written = (timeline calls).map fun (q, c) => c.output env s q := by
  -- By the last call, since what is in force at a call depends on all calls before it.
  induction calls using List.reverseRecOn generalizing j written with
  | nil =>
    cases ran
    exact ⟨.start, rfl⟩
  | append_singleton before c ih =>
    obtain ⟨between, first, _, earlier, last, rfl⟩ := run_append.mp ran
    obtain ⟨next, out, _, made, done, rfl⟩ := run_cons.mp last
    cases done
    obtain ⟨kept, rfl⟩ := ih earlier
    obtain ⟨kept', rfl⟩ := kept.concat made
    refine ⟨kept', ?_⟩
    rw [timeline_concat, List.map_append, List.map_singleton]

/-- A set-up without force that is not the first call changes nothing. -/
theorem Kept.idle (kept : Kept env s calls j) (ne : calls ≠ []) {q : Request}
    (unforced : q.force = false) : make env s j (.setUp q) = (j, .ok []) := by
  have ready := (kept.inForce ne).ready
  simp [make, setUp, ready, unforced]

end

/-- A process that asks in vain for a file, gets it later, and comes back by another path to the one
that it left. -/
def errand : List Call :=
  [.emit ⟨.info, .text "first", "app", []⟩,
    .setUp { level := some (.number 50), file := .text "b.log" },
    .setUp
      { level := some (.number 30), layout := some "json", file := .text "a.log", force := true },
    .emit ⟨.warning, .text "second", [], []⟩,
    .emit ⟨.info, .text "third", "app", []⟩,
    .setUp { file := .text "./b.log", force := true },
    .emit ⟨.debug, .text "fourth", "app", []⟩,
    .setUp { level := some (.text "ERROR"), file := .text "c/../a.log", force := true },
    .emit ⟨.error, .text "fifth", "app", []⟩]

end Journal
end Narration
