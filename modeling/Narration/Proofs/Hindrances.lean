import Narration.Datum.Json
import Narration.Grammar.Reading

/-! # What can be written out

Whether a datum can be written out is settled member by member, and what can be written with some
room can be with more. The reader of JSON refuses long numbers and deep nesting itself, so with the
same room for both all that is read can be written. -/
namespace Narration

/-- What a result went through on its way. -/
theorem bind_eq_ok {ε α β : Type} {a : Except ε α} {next : α → Except ε β} {y : β} :
    (a >>= next) = .ok y ↔ ∃ x, a = .ok x ∧ next x = .ok y := by
  cases a with
  | error fs =>
    constructor
    · intro h
      cases h
    · rintro ⟨x, h, _⟩
      cases h
  | ok x =>
    constructor
    · intro h
      exact ⟨x, rfl, h⟩
    · rintro ⟨z, h, hy⟩
      cases h
      exact hy

namespace Text

theorem decimalValue?_lt {c : CodePoint} {n : Nat} (h : decimalValue? c = some n) : n < 10 := by
  obtain ⟨z, found, rfl⟩ := Option.map_eq_some_iff.mp h
  have within := List.find?_some found
  simp only [Bool.and_eq_true, decide_eq_true_eq] at within
  omega

/-- So many digits spell a number below that power of ten. -/
theorem valueOf_lt {t : Text} {limit : Nat} (short : t.length ≤ limit) :
    valueOf t < Nat.pow 10 limit := by
  have step (t : Text) (n : Nat) : t.foldl (fun n c => 10 * n + (decimalValue? c).getD 0) n <
      (n + 1) * Nat.pow 10 t.length := by
    induction t generalizing n with
    | nil => exact Nat.lt_of_lt_of_eq (Nat.lt_succ_self n) (Nat.mul_one _).symm
    | cons c rest ih =>
      have digit : (decimalValue? c).getD 0 < 10 := by
        cases value : decimalValue? c with
        | none => exact Nat.zero_lt_succ 9
        | some k => exact decimalValue?_lt value
      calc
        _ < (10 * n + (decimalValue? c).getD 0 + 1) * Nat.pow 10 rest.length := ih _
        _ ≤ ((n + 1) * 10) * Nat.pow 10 rest.length := Nat.mul_le_mul_right _ (by omega)
        _ = (n + 1) * (Nat.pow 10 rest.length * 10) := by rw [Nat.mul_assoc, Nat.mul_comm 10]
  calc
    valueOf t < 1 * Nat.pow 10 t.length := step t 0
    _ = Nat.pow 10 t.length := Nat.one_mul _
    _ ≤ Nat.pow 10 limit := Nat.pow_le_pow_right (Nat.zero_lt_succ 9) short

theorem isOverlong_eq_false_iff {n : Int} :
    isOverlong n = false ↔ n.natAbs < Nat.pow 10 digitLimit := by
  have digits : (ofNat n.natAbs).length = (Nat.toDigits 10 n.natAbs).length := List.length_map _
  have bound (limit : Nat) (pos : 0 < limit) :
      (Nat.toDigits 10 n.natAbs).length ≤ limit ↔ n.natAbs < Nat.pow 10 limit :=
    Nat.length_toDigits_le_iff (by decide) pos
  rw [isOverlong, decide_eq_false_iff_not, Nat.not_lt, digits]
  exact bound digitLimit (by decide)

/-- The first number with a digit too many. -/
theorem isOverlong_pow {n : Nat} (h : n = Nat.pow 10 digitLimit) : isOverlong n = true := by
  cases short : isOverlong n with
  | true => rfl
  | false => exact absurd h (Nat.ne_of_lt (isOverlong_eq_false_iff.mp short))

theorem isOverlong_eq_false {n : Int} {t : Text} (value : n.natAbs = valueOf t)
    (short : t.length ≤ digitLimit) : isOverlong n = false := by
  rw [isOverlong_eq_false_iff, value]
  exact valueOf_lt short

end Text

namespace Datum

/-- Induction over data, with lists and objects taken member by member. -/
theorem member_induction {motive : Datum → Prop} (null : motive .null)
    (bool : ∀ b, motive (.bool b)) (int : ∀ n, motive (.int n)) (float : ∀ x, motive (.float x))
    (text : ∀ t, motive (.text t)) (list : ∀ items, (∀ d ∈ items, motive d) → motive (.list items))
    (object : ∀ fields, (∀ p ∈ fields, motive p.2) → motive (.object fields)) (d : Datum) :
    motive d := by
  refine @Datum.rec motive (fun items => ∀ d ∈ items, motive d)
    (fun fields => ∀ p ∈ fields, motive p.2) (fun p => motive p.2)
    null bool int float text list object ?_ ?_ ?_ ?_ ?_ d
  · intro d hd
    cases hd
  · intro d rest first later e he
    rcases List.mem_cons.mp he with rfl | he
    · exact first
    · exact later e he
  · intro p hp
    cases hp
  · intro p rest first later q hq
    rcases List.mem_cons.mp hq with rfl | hq
    · exact first
    · exact later q hq
  · intro name d hd
    exact hd

section

variable {room : Nat}

@[simp] theorem hindranceWithin?_null : hindranceWithin? room .null = none := by
  cases room <;> rfl

@[simp] theorem hindranceWithin?_bool (b : Bool) : hindranceWithin? room (.bool b) = none := by
  cases room <;> rfl

@[simp] theorem hindranceWithin?_float (x : Binary64) :
    hindranceWithin? room (.float x) = none := by
  cases room <;> rfl

@[simp] theorem hindranceWithin?_text (t : Text) : hindranceWithin? room (.text t) = none := by
  cases room <;> rfl

theorem hindranceWithin?_int (n : Int) :
    hindranceWithin? room (.int n) = if Text.isOverlong n then some .tooLong else none := by
  cases room <;> rfl

theorem hindranceInItems?_eq_none_iff {items : List Datum} :
    hindranceInItems? room items = none ↔ ∀ d ∈ items, d.hindranceWithin? room = none := by
  induction items with
  | nil => simp [hindranceInItems?]
  | cons d rest ih => simp [hindranceInItems?, ih]

theorem hindranceInFields?_eq_none_iff {fields : List (Text × Datum)} :
    hindranceInFields? room fields = none ↔ ∀ p ∈ fields, p.2.hindranceWithin? room = none := by
  induction fields with
  | nil => simp [hindranceInFields?]
  | cons p rest ih => simp [hindranceInFields?, ih]

/-- What has members takes a level for itself. -/
theorem hindranceWithin?_list {items : List Datum} (ne : items ≠ []) :
    (list items).hindranceWithin? room = none ↔
      0 < room ∧ ∀ d ∈ items, d.hindranceWithin? (room - 1) = none := by
  cases room with
  | zero => simp [hindranceWithin?, ne]
  | succ room => simp [hindranceWithin?, hindranceInItems?_eq_none_iff]

theorem hindranceWithin?_object {fields : List (Text × Datum)} (ne : fields ≠ []) :
    (object fields).hindranceWithin? room = none ↔
      0 < room ∧ ∀ p ∈ fields, p.2.hindranceWithin? (room - 1) = none := by
  cases room with
  | zero => simp [hindranceWithin?, ne]
  | succ room => simp [hindranceWithin?, hindranceInFields?_eq_none_iff]

@[simp] theorem hindranceWithin?_list_nil : (list []).hindranceWithin? room = none := by
  cases room <;> rfl

@[simp] theorem hindranceWithin?_object_nil : (object []).hindranceWithin? room = none := by
  cases room <;> rfl

/-- **More room** keeps nothing from being written out. -/
theorem hindranceWithin?_mono {d : Datum} {room' : Nat} (h : d.hindranceWithin? room = none)
    (le : room ≤ room') : d.hindranceWithin? room' = none := by
  induction d using member_induction generalizing room room' with
  | null | bool | float | text => simp
  | int n => rwa [hindranceWithin?_int] at h ⊢
  | list items ih =>
    by_cases ne : items = []
    · simp [ne]
    · obtain ⟨positive, inside⟩ := (hindranceWithin?_list ne).mp h
      exact (hindranceWithin?_list ne).mpr
        ⟨by omega, fun d hd => ih d hd (inside d hd) (by omega)⟩
  | object fields ih =>
    by_cases ne : fields = []
    · simp [ne]
    · obtain ⟨positive, inside⟩ := (hindranceWithin?_object ne).mp h
      exact (hindranceWithin?_object ne).mpr
        ⟨by omega, fun p hp => ih p hp (inside p hp) (by omega)⟩

/-- What stands in a field of a datum that can be written out. -/
theorem hindranceWithin?_field {fields : List (Text × Datum)}
    (h : (object fields).hindranceWithin? room = none) {name : Text} {d : Datum}
    (given : field? name fields = some d) : d.hindranceWithin? room = none := by
  obtain ⟨before, after, cut, _⟩ := List.lookup_eq_some_iff.mp given
  have ne : fields ≠ [] := by simp [cut]
  have inside := ((hindranceWithin?_object ne).mp h).2 (name, d) (by simp [cut])
  exact hindranceWithin?_mono inside (by omega)

end

end Datum

/-! ## Labels -/

/-- A whole number with a digit too many cannot be written out. -/
theorem Label.hindrance?_long [Host] {n : Nat} (h : n = Nat.pow 10 Text.digitLimit) :
    hindrance? (.datum (.int n)) = some .tooLong := by
  rw [hindrance?, Datum.hindrance?, Datum.hindranceWithin?_int, Text.isOverlong_pow h, if_pos rfl]

namespace Breach

variable {b c : Breach} {hindrance : Option Hindrance} {h : Hindrance}

theorem refusal_eq_breach : b.refusal hindrance = .breach c ↔ b = c ∧ hindrance = none := by
  cases hindrance <;> simp [refusal]

theorem refusal_eq_unwritten : b.refusal hindrance = .unwritten h ↔ hindrance = some h := by
  cases hindrance <;> simp [refusal]

end Breach

/-- A text can always be written out, so one that is no word for a gender is refused as such. -/
theorem Gender.ofLabel_text [Host] (t : Text) :
    ofLabel (.datum (.text t)) = (ofText? t).elim (.error (.breach (.gender t))) .ok := by
  have written : (Label.datum (.text t)).hindrance? = none := by
    rw [Label.hindrance?, Datum.hindrance?, Datum.hindranceWithin?_text]
  have plain : (Label.datum (.text t)).plain = t := rfl
  rw [ofLabel, written, plain]
  · cases ofText? t <;> rfl
  · rintro g ⟨⟩

/-! ## What is read -/

/-- A named value that was put among others is the new one or was there before. -/
theorem Text.mem_put {α : Type} {name : Text} {a : α} {p : Text × α} {named : List (Text × α)}
    (h : p ∈ Text.put name a named) : p = (name, a) ∨ p ∈ named := by
  induction named with
  | nil => exact .inl (List.mem_singleton.mp h)
  | cons q rest ih =>
    unfold Text.put at h
    split at h
    · rcases List.mem_cons.mp h with rfl | h
      · rename_i same
        exact .inl (by rw [same])
      · exact .inr (List.mem_cons_of_mem _ h)
    · rcases List.mem_cons.mp h with rfl | h
      · exact .inr List.mem_cons_self
      · exact (ih h).imp id (List.mem_cons_of_mem _)

namespace Json

open Datum

section

variable {total : Nat} {t rest : Text} {d : Datum}

theorem number_written {start : Text} {negative : Bool} (room : Nat)
    (h : number total start negative t = .ok (d, rest)) : d.hindranceWithin? room = none := by
  unfold number at h
  split at h
  rename_i whole behind _
  split at h
  · cases h
  · split at h
    split at h
    split at h
    · split at h
      · cases h
      · rename_i long
        cases h
        rw [hindranceWithin?_int, Text.isOverlong_eq_false _ (Nat.not_lt.mp long)]
        · rfl
        · split
          · exact Int.natAbs_neg _
          · rfl
    · cases h
      simp

theorem word_written (room : Nat) (h : word? t = some (d, rest)) :
    d.hindranceWithin? room = none := by
  have every : ∀ p ∈ words, p.2.hindranceWithin? room = none := by simp [words]
  obtain ⟨⟨w, e⟩, listed, found⟩ := List.exists_of_findSome?_eq_some h
  obtain ⟨_, _, same⟩ := Option.map_eq_some_iff.mp found
  cases same
  exact every _ listed

/-- With so much fuel, the reader gives nothing but what can be written out with the room that it
was given. -/
structure Writes (total fuel : Nat) : Prop where
  value : ∀ {depth : Nat} {t rest : Text} {d : Datum},
    value total fuel depth t = .ok (d, rest) → d.hindranceWithin? depth = none
  items : ∀ {depth : Nat} {t rest : Text} {ds : List Datum},
    items total fuel depth t = .ok (ds, rest) → ∀ d ∈ ds, d.hindranceWithin? depth = none
  fields : ∀ {depth : Nat} {found fs : List (Text × Datum)} {t rest : Text},
    (∀ p ∈ found, p.2.hindranceWithin? depth = none) →
      fields total fuel depth found t = .ok (fs, rest) →
        ∀ p ∈ fs, p.2.hindranceWithin? depth = none

section

variable {fuel depth : Nat} (writes : Writes total fuel)

include writes

theorem Writes.value_succ (h : Json.value total (fuel + 1) depth t = .ok (d, rest)) :
    d.hindranceWithin? depth = none := by
  unfold Json.value at h
  split at h
  · cases h
  · obtain ⟨⟨s, behind⟩, _, h⟩ := bind_eq_ok.mp h
    cases h
    simp
  · rename_i same
    cases same
    split at h
    · cases h
    · rename_i positive
      split at h
      · cases h
        simp
      · obtain ⟨⟨ds, behind⟩, inside, h⟩ := bind_eq_ok.mp h
        cases h
        by_cases ne : ds = []
        · simp [ne]
        · exact (hindranceWithin?_list ne).mpr ⟨Nat.pos_of_ne_zero positive, writes.items inside⟩
  · rename_i same
    cases same
    split at h
    · cases h
    · rename_i positive
      split at h
      · cases h
        simp
      · obtain ⟨⟨fs, behind⟩, inside, h⟩ := bind_eq_ok.mp h
        cases h
        by_cases ne : fs = []
        · simp [ne]
        · exact (hindranceWithin?_object ne).mpr
            ⟨Nat.pos_of_ne_zero positive, writes.fields (by simp) inside⟩
  · split at h
    · cases h
      exact word_written depth ‹_›
    · exact number_written depth h
    · exact number_written depth h

theorem Writes.items_succ {ds : List Datum}
    (h : Json.items total (fuel + 1) depth t = .ok (ds, rest)) :
    ∀ d ∈ ds, d.hindranceWithin? depth = none := by
  unfold Json.items at h
  obtain ⟨⟨first, behind⟩, read, h⟩ := bind_eq_ok.mp h
  have written := writes.value read
  dsimp only at h
  split at h
  · cases h
    simpa using written
  · obtain ⟨⟨more, behind⟩, later, h⟩ := bind_eq_ok.mp h
    cases h
    simpa [written] using writes.items later
  · cases h

theorem Writes.fields_succ {found fs : List (Text × Datum)}
    (before : ∀ p ∈ found, p.2.hindranceWithin? depth = none)
    (h : Json.fields total (fuel + 1) depth found t = .ok (fs, rest)) :
    ∀ p ∈ fs, p.2.hindranceWithin? depth = none := by
  unfold Json.fields at h
  split at h
  · cases h
  · rename_i same
    cases same
    obtain ⟨⟨name, behind⟩, _, h⟩ := bind_eq_ok.mp h
    dsimp only at h
    split at h
    · obtain ⟨⟨d, behind⟩, read, h⟩ := bind_eq_ok.mp h
      have put : ∀ p ∈ Text.put name d found, p.2.hindranceWithin? depth = none := by
        intro p hp
        rcases Text.mem_put hp with rfl | hp
        · exact writes.value read
        · exact before p hp
      dsimp only at h
      split at h
      · cases h
        exact put
      · exact writes.fields put h
      · cases h
    · cases h
  · cases h

end

theorem writes (total fuel : Nat) : Writes total fuel := by
  induction fuel with
  | zero =>
    refine ⟨fun h => ?_, fun h => (nomatch h), fun _ h => (nomatch h)⟩
    unfold value at h
    cases h
  | succ fuel ih => exact ⟨ih.value_succ, ih.items_succ, ih.fields_succ⟩

/-- **What is read can be written out**, with the same room. -/
theorem hindranceWithin?_of_readWithin {room : Nat} (h : readWithin room t = .ok d) :
    d.hindranceWithin? room = none := by
  unfold readWithin at h
  dsimp only at h
  split at h
  · cases h
  · obtain ⟨⟨e, behind⟩, read, h⟩ := bind_eq_ok.mp h
    dsimp only at h
    split at h
    · cases h
      exact (writes _ _).value read
    · cases h

theorem hindrance?_of_read [Host] (h : read t = .ok d) : d.hindrance? = none :=
  hindranceWithin?_of_readWithin h

end

end Json
end Narration
