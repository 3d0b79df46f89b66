import Mathlib.Data.List.Basic
import Narration.Text.Basic

/-! # Edits made at once

What it means to edit a text at several places in a single pass, said position by position and
without a scan. An edit begins at a position, takes the place of the characters from there on and
is not read again. Which edit begins where is decided on the text as it was. -/
namespace Narration

/-- How many characters an edit takes away, and what it puts there. -/
structure Edit where
  length : Nat
  text : Text

namespace Edit

/-- Whether a position lies inside an edit that begins before it. -/
def covers (edit? : Nat → Option Edit) (j : Nat) : Bool :=
  (List.range j).any fun i => (edit? i).any fun e => j < i + e.length

end Edit

namespace Text

/-- A text with all edits made. A position where an edit begins gives the new text, one inside an
edit gives nothing, and every other one its own character. -/
def edited (edit? : Nat → Option Edit) (t : Text) : Text :=
  (List.range t.length).flatMap fun j =>
    match edit? j with
    | some e => e.text
    | none => if Edit.covers edit? j then [] else t[j]?.toList

@[simp] theorem edited_nil (edit? : Nat → Option Edit) : edited edit? [] = [] := rfl

end Text

namespace Edit

theorem covers_eq_false_iff {edit? : Nat → Option Edit} {j : Nat} :
    covers edit? j = false ↔ ∀ i < j, ∀ e, edit? i = some e → i + e.length ≤ j := by
  unfold covers
  constructor
  · intro h i hi e he
    have hall := List.any_eq_false.mp h i (List.mem_range.mpr hi)
    simpa [he] using hall
  · intro h
    refine List.any_eq_false.mpr fun i hi => ?_
    cases he : edit? i with
    | none => simp
    | some e => simpa using h i (List.mem_range.mp hi) e he

/-- Edits that end before a position do not matter from there on. -/
theorem covers_add {edit? : Nat → Option Edit} {n : Nat}
    (h : ∀ i < n, ∀ e, edit? i = some e → i + e.length ≤ n) (j : Nat) :
    covers edit? (n + j) = covers (fun i => edit? (n + i)) j := by
  rw [Bool.eq_iff_iff, ← not_iff_not]
  simp only [Bool.not_eq_true, covers_eq_false_iff]
  constructor
  · intro hall i hi e he
    have := hall (n + i) (by omega) e he
    omega
  · intro hall i hi e he
    by_cases hin : i < n
    · have := h i hin e he
      omega
    · obtain ⟨k, rfl⟩ : ∃ k, i = n + k := ⟨i - n, by omega⟩
      have := hall k (by omega) e he
      omega

end Edit

namespace Text

variable {edit? : Nat → Option Edit}

/-- A front of which no edit reaches beyond its end is edited on its own. -/
theorem edited_append {w : Text} (h : ∀ i < w.length, ∀ e, edit? i = some e →
    i + e.length ≤ w.length) (t : Text) :
    edited edit? (w ++ t) = edited edit? w ++ edited (fun i => edit? (w.length + i)) t := by
  unfold edited
  rw [List.length_append, List.range_add, List.flatMap_append, List.flatMap_map]
  congr 1
  · refine List.flatMap_congr fun j hj => ?_
    rw [List.getElem?_append_left (List.mem_range.mp hj)]
  · refine List.flatMap_congr fun j _ => ?_
    rw [Edit.covers_add h, List.getElem?_append_right (Nat.le_add_right _ _),
      Nat.add_sub_cancel_left]

/-- A character at which no edit begins stays. -/
theorem edited_cons {c : CodePoint} (h : edit? 0 = none) (t : Text) :
    edited edit? (c :: t) = c :: edited (fun i => edit? (i + 1)) t := by
  have front : edited edit? [c] = [c] := by
    simp [edited, h, Edit.covers]
  have split : edited edit? ([c] ++ t) = edited edit? [c] ++ edited (fun i => edit? (1 + i)) t :=
    edited_append (by simp [h]) t
  simpa [front, Nat.add_comm] using split

/-- An edit at the front takes the place of as many characters as it says. -/
theorem edited_edit {e : Edit} {w : Text} (h : edit? 0 = some e) (length : e.length = w.length)
    (ne : w ≠ []) (inside : ∀ i, 0 < i → i < w.length → edit? i = none) (t : Text) :
    edited edit? (w ++ t) = e.text ++ edited (fun i => edit? (w.length + i)) t := by
  have within : ∀ i < w.length, ∀ e', edit? i = some e' → i + e'.length ≤ w.length := by
    intro i hi e' he
    cases i with
    | zero =>
      rw [h] at he
      cases he
      omega
    | succ i =>
      rw [inside (i + 1) (by omega) hi] at he
      cases he
  rw [edited_append within]
  congr 1
  obtain ⟨c, rest, rfl⟩ := List.exists_cons_of_ne_nil ne
  unfold edited
  rw [List.length_cons, Nat.add_comm, List.range_add, List.flatMap_append, List.flatMap_map]
  have later : ∀ j ∈ List.range rest.length, (match edit? (1 + j) with
      | some e => e.text
      | none =>
        if Edit.covers edit? (1 + j) then [] else ((c :: rest) : Text)[1 + j]?.toList) = [] := by
    intro j hj
    have hj := List.mem_range.mp hj
    rw [inside (1 + j) (by omega) (by simp; omega)]
    have hc : Edit.covers edit? (1 + j) = true := by
      rw [← Bool.not_eq_false, Edit.covers_eq_false_iff]
      intro hall
      have := hall 0 (by omega) e h
      simp at length
      omega
    simp [hc]
  rw [List.flatMap_eq_nil_iff.mpr later]
  simp [h]

end Text
end Narration
