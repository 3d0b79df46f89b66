import Narration.Proofs.Halves
import Narration.Proofs.Hindrances
import Narration.Web.Sending

/-! # What can be sent

An answer can be sent if all its numbers are finite and none of its texts, the names of fields
among them, has halves. Both are asked of a datum at every depth, so they are stated for lists and
objects member by member, and data are taken apart by an induction that does the same. -/
namespace Narration

namespace Datum

mutual

/-- Whether no text and no name of a field has halves, at any depth. -/
def isWhole : Datum → Bool
  | text t => t.isWhole
  | list items => isWholeItems items
  | object fields => isWholeFields fields
  | _ => true

def isWholeItems : List Datum → Bool
  | [] => true
  | d :: rest => isWhole d && isWholeItems rest

def isWholeFields : List (Text × Datum) → Bool
  | [] => true
  | (name, d) :: rest => name.isWhole && isWhole d && isWholeFields rest

end

/-- A datum that can be sent. -/
structure Sendable (d : Datum) : Prop where
  finite : d.allFinite = true
  whole : d.isWhole = true

@[simp] theorem sendable_null : Sendable .null := ⟨rfl, rfl⟩

@[simp] theorem sendable_bool (b : Bool) : Sendable (.bool b) := ⟨rfl, rfl⟩

@[simp] theorem sendable_int (n : Int) : Sendable (.int n) := ⟨rfl, rfl⟩

@[simp] theorem sendable_text {t : Text} : Sendable (.text t) ↔ t.isWhole = true :=
  ⟨fun h => h.whole, fun h => ⟨rfl, h⟩⟩

theorem allFiniteItems_iff {items : List Datum} :
    allFiniteItems items = true ↔ ∀ d ∈ items, allFinite d = true := by
  induction items with
  | nil => simp [allFiniteItems]
  | cons d rest ih => simp [allFiniteItems, ih]

theorem isWholeItems_iff {items : List Datum} :
    isWholeItems items = true ↔ ∀ d ∈ items, isWhole d = true := by
  induction items with
  | nil => simp [isWholeItems]
  | cons d rest ih => simp [isWholeItems, ih]

theorem allFiniteFields_iff {fields : List (Text × Datum)} :
    allFiniteFields fields = true ↔ ∀ p ∈ fields, allFinite p.2 = true := by
  induction fields with
  | nil => simp [allFiniteFields]
  | cons p rest ih => simp [allFiniteFields, ih]

theorem isWholeFields_iff {fields : List (Text × Datum)} :
    isWholeFields fields = true ↔ ∀ p ∈ fields, p.1.isWhole = true ∧ isWhole p.2 = true := by
  induction fields with
  | nil => simp [isWholeFields]
  | cons p rest ih => simp [isWholeFields, ih, and_assoc]

@[simp] theorem sendable_list {items : List Datum} :
    Sendable (.list items) ↔ ∀ d ∈ items, Sendable d := by
  constructor
  · intro h d hd
    exact ⟨allFiniteItems_iff.mp h.finite d hd, isWholeItems_iff.mp h.whole d hd⟩
  · intro h
    exact ⟨allFiniteItems_iff.mpr fun d hd => (h d hd).finite,
      isWholeItems_iff.mpr fun d hd => (h d hd).whole⟩

@[simp] theorem sendable_object {fields : List (Text × Datum)} :
    Sendable (.object fields) ↔ ∀ p ∈ fields, p.1.isWhole = true ∧ Sendable p.2 := by
  constructor
  · intro h p hp
    obtain ⟨name, whole⟩ := isWholeFields_iff.mp h.whole p hp
    exact ⟨name, allFiniteFields_iff.mp h.finite p hp, whole⟩
  · intro h
    exact ⟨allFiniteFields_iff.mpr fun p hp => (h p hp).2.finite,
      isWholeFields_iff.mpr fun p hp => ⟨(h p hp).1, (h p hp).2.whole⟩⟩

/-- What stands in a field of a datum without halves. -/
theorem isWhole_field {fields : List (Text × Datum)} (h : isWhole (.object fields) = true)
    {name : Text} {d : Datum} (given : field? name fields = some d) : d.isWhole = true := by
  obtain ⟨before, after, cut, _⟩ := List.lookup_eq_some_iff.mp given
  exact (isWholeFields_iff.mp h (name, d) (by simp [cut])).2

/-- What stands in a field of a datum that can be sent. -/
theorem Sendable.field {fields : List (Text × Datum)} (h : Sendable (.object fields)) {name : Text}
    {d : Datum} (hd : field? name fields = some d) : Sendable d := by
  obtain ⟨before, after, he, _⟩ := List.lookup_eq_some_iff.mp hd
  exact (sendable_object.mp h (name, d) (by simp [he])).2

/-! ## Quoted data -/

theorem quotedItems_eq (items : List Datum) : quotedItems items = items.map quoted := by
  induction items with
  | nil => rfl
  | cons d rest ih => rw [quotedItems, ih, List.map_cons]

theorem quotedFields_eq (fields : List (Text × Datum)) :
    quotedFields fields = fields.map fun p => (p.1.quoted ++ ": " ++ p.2.quoted : Text) := by
  induction fields with
  | nil => rfl
  | cons p rest ih => rw [quotedFields, ih, List.map_cons]

/-- A quoted datum never has halves. -/
@[simp] theorem isWhole_quoted (d : Datum) : d.quoted.isWhole = true := by
  induction d using member_induction with
  | null => rfl
  | bool b => cases b <;> rfl
  | int n => exact Text.isWhole_ofInt n
  | float x => exact x.isWhole_text
  | text t => exact t.isWhole_quoted
  | list items ih =>
    have inside : (Text.joined ", " (items.map quoted)).isWhole = true := by
      refine (Text.isWhole_joined (Text.isWhole_ofString _)).mpr fun t ht => ?_
      obtain ⟨d, hd, rfl⟩ := List.mem_map.mp ht
      exact ih d hd
    simp [quoted, quotedItems_eq, inside]
  | object fields ih =>
    have inside : (Text.joined ", "
        (fields.map fun p => (p.1.quoted ++ ": " ++ p.2.quoted : Text))).isWhole = true := by
      refine (Text.isWhole_joined (Text.isWhole_ofString _)).mpr fun t ht => ?_
      obtain ⟨p, hp, rfl⟩ := List.mem_map.mp ht
      simp [ih p hp]
    simp only [quoted, quotedFields_eq, Text.isWhole_append, Text.isWhole_ofString, inside,
      Bool.and_self]

theorem isWhole_plain {d : Datum} (h : d.isWhole = true) : d.plain.isWhole = true := by
  cases d with
  | text t => exact h
  | _ => exact isWhole_quoted _

end Datum

/-! ## Written data -/

namespace Json

open Datum

theorem writeItems_eq (s : Style) (items : List Datum) :
    writeItems s items = items.map (write s) := by
  induction items with
  | nil => rfl
  | cons d rest ih => rw [writeItems, ih, List.map_cons]

theorem writeFields_eq (s : Style) (fields : List (Text × Datum)) :
    writeFields s fields = fields.map fun p => s.text p.1 ++ s.colon ++ write s p.2 := by
  induction fields with
  | nil => rfl
  | cons p rest ih => rw [writeFields, ih, List.map_cons]

theorem isWhole_unitEscape (n : Nat) : (unitEscape n).isWhole = true := by
  simp [unitEscape]

/-- In the compact style a code point stands for itself or is written in ASCII. -/
theorem isWhole_point (c : CodePoint) : (Style.compact.point c).isWhole = !c.isHalf := by
  cases c with
  | half n =>
    have shown : 0x20 ≤ (CodePoint.half n).toNat := by
      have := CodePoint.isHalf_iff.mp (rfl : (CodePoint.half n).isHalf = true)
      omega
    simp [Style.point, letterFor?, Style.compact, shown]
  | char c =>
    unfold Style.point
    split
    · rfl
    · repeat' split
      all_goals simp [isWhole_unitEscape]

theorem isWhole_styleText (t : Text) : (Style.compact.text t).isWhole = t.isWhole := by
  have inside : Text.isWhole (t.flatMap Style.compact.point) = t.isWhole := by
    induction t with
    | nil => rfl
    | cons c rest ih =>
      rw [List.flatMap_cons, Text.isWhole_append, isWhole_point, ih, Text.isWhole_cons]
  simp [Style.text, inside]

theorem isWhole_writtenFloat (x : Binary64) : (writtenFloat x).isWhole = true := by
  cases x with
  | nan => rfl
  | infinite negative => cases negative <;> rfl
  | finite negative units => exact (Binary64.finite negative units).isWhole_text

/-- What is written of a datum in the compact style has halves if the datum has. -/
theorem isWhole_write {d : Datum} : (write .compact d).isWhole = true ↔ d.isWhole = true := by
  have comma : Style.compact.comma.isWhole = true := Text.isWhole_ofString _
  have colon : Style.compact.colon.isWhole = true := Text.isWhole_ofString _
  induction d using member_induction with
  | null => exact Iff.rfl
  | bool b => cases b <;> exact Iff.rfl
  | int n => exact iff_of_true (Text.isWhole_ofInt n) rfl
  | float x => exact iff_of_true (isWhole_writtenFloat x) rfl
  | text t => rw [write, isWhole_styleText, Datum.isWhole]
  | list items ih =>
    have inside : (Text.joined Style.compact.comma (items.map (write .compact))).isWhole = true ↔
        isWholeItems items = true := by
      rw [Text.isWhole_joined comma, isWholeItems_iff, List.forall_mem_map]
      exact forall₂_congr ih
    simp [write, writeItems_eq, Datum.isWhole, inside]
  | object fields ih =>
    have inside : (Text.joined Style.compact.comma (fields.map fun p =>
        Style.compact.text p.1 ++ Style.compact.colon ++ write .compact p.2)).isWhole = true ↔
        isWholeFields fields = true := by
      rw [Text.isWhole_joined comma, isWholeFields_iff, List.forall_mem_map]
      refine forall₂_congr fun p hp => ?_
      simp [isWhole_styleText, colon, ih p hp]
    simp only [write, writeFields_eq, Text.isWhole_append, Text.isWhole_ofString, Datum.isWhole,
      Bool.true_and, Bool.and_true, inside]

end Json

namespace Web

open Datum

theorem sharedItems_eq (items : List Datum) : sharedItems items = items.map shared := by
  induction items with
  | nil => rfl
  | cons d rest ih => rw [sharedItems, ih, List.map_cons]

theorem sharedFields_eq (fields : List (Text × Datum)) :
    sharedFields fields =
      (fields.filter fun p => !p.1.startsWith "_sa").map fun p => (p.1, shared p.2) := by
  induction fields with
  | nil => rfl
  | cons p rest ih =>
    rw [sharedFields, ih, List.filter_cons]
    cases p.1.startsWith "_sa" <;> rfl

/-- What is sent of a list, and of an object, can be sent if what is sent of its members can. -/
theorem sendable_shared_list {items : List Datum} :
    (shared (.list items)).Sendable ↔ ∀ d ∈ items, (shared d).Sendable := by
  rw [shared, sharedItems_eq, sendable_list, List.forall_mem_map]

theorem sendable_shared_object {fields : List (Text × Datum)} :
    (shared (.object fields)).Sendable ↔
      ∀ p ∈ fields, p.1.startsWith "_sa" = false → p.1.isWhole = true ∧ (shared p.2).Sendable := by
  rw [shared, sharedFields_eq, sendable_object, List.forall_mem_map]
  simp [List.mem_filter]

theorem Sendable.shared {d : Datum} (h : d.Sendable) : (shared d).Sendable := by
  induction d using member_induction with
  | null | bool | int | float | text => exact h
  | list items ih => exact sendable_shared_list.mpr fun d hd => ih d hd (sendable_list.mp h d hd)
  | object fields ih =>
    refine sendable_shared_object.mpr fun p hp _ => ?_
    obtain ⟨name, inside⟩ := sendable_object.mp h p hp
    exact ⟨name, ih p hp inside⟩

/-- Nothing else keeps a datum from being sent. -/
theorem unsendable?_eq_none_iff {d : Datum} : unsendable? d = none ↔ d.Sendable := by
  unfold unsendable?
  split
  · rename_i finite
    rw [Text.unencodable?_eq_none_iff, Json.isWhole_write]
    exact ⟨fun whole => ⟨finite, whole⟩, fun h => h.whole⟩
  · rename_i infinite
    exact ⟨fun h => (nomatch h), fun h => absurd h.finite infinite⟩

end Web
end Narration
