import Narration.Proofs.Edits

/-! # Reading from the front

A reader walks through a text from the front. At each place it finds something or nothing; what it
finds it takes at once and walks on behind it, and where it finds nothing it leaves one character.
As nothing is to be found inside what is found, the reader misses nothing, and what it puts in the
places of what it finds makes all edits at once. -/
namespace Narration

/-- Things to be found in texts. They are looked for from a place on, and what is in front of the
place does not matter. -/
structure Scan (κ : Type) where
  at? : Text → Nat → Option κ
  length : κ → Nat
  pos : ∀ k, 0 < length k
  nil : ∀ i, at? [] i = none
  tail : ∀ c t i, at? (c :: t) (i + 1) = at? t i
  fits : ∀ t k, at? t 0 = some k → length k ≤ t.length
  inside : ∀ t k i, at? t 0 = some k → 0 < i → i < length k → at? t i = none

namespace Scan

variable {κ : Type} (scan : Scan κ)

theorem at?_drop (t : Text) (n i : Nat) : scan.at? (t.drop n) i = scan.at? t (n + i) := by
  induction n generalizing t with
  | zero => simp
  | succ n ih =>
    cases t with
    | nil => simp [scan.nil]
    | cons c rest => rw [List.drop_succ_cons, ih, Nat.succ_add, scan.tail]

/-- As far as what is found at the front goes, there is nothing else to be found. -/
theorem eq_of_lt {t : Text} {k l : κ} {i : Nat} (here : scan.at? t 0 = some k)
    (within : i < scan.length k) (found : scan.at? t i = some l) : i = 0 ∧ l = k := by
  rcases Nat.eq_zero_or_pos i with rfl | pos
  · exact ⟨rfl, Option.some.inj (found.symm.trans here)⟩
  · exact absurd ((scan.inside t k i here pos within).symm.trans found)
      (Option.some_ne_none l).symm

/-- A text is at its end, or nothing is found at its front, or something is. -/
@[elab_as_elim]
theorem induction {motive : Text → Prop} (nil : motive [])
    (literal : ∀ c rest, scan.at? (c :: rest) 0 = none → motive rest → motive (c :: rest))
    (found : ∀ t k, scan.at? t 0 = some k → motive (t.drop (scan.length k)) → motive t)
    (t : Text) : motive t := by
  induction h : t.length using Nat.strongRecOn generalizing t with
  | ind n ih =>
    subst h
    cases t with
    | nil => exact nil
    | cons c rest =>
      cases hk : scan.at? (c :: rest) 0 with
      | none => exact literal c rest hk (ih _ (Nat.lt_succ_self _) rest rfl)
      | some k =>
        have pos := scan.pos k
        have shorter : ((c :: rest).drop (scan.length k)).length < (c :: rest).length := by
          rw [List.length_drop, List.length_cons]
          omega
        exact found _ k hk (ih _ shorter _ rfl)

/-- What a reader does who notes where each thing that he finds begins and ends. -/
structure Notes (notes : Nat → Text → List (Nat × Nat × κ)) : Prop where
  nil : ∀ offset, notes offset [] = []
  literal : ∀ offset c rest, scan.at? (c :: rest) 0 = none →
    notes offset (c :: rest) = notes (offset + 1) rest
  found : ∀ offset t k, scan.at? t 0 = some k →
    notes offset t = (offset, offset + scan.length k, k) ::
      notes (offset + scan.length k) (t.drop (scan.length k))

section

variable {scan} {notes : Nat → Text → List (Nat × Nat × κ)} (h : scan.Notes notes)

include h

/-- All that there is to be found is noted, and nothing else. -/
theorem Notes.mem_iff {t : Text} {offset i j : Nat} {k : κ} :
    (i, j, k) ∈ notes offset t ↔
      ∃ n, i = offset + n ∧ j = i + scan.length k ∧ scan.at? t n = some k := by
  induction t using scan.induction generalizing offset with
  | nil => simp [h.nil, scan.nil]
  | literal c rest none ih =>
    rw [h.literal _ _ _ none, ih]
    constructor
    · rintro ⟨n, rfl, rfl, hk⟩
      exact ⟨n + 1, by omega, rfl, (scan.tail c rest n).trans hk⟩
    · rintro ⟨n, rfl, rfl, hk⟩
      cases n with
      | zero => exact absurd (none.symm.trans hk) (Option.some_ne_none k).symm
      | succ n => exact ⟨n, by omega, rfl, (scan.tail c rest n).symm.trans hk⟩
  | found t l here ih =>
    rw [h.found _ _ _ here, List.mem_cons, ih]
    constructor
    · rintro (same | ⟨n, rfl, rfl, hk⟩)
      · cases same
        exact ⟨0, rfl, rfl, here⟩
      · rw [scan.at?_drop] at hk
        exact ⟨scan.length l + n, by omega, rfl, hk⟩
    · rintro ⟨n, rfl, rfl, hk⟩
      rcases Nat.lt_or_ge n (scan.length l) with within | beyond
      · obtain ⟨rfl, rfl⟩ := scan.eq_of_lt here within hk
        exact .inl rfl
      · obtain ⟨n, rfl⟩ := Nat.exists_eq_add_of_le beyond
        exact .inr ⟨n, by omega, rfl, (scan.at?_drop t _ n).trans hk⟩

/-- What is noted later begins where all that was noted before has ended. -/
theorem Notes.pairwise (t : Text) (offset : Nat) :
    (notes offset t).Pairwise fun x y => x.2.1 ≤ y.1 := by
  induction t using scan.induction generalizing offset with
  | nil =>
    rw [h.nil]
    exact .nil
  | literal c rest none ih =>
    rw [h.literal _ _ _ none]
    exact ih _
  | found t k here ih =>
    rw [h.found _ _ _ here]
    refine List.pairwise_cons.mpr ⟨?_, ih _⟩
    rintro ⟨i, j, l⟩ later
    obtain ⟨n, hi, _⟩ := h.mem_iff.mp later
    exact Nat.le.intro hi.symm

end

/-! ## Edits in the places of what is found -/

/-- The edit that puts a text in the place of what is found at a position. -/
def edit? (fill : κ → Text) (t : Text) (i : Nat) : Option Edit :=
  (scan.at? t i).map fun k => ⟨scan.length k, fill k⟩

section

variable (fill : κ → Text)

theorem edit?_tail (c : CodePoint) (t : Text) (i : Nat) :
    scan.edit? fill (c :: t) (i + 1) = scan.edit? fill t i := by rw [edit?, edit?, scan.tail]

theorem edit?_drop (t : Text) (n : Nat) :
    scan.edit? fill (t.drop n) = fun i => scan.edit? fill t (n + i) := by
  funext i
  rw [edit?, edit?, at?_drop]

theorem edited_literal {c : CodePoint} {rest : Text} (none : scan.at? (c :: rest) 0 = none) :
    Text.edited (scan.edit? fill (c :: rest)) (c :: rest) =
      c :: rest.edited (scan.edit? fill rest) := by
  rw [Text.edited_cons (by rw [edit?, none]; rfl)]
  simp only [edit?_tail]

theorem edited_found {t : Text} {k : κ} (here : scan.at? t 0 = some k) :
    t.edited (scan.edit? fill t) =
      fill k ++ Text.edited (scan.edit? fill (t.drop (scan.length k)))
        (t.drop (scan.length k)) := by
  have length : scan.length k = (t.take (scan.length k)).length := by
    rw [List.length_take, Nat.min_eq_left (scan.fits t k here)]
  have ne : t.take (scan.length k) ≠ [] := by
    have := scan.pos k
    exact List.ne_nil_of_length_pos (by omega)
  have first : scan.edit? fill t 0 = some ⟨scan.length k, fill k⟩ := by rw [edit?, here]; rfl
  have split := Text.edited_edit first length ne (fun i pos within => by
    rw [edit?, scan.inside t k i here pos (by omega)]
    rfl) (t.drop (scan.length k))
  rw [List.take_append_drop, ← length, ← edit?_drop] at split
  exact split

/-- A reader that leaves what it passes over and puts texts in the places of what it finds makes
all edits at once. -/
theorem eq_edited {run : Text → Text} (nil : run [] = [])
    (literal : ∀ c rest, scan.at? (c :: rest) 0 = none → run (c :: rest) = c :: run rest)
    (found : ∀ t k, scan.at? t 0 = some k → run t = fill k ++ run (t.drop (scan.length k)))
    (t : Text) : run t = t.edited (scan.edit? fill t) := by
  induction t using scan.induction with
  | nil => exact nil
  | literal c rest none ih => rw [literal c rest none, ih, scan.edited_literal fill none]
  | found t k here ih => rw [found t k here, ih, scan.edited_found fill here]

end

end Scan
end Narration
