import Narration.Text.Basic

/-! # Spans of codes

A class of characters is a table of spans, and a search in such a table ends early because its spans
ascend. What the search finds is compared here with the spans as a set. Sets are also compared with
one another, as numbers that have a bit for each code, so that whole tables are checked at once. -/
namespace Narration.Text

/-- Whether a code lies in one of some spans, in whatever order these are. -/
def Within (spans : List (Nat × Nat)) (code : Nat) : Prop := ∃ p ∈ spans, p.1 ≤ code ∧ code ≤ p.2

section

variable {s t : List (Nat × Nat)} {code : Nat}

theorem not_within_nil : ¬Within [] code := by
  rintro ⟨_, hp, _⟩
  cases hp

theorem within_cons {p : Nat × Nat} :
    Within (p :: s) code ↔ p.1 ≤ code ∧ code ≤ p.2 ∨ Within s code := by
  simp [Within]

theorem within_append : Within (s ++ t) code ↔ Within s code ∨ Within t code := by
  simp only [Within, List.mem_append, or_and_right, exists_or]

/-! ## Searching -/

theorem ascending_cons {p : Nat × Nat} (h : ascending (p :: s) = true) :
    p.1 ≤ p.2 ∧ ascending s = true ∧ ∀ q ∈ s.head?, p.2 < q.1 := by
  cases s with
  | nil => exact ⟨by simpa [ascending] using h, rfl, by simp⟩
  | cons q rest =>
    simp only [ascending, Bool.and_eq_true, decide_eq_true_eq] at h
    exact ⟨h.1.1, h.2, by simpa using h.1.2⟩

/-- The codes of later spans are beyond the end of the first. -/
theorem lt_of_ascending {p : Nat × Nat} (h : ascending (p :: s) = true) (later : Within s code) :
    p.2 < code := by
  induction s generalizing p with
  | nil => exact absurd later not_within_nil
  | cons q rest ih =>
    obtain ⟨_, tail, gap⟩ := ascending_cons h
    have next : p.2 < q.1 := gap q rfl
    rcases within_cons.mp later with here | beyond
    · exact Nat.lt_of_lt_of_le next here.1
    · have := (ascending_cons tail).1
      have := ih tail beyond
      omega

theorem within_of_covers (h : covers s code = true) : Within s code := by
  induction s with
  | nil => cases h
  | cons p rest ih =>
    obtain ⟨first, last⟩ := p
    rw [covers] at h
    split at h
    · cases h
    · rename_i low
      by_cases high : code ≤ last
      · exact within_cons.mpr (.inl ⟨Nat.le_of_not_lt low, high⟩)
      · exact within_cons.mpr (.inr (ih (by simpa [high] using h)))

/-- The search finds exactly the codes that lie in the spans. -/
theorem covers_iff (h : ascending s = true) : covers s code = true ↔ Within s code := by
  refine ⟨within_of_covers, fun inside => ?_⟩
  induction s with
  | nil => exact absurd inside not_within_nil
  | cons p rest ih =>
    obtain ⟨first, last⟩ := p
    rw [covers]
    rcases within_cons.mp inside with here | beyond
    · rw [if_neg (Nat.not_lt.mpr here.1)]
      simp [here.2]
    · obtain ⟨ordered, tail, _⟩ := ascending_cons h
      have past : last < code := lt_of_ascending h beyond
      have start : ¬code < first := Nat.not_lt.mpr (Nat.le_of_lt (Nat.lt_of_le_of_lt ordered past))
      rw [if_neg start, ih tail beyond, Bool.or_true]

/-! ## Sets as numbers -/

/-- A number with the bits set that lie in the spans. -/
def mask (spans : List (Nat × Nat)) : Nat :=
  spans.foldr (fun p bits => ((1 <<< (p.2 + 1 - p.1) - 1) <<< p.1) ||| bits) 0

theorem testBit_mask : (mask s).testBit code = true ↔ Within s code := by
  induction s with
  | nil => simp [mask, Within]
  | cons p rest ih =>
    have bits : mask (p :: rest) = ((1 <<< (p.2 + 1 - p.1) - 1) <<< p.1) ||| mask rest := rfl
    rw [bits, Nat.testBit_or, Bool.or_eq_true, ih, within_cons, Nat.testBit_shiftLeft,
      Nat.one_shiftLeft, Nat.testBit_two_pow_sub_one, Bool.and_eq_true]
    simp only [decide_eq_true_eq]
    exact or_congr (by omega) Iff.rfl

theorem not_within_of_mask (apart : mask s &&& mask t = 0) (inside : Within s code) :
    ¬Within t code := by
  intro both
  have bit : (mask s &&& mask t).testBit code = true := by
    rw [Nat.testBit_and, testBit_mask.mpr inside, testBit_mask.mpr both]
    rfl
  rw [apart, Nat.zero_testBit] at bit
  cases bit

theorem within_of_mask (part : mask s &&& mask t = mask s) (inside : Within s code) :
    Within t code := by
  have bit := testBit_mask.mpr inside
  rw [← part, Nat.testBit_and, Bool.and_eq_true] at bit
  exact testBit_mask.mp bit.2

end

end Narration.Text
