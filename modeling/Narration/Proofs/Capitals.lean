import Narration.Capital

/-! # Capitals, piece by piece

Only the first character that can begin a sentence gets a capital, so of two texts one behind the
other at most one changes. Capitals come from the tables of cases, and what these tables never give
no capital is. -/
namespace Narration.Text

/-- A text in which a sentence can begin takes the capital. -/
theorem capitalize_append_left {s : Text} (h : ∃ c ∈ s, isInitial c = true) (t : Text) :
    capitalize (s ++ t) = capitalize s ++ t := by
  induction s with
  | nil =>
    obtain ⟨c, hc, _⟩ := h
    cases hc
  | cons c rest ih =>
    by_cases hc : isInitial c = true
    · simp [capitalize, hc]
    · have later : ∃ d ∈ rest, isInitial d = true := by
        obtain ⟨d, hd, hi⟩ := h
        rcases List.mem_cons.mp hd with rfl | hd
        · exact absurd hi hc
        · exact ⟨d, hd, hi⟩
      simp [capitalize, hc, ih later]

/-- A text in which no sentence can begin leaves the capital to what follows. -/
theorem capitalize_append_right {s : Text} (h : ∀ c ∈ s, isInitial c = false) (t : Text) :
    capitalize (s ++ t) = s ++ capitalize t := by
  induction s with
  | nil => rfl
  | cons c rest ih =>
    have hc : isInitial c = false := h c (by simp)
    have later := ih fun d hd => h d (by simp [hd])
    simp [capitalize, hc, later]

/-! ## What no capital is -/

/-- What a stretch makes of a code. -/
def Shift.image (s : Shift) (code : Nat) : Nat := ((code : Int) + s.distance).toNat

theorem Shift.bounds {s : Shift} {code : Nat} (h : s.holds code = true) :
    s.first ≤ code ∧ code ≤ s.last := by
  simp only [holds, Bool.and_eq_true, decide_eq_true_eq] at h
  exact h.1

/-- An image comes from a stretch or is one of the longer ones. -/
theorem mem_of_caseImage? {shifts : List Shift} {longer : List (Nat × List Nat)} {code : Nat}
    {image : List Nat} (h : caseImage? shifts longer code = some image) :
    (∃ s ∈ shifts, s.holds code = true ∧ image = [s.image code]) ∨ (code, image) ∈ longer := by
  unfold caseImage? at h
  cases hf : shifts.find? (·.holds code) with
  | some s =>
    have holds := List.find?_some hf
    rw [hf] at h
    exact .inl ⟨s, List.mem_of_find?_eq_some hf, holds, (Option.some.inj h).symm⟩
  | none =>
    rw [hf] at h
    obtain ⟨before, after, he, _⟩ := List.lookup_eq_some_iff.mp h
    exact .inr (by simp [he])

/-- Whether the images of stretches and the longer images all lie outside a span of codes. -/
def avoids (shifts : List Shift) (longer : List (Nat × List Nat)) (low high : Nat) : Bool :=
  (shifts.all fun s => (s.last + s.distance < low : Bool) || (high < s.first + s.distance : Bool))
    && longer.all fun (_, image) => image.all fun n => n < low || high < n

theorem not_mem_caseImage {shifts : List Shift} {longer : List (Nat × List Nat)} {low high : Nat}
    (h : avoids shifts longer low high = true) (pos : 0 < low) {code n : Nat} {image : List Nat}
    (hi : caseImage? shifts longer code = some image) (hn : n ∈ image) : n < low ∨ high < n := by
  obtain ⟨hs, hl⟩ := Bool.and_eq_true_iff.mp h
  rcases mem_of_caseImage? hi with ⟨s, mem, holds, rfl⟩ | mem
  · have range := s.bounds holds
    have outside := List.all_eq_true.mp hs s mem
    simp only [Bool.or_eq_true, decide_eq_true_eq] at outside
    rw [List.mem_singleton.mp hn, Shift.image]
    omega
  · have outside := List.all_eq_true.mp (List.all_eq_true.mp hl _ mem) n hn
    simpa using outside

section

variable {low high : Nat}

theorem eq_of_mem_upperCodes (h : avoids upperShifts upperLonger low high = true) (pos : 0 < low)
    {code n : Nat} (hn : n ∈ upperCodes code) (hl : low ≤ n) (hh : n ≤ high) : n = code := by
  unfold upperCodes at hn
  cases hi : caseImage? upperShifts upperLonger code with
  | none =>
    rw [hi] at hn
    exact List.mem_singleton.mp hn
  | some image =>
    rw [hi] at hn
    have := not_mem_caseImage h pos hi hn
    omega

theorem eq_of_mem_titleCodes (hu : avoids upperShifts upperLonger low high = true)
    (ht : avoids titleShifts titleLonger low high = true) (pos : 0 < low) {code n : Nat}
    (hn : n ∈ titleCodes code) (hl : low ≤ n) (hh : n ≤ high) : n = code := by
  unfold titleCodes at hn
  cases hi : caseImage? titleShifts titleLonger code with
  | none =>
    rw [hi] at hn
    exact eq_of_mem_upperCodes hu pos hn hl hh
  | some image =>
    rw [hi] at hn
    have := not_mem_caseImage ht pos hi hn
    omega

theorem capitalOf_mem (c : CodePoint) :
    capitalOf c = c ∨ capitalOf c ∈ titleOf c ∨ capitalOf c ∈ upperOf c := by
  unfold capitalOf
  split
  · rename_i ht
    rw [ht]
    exact .inr (.inl (List.mem_singleton.mpr rfl))
  · rename_i hu _
    rw [hu]
    exact .inr (.inr (List.mem_singleton.mpr rfl))
  · exact .inl rfl

/-- A span of codes that the tables never give holds no capital but of what is in it already. -/
theorem capitalOf_eq_self (hu : avoids upperShifts upperLonger low high = true)
    (ht : avoids titleShifts titleLonger low high = true) (pos : 0 < low) {c : CodePoint}
    (hl : low ≤ (capitalOf c).toNat) (hh : (capitalOf c).toNat ≤ high) : capitalOf c = c := by
  have code : ∀ n, CodePoint.ofNat n = capitalOf c → n = (capitalOf c).toNat := by
    intro n hn
    have := CodePoint.toNat_ofNat n
    rw [hn] at this
    omega
  refine CodePoint.toNat_injective ?_
  rcases capitalOf_mem c with h | h | h
  · rw [h]
  · obtain ⟨n, hn, he⟩ := List.mem_map.mp h
    rw [← code n he] at hl hh ⊢
    exact eq_of_mem_titleCodes hu ht pos hn hl hh
  · obtain ⟨n, hn, he⟩ := List.mem_map.mp h
    rw [← code n he] at hl hh ⊢
    exact eq_of_mem_upperCodes hu pos hn hl hh

end

theorem mem_capitalize {t : Text} {d : CodePoint} (h : d ∈ capitalize t) :
    d ∈ t ∨ ∃ c ∈ t, d = capitalOf c := by
  induction t with
  | nil => exact .inl h
  | cons c rest ih =>
    by_cases hc : isInitial c = true
    · rw [capitalize, if_pos hc] at h
      rcases List.mem_cons.mp h with rfl | h
      · exact .inr ⟨c, by simp, rfl⟩
      · exact .inl (List.mem_cons_of_mem _ h)
    · rw [capitalize, if_neg hc] at h
      rcases List.mem_cons.mp h with rfl | h
      · exact .inl (by simp)
      · rcases ih h with h | ⟨e, he, hd⟩
        · exact .inl (List.mem_cons_of_mem _ h)
        · exact .inr ⟨e, List.mem_cons_of_mem _ he, hd⟩

end Narration.Text
