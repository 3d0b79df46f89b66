import Narration.Proofs.Capitals
import Narration.Proofs.Spans

/-! # A capital is its own capital

A second call of the function that puts the capital must find what the first has put there, and
leave it. So the capital form of a character that can begin a sentence has to begin one as well and
be its own capital form. Whether it does is a matter of the tables. Their stretches are too long to
look up one code at a time, so the codes that capitals have are compared as sets with those that can
begin a sentence and with those that have another capital. -/
namespace Narration

theorem CodePoint.toNat_ofNat_of_lt {code : Nat} (h : code < 0x110000) :
    (CodePoint.ofNat code).toNat = code := by
  unfold CodePoint.ofNat
  split
  · exact Nat.add_sub_cancel' (by omega)
  · have valid : code.isValidChar := by
      simp only [Nat.isValidChar]
      omega
    show (Char.ofNat code).toNat = code
    rw [Char.ofNat, dif_pos valid]
    rfl

namespace Text

/-! ## What can begin a sentence -/

/-- Letters, and numbers of any kind but decimal digits. -/
def initialSpans : List (Nat × Nat) := letterSpans ++ (otherDigitSpans ++ otherNumberSpans)

/-- The blocks of decimal digits, and the underscore. -/
def continuingSpans : List (Nat × Nat) := (0x5F, 0x5F) :: decimalZeros.map fun z => (z, z + 9)

theorem within_continuingSpans {c : CodePoint} :
    Within continuingSpans c.toNat ↔ c = .char '_' ∨ isDecimal c = true := by
  have underscore : (0x5F ≤ c.toNat ∧ c.toNat ≤ 0x5F) ↔ c = .char '_' := by
    rw [← Nat.le_antisymm_iff, eq_comm]
    exact ⟨fun h => CodePoint.toNat_injective h, fun h => h ▸ rfl⟩
  rw [continuingSpans, within_cons, underscore]
  refine or_congr Iff.rfl ?_
  simp only [isDecimal, decimalValue?, Option.isSome_map, List.find?_isSome, Within,
    List.mem_map, Bool.and_eq_true, decide_eq_true_eq]
  constructor
  · rintro ⟨_, ⟨z, hz, rfl⟩, low, high⟩
    exact ⟨z, hz, low, Nat.lt_succ_of_le high⟩
  · rintro ⟨z, hz, low, high⟩
    exact ⟨_, ⟨z, hz, rfl⟩, low, Nat.le_of_lt_succ high⟩

theorem within_initialSpans {c : CodePoint} : Within initialSpans c.toNat ↔
    isLetter c = true ∨ covers otherDigitSpans c.toNat = true ∨ isOtherNumber c = true := by
  have letters : ascending letterSpans = true := by decide +kernel
  have digits : ascending otherDigitSpans = true := by decide +kernel
  have numbers : ascending otherNumberSpans = true := by decide +kernel
  rw [initialSpans, within_append, within_append, ← covers_iff letters, ← covers_iff digits,
    ← covers_iff numbers]
  rfl

/-- A character can begin a sentence exactly if it is a letter, or a number that is no decimal
digit. -/
theorem isInitial_iff {c : CodePoint} : isInitial c = true ↔ Within initialSpans c.toNat := by
  have apart : mask initialSpans &&& mask continuingSpans = 0 := by decide +kernel
  have ends : Within initialSpans c.toNat → ¬(c = .char '_' ∨ isDecimal c = true) := fun h =>
    mt within_continuingSpans.mpr (not_within_of_mask apart h)
  rw [within_initialSpans] at ends ⊢
  simp only [isInitial, isWord, isDigit, Bool.and_eq_true, Bool.or_eq_true, Bool.not_eq_true',
    bne_iff_ne, beq_iff_eq]
  grind

/-! ## Where the tables lead -/

namespace Shift

/-- The codes of a stretch, in one span if it leaves none out. -/
def spans (s : Shift) : List (Nat × Nat) :=
  if s.step = 1 then [(s.first, s.last)]
  else (List.range (s.last + 1 - s.first)).filterMap fun i =>
    if s.holds (s.first + i) then some (s.first + i, s.first + i) else none

/-- What a stretch makes of its codes. -/
def images (s : Shift) : List (Nat × Nat) := s.spans.map fun p => (s.image p.1, s.image p.2)

/-- Whether title case is a case of its own for the only code of a stretch. -/
def overruled (s : Shift) : Bool := s.first == s.last && titleShifts.any (·.holds s.first)

variable {s : Shift} {code : Nat}

theorem exists_of_overruled (h : s.overruled = true) (holds : s.holds code = true) :
    ∃ s' ∈ titleShifts, s'.holds code = true := by
  simp only [overruled, Bool.and_eq_true, beq_iff_eq, List.any_eq_true] at h
  obtain ⟨single, s', mem, own⟩ := h
  have only : s.first = code := by
    have := bounds holds
    omega
  exact ⟨s', mem, only ▸ own⟩

theorem within_spans (h : s.holds code = true) : Within s.spans code := by
  obtain ⟨low, high⟩ := bounds h
  unfold spans
  split
  · exact ⟨_, List.mem_singleton.mpr rfl, low, high⟩
  · have same : s.first + (code - s.first) = code := Nat.add_sub_cancel' low
    have offset : code - s.first < s.last + 1 - s.first := by omega
    refine ⟨(code, code), List.mem_filterMap.mpr ⟨_, List.mem_range.mpr offset, ?_⟩,
      Nat.le_refl _, Nat.le_refl _⟩
    rw [same, if_pos h]

theorem within_images (h : s.holds code = true) : Within s.images (s.image code) := by
  obtain ⟨p, hp, low, high⟩ := within_spans h
  refine ⟨_, List.mem_map.mpr ⟨p, hp, rfl⟩, ?_, ?_⟩
  · show s.image p.1 ≤ s.image code
    unfold image
    omega
  · show s.image code ≤ s.image p.2
    unfold image
    omega

end Shift

/-- The codes that a table of cases knows. -/
def casedSpans (shifts : List Shift) (longer : List (Nat × List Nat)) : List (Nat × Nat) :=
  shifts.flatMap Shift.spans ++ longer.map fun entry => (entry.1, entry.1)

section

variable {shifts : List Shift} {longer : List (Nat × List Nat)} {n k : Nat}

theorem caseImage?_eq_none (h : ¬Within (casedSpans shifts longer) n) :
    caseImage? shifts longer n = none := by
  cases hi : caseImage? shifts longer n with
  | none => rfl
  | some image =>
    refine absurd ?_ h
    rw [casedSpans, within_append]
    rcases mem_of_caseImage? hi with ⟨s, hs, holds, _⟩ | entry
    · obtain ⟨p, hp, inside⟩ := Shift.within_spans holds
      exact .inl ⟨p, List.mem_flatMap.mpr ⟨s, hs, hp⟩, inside⟩
    · exact .inr ⟨(n, n), List.mem_map.mpr ⟨_, entry, rfl⟩, Nat.le_refl n, Nat.le_refl n⟩

theorem caseImage?_ne_none {s : Shift} (mem : s ∈ shifts) (holds : s.holds n = true) :
    caseImage? shifts longer n ≠ none := by
  unfold caseImage?
  cases hf : shifts.find? (·.holds n) with
  | some s' => exact Option.some_ne_none _
  | none => exact absurd holds (List.find?_eq_none.mp hf s mem)

/-- Where the other images are all longer, an image of one character comes from a stretch. -/
theorem exists_of_caseImage? (long : ∀ entry ∈ longer, entry.2.length ≠ 1)
    (h : caseImage? shifts longer n = some [k]) :
    ∃ s ∈ shifts, s.holds n = true ∧ k = s.image n := by
  rcases mem_of_caseImage? h with ⟨s, hs, holds, same⟩ | entry
  · exact ⟨s, hs, holds, (List.cons.inj same).1⟩
  · exact absurd rfl (long _ entry)

end

section

variable {n k : Nat}

theorem titleLonger_long : ∀ entry ∈ titleLonger,
    entry.2.length ≠ 1 ∧ (upperCodes entry.1).length ≠ 1 := by decide +kernel

theorem upperLonger_long : ∀ entry ∈ upperLonger, entry.2.length ≠ 1 := by decide +kernel

/-- A title case of one character is the character itself, or comes from a stretch of title case, or
from one of upper case that title case does not overrule. -/
theorem title_cases (h : titleCodes n = [k]) :
    k = n ∨ (∃ s ∈ titleShifts, s.holds n = true ∧ k = s.image n) ∨
      ∃ s ∈ upperShifts.filter (!·.overruled), s.holds n = true ∧ k = s.image n := by
  unfold titleCodes at h
  cases ht : caseImage? titleShifts titleLonger n with
  | some image =>
    rw [ht, Option.getD_some] at h
    rw [h] at ht
    exact .inr (.inl (exists_of_caseImage? (fun _ entry => (titleLonger_long _ entry).1) ht))
  | none =>
    rw [ht, Option.getD_none, upperCodes] at h
    cases hu : caseImage? upperShifts upperLonger n with
    | none =>
      rw [hu] at h
      exact .inl (List.cons.inj h).1.symm
    | some image =>
      rw [hu, Option.getD_some] at h
      rw [h] at hu
      obtain ⟨s, hs, holds, same⟩ := exists_of_caseImage? upperLonger_long hu
      have rules : s.overruled = false := by
        cases ho : s.overruled with
        | false => rfl
        | true =>
          obtain ⟨s', hs', own⟩ := Shift.exists_of_overruled ho holds
          exact absurd ht (caseImage?_ne_none hs' own)
      exact .inr (.inr ⟨s, List.mem_filter.mpr ⟨hs, by rw [rules]; rfl⟩, holds, same⟩)

/-- Where title case is longer, upper case is longer as well. -/
theorem upperCodes_long (h : (titleCodes n).length ≠ 1) : (upperCodes n).length ≠ 1 := by
  unfold titleCodes at h
  cases ht : caseImage? titleShifts titleLonger n with
  | none =>
    rw [ht] at h
    exact h
  | some image =>
    rw [ht, Option.getD_some] at h
    rcases mem_of_caseImage? ht with ⟨s, _, _, rfl⟩ | entry
    · exact absurd rfl h
    · exact (titleLonger_long _ entry).2

/-- A title case of one character is its own title case. -/
theorem titleCodes_settle (h : titleCodes n = [k]) : titleCodes k = [k] := by
  have own : ∀ s ∈ titleShifts, ∀ p ∈ s.spans, ∀ i < p.2 + 1 - p.1,
      titleCodes (s.image (p.1 + i)) = [s.image (p.1 + i)] := by decide +kernel
  have apart : mask ((upperShifts.filter (!·.overruled)).flatMap Shift.images)
      &&& mask (casedSpans titleShifts titleLonger ++ casedSpans upperShifts upperLonger) = 0 := by
    decide +kernel
  rcases title_cases h with rfl | ⟨s, hs, holds, rfl⟩ | ⟨s, hs, holds, rfl⟩
  · exact h
  · obtain ⟨p, hp, low, high⟩ := Shift.within_spans holds
    have at_ := own s hs p hp (n - p.1) (by omega)
    rw [Nat.add_sub_cancel' low] at at_
    exact at_
  · obtain ⟨p, hp, inside⟩ := Shift.within_images holds
    have uncased := not_within_of_mask apart ⟨p, List.mem_flatMap.mpr ⟨s, hs, hp⟩, inside⟩
    rw [within_append, not_or] at uncased
    rw [titleCodes, caseImage?_eq_none uncased.1, Option.getD_none, upperCodes,
      caseImage?_eq_none uncased.2, Option.getD_none]

/-- A title case of one character begins a sentence if the character does. Of the stretches one
holds circled letters, which are no letters; the others lead to letters and numbers only. -/
theorem within_initialSpans_of_title (h : titleCodes n = [k]) (initial : Within initialSpans n) :
    Within initialSpans k := by
  have stays : ∀ s ∈ titleShifts ++ upperShifts, mask s.spans &&& mask initialSpans = 0 ∨
      mask s.images &&& mask initialSpans = mask s.images := by decide +kernel
  have along : ∀ s ∈ titleShifts ++ upperShifts, s.holds n = true →
      Within initialSpans (s.image n) := by
    intro s hs holds
    rcases stays s hs with apart | part
    · exact absurd initial (not_within_of_mask apart (Shift.within_spans holds))
    · exact within_of_mask part (Shift.within_images holds)
  rcases title_cases h with rfl | ⟨s, hs, holds, rfl⟩ | ⟨s, hs, holds, rfl⟩
  · exact initial
  · exact along s (List.mem_append_left _ hs) holds
  · exact along s (List.mem_append_right _ (List.mem_filter.mp hs).1) holds

end

/-! ## Capital forms -/

/-- One character that stands for another where a sentence begins: its title case if that is one
character, or else its upper case if that is one. -/
inductive Capital (c d : CodePoint) : Prop
  | title (h : titleOf c = [d])
  | upper (long : (titleOf c).length ≠ 1) (h : upperOf c = [d])

section

variable {c d : CodePoint}

theorem capitalOf_eq (h : Capital c d) : capitalOf c = d := by
  unfold capitalOf
  cases h with
  | title h => rw [h]
  | upper long h =>
    split
    · rename_i one
      rw [one] at long
      exact absurd rfl long
    · rename_i u other _
      rw [h] at other
      exact (List.cons.inj other).1.symm
    · rename_i none
      exact absurd h (none d)

theorem capitalOf_eq_self_of_none (h : ∀ d, ¬Capital c d) : capitalOf c = c := by
  unfold capitalOf
  split
  · rename_i one
    exact absurd (.title one) (h _)
  · rename_i u one long
    refine absurd (.upper ?_ one) (h u)
    intro single
    obtain ⟨t, ht⟩ := List.length_eq_one_iff.mp single
    exact long t ht
  · rfl

/-- Upper case never has to stand in for title case. -/
theorem Capital.titleOf_eq (h : Capital c d) : titleOf c = [d] := by
  cases h with
  | title h => exact h
  | upper long h =>
    have short : (upperCodes c.toNat).length = 1 := by
      simpa [upperOf] using congrArg List.length h
    refine absurd short (upperCodes_long ?_)
    simpa [titleOf] using long

/-- A capital form begins a sentence if the character does, and is its own capital form. -/
theorem Capital.settles (h : Capital c d) (initial : isInitial c = true) :
    isInitial d = true ∧ Capital d d := by
  obtain ⟨k, codes, rfl⟩ := List.map_eq_singleton_iff.mp h.titleOf_eq
  have begins := within_initialSpans_of_title codes (isInitial_iff.mp initial)
  have bounds : ∀ p ∈ initialSpans, p.2 < 0x110000 := by decide +kernel
  have code : (CodePoint.ofNat k).toNat = k := by
    obtain ⟨p, hp, _, high⟩ := begins
    exact CodePoint.toNat_ofNat_of_lt (Nat.lt_of_le_of_lt high (bounds p hp))
  refine ⟨isInitial_iff.mpr (code.symm ▸ begins), .title ?_⟩
  rw [titleOf, code, titleCodes_settle codes]
  rfl

theorem capitalOf_settles (initial : isInitial c = true) :
    isInitial (capitalOf c) = true ∧ capitalOf (capitalOf c) = capitalOf c := by
  by_cases some : ∃ d, Capital c d
  · obtain ⟨d, capital⟩ := some
    obtain ⟨begins, own⟩ := capital.settles initial
    rw [capitalOf_eq capital]
    exact ⟨begins, capitalOf_eq own⟩
  · have stays := capitalOf_eq_self_of_none (not_exists.mp some)
    rw [stays]
    exact ⟨initial, stays⟩

end

theorem capitalize_idem (t : Text) : capitalize (capitalize t) = capitalize t := by
  induction t with
  | nil => rfl
  | cons c rest ih =>
    by_cases initial : isInitial c = true
    · obtain ⟨begins, own⟩ := capitalOf_settles initial
      rw [capitalize, if_pos initial, capitalize, if_pos begins, own]
    · rw [capitalize, if_neg initial, capitalize, if_neg initial, ih]

/-- The first character that can begin a sentence is the one that takes the capital. -/
theorem capitalize_first {s : Text} {c : CodePoint} (before : ∀ d ∈ s, isInitial d = false)
    (initial : isInitial c = true) (rest : Text) :
    capitalize (s ++ c :: rest) = s ++ capitalOf c :: rest := by
  rw [capitalize_append_right before, capitalize, if_pos initial]

/-- **A second capital changes nothing.** The first character that can begin a sentence gives way to
its capital form, which can begin one as well and is its own capital form. If it has none, it stays
and no later character takes the capital for it. -/
theorem capitalize_capitalize (t : Text) :
    t.capitalize.capitalize = t.capitalize ∧
    ∀ s c rest, t = s ++ c :: rest → (∀ d ∈ s, isInitial d = false) → isInitial c = true →
      (∀ d, Capital c d →
        t.capitalize = s ++ d :: rest ∧ isInitial d = true ∧ Capital d d) ∧
      ((∀ d, ¬Capital c d) → t.capitalize = t) := by
  refine ⟨capitalize_idem t, ?_⟩
  rintro s c rest rfl before initial
  have first := capitalize_first before initial rest
  refine ⟨fun d capital => ?_, fun none => ?_⟩
  · rw [capitalOf_eq capital] at first
    exact ⟨first, capital.settles initial⟩
  · rw [capitalOf_eq_self_of_none none] at first
    exact first

/-- A digraph behind a digit, which has a title case of its own, and a ligature, whose capital forms
are longer. -/
theorem capitalize_capitalize_digraph :
    (∀ d ∈ ("4 " : Text), isInitial d = false) ∧ isInitial (.char '\u01C6') = true ∧
    Capital (.char '\u01C6') (.char '\u01C5') ∧
    capitalize "4 \u01C6in" = "4 \u01C5in" ∧ Capital (.char '\u01C5') (.char '\u01C5') ∧
    isInitial (.char '\uFB01') = true ∧ (∀ d, ¬Capital (.char '\uFB01') d) ∧
    capitalize "\uFB01re" = "\uFB01re" := by
  have before : ∀ d ∈ ("4 " : Text), isInitial d = false := by decide
  have digraph : isInitial (.char '\u01C6') = true := by decide
  have capital : Capital (.char '\u01C6') (.char '\u01C5') := .title (by decide)
  have ligature : isInitial (.char '\uFB01') = true := by decide +kernel
  have none : ∀ d, ¬Capital (.char '\uFB01') d := by
    have title : (titleOf (.char '\uFB01')).length = 2 := by decide +kernel
    intro d h
    have single := congrArg List.length h.titleOf_eq
    rw [title] at single
    cases single
  have raised := ((capitalize_capitalize "4 \u01C6in").2 "4 " _ "in" rfl before digraph).1 _ capital
  have stays := ((capitalize_capitalize "\uFB01re").2 [] _ "re" rfl (by simp) ligature).2 none
  exact ⟨before, digraph, capital, raised.1, raised.2.2, ligature, none, stays⟩

end Text
end Narration
