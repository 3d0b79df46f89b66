import Narration.Binary64.Shortest
import Narration.Proofs.Blanks

/-! # Signs

Digits and punctuation marks are neither white space nor letters, so stripping a text and putting it
in lower case leave them in it. All that is written for an integer or a finite number has one. -/
namespace Narration

namespace Text

/-- ASCII characters that are neither letters nor white space. -/
def signSpans : List (Nat × Nat) := [(0x21, 0x40), (0x5B, 0x60), (0x7B, 0x7E)]

def isSign (c : CodePoint) : Bool := covers signSpans c.toNat

variable {c : CodePoint} {t : Text}

theorem isBlank_of_isSign (sign : isSign c = true) : isBlank c = false := by
  have apart : mask signSpans &&& mask blankSpans = 0 := by decide +kernel
  by_contra blank
  rw [Bool.not_eq_false] at blank
  exact not_within_of_mask apart (within_of_covers sign) (within_of_covers blank)

/-- Lower case leaves signs as they are. -/
theorem lowerOf_of_isSign (sign : isSign c = true) : lowerOf c = [c] := by
  have apart : mask signSpans &&& mask (casedSpans lowerShifts lowerLonger) = 0 := by
    decide +kernel
  have uncased := not_within_of_mask apart (within_of_covers sign)
  rw [lowerOf, lowerCodes, caseImage?_eq_none uncased]
  show [CodePoint.ofNat c.toNat] = [c]
  rw [CodePoint.ofNat_toNat]

/-- A text with a sign in it. -/
def Signed (t : Text) : Prop := ∃ c ∈ t, isSign c = true

theorem Signed.append_left {s : Text} (h : s.Signed) (t : Text) : (s ++ t).Signed := by
  obtain ⟨c, mem, sign⟩ := h
  exact ⟨c, List.mem_append_left t mem, sign⟩

theorem Signed.append_right (s : Text) (h : t.Signed) : (s ++ t).Signed := by
  obtain ⟨c, mem, sign⟩ := h
  exact ⟨c, List.mem_append_right s mem, sign⟩

theorem signed_cons (sign : isSign c = true) (t : Text) : Signed (c :: t) :=
  ⟨c, List.mem_cons_self, sign⟩

/-- Stripping and lower case leave signs in their place. -/
theorem Signed.lower_strip (h : t.Signed) : (lower t.strip).Signed := by
  obtain ⟨c, mem, sign⟩ := h
  have kept : c ∈ t.strip := mem_strip (isBlank_of_isSign sign) mem
  refine ⟨c, List.mem_flatMap.mpr ⟨c, kept, ?_⟩, sign⟩
  rw [lowerOf_of_isSign sign]
  exact List.mem_singleton.mpr rfl

/-! ### What is written with signs -/

theorem isSign_of_isDigit {d : Char} (digit : d.isDigit = true) : isSign (.char d) = true := by
  have bounds : 48 ≤ d.toNat ∧ d.toNat ≤ 57 := by
    simpa [Char.isDigit, UInt32.le_iff_toNat_le] using digit
  have ascend : ascending signSpans = true := by decide
  refine (covers_iff ascend).mpr ⟨(0x21, 0x40), by decide, ?_, ?_⟩
  · show 0x21 ≤ d.toNat
    omega
  · show d.toNat ≤ 0x40
    omega

theorem signed_ofNat (n : Nat) : (ofNat n).Signed := by
  obtain ⟨d, rest, digits⟩ := List.exists_cons_of_ne_nil (Nat.toDigits_ne_nil (n := n) (b := 10))
  have digit : d.isDigit = true :=
    Nat.isDigit_of_mem_toDigits (by decide) (by decide) (digits ▸ List.mem_cons_self)
  rw [ofNat, digits]
  exact signed_cons (isSign_of_isDigit digit) _

theorem signed_ofInt (n : Int) : (ofInt n).Signed := by
  cases n with
  | ofNat n => exact signed_ofNat n
  | negSucc n => exact signed_cons rfl _

end Text

namespace Binary64

open Text

theorem signed_exponentText (e : Int) : (exponentText e).Signed := by
  unfold exponentText
  split <;> exact signed_cons rfl _

/-- There is a decimal point in positional notation, and the sign of an exponent elsewhere. -/
theorem signed_layout (digits : Text) (p : Int) : (layout digits p).Signed := by
  unfold layout
  split
  · split
    · exact Signed.append_left (Signed.append_left ⟨.char '.', by decide, rfl⟩ _) _
    split
    · exact Signed.append_right _ ⟨.char '.', by decide, rfl⟩
    · exact Signed.append_left (Signed.append_right _ ⟨.char '.', by decide, rfl⟩) _
  · exact Signed.append_right _ (signed_exponentText _)

theorem signed_text (negative : Bool) (units : Nat) : (text (.finite negative units)).Signed := by
  have magnitude : (magnitudeText units).Signed := by
    unfold magnitudeText
    split
    · exact ⟨.char '.', by decide, rfl⟩
    · obtain ⟨digits, p⟩ := shortest units
      exact signed_layout _ p
  exact Signed.append_right _ magnitude

end Binary64

end Narration
