import Narration.Proofs.Halves
import Narration.Text.Encoding

/-! # Texts through UTF-8

A text without halves is read back from its bytes. The lead byte of a character tells how many tail
bytes it owes, and each of them adds six bits to the code. The bytes of a text that begins with two
characters of ASCII tell that they are UTF-8. -/
namespace Narration

namespace Text

theorem toNat_byte {n : Nat} (h : n < 0x100) : (UInt8.ofNat n).toNat = n :=
  UInt8.toNat_ofNat_of_lt' h

/-- A tail byte that is in range adds its six bits. -/
theorem complete_tail {low high x : Nat} (hl : low ≤ 0x80 + x) (hh : 0x80 + x ≤ high)
    (hx : x < 0x40) (owed code : Nat) (bytes : Bytes) :
    complete (owed + 1) low high code (UInt8.ofNat (0x80 + x) :: bytes) =
      complete owed 0x80 0xBF (code * 0x40 + x) bytes := by
  have hb : (UInt8.ofNat (0x80 + x)).toNat = 0x80 + x := toNat_byte (by omega)
  rw [complete, hb, if_pos ⟨hl, hh⟩, Nat.add_sub_cancel_left]

theorem complete_none {low high code n : Nat} (h : code = n) (bytes : Bytes) :
    complete 0 low high code bytes = (some (.ofNat n), bytes) := by
  rw [complete, h]

section

variable {n : Nat} (bytes : Bytes)

theorem lead_one (h : n < 0x80) : lead (UInt8.ofNat n) bytes = (some (.ofNat n), bytes) := by
  rw [lead, toNat_byte (by omega), if_pos h]

theorem lead_two (low : 0x80 ≤ n) (high : n < 0x800) :
    lead (UInt8.ofNat (0xC0 + n / 0x40)) (UInt8.ofNat (0x80 + n % 0x40) :: bytes) =
      (some (.ofNat n), bytes) := by
  rw [lead, toNat_byte (by omega), if_neg (by omega), if_neg (by omega), if_pos (by omega),
    complete_tail (by omega) (by omega) (by omega)]
  exact complete_none (by omega) bytes

theorem lead_three (low : 0x800 ≤ n) (high : n < 0x10000) (whole : n < 0xD800 ∨ 0xDFFF < n) :
    lead (UInt8.ofNat (0xE0 + n / 0x1000))
        (UInt8.ofNat (0x80 + n / 0x40 % 0x40) :: UInt8.ofNat (0x80 + n % 0x40) :: bytes) =
      (some (.ofNat n), bytes) := by
  rw [lead, toNat_byte (by omega), if_neg (by omega), if_neg (by omega), if_neg (by omega),
    if_pos (by omega), complete_tail (by split <;> omega) (by split <;> omega) (by omega),
    complete_tail (by omega) (by omega) (by omega)]
  exact complete_none (by omega) bytes

theorem lead_four (low : 0x10000 ≤ n) (high : n < 0x110000) :
    lead (UInt8.ofNat (0xF0 + n / 0x40000))
        (UInt8.ofNat (0x80 + n / 0x1000 % 0x40) :: UInt8.ofNat (0x80 + n / 0x40 % 0x40) ::
          UInt8.ofNat (0x80 + n % 0x40) :: bytes) =
      (some (.ofNat n), bytes) := by
  rw [lead, toNat_byte (by omega), if_neg (by omega), if_neg (by omega), if_neg (by omega),
    if_neg (by omega), if_pos (by omega),
    complete_tail (by split <;> omega) (by split <;> omega) (by omega),
    complete_tail (by omega) (by omega) (by omega), complete_tail (by omega) (by omega) (by omega)]
  exact complete_none (by omega) bytes

end

/-- Where the code of a character lies. -/
theorem toNat_of_whole {c : CodePoint} (h : c.isHalf = false) :
    (c.toNat < 0xD800 ∨ 0xDFFF < c.toNat) ∧ c.toNat < 0x110000 := by
  cases c with
  | half n => cases h
  | char c =>
    rcases c.valid with h | h
    · exact ⟨.inl h, Nat.lt_trans h (by decide)⟩
    · exact ⟨.inr h.1, h.2⟩

/-- The bytes of a character are read back, whatever follows them. -/
theorem lead_utf8Of {c : CodePoint} (h : c.isHalf = false) (bytes : Bytes) :
    ∃ b tail, utf8Of c = b :: tail ∧ lead b (tail ++ bytes) = (some c, bytes) := by
  obtain ⟨whole, bound⟩ := toNat_of_whole h
  have same := CodePoint.ofNat_toNat c
  by_cases h1 : c.toNat < 0x80
  · have read := lead_one bytes h1
    rw [same] at read
    exact ⟨_, _, if_pos h1, read⟩
  by_cases h2 : c.toNat < 0x800
  · have read := lead_two bytes (Nat.le_of_not_lt h1) h2
    rw [same] at read
    exact ⟨_, _, (if_neg h1).trans (if_pos h2), by simpa using read⟩
  by_cases h3 : c.toNat < 0x10000
  · have read := lead_three bytes (Nat.le_of_not_lt h2) h3 whole
    rw [same] at read
    exact ⟨_, _, ((if_neg h1).trans (if_neg h2)).trans (if_pos h3), by simpa using read⟩
  · have read := lead_four bytes (Nat.le_of_not_lt h3) bound
    rw [same] at read
    exact ⟨_, _, ((if_neg h1).trans (if_neg h2)).trans (if_neg h3), by simpa using read⟩

theorem decodeWith_utf8 {t : Text} (whole : t.isWhole = true) {fuel : Nat}
    (h : t.utf8.length ≤ fuel) : decodeWith fuel t.utf8 = t.map some := by
  induction t generalizing fuel with
  | nil => cases fuel <;> rfl
  | cons c rest ih =>
    obtain ⟨hc, hr⟩ : c.isHalf = false ∧ isWhole rest = true := by simpa using whole
    obtain ⟨b, tail, bytes, read⟩ := lead_utf8Of hc (utf8 rest)
    have split : utf8 (c :: rest) = b :: (tail ++ utf8 rest) := by
      rw [utf8, List.flatMap_cons, bytes]
      rfl
    rw [split] at h ⊢
    cases fuel with
    | zero => simp at h
    | succ fuel =>
      have enough : (utf8 rest).length ≤ fuel := by
        simp only [List.length_cons, List.length_append] at h
        omega
      simp [decodeWith, read, ih hr enough]

/-- **A text without halves is read back from its bytes.** -/
theorem ofUtf8?_utf8 {t : Text} (whole : t.isWhole = true) : ofUtf8? t.utf8 = some t := by
  rw [ofUtf8?, decode, decodeWith_utf8 whole (Nat.le_refl _)]
  induction t with
  | nil => rfl
  | cons c rest ih =>
    obtain ⟨_, hr⟩ : c.isHalf = false ∧ isWhole rest = true := by simpa using whole
    have later := ih hr
    rw [List.map_cons, List.mapM_cons, later]
    rfl

end Text

namespace Encoding

/-- Two bytes of ASCII, neither of them zero, at the beginning tell of UTF-8. -/
theorem detect_ascii {a b : UInt8} (ha : a ≠ 0) (small : a.toNat < 0x80) (hb : b ≠ 0)
    (bytes : Bytes) : detect (a :: b :: bytes) = (utf8, a :: b :: bytes) := by
  have first : (marks.all fun p => p.1.head?.any fun x => x == 0 || 0x80 ≤ x.toNat) = true := by
    decide
  unfold detect
  split
  · rename_i mark e found
    have marked := List.find?_some found
    obtain ⟨rest, he⟩ := List.isPrefixOf_iff_prefix.mp marked
    have begins := List.all_eq_true.mp first _ (List.mem_of_find?_eq_some found)
    cases mark with
    | nil => cases begins
    | cons x mark =>
      obtain ⟨rfl, _⟩ := List.cons.inj he
      have : x = 0 ∨ 0x80 ≤ x.toNat := by simpa using begins
      rcases this with h | h
      · exact absurd h ha
      · omega
  · unfold unmarked
    split <;> simp_all

end Encoding

namespace Text

/-- The bytes of a text of JSON are taken for UTF-8. Such a text begins with two characters of
ASCII. -/
theorem ofBytes?_utf8 {c d : CodePoint} {t : Text} (whole : isWhole (c :: d :: t) = true)
    (hc : 0 < c.toNat ∧ c.toNat < 0x80) (hd : 0 < d.toNat ∧ d.toNat < 0x80) :
    ofBytes? (utf8 (c :: d :: t)) = some (c :: d :: t) := by
  have bytes : utf8 (c :: d :: t) = UInt8.ofNat c.toNat :: UInt8.ofNat d.toNat :: utf8 t := by
    have hc' : utf8Of c = [UInt8.ofNat c.toNat] := if_pos hc.2
    have hd' : utf8Of d = [UInt8.ofNat d.toNat] := if_pos hd.2
    simp [utf8, hc', hd']
  have nonzero : ∀ n, 0 < n → n < 0x80 → UInt8.ofNat n ≠ 0 := by
    intro n pos small h
    have := congrArg UInt8.toNat h
    rw [toNat_byte (by omega)] at this
    exact Nat.ne_of_gt pos this
  have small : (UInt8.ofNat c.toNat).toNat < 0x80 := by
    rw [toNat_byte (by omega)]
    exact hc.2
  have detected := Encoding.detect_ascii (nonzero _ hc.1 hc.2) small (nonzero _ hd.1 hd.2) (utf8 t)
  rw [← bytes] at detected
  unfold ofBytes?
  rw [detected]
  exact ofUtf8?_utf8 whole

end Text
end Narration
