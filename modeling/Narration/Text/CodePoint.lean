/-! # Code points

What texts are made of. A code point is a character, or a half: one of the two units that spell a
character beyond the first 0x10000 together, standing without the other. Halves come from escapes
and from bytes that a client gets wrong. They belong to no class of characters. -/
namespace Narration

inductive CodePoint
  | char (c : Char)
  /-- A half by its distance from the first of them. -/
  | half (n : Fin 0x800)
  deriving DecidableEq

instance : Coe Char CodePoint := ⟨.char⟩

namespace CodePoint

def toNat : CodePoint → Nat
  | char c => c.toNat
  | half n => 0xD800 + n

/-- The code point of a code. Codes that are too large have none and count as zero. -/
def ofNat (code : Nat) : CodePoint :=
  if h : 0xD800 ≤ code ∧ code < 0xE000 then half ⟨code - 0xD800, by omega⟩
  else char (Char.ofNat code)

theorem ofNat_toNat (c : CodePoint) : ofNat c.toNat = c := by
  cases c with
  | half n =>
    have h : 0xD800 ≤ 0xD800 + n.val ∧ 0xD800 + n.val < 0xE000 := by omega
    simp only [ofNat, toNat, dif_pos h, Nat.add_sub_cancel_left]
  | char c =>
    have valid : c.toNat < 0xD800 ∨ 0xDFFF < c.toNat := by
      rcases c.valid with h | h
      · exact .inl h
      · exact .inr h.1
    have h : ¬(0xD800 ≤ c.toNat ∧ c.toNat < 0xE000) := by omega
    simp only [ofNat, toNat, dif_neg h, Char.ofNat_toNat]

theorem toNat_injective : Function.Injective toNat := fun c d h => by
  rw [← ofNat_toNat c, h, ofNat_toNat]

/-- The code of the code point of a code. -/
theorem toNat_ofNat (code : Nat) : (ofNat code).toNat = code ∨ (ofNat code).toNat = 0 := by
  unfold ofNat
  split
  · exact .inl (Nat.add_sub_cancel' (by omega))
  · show (Char.ofNat code).toNat = code ∨ (Char.ofNat code).toNat = 0
    by_cases valid : code.isValidChar
    · rw [Char.ofNat, dif_pos valid]
      exact .inl rfl
    · rw [Char.ofNat, dif_neg valid]
      exact .inr rfl

/-- The character of a code point, or the one that stands for what cannot be shown. -/
def toChar : CodePoint → Char
  | char c => c
  | half _ => '\uFFFD'

def isHalf : CodePoint → Bool
  | char _ => false
  | half _ => true

/-! ## ASCII letters and digits -/

def isAsciiUpper (c : CodePoint) : Bool := 'A'.toNat ≤ c.toNat && c.toNat ≤ 'Z'.toNat

def isAsciiLower (c : CodePoint) : Bool := 'a'.toNat ≤ c.toNat && c.toNat ≤ 'z'.toNat

def isAsciiDigit (c : CodePoint) : Bool := '0'.toNat ≤ c.toNat && c.toNat ≤ '9'.toNat

def toAsciiUpper : CodePoint → CodePoint
  | char c => char c.toUpper
  | c => c

def toAsciiLower : CodePoint → CodePoint
  | char c => char c.toLower
  | c => c

end CodePoint
end Narration
