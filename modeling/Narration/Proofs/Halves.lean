import Mathlib.Data.List.TakeWhile
import Narration.Binary64.Shortest
import Narration.Proofs.Capitals
import Narration.Proofs.Spans
import Narration.Text.Quoted
import Narration.Text.Unencodable

/-! # Texts without halves

A text without halves has a form in UTF-8. Numbers and quoted texts never have halves, as all that
cannot be shown stands in them by its code, and capitals bring none in. -/
namespace Narration

namespace CodePoint

@[simp] theorem isHalf_char (c : Char) : (char c).isHalf = false := rfl

theorem isHalf_iff {c : CodePoint} : c.isHalf = true ↔ 0xD800 ≤ c.toNat ∧ c.toNat ≤ 0xDFFF := by
  cases c with
  | half n =>
    have code : (half n).toNat = 0xD800 + n := rfl
    rw [code]
    constructor
    · intro _
      omega
    · intro _
      rfl
  | char c =>
    refine ⟨fun h => (nomatch h), fun h => ?_⟩
    have code : (char c).toNat = c.toNat := rfl
    rw [code] at h
    rcases c.valid with low | high
    · exact absurd h.1 (Nat.not_le.mpr low)
    · exact absurd h.2 (Nat.not_le.mpr high.1)

theorem isHalf_ofNat {n : Nat} (h : n < 0xD800) : (ofNat n).isHalf = false := by
  refine Bool.eq_false_iff.mpr fun hc => ?_
  have := isHalf_iff.mp hc
  have := toNat_ofNat n
  omega

end CodePoint

namespace Text

theorem isWhole_iff {t : Text} : t.isWhole = true ↔ ∀ c ∈ t, c.isHalf = false := by
  simp [isWhole]

@[simp] theorem isWhole_nil : isWhole [] = true := rfl

@[simp] theorem isWhole_cons (c : CodePoint) (t : Text) :
    isWhole (c :: t) = (!c.isHalf && t.isWhole) := rfl

@[simp] theorem isWhole_append (s t : Text) : isWhole (s ++ t) = (s.isWhole && t.isWhole) :=
  List.all_append

@[simp] theorem isWhole_map_char (cs : List Char) : isWhole (cs.map .char) = true := by
  rw [isWhole_iff]
  intro c hc
  obtain ⟨d, _, rfl⟩ := List.mem_map.mp hc
  rfl

@[simp] theorem isWhole_ofString (s : String) : isWhole (ofString s) = true := isWhole_map_char _

@[simp] theorem isWhole_ofNat (n : Nat) : isWhole (ofNat n) = true := isWhole_map_char _

@[simp] theorem isWhole_ofInt (n : Int) : isWhole (ofInt n) = true := by
  cases n with
  | ofNat n => exact isWhole_ofNat n
  | negSucc n => simp [ofInt]

theorem isWhole_of_subset {s t : Text} (h : ∀ c ∈ s, c ∈ t) (ht : t.isWhole = true) :
    s.isWhole = true :=
  isWhole_iff.mpr fun c hc => isWhole_iff.mp ht c (h c hc)

theorem isWhole_flatMap {f : CodePoint → Text} {t : Text} (h : ∀ c ∈ t, (f c).isWhole = true) :
    isWhole (t.flatMap f) = true := by
  rw [isWhole_iff]
  intro d hd
  obtain ⟨c, hc, hd⟩ := List.mem_flatMap.mp hd
  exact isWhole_iff.mp (h c hc) d hd

theorem isWhole_joined {separator : Text} (hs : separator.isWhole = true) {ts : List Text} :
    (joined separator ts).isWhole = true ↔ ∀ t ∈ ts, t.isWhole = true := by
  induction ts with
  | nil => simp [joined]
  | cons t rest ih =>
    cases rest with
    | nil => simp [joined]
    | cons u rest => simp [joined, hs, ih]

/-- Halves, and nothing else, keep a text out of UTF-8. -/
theorem unencodable?_eq_none_iff {t : Text} : unencodable? t = none ↔ t.isWhole = true := by
  symm
  refine ⟨fun whole => ?_, fun h => ?_⟩
  · have all : t.takeWhile (!·.isHalf) = t :=
      List.takeWhile_eq_self_iff.mpr fun c mem => by simp [isWhole_iff.mp whole c mem]
    simp [unencodable?, all]
  have parts := List.takeWhile_append_dropWhile (p := fun c : CodePoint => !c.isHalf) (l := t)
  have behind : t.drop (t.takeWhile (!·.isHalf)).length = t.dropWhile (!·.isHalf) :=
    (congrArg (List.drop _) parts.symm).trans List.drop_left
  have none : (t.dropWhile (!·.isHalf)).takeWhile (·.isHalf) = [] := by
    rw [← behind]
    unfold unencodable? at h
    dsimp only at h
    split at h
    · assumption
    · cases h
    · cases h
  cases rest : t.dropWhile (!·.isHalf) with
  | nil =>
    rw [rest, List.append_nil] at parts
    exact parts ▸ List.all_takeWhile
  | cons c cs =>
    have half : c.isHalf = true := by
      have := List.head?_dropWhile_not (fun c : CodePoint => !c.isHalf) t
      simpa [rest] using this
    rw [rest, List.takeWhile_cons_of_pos half] at none
    cases none

/-! ## Quoted texts -/

@[simp] theorem isHalf_hexDigit (n : Nat) : (hexDigit (n % 16)).isHalf = false := by
  refine CodePoint.isHalf_ofNat ?_
  split <;> omega

@[simp] theorem isWhole_hex (width n : Nat) : isWhole (hex width n) = true := by
  induction width generalizing n with
  | zero => rfl
  | succ width ih => simp [hex, ih]

theorem isHalf_of_isPrintable {c : CodePoint} (h : isPrintable c = true) : c.isHalf = false := by
  have outside : (printableSpans.all fun p => p.2 < 0xD800 || 0xDFFF < p.1) = true := by
    decide +kernel
  obtain ⟨p, hp, low, high⟩ := within_of_covers h
  have span := List.all_eq_true.mp outside p hp
  simp only [Bool.or_eq_true, decide_eq_true_eq] at span
  refine Bool.eq_false_iff.mpr fun hc => ?_
  have := CodePoint.isHalf_iff.mp hc
  omega

/-- What cannot be shown, halves among it, is written in ASCII. -/
theorem isWhole_escaped {quote : CodePoint} (hq : quote.isHalf = false) (c : CodePoint) :
    isWhole (escaped quote c) = true := by
  have shown : isPrintable c = true → isWhole [c] = true := by
    intro h
    simp [isHalf_of_isPrintable h]
  unfold escaped
  split
  · rename_i h
    rcases h with rfl | rfl
    · simp [hq]
    · simp
  · repeat' split
    all_goals first
      | exact shown ‹_›
      | simp

@[simp] theorem isWhole_quoted (t : Text) : isWhole t.quoted = true := by
  have quote : (quoteFor t).isHalf = false := by
    unfold quoteFor
    split <;> rfl
  have inside : isWhole (t.flatMap (escaped (quoteFor t))) = true :=
    isWhole_flatMap fun c _ => isWhole_escaped quote c
  simp [quoted, quote, inside]

/-! ## Capitals -/

theorem isHalf_capitalOf {c : CodePoint} (h : c.isHalf = false) : (capitalOf c).isHalf = false := by
  have upper : avoids upperShifts upperLonger 0xD800 0xDFFF = true := by decide +kernel
  have title : avoids titleShifts titleLonger 0xD800 0xDFFF = true := by decide +kernel
  refine Bool.eq_false_iff.mpr fun hc => ?_
  obtain ⟨low, high⟩ := CodePoint.isHalf_iff.mp hc
  rw [capitalOf_eq_self upper title (by decide) low high, h] at hc
  cases hc

theorem isWhole_capitalize {t : Text} (h : t.isWhole = true) : t.capitalize.isWhole = true := by
  rw [isWhole_iff] at h ⊢
  intro d hd
  rcases mem_capitalize hd with hd | ⟨c, hc, rfl⟩
  · exact h d hd
  · exact isHalf_capitalOf (h c hc)

end Text

/-! ## Numbers -/

namespace Binary64

open Text (isWhole)

@[simp] theorem isWhole_zeros (n : Nat) : isWhole (zeros n) = true := by
  rw [Text.isWhole_iff]
  intro c hc
  rw [(List.mem_replicate.mp hc).2]
  rfl

@[simp] theorem isWhole_exponentText (e : Int) : isWhole (exponentText e) = true := by
  have sign : (if e < 0 then CodePoint.char '-' else .char '+').isHalf = false := by
    split <;> rfl
  simp [exponentText, sign]

theorem isWhole_layout {digits : Text} (h : digits.isWhole = true) (p : Int) :
    isWhole (layout digits p) = true := by
  have taken : ∀ n, isWhole (digits.take n) = true := fun n =>
    Text.isWhole_of_subset (fun _ => List.mem_of_mem_take) h
  have left : ∀ n, isWhole (digits.drop n) = true := fun n =>
    Text.isWhole_of_subset (fun _ => List.mem_of_mem_drop) h
  have fraction :
      isWhole (if (digits.drop 1).isEmpty then [] else .char '.' :: digits.drop 1) = true := by
    split
    · rfl
    · rw [Text.isWhole_cons, left]
      rfl
  unfold layout
  split
  · split
    · simp [h]
    · split
      · simp [h]
      · simp [taken, left]
  · rw [Text.isWhole_append, Text.isWhole_append, Text.isWhole_append, taken, fraction]
    simp

/-- The best decimal of a number of digits, if it reads back. -/
def attempt? (units count : Nat) : Option (Text × Int) := do
  let digits := Text.ofNat (← candidate? units (point units) count)
  some (digits, point units + ((digits.length : Int) - count))

theorem shortest_eq (units : Nat) :
    shortest units =
      ((List.range 17).findSome? fun i => attempt? units (i + 1)).getD ([], point units) := rfl

theorem isWhole_attempt {units count : Nat} {best : Text × Int}
    (h : attempt? units count = some best) : isWhole best.1 = true := by
  unfold attempt? at h
  cases hc : candidate? units (point units) count with
  | none =>
    rw [hc] at h
    cases h
  | some n =>
    rw [hc] at h
    cases h
    exact Text.isWhole_ofNat n

theorem isWhole_shortest (units : Nat) : isWhole (shortest units).1 = true := by
  rw [shortest_eq]
  cases h : (List.range 17).findSome? fun i => attempt? units (i + 1) with
  | none => rfl
  | some best =>
    obtain ⟨i, _, hi⟩ := List.exists_of_findSome?_eq_some h
    exact isWhole_attempt hi

theorem isWhole_significant {digits : Text} (h : digits.isWhole = true) :
    isWhole (significant digits) = true := by
  refine Text.isWhole_of_subset (fun c hc => ?_) h
  have := (List.dropWhile_sublist _).subset (List.mem_reverse.mp hc)
  exact List.mem_reverse.mp this

theorem isWhole_magnitudeText (units : Nat) : isWhole (magnitudeText units) = true := by
  unfold magnitudeText
  split
  · exact Text.isWhole_ofString _
  · have digits := isWhole_shortest units
    generalize shortest units = best at digits ⊢
    obtain ⟨_, p⟩ := best
    exact isWhole_layout (isWhole_significant digits) p

@[simp] theorem isWhole_text (x : Binary64) : isWhole x.text = true := by
  cases x with
  | nan => rfl
  | infinite negative => cases negative <;> rfl
  | finite negative units =>
    have sign : isWhole (if negative then Text.ofString "-" else []) = true := by
      cases negative <;> rfl
    simp [text, sign, isWhole_magnitudeText]

end Binary64
end Narration
