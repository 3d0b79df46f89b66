import Mathlib.Data.List.DropRight
import Narration.Proofs.CapitalForms
import Narration.Text.Integer

/-! # White space around digits

Stripping cuts a text into the white space before, what is left, and the white space behind. A text
is read as an integer with its white space still there, and not all of what stripping takes away is
let pass then: the four information separators are not. So digits that are left by stripping are
read as their number if there is no separator in the text, and are not read at all if there is. -/
namespace Narration.Text

variable {t : Text} {c : CodePoint}

/-! ## Stripping -/

/-- What stripping takes away is white space. -/
theorem exists_strip (t : Text) : ∃ before behind : Text, t = before ++ (t.strip ++ behind) ∧
    (∀ c ∈ before, isBlank c = true) ∧ ∀ c ∈ behind, isBlank c = true := by
  refine ⟨t.takeWhile isBlank, (t.dropWhile isBlank).rtakeWhile isBlank, ?_, ?_, ?_⟩
  · have cut : t.strip ++ (t.dropWhile isBlank).rtakeWhile isBlank = t.dropWhile isBlank :=
      List.rdropWhile_append_rtakeWhile
    rw [cut, List.takeWhile_append_dropWhile]
  · intro c hc
    exact List.mem_takeWhile_imp hc
  · intro c hc
    exact List.mem_rtakeWhile_imp hc

theorem mem_of_mem_strip (h : c ∈ t.strip) : c ∈ t := by
  obtain ⟨before, behind, cut, _, _⟩ := exists_strip t
  rw [cut]
  simp [h]

theorem mem_strip (visible : isBlank c = false) (h : c ∈ t) : c ∈ t.strip := by
  obtain ⟨before, behind, cut, blankBefore, blankBehind⟩ := exists_strip t
  rw [cut, List.mem_append, List.mem_append] at h
  rcases h with h | h | h
  · rw [blankBefore c h] at visible
    cases visible
  · exact h
  · rw [blankBehind c h] at visible
    cases visible

/-- What is left by stripping begins with no white space. -/
theorem dropWhile_strip (t : Text) : t.strip.dropWhile isBlank = t.strip := by
  have first : ∀ s : Text, s <+: t.dropWhile isBlank → s.dropWhile isBlank = s := by
    intro s front
    cases s with
    | nil => rfl
    | cons c rest =>
      obtain ⟨behind, same⟩ := front
      have visible : isBlank c = false := by
        have head := List.head_dropWhile_not isBlank (l := t) (by simp [← same])
        simpa [← same] using head
      rw [List.dropWhile_cons_of_neg (by simp [visible])]
  exact first _ (List.rdropWhile_prefix isBlank _)

@[simp] theorem strip_strip (t : Text) : t.strip.strip = t.strip := by
  rw [strip, dropWhile_strip]
  exact List.rdropWhile_idempotent isBlank _

/-! ## Digits -/

/-- The four information separators. -/
def isSeparator (c : CodePoint) : Bool := 0x1C ≤ c.toNat && c.toNat ≤ 0x1F

/-- What is white space around a label and not around a number. -/
theorem isNumberBlank_eq (c : CodePoint) : isNumberBlank c = (isBlank c && !isSeparator c) := rfl

theorem within_of_isDigit (h : isDigit c = true) :
    Within (continuingSpans ++ otherDigitSpans) c.toNat := by
  rw [within_append]
  rcases Bool.or_eq_true_iff.mp h with decimal | other
  · exact .inl (within_continuingSpans.mpr (.inr decimal))
  · exact .inr (within_of_covers other)

theorem isBlank_of_isDigit (h : isDigit c = true) : isBlank c = false := by
  have apart : mask (continuingSpans ++ otherDigitSpans) &&& mask blankSpans = 0 := by
    decide +kernel
  by_contra blank
  rw [Bool.not_eq_false] at blank
  exact not_within_of_mask apart (within_of_isDigit h) (within_of_covers blank)

theorem isDigit_of_isDecimal (h : isDecimal c = true) : isDigit c = true := by
  rw [isDigit, h, Bool.true_or]

/-- Upper case leaves digits as they are. -/
theorem upperOf_of_isDigit (h : isDigit c = true) : upperOf c = [c] := by
  have apart : mask (continuingSpans ++ otherDigitSpans)
      &&& mask (casedSpans upperShifts upperLonger) = 0 := by decide +kernel
  have uncased := not_within_of_mask apart (within_of_isDigit h)
  rw [upperOf, upperCodes, caseImage?_eq_none uncased]
  show [CodePoint.ofNat c.toNat] = [c]
  rw [CodePoint.ofNat_toNat]

/-! ## Reading digits -/

/-- What the run of an integer is made of. -/
def inRun (c : CodePoint) : Bool := isDecimal c || c == .char '_'

theorem drop_run (t : Text) : t.drop (t.takeWhile inRun).length = t.dropWhile inRun := by
  calc t.drop (t.takeWhile inRun).length
      = (t.takeWhile inRun ++ t.dropWhile inRun).drop (t.takeWhile inRun).length := by
        rw [List.takeWhile_append_dropWhile]
    _ = t.dropWhile inRun := List.drop_left

/-- Reading, with what is behind the run named. -/
theorem readNat_eq (t : Text) : readNat t =
    let digits := (t.takeWhile inRun).filter isDecimal
    if (splitAt '_' (t.takeWhile inRun)).any (·.isEmpty) then .error .malformed
    else if digits.length > digitLimit then .error (.tooLong digits.length)
    else if (t.dropWhile inRun).all isNumberBlank then .ok (valueOf digits)
    else .error .malformed := by
  rw [← drop_run]
  rfl

/-- Characters that an integer can be written with. -/
def isNumeral (c : CodePoint) : Bool :=
  inRun c || isNumberBlank c || c == .char '+' || c == .char '-'

theorem isNumeral_of_readNat {n : Nat} (h : readNat t = .ok n) (mem : c ∈ t) :
    isNumeral c = true := by
  have ends : (t.dropWhile inRun).all isNumberBlank = true := by
    by_contra ends
    rw [readNat_eq] at h
    dsimp only at h
    rw [if_neg ends] at h
    split at h
    · cases h
    split at h <;> cases h
  rw [← List.takeWhile_append_dropWhile (p := inRun) (l := t), List.mem_append] at mem
  rcases mem with mem | mem
  · have run : inRun c = true := List.mem_takeWhile_imp mem
    simp [isNumeral, run]
  · have blank := List.all_eq_true.mp ends c mem
    simp [isNumeral, blank]

/-- Behind white space and a sign an integer is read as a natural number. -/
theorem exists_readNat {n : Int} (h : readInt t = .ok n) : ∃ (sign rest : Text) (m : Nat),
    t.dropWhile isNumberBlank = sign ++ rest ∧ (∀ c ∈ sign, isNumeral c = true) ∧
      readNat rest = .ok m := by
  unfold readInt at h
  split at h
  · rename_i rest signed
    cases number : readNat rest with
    | ok m => exact ⟨['-'], rest, m, signed, by decide, number⟩
    | error e =>
      rw [number] at h
      cases h
  · rename_i rest signed
    cases number : readNat rest with
    | ok m => exact ⟨['+'], rest, m, signed, by decide, number⟩
    | error e =>
      rw [number] at h
      cases h
  · cases number : readNat (t.dropWhile isNumberBlank) with
    | ok m => exact ⟨[], _, m, rfl, by simp, number⟩
    | error e =>
      rw [number] at h
      cases h

/-- What is read as an integer has nothing in it that integers are not written with. -/
theorem isNumeral_of_readInt {n : Int} (h : readInt t = .ok n) (mem : c ∈ t) :
    isNumeral c = true := by
  obtain ⟨sign, rest, m, cut, signs, number⟩ := exists_readNat h
  rw [← List.takeWhile_append_dropWhile (p := isNumberBlank) (l := t), cut, List.mem_append,
    List.mem_append] at mem
  rcases mem with mem | mem | mem
  · have blank : isNumberBlank c = true := List.mem_takeWhile_imp mem
    simp [isNumeral, blank]
  · exact signs c mem
  · exact isNumeral_of_readNat number mem

theorem isDecimal_of_isNumeral (digit : isDigit c = true) (h : isNumeral c = true) :
    isDecimal c = true := by
  by_contra other
  rw [isNumeral, inRun, isNumberBlank_eq, isBlank_of_isDigit digit] at h
  simp only [other, Bool.false_and, Bool.or_false, Bool.false_or, Bool.or_eq_true,
    beq_iff_eq] at h
  rcases h with (rfl | rfl) | rfl <;> cases digit

theorem isBlank_of_isSeparator (h : isSeparator c = true) : isBlank c = true := by
  have bounds : 0x1C ≤ c.toNat ∧ c.toNat ≤ 0x1F := by simpa [isSeparator] using h
  have ascend : ascending blankSpans = true := by decide
  refine (covers_iff ascend).mpr ⟨(0x1C, 0x20), by decide, bounds.1, ?_⟩
  omega

theorem isSeparator_of_isDigit (h : isDigit c = true) : isSeparator c = false := by
  by_contra separator
  rw [Bool.not_eq_false] at separator
  have blank := isBlank_of_isSeparator separator
  rw [isBlank_of_isDigit h] at blank
  cases blank

theorem isSeparator_of_isNumeral (h : isNumeral c = true) : isSeparator c = false := by
  simp only [isNumeral, inRun, isNumberBlank_eq, Bool.or_eq_true, Bool.and_eq_true,
    Bool.not_eq_true', beq_iff_eq] at h
  rcases h with (((decimal | rfl) | blank) | rfl) | rfl
  · exact isSeparator_of_isDigit (isDigit_of_isDecimal decimal)
  · rfl
  · exact blank.2
  · rfl
  · rfl

theorem splitAt_of_not_mem {separator : CodePoint} (h : separator ∉ t) :
    splitAt separator t = [t] := by
  induction t with
  | nil => rfl
  | cons c rest ih =>
    rw [List.mem_cons, not_or] at h
    rw [splitAt, if_neg (Ne.symm h.1), ih h.2]

theorem isDecimal_of_isNumberBlank (h : isNumberBlank c = true) : isDecimal c = false := by
  by_contra decimal
  rw [Bool.not_eq_false] at decimal
  have blank := (Bool.and_eq_true_iff.mp h).1
  rw [isBlank_of_isDigit (isDigit_of_isDecimal decimal)] at blank
  cases blank

theorem inRun_of_isNumberBlank (h : isNumberBlank c = true) : inRun c = false := by
  have underscore : c ≠ .char '_' := by
    intro same
    rw [same] at h
    cases h
  rw [inRun, isDecimal_of_isNumberBlank h, Bool.false_or]
  simpa using underscore

section

variable {s behind : Text} (nonempty : s ≠ []) (decimal : ∀ c ∈ s, isDecimal c = true)
  (blank : ∀ c ∈ behind, isNumberBlank c = true)

include nonempty decimal blank

/-- Digits with white space behind them are read as their number. -/
theorem readNat_digits : readNat (s ++ behind) =
    if s.length > digitLimit then .error (.tooLong s.length) else .ok (valueOf s) := by
  have all : ∀ c ∈ s, inRun c = true := by
    intro c hc
    rw [inRun, decimal c hc, Bool.true_or]
  have stops : behind.takeWhile inRun = [] ∧ behind.dropWhile inRun = behind := by
    cases behind with
    | nil => exact ⟨rfl, rfl⟩
    | cons c rest =>
      have out := inRun_of_isNumberBlank (blank c List.mem_cons_self)
      simp [out]
  have run : (s ++ behind).takeWhile inRun = s := by
    rw [List.takeWhile_append_of_pos all, stops.1, List.append_nil]
  have rest : (s ++ behind).dropWhile inRun = behind := by
    rw [List.dropWhile_append_of_pos all, stops.2]
  have digits : s.filter isDecimal = s := List.filter_eq_self.mpr decimal
  have plain : CodePoint.char '_' ∉ s := by
    intro mem
    cases decimal _ mem
  have ends : behind.all isNumberBlank = true := List.all_eq_true.mpr blank
  rw [readNat_eq, run, rest, digits, splitAt_of_not_mem plain, ends]
  simp [nonempty]

end

/-- Digits without a sign are read as a natural number. -/
theorem readInt_of_isDecimal {rest : Text} (start : t.dropWhile isNumberBlank = c :: rest)
    (decimal : isDecimal c = true) :
    readInt t = (readNat (c :: rest)).map Int.ofNat := by
  unfold readInt
  rw [start]
  split
  · rename_i signed
    cases signed
    cases decimal
  · rename_i signed
    cases signed
    cases decimal
  · rfl

/-- Digits with white space around them are read as their number, if there is no separator. -/
theorem readInt_digits (nonempty : t.strip ≠ []) (decimal : ∀ c ∈ t.strip, isDecimal c = true)
    (plain : ∀ c ∈ t, isSeparator c = false) : readInt t =
      if t.strip.length > digitLimit then .error (.tooLong t.strip.length)
      else .ok (valueOf t.strip) := by
  obtain ⟨before, behind, cut, blankBefore, blankBehind⟩ := exists_strip t
  have blank : ∀ s : Text, s ⊆ t → (∀ c ∈ s, isBlank c = true) →
      ∀ c ∈ s, isNumberBlank c = true := by
    intro s part blank c hc
    rw [isNumberBlank_eq, blank c hc, plain c (part hc)]
    rfl
  have left : before ⊆ t := by
    rw [cut]
    exact List.subset_append_left _ _
  have right : behind ⊆ t := by
    rw [cut, ← List.append_assoc]
    exact List.subset_append_right _ _
  obtain ⟨c, rest, digits⟩ := List.exists_cons_of_ne_nil nonempty
  have first : isDecimal c = true := decimal c (digits ▸ List.mem_cons_self)
  have visible : isNumberBlank c = false := by
    rw [isNumberBlank_eq, isBlank_of_isDigit (isDigit_of_isDecimal first), Bool.false_and]
  have start : t.dropWhile isNumberBlank = c :: (rest ++ behind) := by
    calc t.dropWhile isNumberBlank
        = (before ++ (t.strip ++ behind)).dropWhile isNumberBlank := by rw [← cut]
      _ = (t.strip ++ behind).dropWhile isNumberBlank :=
        List.dropWhile_append_of_pos (blank before left blankBefore)
      _ = c :: (rest ++ behind) := by simp [digits, visible]
  have read := readNat_digits nonempty decimal (blank behind right blankBehind)
  rw [digits, List.cons_append] at read
  rw [readInt_of_isDecimal start first, read, digits]
  split <;> rfl

/-- **When digits are read.** Stripping has left digits of some kind. They are read if all of them
are decimal, none of what has been stripped is a separator and there are not too many of them, and
then as their number. -/
theorem readInt_eq_ok_iff (nonempty : t.strip ≠ []) (digits : ∀ c ∈ t.strip, isDigit c = true)
    {n : Int} : readInt t = .ok n ↔ (∀ c ∈ t.strip, isDecimal c = true) ∧
      (∀ c ∈ t, isSeparator c = false) ∧ t.strip.length ≤ digitLimit ∧ n = valueOf t.strip := by
  constructor
  · intro read
    have numerals (c : CodePoint) (mem : c ∈ t) := isNumeral_of_readInt read mem
    have decimal : ∀ c ∈ t.strip, isDecimal c = true := fun c mem =>
      isDecimal_of_isNumeral (digits c mem) (numerals c (mem_of_mem_strip mem))
    have plain : ∀ c ∈ t, isSeparator c = false := fun c mem =>
      isSeparator_of_isNumeral (numerals c mem)
    rw [readInt_digits nonempty decimal plain] at read
    split at read
    · cases read
    · rename_i short
      exact ⟨decimal, plain, Nat.le_of_not_lt short, (Except.ok.inj read).symm⟩
  · intro ⟨decimal, plain, short, value⟩
    rw [readInt_digits nonempty decimal plain, if_neg (Nat.not_lt.mpr short), value]

end Narration.Text
