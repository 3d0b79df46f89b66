import Narration.Proofs.CapitalForms
import Narration.Text.Mark

/-! # Where the capital goes

The first character that can begin a sentence takes the capital, and a text changes nowhere else.
Letters can begin a sentence, and so can the numerals that build no numbers. Decimal digits, the
underscore and combining marks cannot, so a letter behind them gets its capital all the same. Behind
another numeral it does not: that one takes the capital in its place, and mostly has none. -/
namespace Narration.Text

/-! ## One place in a text -/

/-- A character that the search for a capital passes over: one of no word, a decimal digit or the
underscore. -/
def isPassedOver (c : CodePoint) : Bool := !isWord c || isDecimal c || c == .char '_'

theorem isPassedOver_eq (c : CodePoint) : isPassedOver c = !isInitial c := by
  simp [isPassedOver, isInitial, bne]

theorem getElem?_capitalize {t : Text} {i : Nat} (h : i ≠ t.findIdx isInitial) :
    t.capitalize[i]? = t[i]? := by
  induction t generalizing i with
  | nil => rfl
  | cons c rest ih =>
    rw [List.findIdx_cons] at h
    by_cases initial : isInitial c = true
    · rw [initial] at h
      obtain ⟨i, rfl⟩ := Nat.exists_eq_succ_of_ne_zero h
      rw [capitalize, if_pos initial]
      rfl
    · rw [capitalize, if_neg initial]
      cases i with
      | zero => rfl
      | succ i => exact ih fun same => h (by simp [initial, same])

/-- **A capital is a change in one place.** A text keeps its length and all of its characters but
the first one that can begin a sentence, so of two texts one behind the other the second is as it
was if the first has such a character, and the first is if it has none. The characters that can
begin a sentence are those that the search does not pass over. -/
theorem capitalize_changes_one_place (t : Text) :
    t.capitalize.length = t.length ∧
    (∀ i, t.capitalize[i]? ≠ t[i]? →
      i = t.findIdx isInitial ∧ ∃ c, t[i]? = some c ∧ isInitial c = true) ∧
    (∀ t' : Text,
      ((∃ c ∈ t, isInitial c = true) → (t ++ t').capitalize = t.capitalize ++ t') ∧
      ((∀ c ∈ t, isInitial c = false) → (t ++ t').capitalize = t ++ t'.capitalize)) ∧
    ∀ c, isPassedOver c = !isInitial c := by
  refine ⟨length_capitalize t, ?_, ?_, isPassedOver_eq⟩
  · intro i changed
    obtain rfl : i = t.findIdx isInitial :=
      Decidable.byContradiction fun other => changed (getElem?_capitalize other)
    rcases Nat.lt_or_ge (t.findIdx isInitial) t.length with within | beyond
    · exact ⟨rfl, _, List.getElem?_eq_getElem within, List.findIdx_getElem⟩
    · refine absurd ?_ changed
      rw [List.getElem?_eq_none beyond, List.getElem?_eq_none (by rwa [length_capitalize])]
  · intro t'
    exact ⟨fun some => capitalize_append_left some t', fun none => capitalize_append_right none t'⟩

/-- A digraph behind digits, which gets a capital of its own. -/
theorem capitalize_changes_one_place_digraph :
    let t : Text := "42 \u01C6"
    t.capitalize[3]? ≠ t[3]? ∧ t.findIdx isInitial = 3 ∧
    (∃ c ∈ t, isInitial c = true) ∧ (t ++ "in").capitalize = t.capitalize ++ "in" ∧
    (∀ c ∈ Text.ofString "1_", isInitial c = false) ∧
    (Text.ofString "1_" ++ t).capitalize = Text.ofString "1_" ++ t.capitalize := by
  intro t
  have changed : t.capitalize[3]? ≠ t[3]? := by decide +kernel
  have some : ∃ c ∈ t, isInitial c = true := by decide +kernel
  have none : ∀ c ∈ Text.ofString "1_", isInitial c = false := by decide
  obtain ⟨_, one, left, _⟩ := capitalize_changes_one_place t
  have right := (capitalize_changes_one_place (Text.ofString "1_")).2.2.1 t
  exact ⟨changed, (one 3 changed).1.symm, some, (left "in").1 some, none, right.2 none⟩

/-! ## Letters and figures -/

/-- A numeral that builds no numbers: superscripts, fractions, circled and Roman numerals. -/
def isFigure (c : CodePoint) : Bool := covers otherDigitSpans c.toNat || isOtherNumber c

section

variable {c : CodePoint}

theorem isInitial_iff_letter_or_figure :
    isInitial c = true ↔ isLetter c = true ∨ isFigure c = true := by
  rw [isInitial_iff, within_initialSpans, isFigure, Bool.or_eq_true]

theorem isLetter_of_isFigure (h : isFigure c = true) : isLetter c = false := by
  have apart : mask (otherDigitSpans ++ otherNumberSpans) &&& mask letterSpans = 0 := by
    decide +kernel
  have figure : Within (otherDigitSpans ++ otherNumberSpans) c.toNat :=
    within_append.mpr ((Bool.or_eq_true_iff.mp h).imp within_of_covers within_of_covers)
  exact Bool.eq_false_iff.mpr fun letter =>
    not_within_of_mask apart figure (within_of_covers letter)

theorem isInitial_of_isMark (h : isMark c = true) : isInitial c = false := by
  have apart : mask markSpans &&& mask initialSpans = 0 := by decide +kernel
  exact Bool.eq_false_iff.mpr fun initial =>
    not_within_of_mask apart (within_of_covers h) (isInitial_iff.mp initial)

theorem isInitial_of_continuing (h : isDecimal c = true ∨ c = .char '_') : isInitial c = false := by
  rcases h with decimal | rfl
  · simp [isInitial, decimal]
  · decide

theorem capitalOf_eq_self_iff : capitalOf c = c ↔ ∀ d, Capital c d → d = c := by
  constructor
  · intro own d capital
    rw [← capitalOf_eq capital, own]
  · intro own
    by_cases some : ∃ d, Capital c d
    · obtain ⟨d, capital⟩ := some
      rw [capitalOf_eq capital, own d capital]
    · exact capitalOf_eq_self_of_none (not_exists.mp some)

end

/-- What becomes of a text if its first letter takes the capital, whatever stands before it. -/
structure RaisesLetter (t out : Text) : Prop where
  unlettered : (∀ c ∈ t, isLetter c = false) → out = t
  lettered : ∀ s c rest, t = s ++ c :: rest → (∀ d ∈ s, isLetter d = false) → isLetter c = true →
    (∀ d, Capital c d → out = s ++ d :: rest) ∧ ((∀ d, ¬Capital c d) → out = t)

/-- The text with a capital for its first letter. -/
def capitalizeLetter : Text → Text
  | [] => []
  | c :: rest => if isLetter c then capitalOf c :: rest else c :: capitalizeLetter rest

section

variable {t out : Text}

theorem capitalizeLetter_first {s : Text} {c : CodePoint} (before : ∀ d ∈ s, isLetter d = false)
    (letter : isLetter c = true) (rest : Text) :
    capitalizeLetter (s ++ c :: rest) = s ++ capitalOf c :: rest := by
  induction s with
  | nil => exact if_pos letter
  | cons d s ih =>
    have hd : ¬isLetter d = true := Bool.eq_false_iff.mp (before d List.mem_cons_self)
    rw [List.cons_append, capitalizeLetter, if_neg hd,
      ih fun e he => before e (List.mem_cons_of_mem _ he), List.cons_append]

theorem capitalizeLetter_of_none (none : ∀ c ∈ t, isLetter c = false) :
    capitalizeLetter t = t := by
  induction t with
  | nil => rfl
  | cons c rest ih =>
    have hc : ¬isLetter c = true := Bool.eq_false_iff.mp (none c List.mem_cons_self)
    rw [capitalizeLetter, if_neg hc, ih fun d hd => none d (List.mem_cons_of_mem _ hd)]

theorem raisesLetter_capitalizeLetter (t : Text) : RaisesLetter t (capitalizeLetter t) where
  unlettered none := capitalizeLetter_of_none none
  lettered s c rest split before letter := by
    subst split
    have first := capitalizeLetter_first before letter rest
    refine ⟨fun d capital => ?_, fun none => ?_⟩
    · rw [first, capitalOf_eq capital]
    · rw [first, capitalOf_eq_self_of_none none]

/-- There is one such text. -/
theorem raisesLetter_iff : RaisesLetter t out ↔ out = capitalizeLetter t := by
  refine ⟨fun h => ?_, fun same => same ▸ raisesLetter_capitalizeLetter t⟩
  have own := raisesLetter_capitalizeLetter t
  cases first : t.find? isLetter with
  | none =>
    have none : ∀ c ∈ t, isLetter c = false := by simpa using first
    rw [h.unlettered none, own.unlettered none]
  | some c =>
    obtain ⟨letter, s, rest, split, before⟩ := List.find?_eq_some_iff_append.mp first
    have before : ∀ d ∈ s, isLetter d = false := by simpa using before
    obtain ⟨raised, kept⟩ := h.lettered s c rest split before letter
    obtain ⟨raised', kept'⟩ := own.lettered s c rest split before letter
    by_cases some : ∃ d, Capital c d
    · obtain ⟨d, capital⟩ := some
      rw [raised d capital, raised' d capital]
    · rw [kept (not_exists.mp some), kept' (not_exists.mp some)]

/-- Wherever the search for a sentence stops at a figure, the figure is its own capital and so is
the first letter behind it, if there is one. -/
def FiguresSettled (t : Text) : Prop :=
  ∀ s n rest, t = s ++ n :: rest → (∀ d ∈ s, isInitial d = false) → isFigure n = true →
    (∀ d, Capital n d → d = n) ∧ RaisesLetter rest rest

section

variable {c : CodePoint}

/-- The search stops at the front of a text and nowhere else. -/
theorem eq_of_stops {s rest : Text} {n : CodePoint} (initial : isInitial c = true)
    (split : c :: t = s ++ n :: rest) (before : ∀ d ∈ s, isInitial d = false) :
    n = c ∧ rest = t := by
  cases s with
  | nil => exact ⟨(List.cons.inj split).1.symm, (List.cons.inj split).2.symm⟩
  | cons d s =>
    obtain rfl := (List.cons.inj split).1
    exact absurd initial (Bool.eq_false_iff.mp (before _ List.mem_cons_self))

theorem figuresSettled_of_letter (letter : isLetter c = true) : FiguresSettled (c :: t) := by
  intro s n rest split before figure
  have initial := isInitial_iff_letter_or_figure.mpr (.inl letter)
  obtain ⟨rfl, rfl⟩ := eq_of_stops initial split before
  exact absurd letter (Bool.eq_false_iff.mp (isLetter_of_isFigure figure))

theorem figuresSettled_figure_iff (figure : isFigure c = true) :
    FiguresSettled (c :: t) ↔ (∀ d, Capital c d → d = c) ∧ RaisesLetter t t := by
  refine ⟨fun settled => settled [] c t rfl (by simp) figure, ?_⟩
  intro settled s n rest split before _
  have initial := isInitial_iff_letter_or_figure.mpr (.inr figure)
  obtain ⟨rfl, rfl⟩ := eq_of_stops initial split before
  exact settled

theorem figuresSettled_cons_iff (passed : isInitial c = false) :
    FiguresSettled (c :: t) ↔ FiguresSettled t := by
  constructor
  · intro settled s n rest split before figure
    subst split
    exact settled (c :: s) n rest rfl (List.forall_mem_cons.mpr ⟨passed, before⟩) figure
  · intro settled s n rest split before figure
    cases s with
    | nil =>
      obtain rfl := (List.cons.inj split).1
      have initial := isInitial_iff_letter_or_figure.mpr (.inr figure)
      exact absurd initial (Bool.eq_false_iff.mp passed)
    | cons d s =>
      exact settled s n rest (List.cons.inj split).2 (List.forall_mem_cons.mp before).2 figure

end

/-- The search for a sentence ends with the same text as the one for a letter exactly if what it
stops at is settled. The induction follows the search; at a figure the letter is still to come. -/
theorem raisesLetter_capitalize_iff : RaisesLetter t t.capitalize ↔ FiguresSettled t := by
  induction t with
  | nil =>
    refine iff_of_true (raisesLetter_iff.mpr rfl) fun s n rest split => ?_
    cases s <;> cases split
  | cons c rest ih =>
    by_cases letter : isLetter c = true
    · have initial := isInitial_iff_letter_or_figure.mpr (.inl letter)
      refine iff_of_true (raisesLetter_iff.mpr ?_) (figuresSettled_of_letter letter)
      rw [capitalize, if_pos initial, capitalizeLetter, if_pos letter]
    · by_cases figure : isFigure c = true
      · have initial := isInitial_iff_letter_or_figure.mpr (.inr figure)
        rw [figuresSettled_figure_iff figure, ← capitalOf_eq_self_iff, raisesLetter_iff,
          raisesLetter_iff, capitalize, if_pos initial, capitalizeLetter, if_neg letter,
          List.cons_eq_cons]
      · have passed : isInitial c = false := Bool.eq_false_iff.mpr fun initial =>
          (isInitial_iff_letter_or_figure.mp initial).elim letter figure
        rw [figuresSettled_cons_iff passed, ← ih, raisesLetter_iff, raisesLetter_iff, capitalize,
          if_neg (Bool.eq_false_iff.mp passed), capitalizeLetter, if_neg letter, List.cons_eq_cons]
        exact and_iff_right rfl

end

/-- **When the first letter gets the capital.** Letters and figures count in the search, and decimal
digits, the underscore and combining marks never do. So the first letter gets the capital exactly if
no figure is met before it, or else the figure and the letter are their own capitals already. -/
theorem capital_reaches_letter_iff (t : Text) :
    (∀ c, isInitial c = true ↔ isLetter c = true ∨ isFigure c = true) ∧
    (∀ c, isDecimal c = true ∨ c = .char '_' ∨ isMark c = true → isInitial c = false) ∧
    (RaisesLetter t t.capitalize ↔ FiguresSettled t) := by
  refine ⟨fun c => isInitial_iff_letter_or_figure, fun c continuing => ?_,
    raisesLetter_capitalize_iff⟩
  rcases continuing with decimal | underscore | mark
  · exact isInitial_of_continuing (.inl decimal)
  · exact isInitial_of_continuing (.inr underscore)
  · exact isInitial_of_isMark mark

/-- A superscript takes the capital of the letter behind it. -/
theorem superscript_takes_capital :
    capitalize "\u00B2 ogres" = "\u00B2 ogres" ∧
    ¬∀ t, RaisesLetter t t.capitalize := by
  have kept : capitalize "\u00B2 ogres" = "\u00B2 ogres" := by decide +kernel
  refine ⟨kept, fun always => ?_⟩
  have raised := ((always "\u00B2 ogres").lettered "\u00B2 " (.char 'o') "gres" rfl (by decide)
    (by decide)).1 (.char 'O') (.title (by decide))
  rw [kept] at raised
  exact absurd raised (by decide)

end Narration.Text
