import Narration.Proofs.Blanks
import Narration.Proofs.Courses

/-! # Labels of persons

Which labels stand for which person is said first without a word about how they are read: one that
is the person, a number that equals its number, a text of decimal digits with this value, and its
name in any letter case. A label is accepted exactly for the person that it stands for, and what
stands for none is refused in one way, unless it cannot be written out. White space around a name
never counts. Around digits that is so of all white space but the four information separators. -/
namespace Narration

/-- A label that is accepted for what it denotes, and otherwise refused in one way only, is refused
if it denotes nothing. -/
theorem Label.refused_iff {α : Type} {reading : Except Refusal α} {Denotes : α → Prop}
    {refusal r : Refusal} (accepts : ∀ x, reading = .ok x ↔ Denotes x)
    (refuses : ∀ r, reading = .error r → r = refusal) :
    reading = .error r ↔ r = refusal ∧ ∀ x, ¬Denotes x := by
  constructor
  · intro refused
    refine ⟨refuses r refused, fun x denotes => ?_⟩
    rw [(accepts x).mpr denotes] at refused
    cases refused
  · intro stranger
    cases reading with
    | ok x => exact absurd ((accepts x).mp rfl) (stranger.2 x)
    | error r' => rw [stranger.1, refuses r' rfl]

namespace Person

/-- The labels that stand for a person. Digits of any script will do, with zeros before them and
white space around, but with no separator anywhere and not beyond the length that is read. -/
inductive Denotes : Label → Person → Prop
  | itself (p : Person) : Denotes (.person p) p
  | int (p : Person) : Denotes (.datum (.int p.number)) p
  | float (p : Person) : Denotes (.datum (.float (.finite false (p.number * Binary64.one)))) p
  | digits {t : Text} {p : Person} (nonempty : t.strip ≠ [])
      (decimal : ∀ c ∈ t.strip, Text.isDecimal c = true)
      (plain : ∀ c ∈ t, Text.isSeparator c = false) (short : t.strip.length ≤ Text.digitLimit)
      (value : Text.valueOf t.strip = p.number) : Denotes (.datum (.text t)) p
  | name {t : Text} {p : Person} (spelled : Text.upper t.strip = p.name) :
      Denotes (.datum (.text t)) p

section

variable {p : Person} {t : Text}

/-! ## Numbers -/

theorem ofNumber?_eq_some_iff {n : Int} : ofNumber? n = some p ↔ n = p.number := by
  constructor
  · intro found
    have equal := List.find?_some found
    exact (eq_of_beq equal).symm
  · intro equal
    rw [equal, ofNumber?_number]

theorem number_pos (p : Person) : 0 < p.number := by cases p <;> decide

/-- The floating point numbers that equal the number of a person. -/
theorem integer?_bind_eq_some_iff {x : Binary64} :
    x.integer?.bind ofNumber? = some p ↔ x = .finite false (p.number * Binary64.one) := by
  have positive : 0 < Binary64.one := by decide +kernel
  constructor
  · intro read
    obtain ⟨n, whole, found⟩ := Option.bind_eq_some_iff.mp read
    rw [ofNumber?_eq_some_iff] at found
    cases x with
    | nan => cases whole
    | infinite negative => cases whole
    | finite negative units =>
      rw [Binary64.integer?, Option.ite_none_right_eq_some] at whole
      obtain ⟨exact, value⟩ := whole
      have sum := Nat.div_add_mod units Binary64.one
      rw [Option.some.injEq, found] at value
      cases negative with
      | true =>
        have size := p.number_pos
        have quotient := Int.natCast_nonneg (units / Binary64.one)
        rw [if_pos rfl] at value
        omega
      | false =>
        have quotient : units / Binary64.one = p.number := by
          rw [if_neg Bool.false_ne_true] at value
          exact Int.ofNat_inj.mp value
        rw [exact, quotient, Nat.add_zero, Nat.mul_comm] at sum
        rw [sum]
  · intro equal
    have read : x.integer? = some (p.number : Int) := by
      rw [equal, Binary64.integer?, if_pos (Nat.mul_mod_left _ _), if_neg Bool.false_ne_true,
        Nat.mul_div_cancel _ positive]
    rw [read, Option.bind_some, ofNumber?_number]

/-! ## Texts -/

theorem ofName?_eq_some_iff : ofName? t = some p ↔ t = p.name := by
  constructor
  · intro found
    have equal := List.find?_some found
    exact (eq_of_beq equal).symm
  · intro equal
    rw [equal, ofName?_name]

theorem isDigit_of_mem_head?_name : ∀ c ∈ p.name.head?, Text.isDigit c = false := by
  cases p <;> decide

/-- Digits are no name, as upper case leaves the first of them in its place. -/
theorem upper_ne_name (digits : ∀ c ∈ t, Text.isDigit c = true) : Text.upper t ≠ p.name := by
  intro same
  cases t with
  | nil => cases p <;> cases same
  | cons c rest =>
    have first : Text.isDigit c = true := digits c List.mem_cons_self
    have upper : Text.upper (c :: rest) = c :: Text.upper rest := by
      rw [Text.upper, List.flatMap_cons, Text.upperOf_of_isDigit first]
      rfl
    have head : p.name.head? = some c := by rw [← same, upper, List.head?_cons]
    rw [isDigit_of_mem_head?_name c head] at first
    cases first

section

variable (nonempty : t.strip ≠ []) (digits : ∀ c ∈ t.strip, Text.isDigit c = true)

include nonempty digits

theorem ofText?_of_number {n : Int} (number : Text.readInt t = .ok n) :
    ofText? t = ofNumber? n := by
  rw [ofText?, if_pos (by simpa using And.intro nonempty digits), number]

theorem ofText?_of_no_number {e : Text.IntegerError} (number : Text.readInt t = .error e) :
    ofText? t = none := by
  rw [ofText?, if_pos (by simpa using And.intro nonempty digits), number]

theorem ofText?_digits : ofText? t = some p ↔ Denotes (.datum (.text t)) p := by
  have reads {n : Int} := Text.readInt_eq_ok_iff nonempty digits (n := n)
  constructor
  · intro found
    cases number : Text.readInt t with
    | error e =>
      rw [ofText?_of_no_number nonempty digits number] at found
      cases found
    | ok n =>
      rw [ofText?_of_number nonempty digits number] at found
      obtain ⟨decimal, plain, short, value⟩ := reads.mp number
      have equal : n = p.number := ofNumber?_eq_some_iff.mp found
      exact .digits nonempty decimal plain short (Int.ofNat_inj.mp (value.symm.trans equal))
  · intro denotes
    cases denotes with
    | digits _ decimal plain short value =>
      have number := reads.mpr ⟨decimal, plain, short, rfl⟩
      rw [ofText?_of_number nonempty digits number, value]
      exact ofNumber?_number p
    | name spelled => exact absurd spelled (upper_ne_name digits)

end

theorem ofText?_eq_some_iff : ofText? t = some p ↔ Denotes (.datum (.text t)) p := by
  by_cases digital : t.strip ≠ [] ∧ ∀ c ∈ t.strip, Text.isDigit c = true
  · exact ofText?_digits digital.1 digital.2
  · have read : ofText? t = ofName? (Text.upper t.strip) := by
      rw [ofText?, if_neg]
      simpa using digital
    rw [read, ofName?_eq_some_iff]
    constructor
    · intro spelled
      exact .name spelled
    · intro denotes
      cases denotes with
      | digits nonempty decimal _ _ _ =>
        exact absurd ⟨nonempty, fun c hc => Text.isDigit_of_isDecimal (decimal c hc)⟩ digital
      | name spelled => exact spelled

end

/-! ## Labels -/

theorem ofDatum?_eq_some_iff {d : Datum} {p : Person} :
    ofDatum? d = some p ↔ Denotes (.datum d) p := by
  cases d with
  | int n =>
    rw [ofDatum?, ofNumber?_eq_some_iff]
    constructor
    · intro equal
      rw [equal]
      exact .int p
    · intro denotes
      cases denotes
      rfl
  | float x =>
    rw [ofDatum?, integer?_bind_eq_some_iff]
    constructor
    · intro equal
      rw [equal]
      exact .float p
    · intro denotes
      cases denotes
      rfl
  | text t => exact ofText?_eq_some_iff
  | null | bool | list | object =>
    constructor
    · intro found
      cases found
    · intro denotes
      cases denotes

section

variable [Host] {l : Label}

theorem ofLabel_eq_ok_iff : ofLabel l = .ok p ↔ Denotes l p := by
  cases l with
  | person q =>
    constructor
    · intro same
      cases same
      exact .itself p
    · intro denotes
      cases denotes
      rfl
  | gender g => exact ⟨fun same => (nomatch same), fun denotes => (nomatch denotes)⟩
  | datum d =>
    rw [← ofDatum?_eq_some_iff, ofLabel]
    cases ofDatum? d <;> simp

/-- What stands for a person can be written out. -/
theorem Denotes.written (denotes : Denotes l p) : l.hindrance? = none :=
  Reads.written ⟨p, ofLabel_eq_ok_iff.mpr denotes⟩

/-- What is refused is refused as it was given, unless it cannot be written out. -/
theorem eq_of_refused {r : Refusal} (h : ofLabel l = .error r) :
    r = (Breach.person l).refusal l.hindrance? := by
  by_cases reads : Reads l
  · obtain ⟨p, accepted⟩ := reads
    rw [accepted] at h
    cases h
  · rw [ofLabel_of_not_reads reads] at h
    exact (Except.error.inj h).symm

theorem ofLabel_eq_error_iff {r : Refusal} : ofLabel l = .error r ↔
    r = (Breach.person l).refusal l.hindrance? ∧ ∀ p, ¬Denotes l p :=
  Label.refused_iff (fun _ => ofLabel_eq_ok_iff) fun _ => eq_of_refused

theorem ofLabel_eq_breach_iff {b : Breach} : ofLabel l = .error (.breach b) ↔
    b = .person l ∧ l.hindrance? = none ∧ ∀ p, ¬Denotes l p := by
  rw [ofLabel_eq_error_iff, eq_comm, Breach.refusal_eq_breach, and_assoc, eq_comm]

/-- Whatever cannot be written out is refused for this reason. -/
theorem ofLabel_eq_unwritten_iff {h : Hindrance} :
    ofLabel l = .error (.unwritten h) ↔ l.hindrance? = some h := by
  rw [ofLabel_eq_error_iff, eq_comm, Breach.refusal_eq_unwritten]
  refine and_iff_left_of_imp fun hindered p denotes => ?_
  cases hindered.symm.trans denotes.written

/-- **Labels are read as what they stand for.** A label is accepted for the person that it stands
for and for no other. One that stands for none is refused as it was given if it can be written out,
and else for what keeps it from being written, and nothing else is refused. -/
theorem ofLabel_decides_denotes (l : Label) :
    (∀ p, ofLabel l = .ok p ↔ Denotes l p) ∧
    (∀ b, ofLabel l = .error (.breach b) ↔
      b = .person l ∧ l.hindrance? = none ∧ ∀ p, ¬Denotes l p) ∧
    ∀ h, ofLabel l = .error (.unwritten h) ↔ l.hindrance? = some h :=
  ⟨fun _ => ofLabel_eq_ok_iff, fun _ => ofLabel_eq_breach_iff, fun _ => ofLabel_eq_unwritten_iff⟩

end

/-- Not every label that stands for no person is refused as it was given. A whole number with a
digit too many is refused for its length. -/
theorem long_number_is_no_breach :
    let l : Label := .datum (.int (Nat.pow 10 Text.digitLimit : Nat))
    ofLabel l = .error (.unwritten .tooLong) ∧
    ¬∀ (l : Label) (r : Refusal), ofLabel l = .error r → r = .breach (.person l) := by
  intro l
  have refused : ofLabel l = .error (.unwritten .tooLong) :=
    ofLabel_eq_unwritten_iff.mpr (Label.hindrance?_long rfl)
  exact ⟨refused, fun every => nomatch every l _ refused⟩

/-! ## White space -/

/-- Stripping makes a label of decimal digits with a separator around them and changes nothing
else. -/
theorem denotes_strip {t : Text} {p : Person} : Denotes (.datum (.text t)) p ↔
    Denotes (.datum (.text t.strip)) p ∧
      ((∀ c ∈ t.strip, Text.isDecimal c = true) → ∀ c ∈ t, Text.isSeparator c = false) := by
  constructor
  · intro denotes
    cases denotes with
    | digits nonempty decimal plain short value =>
      rw [← Text.strip_strip] at nonempty decimal short value
      have inner : ∀ c ∈ t.strip, Text.isSeparator c = false :=
        fun c hc => plain c (Text.mem_of_mem_strip hc)
      exact ⟨.digits nonempty decimal inner short value, fun _ => plain⟩
    | name spelled =>
      have decimal : ¬∀ c ∈ t.strip, Text.isDecimal c = true := fun decimal =>
        upper_ne_name (fun c hc => Text.isDigit_of_isDecimal (decimal c hc)) spelled
      rw [← Text.strip_strip] at spelled
      exact ⟨.name spelled, fun digits => absurd digits decimal⟩
  · intro stripped
    cases stripped.1 with
    | digits nonempty decimal _ short value =>
      rw [Text.strip_strip] at nonempty decimal short value
      exact .digits nonempty decimal (stripped.2 decimal) short value
    | name spelled =>
      rw [Text.strip_strip] at spelled
      exact .name spelled

end Person

theorem Gender.ofText?_strip (t : Text) : ofText? t.strip = ofText? t := by
  rw [ofText?, Text.strip_strip, ofText?]

/-- **What white space around a label does.** A text is a label of a gender whether or not it is
stripped. So it is of a person, but for decimal digits from which stripping takes a separator: they
are a label only when they have been stripped. -/
theorem strip_keeps_labels [Host] (t : Text) :
    (∀ g, Gender.ofLabel (.datum (.text t)) = .ok g ↔
      Gender.ofLabel (.datum (.text t.strip)) = .ok g) ∧
    ∀ p, Person.ofLabel (.datum (.text t)) = .ok p ↔
      Person.ofLabel (.datum (.text t.strip)) = .ok p ∧
        ((∀ c ∈ t.strip, Text.isDecimal c = true) → ∀ c ∈ t, Text.isSeparator c = false) := by
  refine ⟨fun g => ?_, fun p => ?_⟩
  · rw [Gender.ofLabel_text, Gender.ofLabel_text, Gender.ofText?_strip]
    cases Gender.ofText? t <;> simp
  · rw [Person.ofLabel_eq_ok_iff, Person.ofLabel_eq_ok_iff]
    exact Person.denotes_strip

/-- Some white space around a label counts. The digit two with a separator before it stands for no
person, though stripping leaves the digit. -/
theorem separator_spoils_digit :
    let t : Text := "\x1c2"
    t.strip = ("2" : Text) ∧ Person.ofLabel (.datum (.text "2")) = .ok .second ∧
    Person.ofLabel (.datum (.text t)) = .error (.breach (.person (.datum (.text t)))) ∧
    ¬∀ t : Text, (∀ g, Gender.ofLabel (.datum (.text t)) = .ok g ↔
        Gender.ofLabel (.datum (.text t.strip)) = .ok g) ∧
      ∀ p, Person.ofLabel (.datum (.text t)) = .ok p ↔
        Person.ofLabel (.datum (.text t.strip)) = .ok p := by
  intro t
  have stripped : t.strip = ("2" : Text) := by decide
  have second : Person.ofLabel (.datum (.text "2")) = .ok .second := rfl
  have refused : Person.ofLabel (.datum (.text t)) =
      .error (.breach (.person (.datum (.text t)))) := rfl
  refine ⟨stripped, second, refused, fun every => ?_⟩
  have accepted := ((every t).2 .second).mpr (by rw [stripped, second])
  rw [refused] at accepted
  cases accepted

end Narration
