import Narration.Proofs.Courses
import Narration.Proofs.Passes
import Narration.Proofs.Verbatim

/-! # What a pass leaves over

A pass is read for tokens of its own marker once more. The texts that it puts in could bring tokens
along, and they could complete one with a marker or a word that stands in front of them. Where
neither can happen, nothing is left for a second pass, whatever being and label it is for. -/
namespace Narration

namespace Template

section

variable {m : Marker} {fill : Token → Text} {t : Text}

/-- What carries the induction is that every rest of a template keeps its tokens apart from its
markers. -/
theorem tokenAt?_substitute (clean : ∀ k, m.char ∉ fill k) (apart : Apart m m t) (i : Nat) :
    tokenAt? m (substitute m fill t) i = none := by
  induction t using scan_induction (· = m) generalizing i with
  | nil => exact tokenAt?_nil i
  | literal c rest literal ih =>
    have none := literal m rfl
    rw [substitute_literal none]
    cases i with
    | zero => exact (tokenAt?_cons_substitute apart).trans none
    | succ i => exact ih apart.of_cons i
  | token m' k rest same ends ih =>
    subst same
    rw [substitute_token ends]
    rcases Nat.lt_or_ge i (fill k).length with within | behind
    · refine tokenAt?_eq_none fun marker => clean k ?_
      rw [List.getElem?_append_left within] at marker
      exact List.mem_of_getElem? marker
    · obtain ⟨i, rfl⟩ := Nat.exists_eq_add_of_le behind
      rw [tokenAt?_append]
      exact ih (apart.of_append (s := m'.char :: k.text)) i

theorem occurrences_eq_nil (h : ∀ i, tokenAt? m t i = none) : occurrences m t = [] := by
  refine List.eq_nil_iff_forall_not_mem.mpr fun ⟨i, j, k⟩ found => ?_
  obtain ⟨n, _, _, token⟩ := mem_found.mp found
  exact nomatch (h n).symm.trans token

end

end Template

namespace Phrasing

/-- **A pass leaves nothing to a second one.** If no text of a being holds the marker and no token
stands where a marker and the word behind it end, there is no token left in the text that a pass
gives. Any further pass under this marker that goes on with its label gives the same text again. -/
theorem phrase_leaves_no_token [Host] {l : Label} {p : Person}
    (accepted : Person.ofLabel l = .ok p) (strict : Bool) (m : Marker) (b : Being) (t : Text)
    (clean : ∀ k, m.char ∉ b.fill p k)
    (apart : ∀ i k, Template.tokenAt? m t i = some k → t.behind? i ≠ some m.char) :
    ∃ out, phrase strict (.text [m.char]) ⟨l, b⟩ t = .ok out ∧
      occurrences (.text [m.char]) (.text out) = .ok [] ∧
      ∀ strict' a, Takes strict' a.person →
        phrase strict' (.text [m.char]) a out = ⟨doubts strict' [m.char] a, .ok out⟩ := by
  have left := Template.tokenAt?_substitute clean apart
  refine ⟨_, phrase_of_accepted m.ofDatum_char accepted strict b t, ?_, fun strict' a settled => ?_⟩
  · simp [occurrences, Marker.ofDatum_char, Template.occurrences_eq_nil left]
  · rw [phrase_meant settled, Template.substitute_of_no_token left]

/-- A marker on its own and one before a word that is no token, a name that would complete this word
to one, and a second pass for a label that is none. -/
theorem phrase_leaves_no_token_lone :
    let owl : Being := ⟨"owl", .female, some "e"⟩
    (∀ k, .char '@' ∉ owl.fill .third k) ∧
    phrase true (.text "@") ⟨.datum (.int 3), owl⟩ "@ @user, @m @my ~me" =
      .ok "@ e, @m her ~me" ∧
    occurrences (.text "@") (.text "@ e, @m her ~me") = .ok [] ∧
    phrase false (.text "@") ⟨.datum .null, owl⟩ "@ e, @m her ~me" =
      ⟨[.personOutOfRange "None"], .ok "@ e, @m her ~me"⟩ := by
  intro owl
  have clean : ∀ k, .char '@' ∉ owl.fill .third k := by
    rintro (n | f)
    · cases n <;> decide
    · cases f <;> decide
  have apart : ∀ i k, Template.tokenAt? ⟨.char '@', rfl⟩ "@ @user, @m @my ~me" i = some k →
      Text.behind? "@ @user, @m @my ~me" i ≠ some (.char '@') := by
    have all : ∀ i < 19, (Template.tokenAt? ⟨.char '@', rfl⟩ "@ @user, @m @my ~me" i).isSome →
        Text.behind? "@ @user, @m @my ~me" i ≠ some (.char '@') := by decide
    intro i k hk
    exact all i (Template.lt_length_of_tokenAt? hk) (by rw [hk]; rfl)
  obtain ⟨out, first, none, again⟩ := phrase_leaves_no_token (l := .datum (.int 3)) rfl true
    ⟨.char '@', rfl⟩ owl _ clean apart
  have text : phrase true (.text "@") ⟨.datum (.int 3), owl⟩ "@ @user, @m @my ~me" =
      .ok "@ e, @m her ~me" := rfl
  obtain rfl : out = "@ e, @m her ~me" :=
    Except.ok.inj (congrArg Run.outcome (first.symm.trans text))
  exact ⟨clean, text, none, again false ⟨.datum .null, owl⟩ (.inr ⟨rfl, rfl⟩)⟩

/-- A marker directly before a token is not kept apart from it. -/
example : phrase true (.text "@") ⟨.person .first, ⟨"owl", .female, none⟩⟩ "@@I" = .ok "@I" := rfl

end Phrasing
end Narration
