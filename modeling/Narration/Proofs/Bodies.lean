import Narration.Proofs.Checking
import Narration.Proofs.Utf8
import Narration.Web.Body

/-! # Bodies that hold an object

The encoding of a body is told by its first bytes. What is read as an object begins with two
characters of ASCII, so its bytes in UTF-8 are taken for what they are, and the body gives the
object that the text gives. -/
namespace Narration

namespace Json

/-- No word stands for an object. -/
theorem word?_ne_object {t rest : Text} {fields : List (Text × Datum)} :
    word? t ≠ some (.object fields, rest) := by
  intro h
  obtain ⟨⟨w, d⟩, hw, hd⟩ := List.exists_of_findSome?_eq_some h
  obtain ⟨r, _, he⟩ := Option.map_eq_some_iff.mp hd
  cases he
  simp [words] at hw

theorem number_ne_object {total : Nat} {start t rest : Text} {negative : Bool}
    {fields : List (Text × Datum)} :
    number total start negative t ≠ .ok (.object fields, rest) := by
  unfold number
  intro h
  dsimp only at h
  repeat' split at h
  all_goals cases h

/-- Objects begin with a brace, and either end at once or go on with a name. -/
theorem value_object {total fuel depth : Nat} {t rest : Text} {fields : List (Text × Datum)}
    (h : value total fuel depth t = .ok (.object fields, rest)) :
    ∃ u, t = .char '\x7b' :: u ∧
      ((skip u).head? = some (.char '\x7d') ∨ (skip u).head? = some (.char '"')) := by
  unfold value at h
  split at h
  · cases h
  · obtain ⟨⟨s, r⟩, _, h⟩ := bind_eq_ok.mp h
    cases h
  · split at h
    · cases h
    · split at h
      · cases h
      · obtain ⟨⟨items, r⟩, _, h⟩ := bind_eq_ok.mp h
        cases h
  · rename_i u
    refine ⟨u, rfl, ?_⟩
    split at h
    · cases h
    · split at h
      · rename_i hs
        exact .inl (by rw [hs]; rfl)
      · obtain ⟨⟨found, r⟩, hf, _⟩ := bind_eq_ok.mp h
        refine .inr ?_
        unfold Json.fields at hf
        split at hf
        · cases hf
        · rename_i hs
          rw [hs]
          rfl
        · cases hf
  · split at h
    · cases h
      exact absurd ‹_› word?_ne_object
    · exact absurd h number_ne_object
    · exact absurd h number_ne_object

/-- Whether a character is one of ASCII and not the first of them. -/
def IsAscii (c : CodePoint) : Prop := 0 < c.toNat ∧ c.toNat < 0x80

theorem isAscii_of_isSpace {c : CodePoint} (h : isSpace c = true) : IsAscii c := by
  simp only [isSpace, Bool.or_eq_true, beq_iff_eq] at h
  rcases h with ((rfl | rfl) | rfl) | rfl <;> exact ⟨by decide, by decide⟩

/-- White space in front does not matter for the first character being of ASCII. -/
theorem exists_eq_cons_of_skip {t : Text} {c : CodePoint} (h : (skip t).head? = some c)
    (hc : IsAscii c) : ∃ d rest, t = d :: rest ∧ IsAscii d := by
  cases t with
  | nil => cases h
  | cons d rest =>
    refine ⟨d, rest, rfl, ?_⟩
    by_cases hd : isSpace d = true
    · exact isAscii_of_isSpace hd
    · have same : skip (d :: rest) = d :: rest := List.dropWhile_cons_of_neg hd
      rw [same] at h
      cases h
      exact hc

/-- What is read as an object begins with two characters of ASCII. -/
theorem read_object [Host] {t : Text} {fields : List (Text × Datum)}
    (h : read t = .ok (.object fields)) :
    ∃ c d rest, t = c :: d :: rest ∧ IsAscii c ∧ IsAscii d := by
  have brace : IsAscii (.char '\x7b') := ⟨by decide, by decide⟩
  obtain ⟨u, begins, next⟩ : ∃ u, skip t = .char '\x7b' :: u ∧
      ((skip u).head? = some (.char '\x7d') ∨ (skip u).head? = some (.char '"')) := by
    unfold read readWithin at h
    dsimp only at h
    split at h
    · cases h
    · obtain ⟨⟨d, rest⟩, found, h⟩ := bind_eq_ok.mp h
      dsimp only at h
      split at h
      · cases h
        exact value_object found
      · cases h
  have second : ∃ d rest, u = d :: rest ∧ IsAscii d := by
    rcases next with h | h
    · exact exists_eq_cons_of_skip h ⟨by decide, by decide⟩
    · exact exists_eq_cons_of_skip h ⟨by decide, by decide⟩
  cases t with
  | nil => cases begins
  | cons c rest =>
    by_cases hc : isSpace c = true
    · have same : skip (c :: rest) = skip rest := List.dropWhile_cons_of_pos hc
      rw [same] at begins
      obtain ⟨d, rest, rfl, hd⟩ := exists_eq_cons_of_skip (t := rest) (by rw [begins]; rfl) brace
      exact ⟨c, d, rest, rfl, isAscii_of_isSpace hc, hd⟩
    · have same : skip (c :: rest) = c :: rest := List.dropWhile_cons_of_neg hc
      rw [same] at begins
      obtain ⟨rfl, rfl⟩ := List.cons.inj begins
      obtain ⟨d, rest, rfl, hd⟩ := second
      exact ⟨_, d, rest, rfl, brace, hd⟩

end Json

namespace Web

variable [Host] {r : Request} {t : Text} {fields : List (Text × Datum)}

/-- The body gives the object that its text gives. -/
theorem Request.datum_of_object (json : r.isJson = true) (body : r.body = t.utf8)
    (whole : t.isWhole = true) (read : Json.read t = .ok (.object fields)) :
    r.datum = .ok (.object fields) := by
  obtain ⟨c, d, rest, rfl, hc, hd⟩ := Json.read_object read
  unfold datum
  rw [if_pos json, body, Text.ofBytes?_utf8 whole hc hd]
  dsimp only
  rw [read]

theorem Request.rendering_of_object (json : r.isJson = true) (body : r.body = t.utf8)
    (whole : t.isWhole = true) (read : Json.read t = .ok (.object fields)) :
    r.rendering = (RenderRequest.check .attributes (.object fields)).mapError located := by
  have nonempty : r.body ≠ [] := by
    obtain ⟨c, d, rest, rfl, hc, hd⟩ := Json.read_object read
    rw [body]
    intro h
    have : Text.utf8Of c = [UInt8.ofNat c.toNat] := if_pos hc.2
    simp [Text.utf8, this] at h
  unfold rendering
  rw [if_neg nonempty, datum_of_object json body whole read]
  rfl

end Web
end Narration
