import Narration.Proofs.Rendering
import Narration.Proofs.Seams

/-! # A name between two passes

The first pass puts in the name of the being that acts, and the second pass reads it. What stands
around the name takes no part in this if it holds no marker and does not go on with the word: no
token begins before the name and reaches into it, and none in the name reaches beyond it. So
the second pass edits the tokens that the name itself holds, and a name without any comes out as it
is. The being acted on has its own name put in last, and nothing reads that. -/
namespace Narration

namespace Template

section

variable {m : Marker} {fill : Token → Text} {t : Text}

theorem substitute_of_not_mem (h : m.char ∉ t) : substitute m fill t = t := by
  have same : substitute m fill (t ++ []) = t ++ substitute m fill [] := substitute_append h []
  simpa using same

/-- A template without tokens stays as it is. -/
theorem substitute_of_no_token (h : ∀ i, tokenAt? m t i = none) : substitute m fill t = t := by
  induction t with
  | nil => rfl
  | cons c rest ih =>
    rw [substitute_literal (h 0), ih fun i => h (i + 1)]

end

end Template

namespace Message

section

variable {u v : Marker} {a b : Text}

/-- The first pass puts the name in, whatever it is. -/
theorem substitute_user (before : u.char ∉ a) (behind : u.char ∉ b) (ends : b.beginsWord = false)
    (fill : Token → Text) :
    Template.substitute u fill (a ++ (u.char :: ((Token.name .user).text ++ b))) =
      a ++ (fill (.name .user) ++ b) := by
  rw [Template.substitute_append before, Template.substitute_token ends,
    Template.substitute_of_not_mem behind]

/-- The second pass reads the name on its own. -/
theorem substitute_around (before : v.char ∉ a) (behind : v.char ∉ b) (ends : b.beginsWord = false)
    (fill : Token → Text) (name : Text) :
    Template.substitute v fill (a ++ (name ++ b)) =
      a ++ (name.edited (Template.edit? v fill name) ++ b) := by
  rw [Template.substitute_append before,
    Template.substitute_append_of_not_torn (Template.not_torn_of_ends ends),
    Template.substitute_of_not_mem behind, Template.substitute_eq_edited]

end

/-- **What becomes of a name.** Between texts without markers, the specific name of the being that
acts comes out with the tokens of the other marker edited that it holds itself, and with nothing
else changed. So it comes out verbatim if it holds no such token, and always if there is no being
acted on. -/
theorem render_edits_name [Host] {s : Settings} {u v : Marker}
    (hu : s.userMarker = [u.char]) (hv : s.targetMarker = [v.char]) {a b : Text}
    (before : u.char ∉ a ∧ v.char ∉ a)
    (behind : u.char ∉ b ∧ v.char ∉ b) (ends : b.beginsWord = false) (general : Text)
    (gender : Gender) (name : Text) (target : BeingSpec) :
    let user : BeingSpec := ⟨.third, general, gender, some name⟩
    let given : Text := a ++ (u.char :: ("user" ++ b))
    let told (target : Option BeingSpec) :=
      (render s user.address (target.map BeingSpec.address) false given).outcome
    told (some target) =
      .ok ⟨a ++ (name.edited (Template.edit? v (target.being.fill target.person) name) ++ b),
        given⟩ ∧
    ((∀ i, Template.tokenAt? v name i = none) →
      told (some target) = .ok ⟨a ++ (name ++ b), given⟩) ∧
    told none = .ok ⟨a ++ (name ++ b), given⟩ := by
  intro user given told
  have hu : Marker.ofDatum (.text s.userMarker) = .ok u := by rw [hu, Marker.ofDatum_char]
  have hv : Marker.ofDatum (.text s.targetMarker) = .ok v := by rw [hv, Marker.ofDatum_char]
  have first : Template.substitute u (user.being.fill user.person) given = a ++ (name ++ b) :=
    substitute_user before.1 behind.1 ends _
  have second := substitute_around before.2 behind.2 ends (target.being.fill target.person) name
  have both : told (some target) =
      .ok ⟨a ++ (name.edited (Template.edit? v (target.being.fill target.person) name) ++ b),
        given⟩ := by
    refine congrArg Run.outcome (render_of_phrase user (some target) ?_ false)
    rw [Option.map_some, phrase_some hu hv, first, second]
  have alone : told none = .ok ⟨a ++ (name ++ b), given⟩ := by
    refine congrArg Run.outcome (render_of_phrase user none ?_ false)
    rw [Option.map_none, phrase_none hu, first]
  refine ⟨both, fun tokenless => ?_, alone⟩
  rw [both, ← Template.substitute_eq_edited, Template.substitute_of_no_token tokenless]

/-- A name with a token of the first marker, a word of the second that is no token, and a marker at
its end. -/
theorem render_edits_name_echo :
    (render {} (BeingSpec.address ⟨.third, "imp", .male, some "@me ~mend~"⟩)
      (some (BeingSpec.address ⟨.third, "owl", .female, none⟩)) false "Hark, @user!").outcome =
      .ok ⟨"Hark, @me ~mend~!", "Hark, @user!"⟩ := by
  refine (render_edits_name (s := {}) (u := ⟨.char '@', rfl⟩) (v := ⟨.char '~', rfl⟩)
    (a := "Hark, ") (b := "!") rfl rfl (by decide) (by decide) rfl "imp" .male "@me ~mend~"
    ⟨.third, "owl", .female, none⟩).2.1 fun i => ?_
  have short : ∀ i < 10, Template.tokenAt? ⟨.char '~', rfl⟩ "@me ~mend~" i = none := by decide
  cases token : Template.tokenAt? ⟨.char '~', rfl⟩ "@me ~mend~" i with
  | none => rfl
  | some k =>
    rw [short i (Template.lt_length_of_tokenAt? token)] at token
    cases token

/-- Not every name comes out verbatim: one that is a token of the second marker is read as such. -/
theorem render_rereads_name :
    ({} : Settings).userMarker = "@" ∧ ({} : Settings).targetMarker = "~" ∧
    (.char '@' ∉ (" waved." : Text) ∧ .char '~' ∉ (" waved." : Text)) ∧
    (" waved." : Text).beginsWord = false ∧
    ¬∀ name : Text,
      (render {} (BeingSpec.address ⟨.third, "imp", .male, some name⟩)
        (some (BeingSpec.address ⟨.third, "goblin", .male, none⟩)) false "@user waved.").outcome =
        .ok ⟨name ++ " waved.", "@user waved."⟩ := by
  refine ⟨rfl, rfl, by decide, rfl, fun verbatim => ?_⟩
  have reread : (render {} (BeingSpec.address ⟨.third, "imp", .male, some "~me"⟩)
      (some (BeingSpec.address ⟨.third, "goblin", .male, none⟩)) false "@user waved.").outcome =
      .ok ⟨"him waved.", "@user waved."⟩ := rfl
  have texts := congrArg (fun outcome => outcome.toOption.map Message.text)
    (reread.symm.trans (verbatim "~me"))
  exact absurd texts (by decide)

end Message
end Narration
