import Mathlib.Data.List.Induction
import Narration.CommandLine.Arguments

/-! # Words that are flags

A flag is taken here with its value in the same word, behind the first equals sign, so that a value
may be of any kind: it may begin with a dash or hold further equals signs. Behind the command such
words are read one by one, and of the values of a flag the last counts. -/
namespace Narration

section

variable {ε ε' α β : Type} {x : Except ε α} {a : α} (h : x = .ok a)

include h

theorem bind_of_ok (next : α → Except ε β) : (x >>= next) = next a := by
  rw [h]
  rfl

theorem mapError_of_ok (f : ε → ε') : x.mapError f = .ok a := by
  rw [h]
  rfl

end

namespace CommandLine

/-! ## Flags with their values in one word -/

/-- Where dashes are kept, any text is what a flag is given. -/
theorem Given.ofText_of_keeps [Host] (keeps : Host.dropsDashes = false) (t : Text) :
    Given.ofText t = .text t :=
  if_neg fun dropped => Bool.false_ne_true (keeps.symm.trans dropped.1)

def Part.word : Part → Text
  | .person => "person"
  | .name => "name"
  | .gender => "gender"
  | .specific => "specific"

def Key.longName : Key → Text
  | .template => "--template"
  | .input => "--input"
  | .user p => "--user-" ++ p.word
  | .target p => "--target-" ++ p.word
  | .noCapitalize => "--no-capitalize"

/-- A flag as one word. The flag without a value is its name. -/
def flagWord : Key × Text → Text
  | (.noCapitalize, _) => Key.longName .noCapitalize
  | (key, value) => key.longName ++ "=" ++ value

/-- What a flag in one word is given. -/
def flagGiven [Host] : Key × Text → Key × Given
  | (.noCapitalize, _) => (.noCapitalize, .nothing)
  | (key, value) => (key, .ofText value)

/-- The value that a flag is given last. -/
def last? (flags : List (Key × Text)) (key : Key) : Option Text := flags.reverse.lookup key

theorem splitEquals_fst (word : Text) :
    (splitEquals word).1 = word.takeWhile (· != .char '=') := by
  unfold splitEquals
  dsimp only
  split <;> rfl

theorem splitEquals_append {name : Text} (plain : CodePoint.char '=' ∉ name) (value : Text) :
    splitEquals (name ++ "=" ++ value) = (name, some value) := by
  have before : (name ++ "=" ++ value : Text).takeWhile (· != .char '=') = name := by
    rw [List.append_assoc, List.takeWhile_append_of_pos]
    · exact List.append_nil name
    · intro c mem
      exact bne_iff_ne.mpr fun same => plain (same ▸ mem)
  unfold splitEquals
  dsimp only
  rw [before, List.append_assoc, List.drop_left]
  rfl

/-- A name with a value behind it is read as the flag of that name, if no name has an equals sign
in it. -/
theorem FlagTable.read_attached {κ : Type} {table : FlagTable κ} {name : Text} {f : Flag κ}
    (marked : name.head? = some table.mark) (plain : ∀ p ∈ table.named, .char '=' ∉ p.1)
    (known : table.named.lookup name = some f) (value : Text) :
    table.read (name ++ "=" ++ value) = .ok (.flag f (table.isShort name) (some value)) := by
  obtain ⟨before, behind, cut, _⟩ := List.lookup_eq_some_iff.mp known
  have split := splitEquals_append (plain (name, f) (by simp [cut])) value
  obtain ⟨rest, rfl⟩ : ∃ rest, name = table.mark :: rest := by
    cases name with
    | nil => cases marked
    | cons c rest => exact ⟨rest, by rw [Option.some.inj marked]⟩
  have equals : CodePoint.char '=' ∈ (table.mark :: rest ++ "=" ++ value : Text) := by
    simp [Text.ofString]
  have unlisted : table.named.lookup (table.mark :: rest ++ "=" ++ value : Text) = none := by
    refine List.lookup_eq_none_iff.mpr fun p listed => bne_iff_ne.mpr fun same => ?_
    rw [same] at equals
    exact plain p listed equals
  have long : (table.mark :: rest ++ "=" ++ value : Text).length ≠ 1 := by
    simp [Text.ofString]
  have dash : ¬(table.mark :: rest ++ "=" ++ value : Text).head? ≠ some table.mark := by simp
  unfold FlagTable.read
  rw [if_neg dash, unlisted]
  dsimp only
  rw [if_neg long, split]
  dsimp only
  rw [known]

theorem renderFlags_named (k : Key) : ∃ f, renderFlags.named.lookup k.longName = some f ∧
    f.key = some k ∧ (f.takesValue = true ↔ k ≠ .noCapitalize) ∧
    renderFlags.isShort k.longName = false := by
  cases k with
  | user p => cases p <;> exact ⟨_, rfl, rfl, by decide, rfl⟩
  | target p => cases p <;> exact ⟨_, rfl, rfl, by decide, rfl⟩
  | _ => exact ⟨_, rfl, rfl, by decide, rfl⟩

theorem head?_longName (k : Key) : k.longName.head? = some renderFlags.mark := by
  cases k <;> rfl

/-- No flag of the command has an equals sign in its name. -/
theorem equals_not_mem_named : ∀ p ∈ renderFlags.named, CodePoint.char '=' ∉ p.1 := by decide

/-- **One flag** is read from its word alone. -/
theorem read_flagWord [Host] (f : Key × Text) : ∃ flag short attached,
    renderFlags.read (flagWord f) = .ok (.flag flag short attached) ∧
    renderFlags.open? flag short attached = .ok (.done { flags := [flagGiven f] }) := by
  obtain ⟨key, value⟩ := f
  obtain ⟨flag, known, about, takes, long⟩ := renderFlags_named key
  by_cases bare : key = .noCapitalize
  · subst bare
    exact ⟨⟨some .noCapitalize, ["--no-capitalize"], false⟩, false, none, rfl, rfl⟩
  · have word : flagWord (key, value) = key.longName ++ "=" ++ value := by
      cases key with
      | noCapitalize => exact absurd rfl bare
      | _ => rfl
    have given : flagGiven (key, value) = (key, .ofText value) := by
      cases key with
      | noCapitalize => exact absurd rfl bare
      | _ => rfl
    refine ⟨flag, false, some value, ?_, ?_⟩
    · rw [word, FlagTable.read_attached (head?_longName key) equals_not_mem_named known, long]
    · rw [FlagTable.open?, if_pos (takes.mpr bare), given, Parsed.adding, about]
      rfl

theorem flagWord_ne_separator (f : Key × Text) : flagWord f ≠ "--" := by
  obtain ⟨key, value⟩ := f
  intro same
  have length := congrArg List.length same
  cases key with
  | user p => cases p <;> simp [flagWord, Key.longName, Text.ofString] at length
  | target p => cases p <;> simp [flagWord, Key.longName, Text.ofString] at length
  | _ => simp [flagWord, Key.longName, Text.ofString] at length

/-- **Any number of flags** are read in their order, and nothing else is. -/
theorem parse_flagWords [Host] (flags : List (Key × Text)) : ∃ read,
    renderFlags.readAll (flags.map flagWord) = .ok read ∧
    renderFlags.parse read = .ok { flags := flags.map flagGiven } := by
  induction flags with
  | nil => exact ⟨[], rfl, rfl⟩
  | cons f rest ih =>
    obtain ⟨flag, short, attached, word, opened⟩ := read_flagWord f
    obtain ⟨read, words, parsed⟩ := ih
    refine ⟨(flagWord f, .flag flag short attached) :: read, ?_, ?_⟩
    · rw [List.map_cons, FlagTable.readAll, if_neg (flagWord_ne_separator f), word, words]
      rfl
    · rw [FlagTable.parse, opened]
      dsimp only
      rw [parsed]
      rfl

/-! ## Words in front of the command -/

theorem length_filterMap_pair {α β : Type} {g : α → Option β} {x y : α}
    (h : g x = none ∨ g y = none) : ([x, y].filterMap g).length ≤ 1 := by
  rcases h with first | second
  · rw [List.filterMap_cons_none first]
    exact List.length_filterMap_le g [y]
  · cases first : g x <;> simp [first, second]

/-- A word stands for at most one of the flags before the command: one name has one dash, and the
other two. -/
theorem length_candidates_topFlags (c : CodePoint) (rest : Text) :
    (topFlags.candidates (.char '-' :: c :: rest)).length ≤ 1 := by
  have named : topFlags.named =
      [(Text.ofString "-h", helpFlag), (Text.ofString "--help", helpFlag)] := rfl
  unfold FlagTable.candidates
  rw [named]
  by_cases dash : c = .char '-'
  · subst dash
    have long : topFlags.isShort (.char '-' :: .char '-' :: rest) = false := rfl
    have other : Text.startsWith "-h" (splitEquals (.char '-' :: .char '-' :: rest)).1 = false := by
      simp [splitEquals_fst, Text.startsWith, Text.ofString, List.isPrefixOf_cons_cons]
    have shortens : topFlags.abbreviates = true := rfl
    rw [long, if_neg Bool.false_ne_true, if_pos shortens]
    generalize splitEquals (.char '-' :: .char '-' :: rest) = cut at other ⊢
    obtain ⟨start, value⟩ := cut
    refine length_filterMap_pair (.inl ?_)
    exact if_neg (Bool.eq_false_iff.mp other)
  · have short : topFlags.isShort (.char '-' :: c :: rest) = true := by
      simp [FlagTable.isShort, topFlags, dash]
    have whole : Text.ofString "--help" ≠ (.char '-' :: c :: rest).take 2 := by
      simp [Text.ofString]
    have other : Text.startsWith "--help" (.char '-' :: c :: rest) = false := by
      simp [Text.startsWith, Text.ofString, List.isPrefixOf_cons_cons, dash]
    rw [short, if_pos rfl]
    refine length_filterMap_pair (.inr ?_)
    exact (if_neg whole).trans (if_neg (Bool.eq_false_iff.mp other))

theorem exists_read_topFlags (word : Text) : ∃ r, topFlags.read word = .ok r := by
  unfold FlagTable.read
  split
  · exact ⟨_, rfl⟩
  rename_i marked
  split
  · exact ⟨_, rfl⟩
  split
  · exact ⟨_, rfl⟩
  rename_i long
  dsimp only
  split
  · exact ⟨_, rfl⟩
  have few : (topFlags.candidates word).length ≤ 1 := by
    match word, marked, long with
    | [], marked, _ => exact absurd (nofun) marked
    | [_], _, long => exact absurd rfl long
    | d :: c :: rest, marked, _ =>
      obtain rfl : d = .char '-' := Option.some.inj (not_not.mp marked)
      exact length_candidates_topFlags c rest
  match found : topFlags.candidates word with
  | [] =>
    dsimp only
    split
    · exact ⟨_, rfl⟩
    · exact ⟨_, rfl⟩
  | [(_, r)] => exact ⟨r, rfl⟩
  | _ :: _ :: _ =>
    rw [found] at few
    simp at few

/-- All words can be read before the command is known. -/
theorem exists_readAll_topFlags (words : List Text) :
    ∃ read, topFlags.readAll words = .ok read ∧ read.map (·.1) = words := by
  induction words with
  | nil => exact ⟨[], rfl, rfl⟩
  | cons word rest ih =>
    by_cases separator : word = "--"
    · refine ⟨(word, .separator) :: rest.map fun w => (w, .plain), ?_, ?_⟩
      · rw [FlagTable.readAll, if_pos separator]
      · simp [Function.comp_def]
    · obtain ⟨r, first⟩ := exists_read_topFlags word
      obtain ⟨read, others, words⟩ := ih
      refine ⟨(word, r) :: read, ?_, ?_⟩
      · rw [FlagTable.readAll, if_neg separator, first, others]
        rfl
      · rw [List.map_cons, words]

theorem ofWords_flagWords [Host] (flags : List (Key × Text)) :
    Arguments.ofWords ("render" :: flags.map flagWord) =
      .ok ((flags.map flagGiven).foldl Arguments.set {}) := by
  obtain ⟨top, readTop, words⟩ := exists_readAll_topFlags (flags.map flagWord)
  obtain ⟨read, readFlags, parsed⟩ := parse_flagWords flags
  have all : topFlags.readAll ("render" :: flags.map flagWord) =
      .ok (("render", .plain) :: top) := by
    rw [FlagTable.readAll, if_neg (by decide), show topFlags.read "render" = .ok .plain from rfl,
      readTop]
    rfl
  have rest : command (("render", .plain) :: top) = .ok ([], flags.map flagWord) := by
    rw [command, if_pos rfl, words]
  rw [Arguments.ofWords, bind_of_ok (mapError_of_ok all _), bind_of_ok rest]
  dsimp only
  rw [bind_of_ok (mapError_of_ok readFlags _), bind_of_ok (mapError_of_ok parsed _)]
  rfl

/-! ## What flags say -/

theorem last?_concat (flags : List (Key × Text)) (key : Key) (value : Text) (k : Key) :
    last? (flags ++ [(key, value)]) k = if k = key then some value else last? flags k := by
  unfold last?
  rw [List.reverse_append, List.reverse_singleton, List.singleton_append, List.lookup_cons]
  by_cases same : k = key
  · simp [same]
  · simp [same, beq_eq_false_iff_ne.mpr same]

def BeingArguments.ofGiven (given : Part → Option Given) : BeingArguments :=
  { person := (given .person).getD (.text "3")
    name := given .name
    gender := (given .gender).getD (.text "genderless")
    specific := given .specific }

/-- What flags say, each with the value that it is given last. -/
def Arguments.ofFlags [Host] (flags : List (Key × Text)) : Arguments :=
  let given (key : Key) : Option Given := (last? flags key).map .ofText
  { template := given .template
    input := given .input
    user := .ofGiven fun p => given (.user p)
    target := .ofGiven fun p => given (.target p)
    capitalize := (last? flags .noCapitalize).isNone }

/-- **What is given last counts**, flag by flag. -/
theorem foldl_set [Host] (flags : List (Key × Text)) :
    (flags.map flagGiven).foldl Arguments.set {} = .ofFlags flags := by
  induction flags using List.reverseRecOn with
  | nil => rfl
  | append_singleton flags f ih =>
    obtain ⟨key, value⟩ := f
    rw [List.map_append, List.foldl_append, ih]
    cases key with
    | user p =>
      cases p <;> simp [Arguments.set, flagGiven, Arguments.ofFlags, BeingArguments.ofGiven,
        BeingArguments.set, last?_concat]
    | target p =>
      cases p <;> simp [Arguments.set, flagGiven, Arguments.ofFlags, BeingArguments.ofGiven,
        BeingArguments.set, last?_concat]
    | _ => simp [Arguments.set, flagGiven, Arguments.ofFlags, BeingArguments.ofGiven, last?_concat]

theorem ofWords_flags [Host] (flags : List (Key × Text)) :
    Arguments.ofWords ("render" :: flags.map flagWord) = .ok (.ofFlags flags) := by
  rw [ofWords_flagWords, foldl_set]

end CommandLine
end Narration
