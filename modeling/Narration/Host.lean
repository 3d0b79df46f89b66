/-! # The host

What carries a program out leaves some things open that the program does not decide. They are the
same for all of a run, so they are given once and not to every function. -/
namespace Narration

class Host where
  /-- How deep lists and objects may lie in one another in what is read or written out. Each level
  is one more call under way, so it is what is left of the calls that may be under way at once. -/
  room : Nat
  /-- Whether two dashes that are given to a flag in its own word are dropped. Older hosts do so, and
  newer ones take them as they stand. -/
  dropsDashes : Bool

/-- A host as it comes, with none of its calls under way: there may be a thousand. -/
instance Host.usual : Host := ⟨1000, false⟩

end Narration
