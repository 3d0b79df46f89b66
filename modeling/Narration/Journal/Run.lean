import Narration.Journal.Event

/-! # Runs

A run ends with a result or an error, and in both cases has reported events on its way. What was
reported before an error stays reported. An event is reported once it is handed to the journal,
whatever becomes of it there. -/
namespace Narration

structure Run (ε α : Type) where
  events : List Event
  outcome : Except ε α

namespace Run

variable {ε ε' α β : Type}

def ok (a : α) : Run ε α := ⟨[], .ok a⟩

def fail (e : ε) : Run ε α := ⟨[], .error e⟩

def emit (e : Event) : Run ε Unit := ⟨[e], .ok ()⟩

def ofExcept (x : Except ε α) : Run ε α := ⟨[], x⟩

/-- One run after another, unless the first ends with an error. -/
def andThen (r : Run ε α) (next : α → Run ε β) : Run ε β :=
  match r.outcome with
  | .error e => ⟨r.events, .error e⟩
  | .ok a => ⟨r.events ++ (next a).events, (next a).outcome⟩

instance : Monad (Run ε) where
  pure := ok
  bind := andThen

/-- The same run with its error seen as another kind of error. -/
def mapError (f : ε → ε') (r : Run ε α) : Run ε' α :=
  ⟨r.events, match r.outcome with
    | .error e => .error (f e)
    | .ok a => .ok a⟩

/-- The same run, which reports its error as a last event, if it ends with one that is reported. -/
def reporting (event? : ε → Option Event) (r : Run ε α) : Run ε α :=
  match r.outcome with
  | .error e => ⟨r.events ++ (event? e).toList, .error e⟩
  | .ok _ => r

@[simp] theorem pure_eq (a : α) : (pure a : Run ε α) = ok a := rfl

@[simp] theorem bind_eq (r : Run ε α) (next : α → Run ε β) : (r >>= next) = r.andThen next := rfl

@[simp] theorem ok_andThen (a : α) (next : α → Run ε β) : (ok a).andThen next = next a := by
  simp [ok, andThen]

@[simp] theorem fail_andThen (e : ε) (next : α → Run ε β) :
    (fail e : Run ε α).andThen next = fail e := rfl

@[simp] theorem emit_andThen (e : Event) (next : Unit → Run ε β) :
    (emit e).andThen next = ⟨e :: (next ()).events, (next ()).outcome⟩ := by
  simp [emit, andThen]

@[simp] theorem ofExcept_ok (a : α) : (ofExcept (.ok a) : Run ε α) = ok a := rfl

@[simp] theorem ofExcept_error (e : ε) : (ofExcept (.error e) : Run ε α) = fail e := rfl

@[simp] theorem mapError_ok (f : ε → ε') (a : α) : (ok a : Run ε α).mapError f = ok a := rfl

@[simp] theorem mapError_fail (f : ε → ε') (e : ε) :
    (fail e : Run ε α).mapError f = fail (f e) := rfl

@[simp] theorem reporting_ok (event? : ε → Option Event) (a : α) :
    (ok a).reporting event? = ok a := rfl

@[simp] theorem reporting_fail (event? : ε → Option Event) (e : ε) :
    (fail e : Run ε α).reporting event? = ⟨(event? e).toList, .error e⟩ := rfl

end Run
end Narration
