import Recast.Error
import Recast.Event

/-!
# Computations that report events and may fail

A traced computation has a list of events and an outcome. The events of a failed one are kept, so
the list is not part of the outcome. Running one computation after another appends their events; if
the first fails, the second adds none.
-/

namespace Recast

structure Traced (α : Type) where
  events : List Event
  outcome : Except GenerationError α

namespace Traced

variable {α β : Type}

instance : Monad Traced where
  pure a := ⟨[], .ok a⟩
  bind x f :=
    match x.outcome with
    | .error e => ⟨x.events, .error e⟩
    | .ok a => ⟨x.events ++ (f a).events, (f a).outcome⟩

/-- Reports one event. -/
def report (event : Event) : Traced Unit :=
  ⟨[event], .ok ()⟩

/-- Stops with an error. -/
def fail (error : GenerationError) : Traced α :=
  ⟨[], .error error⟩

/-- A result that was reached without events. -/
def ofExcept (result : Except GenerationError α) : Traced α :=
  ⟨[], result⟩

/-! ## Events and outcome of each construction -/

@[simp] theorem events_pure (a : α) : (pure a : Traced α).events = [] := rfl

@[simp] theorem outcome_pure (a : α) : (pure a : Traced α).outcome = .ok a := rfl

@[simp] theorem events_report (e : Event) : (report e).events = [e] := rfl

@[simp] theorem outcome_report (e : Event) : (report e).outcome = .ok () := rfl

@[simp] theorem events_fail (e : GenerationError) : (fail e : Traced α).events = [] := rfl

@[simp] theorem outcome_fail (e : GenerationError) : (fail e : Traced α).outcome = .error e := rfl

@[simp] theorem events_ofExcept (r : Except GenerationError α) : (ofExcept r).events = [] := rfl

@[simp] theorem outcome_ofExcept (r : Except GenerationError α) : (ofExcept r).outcome = r := rfl

@[simp] theorem outcome_bind (x : Traced α) (f : α → Traced β) :
    (x >>= f).outcome = x.outcome.bind fun a => (f a).outcome := by
  show (match x.outcome with
    | .error e => (⟨x.events, .error e⟩ : Traced β)
    | .ok a => ⟨x.events ++ (f a).events, (f a).outcome⟩).outcome = _
  cases x.outcome <;> rfl

/-- A computation in two steps succeeds exactly if both steps do. -/
theorem outcome_bind_eq_ok {x : Traced α} {f : α → Traced β} {b : β} :
    (x >>= f).outcome = .ok b ↔ ∃ a, x.outcome = .ok a ∧ (f a).outcome = .ok b := by
  rw [outcome_bind]
  cases h : x.outcome with
  | error e => simp [Except.bind]
  | ok a => simp [Except.bind]

theorem events_bind_ok {x : Traced α} {a : α} (h : x.outcome = .ok a) (f : α → Traced β) :
    (x >>= f).events = x.events ++ (f a).events := by
  show (match x.outcome with
    | .error e => (⟨x.events, .error e⟩ : Traced β)
    | .ok a => ⟨x.events ++ (f a).events, (f a).outcome⟩).events = _
  rw [h]

theorem events_bind_error {x : Traced α} {e : GenerationError} (h : x.outcome = .error e)
    (f : α → Traced β) : (x >>= f).events = x.events := by
  show (match x.outcome with
    | .error e => (⟨x.events, .error e⟩ : Traced β)
    | .ok a => ⟨x.events ++ (f a).events, (f a).outcome⟩).events = _
  rw [h]

end Traced

end Recast
