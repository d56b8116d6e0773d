import Recast.Host

/-!
# Running a command on a world that is a value

A command is a computation that may fail and leaves a world behind either way.
`perform` gives both, the result and the world, and its equations follow the
way a command is put together, so that no proof about a command opens the
layers of monads.

Much of what is said about a command relates the world before it to the world
after it, whatever its result: nothing has changed, no file is lost. `Leaves`
says so for a relation, and where the relation is reflexive and transitive it
goes from the steps of a command to the whole.
-/

namespace Recast.World

open ExceptT (lift)

variable {ε α β : Type} {x : ExceptT ε (StateM World) α}
  {f : α → ExceptT ε (StateM World) β} {world after : World}

/-- What a computation returns, and the world that it leaves. -/
def perform (x : ExceptT ε (StateM World) α) (world : World) :
    Except ε α × World :=
  x.run world

theorem perform_pure (a : α) :
    perform (pure a : ExceptT ε (StateM World) α) world = (.ok a, world) := rfl

theorem perform_lift (y : StateM World α) :
    perform (lift y : ExceptT ε (StateM World) α) world
      = (.ok (y world).1, (y world).2) := rfl

/-- A failure that is looked at is a result like any other. -/
theorem perform_lift_run {δ : Type} (y : ExceptT δ (StateM World) α) :
    perform (lift y.run : ExceptT ε (StateM World) (Except δ α)) world
      = (.ok (perform y world).1, (perform y world).2) := rfl

theorem perform_change {δ : Type} (g : Disk → Except δ Disk) :
    perform (lift (change g) : ExceptT ε (StateM World) (Except δ Unit)) world
      = match g world.disk with
        | .error e => (.ok (.error e), world)
        | .ok disk => (.ok (.ok ()), { world with disk := disk }) := by
  rw [perform_lift, change]
  cases g world.disk with
  | error e => rfl
  | ok disk => rfl

theorem change_eq_ok {δ : Type} {g : Disk → Except δ Disk} :
    change g world = (.ok (), after) ↔
      ∃ disk, g world.disk = .ok disk ∧ { world with disk := disk } = after := by
  rw [change]
  cases g world.disk with
  | error e => exact ⟨nofun, fun ⟨_, h, _⟩ => nomatch h⟩
  | ok disk =>
      constructor
      · rintro ⟨⟩
        exact ⟨disk, rfl, rfl⟩
      · rintro ⟨_, ⟨⟩, rfl⟩
        rfl

theorem change_eq_error {δ : Type} {g : Disk → Except δ Disk} {e : δ} :
    change g world = (.error e, after) ↔
      g world.disk = .error e ∧ world = after := by
  rw [change]
  cases g world.disk with
  | error e' =>
      constructor
      · rintro ⟨⟩
        exact ⟨rfl, rfl⟩
      · rintro ⟨⟨⟩, rfl⟩
        rfl
  | ok disk => exact ⟨nofun, fun h => nomatch h.1⟩

theorem perform_bind :
    perform (x >>= f) world = match perform x world with
      | (.ok a, between) => perform (f a) between
      | (.error e, between) => (.error e, between) := by
  show ((x.run >>= ExceptT.bindCont f) : StateM World _) world = _
  show ExceptT.bindCont f (perform x world).1 (perform x world).2 = _
  rcases perform x world with ⟨result, between⟩
  cases result with
  | error e => rfl
  | ok a => rfl

theorem perform_bind_eq_ok {b : β} :
    perform (x >>= f) world = (.ok b, after) ↔ ∃ a between,
      perform x world = (.ok a, between) ∧
        perform (f a) between = (.ok b, after) := by
  rw [perform_bind]
  rcases perform x world with ⟨result, between⟩
  cases result with
  | error e => simp
  | ok a =>
      constructor
      · intro h
        exact ⟨a, between, rfl, h⟩
      · rintro ⟨_, _, ⟨⟩, h⟩
        exact h

theorem perform_bind_eq_error {e : ε} :
    perform (x >>= f) world = (.error e, after) ↔
      perform x world = (.error e, after) ∨ ∃ a between,
        perform x world = (.ok a, between) ∧
          perform (f a) between = (.error e, after) := by
  rw [perform_bind]
  rcases perform x world with ⟨result, between⟩
  cases result with
  | error e' => simp
  | ok a =>
      constructor
      · intro h
        exact .inr ⟨a, between, rfl, h⟩
      · rintro (⟨⟨⟩⟩ | ⟨_, _, ⟨⟩, h⟩)
        exact h

theorem perform_pure_eq_ok {a b : α} :
    perform (pure a : ExceptT ε (StateM World) α) world = (.ok b, after) ↔
      a = b ∧ world = after := by
  rw [perform_pure, Prod.mk.injEq, Except.ok.injEq]

theorem perform_lift_eq_ok {y : StateM World α} {a : α} :
    perform (lift y : ExceptT ε (StateM World) α) world = (.ok a, after) ↔
      y world = (a, after) := by
  rw [perform_lift, Prod.mk.injEq, Except.ok.injEq, Prod.ext_iff]

theorem perform_throw_ne_ok {e : ε} {a : α} :
    perform (throw e : ExceptT ε (StateM World) α) world ≠ (.ok a, after) :=
  nofun

theorem exists_error_of_perform (h : (perform x world).1.isOk = false) :
    ∃ e after, perform x world = (.error e, after) := by
  rcases hresult : perform x world with ⟨result, after⟩
  rw [hresult] at h
  cases result with
  | error e => exact ⟨e, after, rfl⟩
  | ok a => cases h

/-! ## What a computation leaves -/

variable {R : World → World → Prop}

/-- The world before is related to the world after, whatever the result. -/
def Leaves (R : World → World → Prop) (x : ExceptT ε (StateM World) α) : Prop :=
  ∀ world, R world (perform x world).2

theorem Leaves.of_perform (h : Leaves R x) {result : Except ε α}
    (hx : perform x world = (result, after)) : R world after := by
  have hleft := h world
  rw [hx] at hleft
  exact hleft

theorem Leaves.pure (hrefl : ∀ world, R world world) (a : α) :
    Leaves R (pure a : ExceptT ε (StateM World) α) :=
  hrefl

theorem Leaves.throw (hrefl : ∀ world, R world world) (e : ε) :
    Leaves R (throw e : ExceptT ε (StateM World) α) :=
  hrefl

/-- A failure that is looked at leaves what it has left. -/
theorem Leaves.run {δ : Type} {y : ExceptT δ (StateM World) α} (h : Leaves R y) :
    Leaves R (lift y.run : ExceptT ε (StateM World) (Except δ α)) :=
  h

theorem Leaves.bind
    (htrans : ∀ {first second third}, R first second → R second third →
      R first third)
    (hx : Leaves R x) (hf : ∀ a, Leaves R (f a)) : Leaves R (x >>= f) := by
  intro world
  have hleft := hx world
  rw [perform_bind]
  rcases hresult : perform x world with ⟨result, between⟩
  rw [hresult] at hleft
  cases result with
  | error e => exact hleft
  | ok a => exact htrans hleft (hf a between)

end Recast.World
