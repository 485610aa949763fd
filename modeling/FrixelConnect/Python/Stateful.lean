import Mathlib.Logic.Basic

/-!
# Code with a state and exceptions

A statement that raises leaves the state as the statements before it have made it.
-/

namespace Python

/-- Code over the state `σ` that may raise an `ε`. -/
abbrev Stateful (ε σ : Type) := ExceptT ε (StateM σ)

namespace Stateful

variable {ε σ α β : Type} {p : Stateful ε σ α} {f : α → Stateful ε σ β} {h : ε → Stateful ε σ α}
  {s s' : σ} {a : α} {e : ε}

/-- The result of the code and the state after it. -/
def exec (p : Stateful ε σ α) (s : σ) : Except ε α × σ := p.run.run s

@[simp] theorem exec_pure : (pure a : Stateful ε σ α).exec s = (.ok a, s) := rfl

@[simp] theorem exec_get : (getThe σ : Stateful ε σ σ).exec s = (.ok s, s) := rfl

@[simp] theorem exec_set : (set s' : Stateful ε σ PUnit).exec s = (.ok ⟨⟩, s') := rfl

@[simp] theorem exec_modify (g : σ → σ) :
    (modify g : Stateful ε σ PUnit).exec s = (.ok ⟨⟩, g s) := rfl

@[simp] theorem exec_liftExcept (r : Except ε α) :
    (liftExcept r : Stateful ε σ α).exec s = (r, s) := by
  cases r with
  | ok a => rfl
  | error e => rfl

/-- What follows code that gives a value. -/
theorem exec_bind_ok (h : p.exec s = (.ok a, s')) : (p >>= f).exec s = (f a).exec s' := by
  have h : p.run.run s = (.ok a, s') := h
  rw [exec, ExceptT.run_bind, StateT.run_bind, h]
  rfl

/-- Nothing follows code that raises. -/
theorem exec_bind_error (h : p.exec s = (.error e, s')) :
    (p >>= f).exec s = (.error e, s') := by
  have h : p.run.run s = (.error e, s') := h
  rw [exec, ExceptT.run_bind, StateT.run_bind, h]
  rfl

/-- The two ways in which code goes on. -/
theorem exec_bind : (p >>= f).exec s = match p.exec s with
    | (.ok a, s') => (f a).exec s'
    | (.error e, s') => (.error e, s') := by
  split
  · next h => exact exec_bind_ok h
  · next h => exact exec_bind_error h

/-- What the result says, where a value that needs no state is computed first. -/
theorem fst_bind_liftExcept {γ : Type} (g : β → γ) (r : Except ε α) :
    (((liftExcept r : Stateful ε σ α) >>= f).exec s).1.map g =
      r.bind fun a => ((f a).exec s).1.map g := by
  cases r with
  | ok a => rfl
  | error e => rfl

theorem exec_tryCatch : (tryCatch p h).exec s = match p.exec s with
    | (.ok a, s') => (.ok a, s')
    | (.error e, s') => (h e).exec s' := by
  change (ExceptT.tryCatch p h).run.run s = _
  unfold ExceptT.tryCatch exec
  rw [ExceptT.run_mk, StateT.run_bind]
  rcases hp : p.run.run s with ⟨e | a, s'⟩
  · have hp : StateT.run p s = (.error e, s') := hp
    rw [hp]
    rfl
  · have hp : StateT.run p s = (.ok a, s') := hp
    rw [hp]
    rfl

end Stateful

end Python
