import FrixelConnect.Interleaving.Interpret
import FrixelConnect.Interleaving.Moves

/-!
# Programs of an event loop

A script answers most statements at once. At the others its program waits, and the loop goes on
with another task, until the environment settles the statement. Between two such points a program
runs without interruption.

## Implementation notes

Finished tasks stay in the list. A move that is not possible leaves the state as it is.
-/

namespace Interleaving

variable {S : Type} {R : S → Type} {F E D V W A α β : Type}

/-- How statements are answered, and the handlers of events. -/
structure Script (S : Type) (R : S → Type) (F E D V W A : Type) where
  /-- The answer of a statement, unless the program waits for it. -/
  sync : (s : S) → D → Option (Except E (R s) × D)
  /-- The answer with which the environment can settle a statement that is waited for. -/
  settle : (s : S) → V → D → Option (Except E (R s) × D)
  start : W → D → Option (D × Prog S R F E A)
  /-- The event ends all tasks. -/
  unloads : W → Bool := fun _ => false

/-- The store and all tasks. -/
structure LoopState (S : Type) (R : S → Type) (F E D A : Type) where
  store : D
  tasks : List (Prog S R F E A) := []

/-- A move of the environment: it starts the handler of an event, or settles the statement that a
task waits for. -/
inductive LoopMove (V W : Type) where
  | start (w : W)
  | resume (i : ℕ) (v : V)

/-- Run a program to its end or to the next statement that it waits for. -/
def advance (sync : (s : S) → D → Option (Except E (R s) × D)) :
    Prog S R F E α → D → Prog S R F E α × D
  | .ret r, d => (.ret r, d)
  | .ctl _ k, d => advance sync (k (.ok ())) d
  | .stmt s k, d =>
      match sync s d with
      | some (r, d') => advance sync (k r) d'
      | none => (.stmt s k, d)

namespace Script

variable (Y : Script S R F E D V W A)

def started (w : W) (s : LoopState S R F E D A) : Option (LoopState S R F E D A) :=
  (Y.start w s.store).map fun r =>
    { store := (advance Y.sync r.2 r.1).2
      tasks := (if Y.unloads w then [] else s.tasks) ++ [(advance Y.sync r.2 r.1).1] }

def resumed (i : ℕ) (v : V) (s : LoopState S R F E D A) : Option (LoopState S R F E D A) :=
  match s.tasks[i]? with
  | some (.stmt q k) => (Y.settle q v s.store).map fun r =>
      { store := (advance Y.sync (k r.1) r.2).2
        tasks := s.tasks.set i (advance Y.sync (k r.1) r.2).1 }
  | _ => none

/-- The state after a move. -/
def step (m : LoopMove V W) (s : LoopState S R F E D A) : LoopState S R F E D A :=
  match m with
  | .start w => (Y.started w s).getD s
  | .resume i v => (Y.resumed i v s).getD s

end Script

section Resume

variable {Y : Script S R F E D V W A} {s : LoopState S R F E D A} {i : ℕ} {v : V} {w : W}

/-- The handler of an event that does not end the other tasks. -/
theorem step_start {d : D} {p : Prog S R F E A} (h : Y.start w s.store = some (d, p))
    (hw : Y.unloads w = false) : Y.step (.start w) s =
      { store := (advance Y.sync p d).2, tasks := s.tasks ++ [(advance Y.sync p d).1] } := by
  simp [Script.step, Script.started, h, hw]

/-- The handler of an event that ends them. -/
theorem step_start_unloads {d : D} {p : Prog S R F E A} (h : Y.start w s.store = some (d, p))
    (hw : Y.unloads w = true) : Y.step (.start w) s =
      { store := (advance Y.sync p d).2, tasks := [(advance Y.sync p d).1] } := by
  simp [Script.step, Script.started, h, hw]

theorem step_start_none (h : Y.start w s.store = none) : Y.step (.start w) s = s := by
  simp [Script.step, Script.started, h]

/-- A task goes on with the answer to the statement that it waits for. -/
theorem step_resume {q : S} {k : Except E (R q) → Prog S R F E A} {r : Except E (R q)} {d : D}
    (hi : s.tasks[i]? = some (.stmt q k)) (hq : Y.settle q v s.store = some (r, d)) :
    Y.step (.resume i v) s =
      { store := (advance Y.sync (k r) d).2
        tasks := s.tasks.set i (advance Y.sync (k r) d).1 } := by
  simp [Script.step, Script.resumed, hi, hq]

/-- A task that waits for something that is not there yet does not move. -/
theorem step_resume_none {q : S} {k : Except E (R q) → Prog S R F E A}
    (hi : s.tasks[i]? = some (.stmt q k)) (hq : Y.settle q v s.store = none) :
    Y.step (.resume i v) s = s := by
  simp [Script.step, Script.resumed, hi, hq]

/-- Nor does a task that has ended. -/
theorem step_resume_ret {r : Except E A} (hi : s.tasks[i]? = some (.ret r)) :
    Y.step (.resume i v) s = s := by
  simp [Script.step, Script.resumed, hi]

theorem step_resume_absent (hi : s.tasks[i]? = none) : Y.step (.resume i v) s = s := by
  simp [Script.step, Script.resumed, hi]

end Resume

section Advance

variable {sync : (s : S) → D → Option (Except E (R s) × D)} {d d' : D}

@[simp] theorem advance_ret (r : Except E α) :
    advance sync (.ret r : Prog S R F E α) d = (.ret r, d) := rfl

/-- A statement that is answered at once. -/
theorem advance_exec_bind {s : S} {k : R s → Prog S R F E α} {a : R s}
    (h : sync s d = some (.ok a, d')) :
    advance sync (.exec s >>= k) d = advance sync (k a) d' := by
  change advance sync (.stmt s fun r => (Prog.ret r).handle _) d = _
  rw [advance, h]
  rfl

/-- A statement that the program waits for. -/
theorem advance_wait {s : S} {k : Except E (R s) → Prog S R F E α} (h : sync s d = none) :
    advance sync (.stmt s k) d = (.stmt s k, d) := by
  rw [advance, h]

/-- What follows a program goes on where the program stops. -/
theorem advance_handle (p : Prog S R F E α) (h : Except E α → Prog S R F E β) (d : D) :
    advance sync (p.handle h) d =
      match advance sync p d with
      | (.ret r, d') => advance sync (h r) d'
      | (p', d') => (p'.handle h, d') := by
  induction p generalizing d with
  | ret r => rfl
  | ctl c k ih => exact ih _ d
  | stmt s k ih =>
      simp only [Prog.handle, advance]
      cases hs : sync s d with
      | none => rfl
      | some r => exact ih _ _

/-- A program that does not wait runs to its end. -/
theorem advance_bind {p : Prog S R F E α} {k : α → Prog S R F E β} {a : α}
    (h : advance sync p d = (.ret (.ok a), d')) :
    advance sync (p >>= k) d = advance sync (k a) d' := by
  rw [Prog.bind_eq, Prog.bind, advance_handle, h]

/-- A block that ends with a value, and its handler has nothing to do. -/
theorem advance_tryCatch_ok {p : Prog S R F E α} {h : E → Prog S R F E α} {a : α}
    (hp : advance sync p d = (.ret (.ok a), d')) :
    advance sync (p.tryCatch h) d = (.ret (.ok a), d') := by
  rw [Prog.tryCatch, advance_handle, hp]
  rfl

/-- A loop over programs that do not wait. -/
theorem advance_forEach {b : β → Prog S R F E Unit} {f : D → β → D}
    (h : ∀ x d, advance sync (b x) d = (.ret (.ok ()), f d x)) (l : List β) (d : D) :
    advance sync (Prog.forEach l b) d = (.ret (.ok ()), l.foldl f d) := by
  induction l generalizing d with
  | nil => rfl
  | cons x rest ih =>
      rw [Prog.forEach, ← Prog.bind_eq, advance_bind (h x d)]
      exact ih (f d x)

/-- A program of statements that are answered at once and leave a part of the store alone. -/
theorem advance_keeps {φ : S → Prop} {B : Type} {g : D → B}
    (hφ : ∀ s, φ s → ∀ d, ∃ r d', sync s d = some (r, d') ∧ g d' = g d) {p : Prog S R F E α}
    (hp : p.All φ) (d : D) :
    ∃ r d', advance sync p d = (.ret r, d') ∧ g d' = g d := by
  induction p generalizing d with
  | ret r => exact ⟨r, d, rfl, rfl⟩
  | ctl c k ih => exact ih _ (hp _) d
  | stmt s k ih =>
      obtain ⟨r, d₁, hs, hg⟩ := hφ s hp.1 d
      obtain ⟨r', d', h, hg'⟩ := ih r (hp.2 r) d₁
      exact ⟨r', d', by rw [advance, hs]; exact h, hg'.trans hg⟩

end Advance

end Interleaving
