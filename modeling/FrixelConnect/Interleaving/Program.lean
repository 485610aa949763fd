import Mathlib.Logic.Basic

/-!
# Programs of atomic statements

A program is a tree: it has a result, or performs one statement and continues
with the answer, or changes the control state of its own process. Statements
are first-order values of a signature `S` with answers `R s`, so that a
condition on a run can speak about the statement that is executed. A statement
answers with a value or an exception; the continuation sees which.

Frames only name the block a process is in. They have no effect on the store.
-/

namespace Interleaving

/-- What a process does to its own control state. -/
inductive Control (F : Type) where
  | enter (f : F)
  | leave
  | beginTx
  | commit
  | rollback
  deriving DecidableEq

/-- The control step under other frames. -/
def Control.map {F F' : Type} (g : F → F') : Control F → Control F'
  | .enter f => .enter (g f)
  | .leave => .leave
  | .beginTx => .beginTx
  | .commit => .commit
  | .rollback => .rollback

/-- Programs over the statements `S`, with frames `F`, exceptions `E` and results in `α`. -/
inductive Prog (S : Type) (R : S → Type) (F E α : Type) where
  | ret (result : Except E α)
  | ctl (c : Control F) (k : Except E Unit → Prog S R F E α)
  | stmt (s : S) (k : Except E (R s) → Prog S R F E α)

namespace Prog

variable {S : Type} {R : S → Type} {F E α β γ : Type}

/-- Continue with the result of `p`, whether it is a value or an exception. -/
def handle : Prog S R F E α → (Except E α → Prog S R F E β) → Prog S R F E β
  | .ret r, h => h r
  | .ctl c k, h => .ctl c fun r => handle (k r) h
  | .stmt s k, h => .stmt s fun r => handle (k r) h

/-- Continue with the value of `p`; an exception passes through. -/
def bind (p : Prog S R F E α) (f : α → Prog S R F E β) : Prog S R F E β :=
  p.handle fun r => match r with
    | .ok a => f a
    | .error e => .ret (.error e)

/-- Continue with the exception of `p`; a value passes through. -/
def tryCatch (p : Prog S R F E α) (h : E → Prog S R F E α) : Prog S R F E α :=
  p.handle fun r => match r with
    | .ok a => .ret (.ok a)
    | .error e => h e

instance : Monad (Prog S R F E) where
  pure a := .ret (.ok a)
  bind := bind

instance : MonadExceptOf E (Prog S R F E) where
  throw e := .ret (.error e)
  tryCatch := tryCatch

/-- One statement. -/
def exec (s : S) : Prog S R F E (R s) := .stmt s .ret

/-- A result computed without statements. -/
def ofExcept (r : Except E α) : Prog S R F E α := .ret r

/-- Run `p` inside the frame `f`, which it leaves on a value and on an exception. -/
def inFrame (f : F) (p : Prog S R F E α) : Prog S R F E α :=
  .ctl (.enter f) fun _ => p.handle fun r => .ctl .leave fun _ => .ret r

/-- Run `p` in a transaction: commit on a value, roll back on an exception. -/
def transaction (p : Prog S R F E α) : Prog S R F E α :=
  .ctl .beginTx fun _ => p.handle fun r => match r with
    | .ok a => .ctl .commit fun c => match c with
        | .ok _ => .ret (.ok a)
        | .error e => .ret (.error e)
    | .error e => .ctl .rollback fun _ => .ret (.error e)

/-- Run `f` on each element in turn; an exception ends the loop. -/
def forEach : List β → (β → Prog S R F E Unit) → Prog S R F E Unit
  | [], _ => .ret (.ok ())
  | b :: rest, f => (f b).bind fun _ => forEach rest f

@[simp] theorem handle_ret (r : Except E α) (h : Except E α → Prog S R F E β) :
    (Prog.ret r : Prog S R F E α).handle h = h r := rfl

@[simp] theorem pure_eq (a : α) : (pure a : Prog S R F E α) = .ret (.ok a) := rfl

@[simp] theorem throw_eq (e : E) : (throw e : Prog S R F E α) = .ret (.error e) := rfl

@[simp] theorem bind_eq (p : Prog S R F E α) (f : α → Prog S R F E β) :
    p >>= f = p.bind f := rfl

/-- Handling twice is handling with the composed handler. -/
theorem handle_handle (p : Prog S R F E α) (h : Except E α → Prog S R F E β)
    (h' : Except E β → Prog S R F E γ) :
    (p.handle h).handle h' = p.handle fun r => (h r).handle h' := by
  induction p with
  | ret r => rfl
  | ctl c k ih =>
      simp only [handle, ctl.injEq, true_and]
      funext r
      exact ih r
  | stmt s k ih =>
      simp only [handle, stmt.injEq, heq_eq_eq, true_and]
      funext r
      exact ih r

/-- A program over some of the statements of a larger signature. -/
def embed {S' : Type} {R' : S' → Type} (f : S → S') :
    Prog S (fun s => R' (f s)) F E α → Prog S' R' F E α
  | .ret r => .ret r
  | .ctl c k => .ctl c fun r => embed f (k r)
  | .stmt s k => .stmt (f s) fun r => embed f (k r)

section Embed

variable {S' : Type} {R' : S' → Type} (f : S → S')

@[simp] theorem embed_ret (r : Except E α) :
    (Prog.ret r : Prog S (fun s => R' (f s)) F E α).embed f = .ret r := rfl

@[simp] theorem embed_exec (s : S) :
    (exec s : Prog S (fun s => R' (f s)) F E _).embed f = exec (f s) := rfl

theorem embed_handle (p : Prog S (fun s => R' (f s)) F E α)
    (h : Except E α → Prog S (fun s => R' (f s)) F E β) :
    (p.handle h).embed f = (p.embed f).handle fun r => (h r).embed f := by
  induction p with
  | ret r => rfl
  | ctl c k ih =>
      simp only [handle, embed, ctl.injEq, true_and]
      funext r
      exact ih r
  | stmt s k ih =>
      simp only [handle, embed, stmt.injEq, heq_eq_eq, true_and]
      funext r
      exact ih r

theorem embed_bind (p : Prog S (fun s => R' (f s)) F E α)
    (k : α → Prog S (fun s => R' (f s)) F E β) :
    (p >>= k).embed f = p.embed f >>= fun a => (k a).embed f := by
  change (p.bind k).embed f = (p.embed f).bind fun a => (k a).embed f
  rw [bind, embed_handle, bind]
  congr 1
  funext r
  cases r <;> rfl

end Embed

/-- The program in which other programs stand for its statements, and frames for its frames. -/
def expand {S' : Type} {R' : S' → Type} {F' : Type} (f : (s : S) → Prog S' R' F' E (R s))
    (g : F → F') : Prog S R F E α → Prog S' R' F' E α
  | .ret r => .ret r
  | .ctl c k => .ctl (c.map g) fun r => expand f g (k r)
  | .stmt s k => (f s).handle fun r => expand f g (k r)

section Expand

variable {S' : Type} {R' : S' → Type} {F' : Type} {f : (s : S) → Prog S' R' F' E (R s)}
  {g : F → F'}

@[simp] theorem handle_id (p : Prog S R F E α) : p.handle .ret = p := by
  induction p with
  | ret r => rfl
  | ctl c k ih => exact congrArg (Prog.ctl c) (funext ih)
  | stmt s k ih => exact congrArg (Prog.stmt s) (funext ih)

@[simp] theorem expand_ret (r : Except E α) :
    (Prog.ret r : Prog S R F E α).expand f g = .ret r := rfl

@[simp] theorem expand_exec (s : S) : (exec s : Prog S R F E _).expand f g = f s := handle_id _

theorem expand_handle (p : Prog S R F E α) (h : Except E α → Prog S R F E β) :
    (p.handle h).expand f g = (p.expand f g).handle fun r => (h r).expand f g := by
  induction p with
  | ret r => rfl
  | ctl c k ih => exact congrArg (Prog.ctl _) (funext ih)
  | stmt s k ih =>
      simp only [handle, expand, handle_handle]
      congr 1
      funext r
      exact ih r

@[simp] theorem expand_bind (p : Prog S R F E α) (k : α → Prog S R F E β) :
    (p >>= k).expand f g = p.expand f g >>= fun a => (k a).expand f g := by
  change (p.bind k).expand f g = (p.expand f g).bind fun a => (k a).expand f g
  rw [bind, expand_handle, bind]
  congr 1
  funext r
  cases r <;> rfl

@[simp] theorem expand_tryCatch (p : Prog S R F E α) (h : E → Prog S R F E α) :
    (p.tryCatch h).expand f g = (p.expand f g).tryCatch fun e => (h e).expand f g := by
  rw [tryCatch, expand_handle, tryCatch]
  congr 1
  funext r
  cases r <;> rfl

@[simp] theorem expand_inFrame (p : Prog S R F E α) (fr : F) :
    (p.inFrame fr).expand f g = (p.expand f g).inFrame (g fr) := by
  rw [inFrame, expand, inFrame]
  congr 1
  funext r
  exact expand_handle p _

@[simp] theorem expand_transaction (p : Prog S R F E α) :
    p.transaction.expand f g = (p.expand f g).transaction := by
  rw [transaction, expand, transaction]
  congr 1
  funext r
  rw [expand_handle]
  congr 1
  funext r
  cases r with
  | error e => rfl
  | ok a =>
      simp only [expand]
      congr 1
      funext r
      cases r <;> rfl

end Expand

/-- Every statement that occurs in the program, whatever the answers, satisfies `φ`. -/
def All (φ : S → Prop) : Prog S R F E α → Prop
  | .ret _ => True
  | .ctl _ k => ∀ r, All φ (k r)
  | .stmt s k => φ s ∧ ∀ r, All φ (k r)

variable {φ ψ : S → Prop}

@[simp] theorem all_ret (r : Except E α) : (Prog.ret r : Prog S R F E α).All φ := trivial

@[simp] theorem all_exec (s : S) : (exec s : Prog S R F E (R s)).All φ ↔ φ s := by
  simp [exec, All]

theorem all_true (p : Prog S R F E α) : p.All fun _ => True := by
  induction p with
  | ret r => trivial
  | ctl c k ih => exact fun r => ih r
  | stmt s k ih => exact ⟨trivial, fun r => ih r⟩

/-- The statements of a handled program are those of the program and of the handler. -/
theorem All.handle {p : Prog S R F E α} {h : Except E α → Prog S R F E β}
    (hp : p.All φ) (hh : ∀ r, (h r).All φ) : (p.handle h).All φ := by
  induction p with
  | ret r => exact hh r
  | ctl c k ih => exact fun r => ih r (hp r)
  | stmt s k ih => exact ⟨hp.1, fun r => ih r (hp.2 r)⟩

theorem All.bind {p : Prog S R F E α} {f : α → Prog S R F E β}
    (hp : p.All φ) (hf : ∀ a, (f a).All φ) : (p >>= f).All φ := by
  apply hp.handle
  intro r
  cases r with
  | ok a => exact hf a
  | error e => trivial

theorem All.tryCatch {p : Prog S R F E α} {h : E → Prog S R F E α}
    (hp : p.All φ) (hh : ∀ e, (h e).All φ) : (p.tryCatch h).All φ := by
  apply hp.handle
  intro r
  cases r with
  | ok a => trivial
  | error e => exact hh e

theorem All.inFrame {p : Prog S R F E α} (f : F) (hp : p.All φ) : (p.inFrame f).All φ :=
  fun _ => hp.handle fun _ _ => trivial

theorem All.transaction {p : Prog S R F E α} (hp : p.All φ) : p.transaction.All φ := by
  intro _
  apply hp.handle
  intro r
  cases r with
  | ok a =>
      intro c
      cases c <;> trivial
  | error e => exact fun _ => trivial

theorem All.forEach {l : List β} {f : β → Prog S R F E Unit}
    (hf : ∀ b ∈ l, (f b).All φ) : (Prog.forEach l f).All φ := by
  induction l with
  | nil => trivial
  | cons b rest ih =>
      exact (hf b (by simp)).bind fun _ => ih fun b hb => hf b (by simp [hb])

/-- Every statement that occurs in the program satisfies `φ`, and every value it gives is in `ψ`. -/
def AllWith (φ : S → Prop) (ψ : α → Prop) : Prog S R F E α → Prop
  | .ret r => ∀ a, r = .ok a → ψ a
  | .ctl _ k => ∀ r, AllWith φ ψ (k r)
  | .stmt s k => φ s ∧ ∀ r, AllWith φ ψ (k r)

theorem AllWith.bind {p : Prog S R F E α} {f : α → Prog S R F E β} {χ : α → Prop}
    (hp : p.AllWith φ χ) (hf : ∀ a, χ a → (f a).All φ) : (p >>= f).All φ := by
  induction p with
  | ret r =>
      cases r with
      | ok a => exact hf a (hp a rfl)
      | error e => trivial
  | ctl c k ih => exact fun r => ih r (hp r)
  | stmt s k ih => exact ⟨hp.1, fun r => ih r (hp.2 r)⟩

/-- Every statement satisfies `φ`, and the program has no control steps. -/
def Plain (φ : S → Prop) : Prog S R F E α → Prop
  | .ret _ => True
  | .ctl _ _ => False
  | .stmt s k => φ s ∧ ∀ r, Plain φ (k r)

@[simp] theorem plain_ret (r : Except E α) : (Prog.ret r : Prog S R F E α).Plain φ := trivial

@[simp] theorem plain_exec (s : S) : (exec s : Prog S R F E (R s)).Plain φ ↔ φ s := by
  simp [exec, Plain]

theorem Plain.handle {p : Prog S R F E α} {h : Except E α → Prog S R F E β}
    (hp : p.Plain φ) (hh : ∀ r, (h r).Plain φ) : (p.handle h).Plain φ := by
  induction p with
  | ret r => exact hh r
  | ctl c k _ => exact hp.elim
  | stmt s k ih => exact ⟨hp.1, fun r => ih r (hp.2 r)⟩

theorem Plain.bind {p : Prog S R F E α} {f : α → Prog S R F E β}
    (hp : p.Plain φ) (hf : ∀ a, (f a).Plain φ) : (p >>= f).Plain φ := by
  apply hp.handle
  intro r
  cases r with
  | ok a => exact hf a
  | error e => trivial

theorem Plain.tryCatch {p : Prog S R F E α} {h : E → Prog S R F E α}
    (hp : p.Plain φ) (hh : ∀ e, (h e).Plain φ) : (p.tryCatch h).Plain φ := by
  apply hp.handle
  intro r
  cases r with
  | ok a => trivial
  | error e => exact hh e

theorem Plain.forEach {l : List β} {f : β → Prog S R F E Unit}
    (hf : ∀ b ∈ l, (f b).Plain φ) : (Prog.forEach l f).Plain φ := by
  induction l with
  | nil => trivial
  | cons b rest ih =>
      exact (hf b (by simp)).bind fun _ => ih fun b hb => hf b (by simp [hb])

theorem Plain.embed {S' : Type} {R' : S' → Type} {f : S → S'} {φ : S' → Prop}
    {p : Prog S (fun s => R' (f s)) F E α} (hp : p.Plain fun s => φ (f s)) :
    (p.embed f).Plain φ := by
  induction p with
  | ret r => trivial
  | ctl c k _ => exact hp.elim
  | stmt s k ih => exact ⟨hp.1, fun r => ih r (hp.2 r)⟩

theorem Plain.mono {p : Prog S R F E α} (hp : p.Plain φ) (h : ∀ s, φ s → ψ s) :
    p.Plain ψ := by
  induction p with
  | ret r => trivial
  | ctl c k _ => exact hp.elim
  | stmt s k ih => exact ⟨h s hp.1, fun r => ih r (hp.2 r)⟩

theorem Plain.all {p : Prog S R F E α} (hp : p.Plain φ) : p.All φ := by
  induction p with
  | ret r => trivial
  | ctl c k _ => exact hp.elim
  | stmt s k ih => exact ⟨hp.1, fun r => ih r (hp.2 r)⟩

theorem All.mono {p : Prog S R F E α} (hp : p.All φ) (h : ∀ s, φ s → ψ s) : p.All ψ := by
  induction p with
  | ret r => trivial
  | ctl c k ih => exact fun r => ih r (hp r)
  | stmt s k ih => exact ⟨h s hp.1, fun r => ih r (hp.2 r)⟩

/-- Every statement that occurs in the program satisfies `φ`, as long as the answers before it
satisfy `A`. -/
def AllUnder (A : (s : S) → R s → Prop) (φ : S → Prop) : Prog S R F E α → Prop
  | .ret _ => True
  | .ctl _ k => ∀ r, AllUnder A φ (k r)
  | .stmt s k => φ s ∧ ∀ r, (∀ a, r = .ok a → A s a) → AllUnder A φ (k r)

section AllUnder

variable {A : (s : S) → R s → Prop}

theorem All.under {p : Prog S R F E α} (hp : p.All φ) : p.AllUnder A φ := by
  induction p with
  | ret r => trivial
  | ctl c k ih => exact fun r => ih r (hp r)
  | stmt s k ih => exact ⟨hp.1, fun r _ => ih r (hp.2 r)⟩

theorem AllUnder.handle {p : Prog S R F E α} {h : Except E α → Prog S R F E β}
    (hp : p.AllUnder A φ) (hh : ∀ r, (h r).AllUnder A φ) : (p.handle h).AllUnder A φ := by
  induction p with
  | ret r => exact hh r
  | ctl c k ih => exact fun r => ih r (hp r)
  | stmt s k ih => exact ⟨hp.1, fun r hr => ih r (hp.2 r hr)⟩

/-- A statement, and what follows its answers. -/
theorem AllUnder.exec_bind {s : S} {f : R s → Prog S R F E β} (hs : φ s)
    (hf : ∀ a, A s a → (f a).AllUnder A φ) : (exec s >>= f).AllUnder A φ := by
  refine ⟨hs, fun r hr => ?_⟩
  cases r with
  | ok a => exact hf a (hr a rfl)
  | error e => trivial

theorem AllUnder.tryCatch {p : Prog S R F E α} {h : E → Prog S R F E α}
    (hp : p.AllUnder A φ) (hh : ∀ e, (h e).AllUnder A φ) : (p.tryCatch h).AllUnder A φ := by
  apply hp.handle
  intro r
  cases r with
  | ok a => trivial
  | error e => exact hh e

end AllUnder

/-- Every statement satisfies `φ`, and the only control steps are those of frames. -/
def Framed (φ : S → Prop) : Prog S R F E α → Prop
  | .ret _ => True
  | .ctl (.enter _) k => ∀ r, Framed φ (k r)
  | .ctl .leave k => ∀ r, Framed φ (k r)
  | .ctl _ _ => False
  | .stmt s k => φ s ∧ ∀ r, Framed φ (k r)

theorem Framed.handle {p : Prog S R F E α} {h : Except E α → Prog S R F E β}
    (hp : p.Framed φ) (hh : ∀ r, (h r).Framed φ) : (p.handle h).Framed φ := by
  induction p with
  | ret r => exact hh r
  | ctl c k ih =>
      cases c with
      | enter f => exact fun r => ih r (hp r)
      | leave => exact fun r => ih r (hp r)
      | beginTx => exact hp.elim
      | commit => exact hp.elim
      | rollback => exact hp.elim
  | stmt s k ih => exact ⟨hp.1, fun r => ih r (hp.2 r)⟩

theorem Framed.bind {p : Prog S R F E α} {f : α → Prog S R F E β}
    (hp : p.Framed φ) (hf : ∀ a, (f a).Framed φ) : (p >>= f).Framed φ := by
  apply hp.handle
  intro r
  cases r with
  | ok a => exact hf a
  | error e => trivial

theorem Framed.inFrame {p : Prog S R F E α} (f : F) (hp : p.Framed φ) : (p.inFrame f).Framed φ :=
  fun _ => hp.handle fun _ _ => trivial

theorem Framed.mono {p : Prog S R F E α} (hp : p.Framed φ) (h : ∀ s, φ s → ψ s) :
    p.Framed ψ := by
  induction p with
  | ret r => trivial
  | ctl c k ih =>
      cases c with
      | enter f => exact fun r => ih r (hp r)
      | leave => exact fun r => ih r (hp r)
      | beginTx => exact hp.elim
      | commit => exact hp.elim
      | rollback => exact hp.elim
  | stmt s k ih => exact ⟨h s hp.1, fun r => ih r (hp.2 r)⟩

theorem Framed.all {p : Prog S R F E α} (hp : p.Framed φ) : p.All φ := by
  induction p with
  | ret r => trivial
  | ctl c k ih =>
      cases c with
      | enter f => exact fun r => ih r (hp r)
      | leave => exact fun r => ih r (hp r)
      | beginTx => exact hp.elim
      | commit => exact hp.elim
      | rollback => exact hp.elim
  | stmt s k ih => exact ⟨hp.1, fun r => ih r (hp.2 r)⟩

theorem Plain.framed {p : Prog S R F E α} (hp : p.Plain φ) : p.Framed φ := by
  induction p with
  | ret r => trivial
  | ctl c k _ => exact hp.elim
  | stmt s k ih => exact ⟨hp.1, fun r => ih r (hp.2 r)⟩

section Expand

variable {S' : Type} {R' : S' → Type} {F' : Type} {f : (s : S) → Prog S' R' F' E (R s)}
  {g : F → F'} {ψ : S' → Prop}

/-- What the programs that stand for the statements contain. -/
theorem All.expand {p : Prog S R F E α} (hp : p.All φ) (hf : ∀ s, φ s → (f s).All ψ) :
    (p.expand f g).All ψ := by
  induction p with
  | ret r => trivial
  | ctl c k ih => exact fun r => ih r (hp r)
  | stmt s k ih => exact (hf s hp.1).handle fun r => ih r (hp.2 r)

theorem Framed.expand {p : Prog S R F E α} (hp : p.Framed φ) (hf : ∀ s, φ s → (f s).Framed ψ) :
    (p.expand f g).Framed ψ := by
  induction p with
  | ret r => trivial
  | ctl c k ih =>
      cases c with
      | enter fr => exact fun r => ih r (hp r)
      | leave => exact fun r => ih r (hp r)
      | beginTx => exact hp.elim
      | commit => exact hp.elim
      | rollback => exact hp.elim
  | stmt s k ih => exact (hf s hp.1).handle fun r => ih r (hp.2 r)

end Expand

end Prog

end Interleaving
