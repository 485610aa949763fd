import FrixelConnect.Interleaving.Interpret
import FrixelConnect.Interleaving.Machine

/-!
# Calls

A call runs a program by itself. The environment chooses for each of its statements, by
position, whether it goes through.
-/

namespace Interleaving

variable {S : Type} {R : S → Type} {F E D V K α β : Type}

section Statements

variable (M : Machine S R E D V K) (choices : ℕ → Choice E V)

/-- One statement of a call. The state is its position and the store. -/
def Machine.nth (s : S) (x : ℕ × D) : Except E (R s) × (ℕ × D) :=
  ((M.direct s (choices x.1) x.2).1, x.1 + 1, (M.direct s (choices x.1) x.2).2)

/-- The result of a program whose next statement has position `n`, the position and the store
after it. -/
def Machine.call (p : Prog S R F E α) (n : ℕ) (d : D) : Except E α × (ℕ × D) :=
  p.interpret (M.nth choices) (n, d)

variable {M choices} {n : ℕ} {d d' : D}

@[simp] theorem call_exec (s : S) : M.call choices (.exec s : Prog S R F E (R s)) n d =
    ((M.direct s (choices n) d).1, n + 1, (M.direct s (choices n) d).2) := rfl

theorem call_bind (p : Prog S R F E α) (k : α → Prog S R F E β) :
    M.call choices (p >>= k) n d =
      match M.call choices p n d with
      | (.ok a, n', d') => M.call choices (k a) n' d'
      | (.error e, n', d') => (.error e, n', d') := by
  rw [Machine.call, Prog.bind_eq, Prog.bind, Prog.interpret_handle]
  change _ = match p.interpret (M.nth choices) (n, d) with
    | (.ok a, n', d') => M.call choices (k a) n' d'
    | (.error e, n', d') => (.error e, n', d')
  rcases p.interpret (M.nth choices) (n, d) with ⟨e | a, n', d'⟩
  · rfl
  · rfl

/-- A statement that answers. -/
theorem call_exec_bind {s : S} {k : R s → Prog S R F E α} {a : R s}
    (hs : M.direct s (choices n) d = (.ok a, d')) :
    M.call choices (.exec s >>= k) n d = M.call choices (k a) (n + 1) d' := by
  rw [call_bind]
  simp only [Machine.call, Prog.exec, Prog.interpret, Machine.nth, hs]

/-- A statement that raises ends the call. -/
theorem call_exec_bind_error {s : S} {k : R s → Prog S R F E α} {e : E}
    (hs : M.direct s (choices n) d = (.error e, d')) :
    M.call choices (.exec s >>= k) n d = (.error e, n + 1, d') := by
  rw [call_bind]
  simp only [Machine.call, Prog.exec, Prog.interpret, Machine.nth, hs]

/-- A block with a handler. -/
theorem call_tryCatch (p : Prog S R F E α) (h : E → Prog S R F E α) :
    M.call choices (p.tryCatch h) n d =
      match M.call choices p n d with
      | (.ok a, x) => (.ok a, x)
      | (.error e, n', d') => M.call choices (h e) n' d' := by
  rw [Machine.call, Prog.tryCatch, Prog.interpret_handle]
  change _ = match p.interpret (M.nth choices) (n, d) with
    | (.ok a, x) => (Except.ok a, x)
    | (.error e, n', d') => M.call choices (h e) n' d'
  rcases p.interpret (M.nth choices) (n, d) with ⟨e | a, n', d'⟩
  · rfl
  · rfl

/-- The store after a call from whose result another one is computed. -/
theorem call_pure (p : Prog S R F E α) (f : α → β) :
    (M.call choices (p >>= fun a => pure (f a)) n d).2.2 = (M.call choices p n d).2.2 := by
  rw [call_bind]
  rcases M.call choices p n d with ⟨e | a, n', d'⟩
  · rfl
  · rfl

/-- A frame has no effect. -/
theorem call_inFrame (f : F) (p : Prog S R F E α) :
    M.call choices (p.inFrame f) n d = M.call choices p n d := by
  rw [Machine.call, Prog.inFrame, Prog.interpret, Prog.interpret_handle]
  rfl

/-- A call keeps what each of its statements keeps. -/
theorem call_keeps {φ : S → Prop} {I : D → Prop}
    (hI : ∀ s, φ s → ∀ c d, I d → I (M.direct s c d).2) {p : Prog S R F E α} (hp : p.All φ)
    (h : I d) : I (M.call choices p n d).2.2 := by
  induction p generalizing n d with
  | ret r => exact h
  | ctl c k ih => exact ih _ (hp _) h
  | stmt s k ih => exact ih _ (hp.2 _) (hI s hp.1 _ _ h)

end Statements

section Embed

variable {S' : Type} {R' : S' → Type} {D' : Type} {M : Machine S' R' E D' V K}
  {f : S → S'} {N : Machine S (fun s => R' (f s)) E D V K}

/-- A program over a part of the store leaves the rest of it alone. -/
theorem call_embed (get : D' → D) (put : D → D' → D') (hexec : ∀ s v d, M.exec (f s) v d =
      ((N.exec s v (get d)).1, put (N.exec s v (get d)).2 d))
    (hget : ∀ x d, get (put x d) = x) (hput : ∀ x y d, put x (put y d) = put x d)
    (hsame : ∀ d, put (get d) d = d) {choices : ℕ → Choice E V}
    (p : Prog S (fun s => R' (f s)) F E α) (n : ℕ) (d : D') :
    M.call choices (p.embed f) n d =
      ((N.call choices p n (get d)).1, (N.call choices p n (get d)).2.1,
        put (N.call choices p n (get d)).2.2 d) := by
  induction p generalizing n d with
  | ret r => simp only [Prog.embed, Machine.call, Prog.interpret, hsame]
  | ctl c k ih => exact ih _ n d
  | stmt s k ih =>
      have hdirect : M.direct (f s) (choices n) d =
          ((N.direct s (choices n) (get d)).1, put (N.direct s (choices n) (get d)).2 d) := by
        cases choices n with
        | fail e => simp only [Machine.direct, hsame]
        | run v => exact hexec s v d
      have hrest := ih (N.direct s (choices n) (get d)).1 (n + 1)
        (put (N.direct s (choices n) (get d)).2 d)
      rw [hget, hput] at hrest
      simp only [Machine.call, Prog.embed, Prog.interpret, Machine.nth, hdirect] at hrest ⊢
      exact hrest

end Embed

end Interleaving
