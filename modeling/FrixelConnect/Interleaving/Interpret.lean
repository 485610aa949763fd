import FrixelConnect.Interleaving.Program

/-!
# Programs over a state

A function that says what each statement answers in a state, and the state after it, runs a
program. `Gives` speaks about the end of that run; it follows the structure of the program.
-/

namespace Interleaving

namespace Prog

variable {S : Type} {R : S → Type} {F E σ α β : Type} (f : (s : S) → σ → Except E (R s) × σ)

/-- The result of the program and the state after it. -/
def interpret : Prog S R F E α → σ → Except E α × σ
  | .ret r, x => (r, x)
  | .ctl _ k, x => interpret (k (.ok ())) x
  | .stmt s k, x => interpret (k (f s x).1) (f s x).2

/-- The run ends with a value and a state in `Q`, or with an exception in `X`. -/
def Gives (p : Prog S R F E α) (x : σ) (Q : α → σ → Prop) (X : E → Prop) : Prop :=
  match p.interpret f x with
  | (.ok a, y) => Q a y
  | (.error e, _) => X e

variable {f} {p : Prog S R F E α} {x y : σ} {Q Q' : α → σ → Prop} {X X' : E → Prop}

/-- The handler goes on where the program ends. -/
theorem interpret_handle (p : Prog S R F E α) (h : Except E α → Prog S R F E β) (x : σ) :
    (p.handle h).interpret f x = (h (p.interpret f x).1).interpret f (p.interpret f x).2 := by
  induction p generalizing x with
  | ret r => rfl
  | ctl c k ih => exact ih _ x
  | stmt s k ih => exact ih _ _

/-- A run keeps what each of its statements keeps. -/
theorem interpret_keeps {τ : Type} {g : σ → τ} {φ : S → Prop}
    (hf : ∀ s, φ s → ∀ x, g (f s x).2 = g x) (hp : p.All φ) (x : σ) :
    g (p.interpret f x).2 = g x := by
  induction p generalizing x with
  | ret r => rfl
  | ctl c k ih => exact ih _ (hp _) x
  | stmt s k ih => exact (ih _ (hp.2 _) _).trans (hf s hp.1 x)

namespace Gives

theorem ret {a : α} (h : Q a x) : (Prog.ret (.ok a) : Prog S R F E α).Gives f x Q X := h

theorem raise {e : E} (h : X e) : (Prog.ret (.error e) : Prog S R F E α).Gives f x Q X := h

theorem bind {k : α → Prog S R F E β} {Q' : β → σ → Prop} (hp : p.Gives f x Q X)
    (hk : ∀ a y, Q a y → (k a).Gives f y Q' X) : (p >>= k).Gives f x Q' X := by
  rw [bind_eq, Prog.bind, Gives, interpret_handle]
  rw [Gives] at hp
  rcases hrun : p.interpret f x with ⟨e | a, y⟩
  · rw [hrun] at hp
    exact hp
  · rw [hrun] at hp
    exact hk a y hp

/-- One statement. -/
theorem exec {s : S} {Q : R s → σ → Prop} (hok : ∀ a, (f s x).1 = .ok a → Q a (f s x).2)
    (herror : ∀ e, (f s x).1 = .error e → X e) :
    (Prog.exec s : Prog S R F E (R s)).Gives f x Q X := by
  have hrun : (Prog.exec s : Prog S R F E (R s)).interpret f x = ((f s x).1, (f s x).2) := rfl
  rw [Gives, hrun]
  cases hs : (f s x).1 with
  | ok a => exact hok a hs
  | error e => exact herror e hs

theorem mono (h : p.Gives f x Q X) (hQ : ∀ a y, Q a y → Q' a y) : p.Gives f x Q' X := by
  rw [Gives] at h ⊢
  split at h
  · exact hQ _ _ h
  · exact h

/-- A loop keeps what each of its rounds keeps, of the elements that are left. -/
theorem forEach {b : β → Prog S R F E Unit} {I : List β → σ → Prop} {l : List β}
    (hb : ∀ a rest y, I (a :: rest) y → (b a).Gives f y (fun _ z => I rest z) X) (hx : I l x) :
    (Prog.forEach l b).Gives f x (fun _ y => I [] y) X := by
  induction l generalizing x with
  | nil => exact hx
  | cons a rest ih => exact bind (hb a rest x hx) fun _ y hy => ih hy

/-- The end of a run that gives a value. -/
theorem ok (h : p.Gives f x Q X) {a : α} (hrun : p.interpret f x = (.ok a, y)) : Q a y := by
  rw [Gives, hrun] at h
  exact h

/-- The end of a run that raises. -/
theorem error (h : p.Gives f x Q X) {e : E} (hrun : p.interpret f x = (.error e, y)) : X e := by
  rw [Gives, hrun] at h
  exact h

end Gives

end Prog

end Interleaving
