import FrixelConnect.Interleaving.Solo

/-!
# What a process sees of the store

Outside of a transaction a process sees the store, inside of one the store with the statements
of the transaction applied. A statement that answers acts on what is seen in the same way in
both cases, so what a program does when nothing raises can be stated once for both.
-/

namespace Interleaving

variable {S : Type} {R : S → Type} {F E D V K α β : Type}

/-- The store as the process sees it; `none` when its transaction has failed. -/
def Machine.view (M : Machine S R E D V K) (d : D) (l : Local S F V) : Option D :=
  match l.txn with
  | .none => some d
  | .active log => M.replay log d
  | .aborted _ => none

/-- A statement that answers acts on what the process sees. -/
theorem Machine.stmtStep_view {M : Machine S R E D V K} {s : S} {c : Choice E V} {d : D}
    {l : Local S F V} {a : R s} (hin : M.inTx s = true) (h : (M.stmtStep s c d l).1 = .ok a) :
    ∃ v x x', M.view d l = some x ∧ M.exec s v x = (.ok a, x') ∧
      M.view (M.stmtStep s c d l).2.1 (M.stmtStep s c d l).2.2 = some x' := by
  cases hl : l.txn with
  | none =>
      have hstep : M.stmtStep s c d l = ((M.direct s c d).1, (M.direct s c d).2, l) := by
        simp [stmtStep, hin, hl]
      rw [hstep] at h ⊢
      cases c with
      | fail e => cases h
      | run v =>
          refine ⟨v, d, (M.exec s v d).2, by simp [view, hl], Prod.ext h rfl, ?_⟩
          simp [view, hl, direct]
  | active log =>
      rcases M.stmtStep_active (c := c) (d := d) hin hl with
        ⟨e, hs, -⟩ | ⟨v, x, b, -, hx, hb, hs⟩
      · rw [hs] at h
        cases h
      · rw [hs] at h ⊢
        cases h
        refine ⟨v, x, (M.exec s v x).2, by simpa [view, hl] using hx, Prod.ext hb rfl, ?_⟩
        exact M.replay_concat.mpr ⟨x, a, hx, Prod.ext hb rfl⟩
  | aborted log =>
      simp [stmtStep, hin, hl] at h

namespace Solo

/-- Every run of the program that returns a value, in or out of a transaction, ends with `P` for
the value and what is seen then. -/
def Sees (M : Machine S R E D V K) (P : α → D → Prop) (p : Prog S R F E α) (x : D) : Prop :=
  ∀ d (l : Local S F V), M.view d l = some x →
    Always M (fun (_ : Unit) _ _ => some ()) (fun _ _ => True)
      (fun r _ d' l' => ∀ a, r = .ok a → ∃ x', M.view d' l' = some x' ∧ P a x') p () d l

variable {M : Machine S R E D V K} {P : α → D → Prop} {x : D}

theorem sees_pure {a : α} (h : P a x) : Sees (F := F) M P (pure a) x := by
  intro d l hx
  refine ⟨True.intro, fun b hb => ?_⟩
  cases hb
  exact ⟨x, hx, h⟩

/-- A statement that answers, and the rest of the program. -/
theorem sees_exec_bind {s : S} {f : R s → Prog S R F E α} (hin : M.inTx s = true)
    (h : ∀ v a x', M.exec s v x = (.ok a, x') → Sees M P (f a) x') :
    Sees M P (Prog.exec s >>= f) x := by
  intro d l hx
  refine ⟨True.intro, fun c _ _ => ?_⟩
  cases hr : (M.stmtStep s c d l).1 with
  | error e => exact ⟨True.intro, fun _ ha => (by cases ha)⟩
  | ok a =>
      obtain ⟨v, y, x', hy, he, hx'⟩ := M.stmtStep_view hin hr
      obtain rfl : x = y := Option.some.inj (hx.symm.trans hy)
      exact h v a x' he _ _ hx'

theorem sees_exec {s : S} {P : R s → D → Prop} (hin : M.inTx s = true)
    (h : ∀ v a x', M.exec s v x = (.ok a, x') → P a x') :
    Sees (F := F) M P (Prog.exec s) x := by
  intro d l hx
  refine ⟨True.intro, fun c _ _ => ⟨True.intro, fun a ha => ?_⟩⟩
  obtain ⟨v, y, x', hy, he, hx'⟩ := M.stmtStep_view hin ha
  obtain rfl : x = y := Option.some.inj (hx.symm.trans hy)
  exact ⟨x', hx', h v a x' he⟩

end Solo

end Interleaving
