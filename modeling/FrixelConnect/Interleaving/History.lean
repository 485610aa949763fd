import FrixelConnect.Interleaving.Machine

/-!
# Answers along a run

A process computes its result from the answers that it was given, each at a moment of the
run. `Yields` follows the answers of statements outside of transactions to the result of a
program, and `Reaches.yields` finds the moments at which they were given.
-/

namespace Interleaving

variable {S : Type} {R : S → Type} {F E D V K A W α β : Type}

namespace Prog

/-- Whatever answers in `B` the program gets before its first control step, and whatever answers
at all after it, every value that it gives is in `ψ`. -/
def Yields (B : (s : S) → R s → Prop) (ψ : α → Prop) : Prog S R F E α → Prop
  | .ret r => ∀ a, r = .ok a → ψ a
  | .ctl _ k => ∀ r, (k r).AllWith (fun _ => True) ψ
  | .stmt s k => ∀ r, (∀ a, r = .ok a → B s a) → Yields B ψ (k r)

variable {B : (s : S) → R s → Prop} {ψ : α → Prop} {χ : β → Prop}

theorem AllWith.yields {p : Prog S R F E α} (h : p.AllWith (fun _ => True) ψ) : p.Yields B ψ := by
  induction p with
  | ret r => exact h
  | ctl c k _ => exact h
  | stmt s k ih => exact fun r _ => ih r (h.2 r)

theorem AllWith.handle {p : Prog S R F E α} {h : Except E α → Prog S R F E β}
    (hh : ∀ r, (h r).AllWith (fun _ => True) χ) : (p.handle h).AllWith (fun _ => True) χ := by
  induction p with
  | ret r => exact hh r
  | ctl c k ih => exact fun r => ih r
  | stmt s k ih => exact ⟨trivial, fun r => ih r⟩

/-- What follows gives values in `χ` anyway. -/
theorem allWith_bind {p : Prog S R F E α} {f : α → Prog S R F E β}
    (hf : ∀ a, (f a).AllWith (fun _ => True) χ) : (p >>= f).AllWith (fun _ => True) χ := by
  apply AllWith.handle
  intro r
  cases r with
  | ok a => exact hf a
  | error e => exact fun _ h => by cases h

/-- What follows gives values in `χ` after a value in `ψ`. -/
theorem AllWith.andThen {p : Prog S R F E α} {f : α → Prog S R F E β}
    (hp : p.AllWith (fun _ => True) ψ) (hf : ∀ a, ψ a → (f a).AllWith (fun _ => True) χ) :
    (p >>= f).AllWith (fun _ => True) χ := by
  induction p with
  | ret r =>
      cases r with
      | ok a => exact hf a (hp a rfl)
      | error e => exact fun _ h => by cases h
  | ctl c k ih => exact fun r => ih r (hp r)
  | stmt s k ih => exact ⟨trivial, fun r => ih r (hp.2 r)⟩

theorem AllWith.mono {ψ' : α → Prop} {p : Prog S R F E α} (hp : p.AllWith (fun _ => True) ψ)
    (h : ∀ a, ψ a → ψ' a) : p.AllWith (fun _ => True) ψ' := by
  induction p with
  | ret r => exact fun a ha => h a (hp a ha)
  | ctl c k ih => exact fun r => ih r (hp r)
  | stmt s k ih => exact ⟨trivial, fun r => ih r (hp.2 r)⟩

/-- A statement, and what follows its answers. -/
theorem yields_exec_bind {s : S} {f : R s → Prog S R F E β} (hf : ∀ a, B s a → (f a).Yields B χ) :
    (exec s >>= f).Yields B χ := by
  intro r hr
  cases r with
  | ok a => exact hf a (hr a rfl)
  | error e => exact fun _ h => by cases h

/-- A program whose value has a property that what follows depends on. -/
theorem Yields.bind {p : Prog S R F E α} {f : α → Prog S R F E β} (hp : p.Plain fun _ => True)
    (h : p.Yields B ψ) (hf : ∀ a, ψ a → (f a).Yields B χ) : (p >>= f).Yields B χ := by
  induction p with
  | ret r =>
      cases r with
      | ok a => exact hf a (h a rfl)
      | error e => exact fun _ h => by cases h
  | ctl c k _ => exact hp.elim
  | stmt s k ih => exact fun r hr => ih r (hp.2 r) (h r hr)

end Prog

/-- In the run from `s₀` to `s` the process was answered `a`, outside of a transaction, when the
store was `d` and the environment chose `v`. -/
structure Answered [DecidableEq K] (Y : System S R F E D V K A W) (ρ : Rules S E D V W)
    (s₀ s : State S R F E D V A) (i : ℕ) (q : S) (a : R q) (d : D) (v : V) : Prop where
  moment : ∃ t t' l k, Reaches Y ρ s₀ t ∧ t.store = d ∧ t.procs[i]? = some ⟨l, .stmt q k⟩ ∧
    t.step Y (.step i (.run v)) = some t' ∧ Reaches Y ρ t' s
  answer : (Y.exec q v d).1 = .ok a

section History

variable [DecidableEq K] {Y : System S R F E D V K A W} {ρ : Rules S E D V W}

/-- The answers of a process in a run. -/
def Given (Y : System S R F E D V K A W) (ρ : Rules S E D V W) (s₀ s : State S R F E D V A)
    (i : ℕ) (q : S) (a : R q) : Prop :=
  ∃ d v, Answered Y ρ s₀ s i q a d v

/-- The process gives values in `ψ`, on the answers in `B` as long as it has opened no
transaction. -/
structure Proc.Gives (B : (s : S) → R s → Prop) (ψ : A → Prop) (p : Proc S R F E V A) : Prop where
  outside : p.prog.Yields B ψ
  inside : p.loc.txn = .none ∨ p.prog.AllWith (fun _ => True) ψ

/-- A step of the process at a moment of the run. -/
theorem Proc.Gives.step {ψ : A → Prop} {s₀ t t' s : State S R F E D V A} {i : ℕ}
    {c : Choice E V} {p p' : Proc S R F E V A} {d : D} (h : p.Gives (Given Y ρ s₀ s i) ψ)
    (hr : Reaches Y ρ s₀ t) (hp : t.procs[i]? = some p)
    (hps : p.step Y.toMachine c t.store = some (d, p')) (hmove : t.step Y (.step i c) = some t')
    (hrest : Reaches Y ρ t' s) : p'.Gives (Given Y ρ s₀ s i) ψ := by
  obtain ⟨l, prog⟩ := p
  cases prog with
  | ret r => cases hps
  | ctl ct k =>
      cases hps
      exact ⟨(h.outside _).yields, .inr (h.outside _)⟩
  | stmt q k =>
      cases hps
      rcases h.inside with hl | hall
      · have hl : l.txn = .none := hl
        have hdirect : Y.stmtStep q c t.store l =
            ((Y.direct q c t.store).1, (Y.direct q c t.store).2, l) := by
          simp [Machine.stmtStep, hl]
        rw [hdirect]
        refine ⟨h.outside _ fun a ha => ?_, .inl hl⟩
        cases c with
        | fail e => cases ha
        | run v => exact ⟨t.store, v, ⟨t, t', l, k, hr, rfl, hp, hmove, hrest⟩, ha⟩
      · exact ⟨(hall.2 _).yields, .inr (hall.2 _)⟩

/-- Every value that a process has given comes from answers of the run. -/
theorem Reaches.yields {ψ : ((s : S) → R s → Prop) → A → Prop} {s₀ s : State S R F E D V A}
    (hprocs : s₀.procs = []) (hr : Reaches Y ρ s₀ s)
    (hstart : ∀ w d d' p, Y.start w d = some (d', p) → ∀ B, p.Yields B (ψ B)) :
    ∀ (i : ℕ) p, s.procs[i]? = some p → p.Gives (Given Y ρ s₀ s i) (ψ (Given Y ρ s₀ s i)) := by
  -- The answers are those of the whole run, of which `t` is a state.
  have hall (t : State S R F E D V A) (hr : Reaches Y ρ s₀ t) : Reaches Y ρ t s →
      ∀ (i : ℕ) p, t.procs[i]? = some p →
        p.Gives (Given Y ρ s₀ s i) (ψ (Given Y ρ s₀ s i)) := by
    induction hr with
    | refl =>
        intro _ i p hp
        simp [hprocs] at hp
    | @tail t t' hr hstep ih =>
        intro hrest i p hp
        have ih := ih (hrest.head hstep)
        obtain ⟨label, hallow, hmove⟩ := hstep
        cases label with
        | spawn w =>
            obtain ⟨⟨d', p'⟩, hstarted, rfl⟩ := Option.map_eq_some_iff.mp hmove
            rcases Nat.lt_or_ge i t.procs.length with hlt | hge
            · rw [List.getElem?_append_left hlt] at hp
              exact ih i p hp
            · rw [List.getElem?_append_right hge, List.getElem?_singleton] at hp
              split at hp
              · cases hp
                exact ⟨hstart w t.store d' p' hstarted _, .inl rfl⟩
              · cases hp
        | edit d =>
            cases hmove
            exact ih i p hp
        | step j c =>
            obtain ⟨q, d, q', hq, hqs, rfl⟩ := State.step_process hmove
            by_cases hij : j = i
            · subst hij
              have hlt : j < t.procs.length := (List.getElem?_eq_some_iff.mp hq).1
              rw [List.getElem?_set_self hlt, Option.some.injEq] at hp
              rw [← hp]
              exact (ih j q hq).step hr hq hqs hmove hrest
            · rw [List.getElem?_set_ne hij] at hp
              exact ih i p hp
  exact hall s hr .refl

end History

end Interleaving
