import FrixelConnect.Interleaving.StoreRule

/-!
# What one process does to the store

The contributions of a process are the stores before and after each of its steps in a run. They
depend on the other processes through the stores that the process meets. Of these stores it
knows what its open transaction has locked: a key that is clear, so that no row of the store
has it, stays clear while the process holds it, as long as every statement that can write a
row with the key locks it first.
-/

namespace Interleaving

variable {S : Type} {R : S → Type} {F E D V K A W α β : Type}

section Holding

variable (M : Machine S R E D V K)

/-- No two processes hold the same key. -/
def Exclusive (procs : List (Proc S R F E V A)) : Prop :=
  ∀ (i j : ℕ) p q k, procs[i]? = some p → procs[j]? = some q →
    k ∈ M.held p.loc → k ∈ M.held q.loc → i = j

variable {M} {procs : List (Proc S R F E V A)} {p p' : Proc S R F E V A} {c : Choice E V}
  {d d' : D} {k : K}

/-- A step gains the keys that it needs at most, and only when it runs. -/
theorem Proc.held_step (h : p.step M c d = some (d', p')) (hk : k ∈ M.held p'.loc) :
    k ∈ M.held p.loc ∨ k ∈ p.needs M ∧ ∃ v, c = .run v := by
  obtain ⟨l, prog⟩ := p
  cases prog with
  | ret r => cases h
  | ctl ct k' =>
      cases h
      cases ct with
      | enter f => exact .inl hk
      | leave => exact .inl hk
      | beginTx => cases hk
      | rollback => cases hk
      | commit =>
          rcases M.ctlStep_commit c d l with ⟨e, hs, -⟩ | ⟨log, v, d', -, -, -, hs⟩
          · rw [hs] at hk
            cases hk
          · rw [hs] at hk
            cases hk
  | stmt s k' =>
      cases h
      cases hin : M.inTx s with
      | false =>
          simp only [Machine.stmtStep, hin, Bool.false_eq_true, if_false] at hk
          exact .inl hk
      | true =>
          cases hl : l.txn with
          | none =>
              simp only [Machine.stmtStep, hin, hl, if_true] at hk
              exact .inl hk
          | aborted log =>
              simp only [Machine.stmtStep, hin, hl, if_true] at hk
              exact .inl hk
          | active log =>
              have hheld : M.held l = log.flatMap fun x => M.locks x.1 := by
                rw [Machine.held, hl]
              rcases M.stmtStep_active (c := c) (d := d) hin hl with
                ⟨e, hs, -⟩ | ⟨v, view, a, hc, -, -, hs⟩
              · rw [hs] at hk
                exact .inl (hheld ▸ hk)
              · rw [hs] at hk
                simp only [Machine.held, List.flatMap_append, List.flatMap_singleton,
                  List.mem_append] at hk
                rcases hk with hk | hk
                · exact .inl (hheld ▸ hk)
                · exact .inr ⟨hk, v, hc⟩

/-- A process that starts holds nothing. -/
theorem Exclusive.append (h : Exclusive M procs) (prog : Prog S R F E A) :
    Exclusive M (procs ++ [{ prog := prog }]) := by
  intro i j p q k hi hj hkp hkq
  have hold {n : ℕ} {r : Proc S R F E V A} (hn : (procs ++ [{ prog := prog }])[n]? = some r)
      (hkr : k ∈ M.held r.loc) : procs[n]? = some r := by
    rcases Nat.lt_or_ge n procs.length with hlt | hge
    · rwa [List.getElem?_append_left hlt] at hn
    · rw [List.getElem?_append_right hge, List.getElem?_singleton] at hn
      split at hn
      · cases hn
        cases hkr
      · cases hn
  exact h i j p q k (hold hi hkp) (hold hj hkq) hkp hkq

variable [DecidableEq K] {Y : System S R F E D V K A W} {s t : State S R F E D V A} {i : ℕ}

/-- A process that runs needs no key that another one holds. -/
theorem State.step_free {v : V} (h : s.step Y (.step i (.run v)) = some t)
    (hp : s.procs[i]? = some p) (hk : k ∈ p.needs Y.toMachine) {j : ℕ} {q : Proc S R F E V A}
    (hj : s.procs[j]? = some q) (hne : j ≠ i) : k ∉ Y.toMachine.held q.loc := by
  simp only [State.step, hp] at h
  split at h
  · next hfree =>
      have hq : q ∈ s.procs.eraseIdx i := List.mem_eraseIdx_iff_getElem?.mpr ⟨j, hne, hj⟩
      have hkey := List.all_eq_true.mp (List.all_eq_true.mp hfree k hk) q hq
      simpa using hkey
  · cases h

theorem Exclusive.step {label : Label E D V W} (h : Exclusive Y.toMachine s.procs)
    (hs : s.step Y label = some t) : Exclusive Y.toMachine t.procs := by
  cases label with
  | spawn w =>
      obtain ⟨r, -, rfl⟩ := Option.map_eq_some_iff.mp hs
      exact h.append r.2
  | edit d =>
      cases hs
      exact h
  | step n c =>
      obtain ⟨p, d, p', hp, hps, rfl⟩ := State.step_process hs
      -- A key of the new state was held before, or it is free for the process that moves.
      have hold {j : ℕ} {q : Proc S R F E V A} {k : K} (hj : (s.procs.set n p')[j]? = some q)
          (hk : k ∈ Y.toMachine.held q.loc) :
          (∃ q₀, s.procs[j]? = some q₀ ∧ k ∈ Y.toMachine.held q₀.loc) ∨
            j = n ∧ ∀ j' q', s.procs[j']? = some q' → j' ≠ n → k ∉ Y.toMachine.held q'.loc := by
        by_cases hjn : n = j
        · subst hjn
          have hlt : n < s.procs.length := (List.getElem?_eq_some_iff.mp hp).1
          rw [List.getElem?_set_self hlt, Option.some.injEq] at hj
          subst hj
          rcases Proc.held_step hps hk with hk | ⟨hk, v, rfl⟩
          · exact .inl ⟨p, hp, hk⟩
          · exact .inr ⟨rfl, fun j' q' hj' hne => State.step_free hs hp hk hj' hne⟩
        · rw [List.getElem?_set_ne hjn] at hj
          exact .inl ⟨q, hj, hk⟩
      intro i j q r k hi hj hkq hkr
      rcases hold hi hkq with ⟨q₀, hq, hkq⟩ | ⟨rfl, hfree⟩
      · rcases hold hj hkr with ⟨r₀, hr, hkr⟩ | ⟨rfl, hfree⟩
        · exact h i j q₀ r₀ k hq hr hkq hkr
        · by_contra hne
          exact hfree i q₀ hq hne hkq
      · rcases hold hj hkr with ⟨r₀, hr, hkr⟩ | ⟨rfl, -⟩
        · by_contra hne
          exact hfree j r₀ hr (Ne.symm hne) hkr
        · rfl

/-- Reachable states are exclusive. -/
theorem Reaches.exclusive {ρ : Rules S E D V W} (h : Reaches Y ρ { store := d } s) :
    Exclusive Y.toMachine s.procs := by
  refine h.invariant (I := fun t => Exclusive Y.toMachine t.procs) ?_ ?_
  · intro i j p q k hi
    simp at hi
  · rintro t t' ht ⟨label, -, hs⟩
    exact ht.step hs

end Holding

/-- The keys that are clear stay clear. -/
def Kept (clear : K → D → Prop) (ks : List K) (d d' : D) : Prop :=
  ∀ k ∈ ks, clear k d → clear k d'

/-- A statement that writes a row with some key locks the key. -/
structure Guarded (Y : System S R F E D V K A W) (ρ : Rules S E D V W) (clear : K → D → Prop) :
    Prop where
  restores : Y.Restores
  start : ∀ w d d' p k, Y.start w d = some (d', p) → clear k d → clear k d'
  edit : ∀ d d' k, ρ.edit d d' → clear k d → clear k d'
  exec : ∀ s v a d d' k, Y.exec s v d = (.ok a, d') → k ∉ Y.locks s → clear k d → clear k d'

namespace Guarded

variable {Y : System S R F E D V K A W} {ρ : Rules S E D V W} {clear : K → D → Prop}
  {s t : State S R F E D V A} {i : ℕ} {p p' : Proc S R F E V A} {c : Choice E V} {d d' : D} {k : K}

theorem direct (h : Guarded Y ρ clear) {q : S} (hk : ∀ v, c = .run v → k ∉ Y.locks q)
    (hclear : clear k d) : clear k (Y.direct q c d).2 := by
  cases c with
  | fail e => exact hclear
  | run v =>
      change clear k (Y.exec q v d).2
      rcases h.restores q v d with ⟨a, d', hx⟩ | ⟨e, hx⟩
      · rw [hx]
        exact h.exec q v a d d' k hx (hk v rfl) hclear
      · rwa [hx]

theorem replay (h : Guarded Y ρ clear) {log : List (S × V)}
    (hk : k ∉ log.flatMap fun x => Y.locks x.1) (hclear : clear k d)
    (hr : Y.replay log d = some d') : clear k d' := by
  induction log generalizing d with
  | nil =>
      cases hr
      exact hclear
  | cons x rest ih =>
      simp only [List.flatMap_cons, List.mem_append, not_or] at hk
      rw [Machine.replay] at hr
      split at hr
      · next a d₁ hx => exact ih hk.2 (h.exec x.1 x.2 a d d₁ k hx hk.1 hclear) hr
      · cases hr

/-- A step of a process that neither holds the key nor needs it. -/
theorem procStep (h : Guarded Y ρ clear) (hs : p.step Y.toMachine c d = some (d', p'))
    (hheld : k ∉ Y.toMachine.held p.loc) (hneeds : ∀ v, c = .run v → k ∉ p.needs Y.toMachine)
    (hclear : clear k d) : clear k d' := by
  obtain ⟨l, prog⟩ := p
  cases prog with
  | ret r => cases hs
  | ctl ct k' =>
      cases hs
      cases ct with
      | enter f => exact hclear
      | leave => exact hclear
      | beginTx => exact hclear
      | rollback => exact hclear
      | commit =>
          rcases Y.ctlStep_commit c d l with ⟨e, hx, -⟩ | ⟨log, v, d', hl, -, hr, hx⟩
          · rw [hx]
            exact hclear
          · rw [hx]
            refine h.replay ?_ hclear hr
            simpa only [Machine.held, hl] using hheld
  | stmt q k' =>
      cases hs
      have hdirect : clear k (Y.direct q c d).2 := h.direct hneeds hclear
      cases hin : Y.inTx q with
      | false => simpa only [Machine.stmtStep, hin, Bool.false_eq_true, if_false] using hdirect
      | true =>
          cases hl : l.txn with
          | none => simpa only [Machine.stmtStep, hin, hl, if_true] using hdirect
          | aborted log => simpa only [Machine.stmtStep, hin, hl, if_true] using hclear
          | active log =>
              rcases Y.stmtStep_active (c := c) (d := d) hin hl with
                ⟨e, hx, -⟩ | ⟨v, view, a, -, -, -, hx⟩
              · rw [hx]
                exact hclear
              · rw [hx]
                exact hclear

variable [DecidableEq K]

/-- A move of the others keeps clear what the process holds. -/
theorem step (h : Guarded Y ρ clear) (hex : Exclusive Y.toMachine s.procs)
    (hp : s.procs[i]? = some p) {label : Label E D V W} (hne : ∀ c, label ≠ .step i c)
    (hallow : ρ.allows Y.toMachine s label) (hs : s.step Y label = some t) :
    t.procs[i]? = some p ∧ Kept clear (Y.toMachine.held p.loc) s.store t.store := by
  cases label with
  | spawn w =>
      obtain ⟨⟨d, prog⟩, hstart, rfl⟩ := Option.map_eq_some_iff.mp hs
      have hlt : i < s.procs.length := (List.getElem?_eq_some_iff.mp hp).1
      refine ⟨by rw [List.getElem?_append_left hlt, hp], fun k _ hclear => ?_⟩
      exact h.start w s.store d prog k hstart hclear
  | edit d =>
      cases hs
      exact ⟨hp, fun k _ hclear => h.edit s.store d k hallow hclear⟩
  | step j c =>
      obtain ⟨q, d, q', hq, hqs, rfl⟩ := State.step_process hs
      have hji : j ≠ i := fun hji => hne c (by rw [hji])
      refine ⟨by rw [List.getElem?_set_ne hji, hp], fun k hk hclear => ?_⟩
      refine h.procStep hqs (fun hkq => ?_) (fun v hv hkq => ?_) hclear
      · exact hji (hex j i q p k hq hp hkq hk)
      · subst hv
        exact State.step_free hs hq hkq hp (Ne.symm hji) hk

end Guarded

/-- The stores before and after each step of the process in the moves. -/
def State.contributions [DecidableEq K] (Y : System S R F E D V K A W) (i : ℕ) :
    State S R F E D V A → List (Label E D V W) → List (D × D)
  | _, [] => []
  | s, label :: ls => match s.step Y label with
      | none => []
      | some t => match label with
          | .step j _ =>
              if j = i then (s.store, t.store) :: contributions Y i t ls
              else contributions Y i t ls
          | _ => contributions Y i t ls

/-- No step has an effect. -/
def Silent (cs : List (D × D)) : Prop := ∀ x ∈ cs, x.2 = x.1

/-- One step has the effect `P`, and no other step has any. -/
def Once (P : D → D → Prop) (cs : List (D × D)) : Prop :=
  ∃ before d d' after, cs = before ++ (d, d') :: after ∧ Silent before ∧ Silent after ∧ P d d'

theorem Silent.cons {cs : List (D × D)} (h : Silent cs) (d : D) : Silent ((d, d) :: cs) := by
  intro x hx
  rcases List.mem_cons.mp hx with rfl | hx
  · rfl
  · exact h x hx

theorem Once.cons {P : D → D → Prop} {cs : List (D × D)} (h : Once P cs) (d : D) :
    Once P ((d, d) :: cs) := by
  obtain ⟨before, d₁, d₂, after, rfl, hbefore, hafter, hP⟩ := h
  exact ⟨(d, d) :: before, d₁, d₂, after, rfl, hbefore.cons d, hafter, hP⟩

section Program

variable (M : Machine S R E D V K) (ρ : Rules S E D V W) (clear : K → D → Prop)

/-- Every allowed run of the program, which left the store `d` last, ends with `Q` of its result
and its contributions, whatever the other processes do that keeps clear what it holds. -/
def Contributes (Q : Except E α → List (D × D) → Local S F V → D → Prop) :
    Prog S R F E α → Local S F V → D → Prop
  | .ret r, l, d => Q r [] l d
  | .ctl ct k, l, d => ∀ d₁ c, Kept clear (M.held l) d d₁ → ρ.allowsCtl M ct c d₁ l →
      Contributes (fun r cs => Q r ((d₁, (M.ctlStep ct c d₁ l).2.1) :: cs))
        (k (M.ctlStep ct c d₁ l).1) (M.ctlStep ct c d₁ l).2.2 (M.ctlStep ct c d₁ l).2.1
  | .stmt s k, l, d => ∀ d₁ c, Kept clear (M.held l) d d₁ → ρ.allowsStmt M s c d₁ l →
      Contributes (fun r cs => Q r ((d₁, (M.stmtStep s c d₁ l).2.1) :: cs))
        (k (M.stmtStep s c d₁ l).1) (M.stmtStep s c d₁ l).2.2 (M.stmtStep s c d₁ l).2.1

variable {M ρ clear} {Q Q' : Except E α → List (D × D) → Local S F V → D → Prop}
  {p : Prog S R F E α} {l : Local S F V} {d : D}

theorem Contributes.mono (h : Contributes M ρ clear Q p l d)
    (hQ : ∀ r cs l d, Q r cs l d → Q' r cs l d) : Contributes M ρ clear Q' p l d := by
  induction p generalizing Q Q' l d with
  | ret r => exact hQ r [] l d h
  | ctl ct k ih => exact fun d₁ c hd ha => ih _ (h d₁ c hd ha) fun r cs => hQ r _
  | stmt s k ih => exact fun d₁ c hd ha => ih _ (h d₁ c hd ha) fun r cs => hQ r _

theorem Contributes.handle {Q : Except E β → List (D × D) → Local S F V → D → Prop}
    {h : Except E α → Prog S R F E β}
    (hp : Contributes M ρ clear (fun r cs l d =>
      Contributes M ρ clear (fun r' cs' => Q r' (cs ++ cs')) (h r) l d) p l d) :
    Contributes M ρ clear Q (p.handle h) l d := by
  induction p generalizing Q l d with
  | ret r => exact hp
  | ctl ct k ih => exact fun d₁ c hd ha => ih _ (hp d₁ c hd ha)
  | stmt s k ih => exact fun d₁ c hd ha => ih _ (hp d₁ c hd ha)

/-- A statement outside of a transaction. -/
theorem contributes_exec {s : S} {Q : Except E (R s) → List (D × D) → Local S F V → D → Prop}
    (hl : l.txn = .none) (h : ∀ d₁ c, ρ.stmt s c d₁ →
      Q (M.direct s c d₁).1 [(d₁, (M.direct s c d₁).2)] l (M.direct s c d₁).2) :
    Contributes M ρ clear Q (.exec s) l d := by
  intro d₁ c _ ha
  have hrule : ρ.stmt s c d₁ := by
    cases hin : M.inTx s with
    | true => simpa only [Rules.allowsStmt, hin, hl] using ha
    | false => simpa only [Rules.allowsStmt, hin] using ha
  have hstep : M.stmtStep s c d₁ l = ((M.direct s c d₁).1, (M.direct s c d₁).2, l) := by
    simp [Machine.stmtStep, hl]
  rw [hstep]
  exact h d₁ c hrule

/-- A step without effect does not count. -/
def Stutters (Q : Except E α → List (D × D) → Local S F V → D → Prop) : Prop :=
  ∀ r cs l d d₁, Q r cs l d → Q r ((d₁, d₁) :: cs) l d

/-- A statement that takes effect at once and leaves the store alone. -/
theorem contributes_read_bind {s : S} {f : R s → Prog S R F E α} (hQ : Stutters Q)
    (hl : l.txn = .none) (hread : ∀ v d, (M.exec s v d).2 = d)
    (hfail : ∀ d₁ e, ρ.stmt s (.fail e) d₁ → Q (.error e) [] l d₁)
    (hrun : ∀ d₁ v, ρ.stmt s (.run v) d₁ → match (M.exec s v d₁).1 with
      | .ok a => Contributes M ρ clear Q (f a) l d₁
      | .error e => Q (.error e) [] l d₁) :
    Contributes M ρ clear Q (.exec s >>= f) l d := by
  intro d₁ c _ ha
  have hrule : ρ.stmt s c d₁ := by
    cases hin : M.inTx s with
    | true => simpa only [Rules.allowsStmt, hin, hl] using ha
    | false => simpa only [Rules.allowsStmt, hin] using ha
  have hstep : M.stmtStep s c d₁ l = ((M.direct s c d₁).1, d₁, l) := by
    have hstore : (M.direct s c d₁).2 = d₁ := by
      cases c with
      | fail e => rfl
      | run v => exact hread v d₁
    simp [Machine.stmtStep, hl, hstore]
  rw [hstep]
  cases c with
  | fail e => exact hQ _ _ _ _ _ (hfail d₁ e hrule)
  | run v =>
      have hrun := hrun d₁ v hrule
      cases hx : (M.exec s v d₁).1 with
      | ok a =>
          have hdirect : (M.direct s (.run v) d₁).1 = .ok a := hx
          rw [hx] at hrun
          rw [hdirect]
          exact hrun.mono fun r cs l d => hQ r cs l d d₁
      | error e =>
          have hdirect : (M.direct s (.run v) d₁).1 = .error e := hx
          rw [hx] at hrun
          rw [hdirect]
          exact hQ _ _ _ _ _ hrun

/-- A statement of an open transaction that always answers. -/
theorem contributes_logged_bind {s : S} {f : R s → Prog S R F E α} {log : List (S × V)}
    (hQ : Stutters Q) (hin : M.inTx s = true) (hl : l.txn = .active log)
    (h : ∀ d₁ c, Kept clear (M.held l) d d₁ → ρ.inner s c d₁ = true → ∃ v view a,
      c = .run v ∧ M.replay log d₁ = some view ∧ (M.exec s v view).1 = .ok a ∧
        Contributes M ρ clear Q (f a) { l with txn := .active (log ++ [(s, v)]) } d₁) :
    Contributes M ρ clear Q (.exec s >>= f) l d := by
  intro d₁ c hd ha
  have hinner : ρ.inner s c d₁ = true := by simpa only [Rules.allowsStmt, hin, hl] using ha
  obtain ⟨v, view, a, rfl, hview, hx, h⟩ := h d₁ c hd hinner
  have hstep : M.stmtStep s (.run v) d₁ l =
      (.ok a, d₁, { l with txn := .active (log ++ [(s, v)]) }) := by
    simp [Machine.stmtStep, hin, hl, hview, hx]
  rw [hstep]
  exact h.mono fun r cs l d => hQ r cs l d d₁

variable (M ρ clear) in
/-- The body of a transaction has ended with a value, and the commit of its log goes through. -/
def Commits (Q : Except E α → List (D × D) → Local S F V → D → Prop) (r : Except E α)
    (cs : List (D × D)) (l : Local S F V) (d : D) : Prop :=
  ∃ a log, r = .ok a ∧ l.txn = .active log ∧ Silent cs ∧ ∀ d₁ c, Kept clear (M.held l) d d₁ →
    ρ.allowsCtl M (.commit : Control F) c d₁ l → ∃ v d₂, c = .run v ∧ M.replay log d₁ = some d₂ ∧
      Q (.ok a) [(d₁, d₂)] { l with txn := .none } d₂

theorem commits_stutters : Stutters (Commits M ρ clear Q) := by
  rintro r cs l d d₁ ⟨a, log, hr, hlog, hcs, hcommit⟩
  exact ⟨a, log, hr, hlog, hcs.cons d₁, hcommit⟩

theorem Stutters.silent (hQ : Stutters Q) {r : Except E α} {quiet cs : List (D × D)}
    (hquiet : Silent quiet) (h : Q r cs l d) : Q r (quiet ++ cs) l d := by
  induction quiet with
  | nil => exact h
  | cons x quiet ih =>
      obtain ⟨x₁, x₂⟩ := x
      obtain rfl : x₂ = x₁ := hquiet (x₁, x₂) List.mem_cons_self
      exact hQ _ _ _ _ _ (ih fun y hy => hquiet y (List.mem_cons_of_mem _ hy))

/-- A transaction whose body leads to the commit of its log. -/
theorem contributes_transaction (hQ : Stutters Q)
    (h : ∀ d₁, Contributes M ρ clear (Commits M ρ clear Q) p { l with txn := .active [] } d₁) :
    Contributes M ρ clear Q p.transaction l d := by
  intro d₁ c _ _
  refine Contributes.handle ((h d₁).mono ?_)
  rintro r cs l' d' ⟨a, log, rfl, hlog, hcs, hcommit⟩ d₂ c hd ha
  obtain ⟨v, d₃, rfl, hr, hend⟩ := hcommit d₂ c hd ha
  have hstep : M.ctlStep (F := F) .commit (.run v) d₂ l' =
      (.ok (), d₃, { l' with txn := .none }) := by
    simp [Machine.ctlStep, hlog, hr]
  rw [hstep]
  exact hQ _ _ _ _ _ (hQ.silent hcs hend)

end Program

variable [DecidableEq K] {Y : System S R F E D V K A W} {ρ : Rules S E D V W}
  {clear : K → D → Prop}

/-- A process that has come to its end in a run. -/
theorem Contributes.run {Q : Except E A → List (D × D) → Local S F V → D → Prop}
    (hguard : Guarded Y ρ clear) {ls : List (Label E D V W)} {s u : State S R F E D V A} {i : ℕ}
    {p : Proc S R F E V A} {d : D} {l : Local S F V} {r : Except E A}
    (hex : Exclusive Y.toMachine s.procs) (hp : s.procs[i]? = some p)
    (hd : Kept clear (Y.toMachine.held p.loc) d s.store)
    (h : Contributes Y.toMachine ρ clear Q p.prog p.loc d) (hall : AllowedRun Y ρ s ls)
    (hrun : s.run Y ls = some u) (hend : u.procs[i]? = some ⟨l, .ret r⟩) :
    ∃ d', Q r (s.contributions Y i ls) l d' := by
  induction ls generalizing s p d Q with
  | nil =>
      cases hrun
      cases hp.symm.trans hend
      exact ⟨d, h⟩
  | cons label ls ih =>
      rw [State.run] at hrun
      obtain ⟨t, ht, hrest⟩ := Option.bind_eq_some_iff.mp hrun
      have hallow := hall.1
      by_cases hown : ∃ c, label = .step i c
      · obtain ⟨c, rfl⟩ := hown
        obtain ⟨p₀, d', p', hp₀, hps, rfl⟩ := State.step_process ht
        cases hp.symm.trans hp₀
        have hp' : (s.procs.set i p')[i]? = some p' := by
          rw [List.getElem?_set_self (List.getElem?_eq_some_iff.mp hp).1]
        have hnext : Contributes Y.toMachine ρ clear (fun r cs => Q r ((s.store, d') :: cs))
            p'.prog p'.loc d' := by
          have hrule : ρ.allowsProc Y.toMachine p c s.store := hallow p hp
          obtain ⟨l₀, prog⟩ := p
          cases prog with
          | ret r => cases hps
          | ctl ct k =>
              cases hps
              exact h s.store c hd hrule
          | stmt q k =>
              cases hps
              exact h s.store c hd hrule
        obtain ⟨d'', hQ⟩ := ih (hex.step ht) hp' (fun _ _ hclear => hclear) hnext
          (hall.2 _ ht) hrest
        refine ⟨d'', ?_⟩
        rw [State.contributions, ht]
        simpa using hQ
      · have hne : ∀ c, label ≠ .step i c := fun c hc => hown ⟨c, hc⟩
        obtain ⟨hp', hkept⟩ := hguard.step hex hp hne hallow ht
        have hd' : Kept clear (Y.toMachine.held p.loc) d t.store :=
          fun k hk hclear => hkept k hk (hd k hk hclear)
        obtain ⟨d'', hQ⟩ := ih (hex.step ht) hp' hd' h (hall.2 t ht) hrest
        refine ⟨d'', ?_⟩
        rw [State.contributions, ht]
        cases label with
        | spawn w => exact hQ
        | edit d => exact hQ
        | step j c =>
            have hji : j ≠ i := fun hji => hne c (by rw [hji])
            simpa [hji] using hQ

end Interleaving
