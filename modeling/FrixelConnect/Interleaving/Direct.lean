import FrixelConnect.Interleaving.StoreRule

/-!
# Systems without transactions

Where no program opens a transaction, every statement takes effect at once. A move of such a
system leaves the store alone, is an edit, or executes one statement on the store that it meets.
-/

namespace Interleaving

variable {S : Type} {R : S → Type} {F E D V K A W : Type}

/-- No program has control steps, and its statements satisfy `φ`. -/
structure Direct (Y : System S R F E D V K A W) (φ : S → Prop) : Prop where
  restores : Y.Restores
  start : ∀ w d d' p, Y.start w d = some (d', p) → d' = d ∧ p.Plain φ

/-- The process has no transaction, and will not open one. -/
structure Proc.Direct (φ : S → Prop) (p : Proc S R F E V A) : Prop where
  txn : p.loc.txn = .none
  prog : p.prog.Plain φ

theorem Proc.Direct.step {M : Machine S R E D V K} {φ : S → Prop} {p p' : Proc S R F E V A}
    {c : Choice E V} {d d' : D} (h : p.Direct φ) (hs : p.step M c d = some (d', p')) :
    p'.Direct φ ∧ ∃ q k, p.prog = .stmt q k ∧ φ q ∧ d' = (M.direct q c d).2 := by
  obtain ⟨l, prog⟩ := p
  cases prog with
  | ret r => cases hs
  | ctl ct k => exact h.prog.elim
  | stmt q k =>
      have hl : l.txn = .none := h.txn
      have hstep : M.stmtStep q c d l = ((M.direct q c d).1, (M.direct q c d).2, l) := by
        simp [Machine.stmtStep, hl]
      cases hs
      rw [hstep]
      exact ⟨⟨hl, h.prog.2 _⟩, q, k, rfl, h.prog.1, rfl⟩

variable [DecidableEq K]

/-- A process executes the statement and is answered. -/
def Executes (Y : System S R F E D V K A W) (q : S) (v : V) (s s' : State S R F E D V A) : Prop :=
  ∃ i p k a, s.procs[i]? = some p ∧ p.prog = .stmt q k ∧ s.step Y (.step i (.run v)) = some s' ∧
    Y.exec q v s.store = (.ok a, s'.store)

variable {Y : System S R F E D V K A W} {ρ : Rules S E D V W} {s s' : State S R F E D V A}

theorem Executes.step {φ : S → Prop} {q : S} {v : V} (h : Executes Y q v s s')
    (hp : ∀ p ∈ s.procs, p.Direct φ) (hrule : ρ.stmt q (.run v) s.store) : Step Y ρ s s' := by
  obtain ⟨i, p, k, a, hi, hq, hmove, -⟩ := h
  refine ⟨.step i (.run v), fun p' hi' => ?_, hmove⟩
  cases hi.symm.trans hi'
  have htxn := (hp p (List.mem_of_getElem? hi)).txn
  rw [Rules.allowsProc, hq]
  cases hin : Y.inTx q with
  | true => simpa only [Rules.allowsStmt, hin, htxn] using hrule
  | false => simpa only [Rules.allowsStmt, hin] using hrule

/-- Where a run crosses the border of a set of states. -/
theorem Reaches.crossing {P : State S R F E D V A → Prop} (h : Reaches Y ρ s s') (hs : ¬ P s)
    (hs' : P s') : ∃ t t', Reaches Y ρ s t ∧ Step Y ρ t t' ∧ Reaches Y ρ t' s' ∧ ¬ P t ∧ P t' := by
  induction h with
  | refl => exact absurd hs' hs
  | @tail t t' hr hst ih =>
      by_cases ht : P t
      · obtain ⟨u, u', hu, hstep, hu', hnot, hP⟩ := ih ht
        exact ⟨u, u', hu, hstep, hu'.tail hst, hnot, hP⟩
      · exact ⟨t, t', hr, hst, .refl, ht, hs'⟩

/-- A run that is given by its moves, and one move more, with a view of the stores. -/
theorem Reaches.of_moves_step {B : Type} (s : State S R F E D V A) (ls : List (Label E D V W))
    (l : Label E D V W) (f : D → B) (b b' : B) (hall : AllowedRun Y ρ s (ls ++ [l]))
    (h : (s.run Y ls).map (fun t => f t.store) = some b)
    (h' : (s.run Y (ls ++ [l])).map (fun t => f t.store) = some b') :
    ∃ t t', Reaches Y ρ s t ∧ Step Y ρ t t' ∧ f t.store = b ∧ f t'.store = b' := by
  obtain ⟨t, ht, hb⟩ := Option.map_eq_some_iff.mp h
  obtain ⟨u, hu, hb'⟩ := Option.map_eq_some_iff.mp h'
  rw [State.run_append, ht, Option.bind_some, State.run] at hu
  obtain ⟨t', ht', hrun⟩ := Option.bind_eq_some_iff.mp hu
  cases hrun
  obtain ⟨h₁, h₂⟩ := hall.append ht
  exact ⟨t, _, .of_run h₁ ht, ⟨l, h₂.1, ht'⟩, hb, hb'⟩

namespace Direct

variable {φ : S → Prop}

theorem step (h : Direct Y φ) (hp : ∀ p ∈ s.procs, p.Direct φ) (hst : Step Y ρ s s') :
    (∀ p ∈ s'.procs, p.Direct φ) ∧ (s'.store = s.store ∨ ρ.edit s.store s'.store ∨
      ∃ q v, φ q ∧ ρ.stmt q (.run v) s.store ∧ Executes Y q v s s') := by
  obtain ⟨label, hallow, hmove⟩ := hst
  cases label with
  | spawn w =>
      obtain ⟨⟨d', p⟩, hstart, rfl⟩ := Option.map_eq_some_iff.mp hmove
      obtain ⟨hd, hplain⟩ := h.start w s.store d' p hstart
      refine ⟨fun q hq => ?_, .inl hd⟩
      rcases List.mem_append.mp hq with hq | hq
      · exact hp q hq
      · rw [List.mem_singleton.mp hq]
        exact ⟨rfl, hplain⟩
  | edit d =>
      cases hmove
      exact ⟨hp, .inr (.inl hallow)⟩
  | step i c =>
      obtain ⟨p, d, p', hi, hps, hs'⟩ := State.step_process hmove
      have hdirect := hp p (List.mem_of_getElem? hi)
      obtain ⟨hp', q, k, hq, hφ, hd⟩ := hdirect.step hps
      have hprocs : ∀ p ∈ s'.procs, p.Direct φ := by
        intro r hr
        rw [hs'] at hr
        rcases List.mem_or_eq_of_mem_set hr with hr | rfl
        · exact hp r hr
        · exact hp'
      have hrule : ρ.allowsStmt Y.toMachine q c s.store p.loc := by
        have := hallow p hi
        rwa [Rules.allowsProc, hq] at this
      have hrule : ρ.stmt q c s.store := by
        cases hin : Y.inTx q with
        | true => simpa only [Rules.allowsStmt, hin, hdirect.txn] using hrule
        | false => simpa only [Rules.allowsStmt, hin] using hrule
      refine ⟨hprocs, ?_⟩
      have hstore : s'.store = (Y.direct q c s.store).2 := by rw [hs', hd]
      cases c with
      | fail e => exact .inl hstore
      | run v =>
          rcases h.restores q v s.store with ⟨a, d', hx⟩ | ⟨e, hx⟩
          · refine .inr (.inr ⟨q, v, hφ, hrule, i, p, k, a, hi, hq, hmove, ?_⟩)
            change s'.store = (Y.exec q v s.store).2 at hstore
            rw [hstore, hx]
          · change s'.store = (Y.exec q v s.store).2 at hstore
            rw [hx] at hstore
            exact .inl hstore

theorem procs (h : Direct Y φ) (hr : Reaches Y ρ s s') (hp : ∀ p ∈ s.procs, p.Direct φ) :
    ∀ p ∈ s'.procs, p.Direct φ :=
  hr.invariant (I := fun t => ∀ p ∈ t.procs, p.Direct φ) hp fun _ _ ht hst => (h.step ht hst).1

end Direct

/-- The edits and the statements keep `I`, and relate the stores before and after them. -/
structure DirectRule (Y : System S R F E D V K A W) (ρ : Rules S E D V W) (φ : S → Prop)
    (I : D → Prop) (r : D → D → Prop) : Prop extends Direct Y φ where
  refl : ∀ d, r d d
  trans : ∀ d d' d'', r d d' → r d' d'' → r d d''
  edit : ∀ d d', ρ.edit d d' → I d → I d' ∧ r d d'
  stmt : ∀ q v a d d', φ q → ρ.stmt q (.run v) d → I d → Y.exec q v d = (.ok a, d') →
    I d' ∧ r d d'

namespace DirectRule

variable {φ : S → Prop} {I : D → Prop} {r : D → D → Prop}

theorem step (h : DirectRule Y ρ φ I r) (hp : ∀ p ∈ s.procs, p.Direct φ) (hI : I s.store)
    (hst : Step Y ρ s s') : I s'.store ∧ r s.store s'.store := by
  rcases (h.toDirect.step hp hst).2 with hsame | hedit | ⟨q, v, hφ, hrule, i, p, k, a, -, -, -, hx⟩
  · rw [hsame]
    exact ⟨hI, h.refl _⟩
  · exact h.edit _ _ hedit hI
  · exact h.stmt q v a _ _ hφ hrule hI hx

/-- The invariant and the relation along a run. -/
theorem reaches (h : DirectRule Y ρ φ I r) (hr : Reaches Y ρ s s')
    (hp : ∀ p ∈ s.procs, p.Direct φ) (hI : I s.store) :
    I s'.store ∧ r s.store s'.store ∧ ∀ p ∈ s'.procs, p.Direct φ := by
  refine hr.invariant (I := fun t => I t.store ∧ r s.store t.store ∧ ∀ p ∈ t.procs, p.Direct φ)
    ⟨hI, h.refl _, hp⟩ ?_
  rintro t t' ⟨hIt, hrt, hpt⟩ hst
  obtain ⟨hIt', hrt'⟩ := h.step hpt hIt hst
  exact ⟨hIt', h.trans _ _ _ hrt hrt', (h.toDirect.step hpt hst).1⟩

/-- The invariant holds wherever a statement of a run is executed. -/
theorem allowedRun (h : DirectRule Y ρ φ I r) (hp : ∀ p ∈ s.procs, p.Direct φ) (hI : I s.store)
    {ls : List (Label E D V W)} (hall : AllowedRun Y ρ s ls) :
    AllowedRun Y { ρ with stmt := fun q c d => ρ.stmt q c d ∧ I d } s ls := by
  induction ls generalizing s with
  | nil => trivial
  | cons label ls ih =>
      obtain ⟨hallow, hrest⟩ := hall
      constructor
      · cases label with
        | spawn w => exact hallow
        | edit d => exact hallow
        | step i c =>
            intro p hi
            obtain ⟨htxn, hplain⟩ := hp p (List.mem_of_getElem? hi)
            have hrule := hallow p hi
            obtain ⟨l, prog⟩ := p
            cases prog with
            | ret r => trivial
            | ctl ct k => exact hplain.elim
            | stmt q k =>
                change l.txn = .none at htxn
                rw [Rules.allowsProc] at hrule ⊢
                cases hin : Y.inTx q with
                | true => simpa only [Rules.allowsStmt, hin, htxn] using And.intro hrule hI
                | false => simpa only [Rules.allowsStmt, hin] using And.intro hrule hI
      · intro t ht
        have hst : Step Y ρ s t := ⟨label, hallow, ht⟩
        exact ih (h.toDirect.step hp hst).1 (h.step hp hI hst).1 (hrest t ht)

end DirectRule

end Interleaving
