import FrixelConnect.Interleaving.Machine

/-!
# Programs that run alone

A program that runs alone still meets failures and the answers of its environment.
A journal says which of these are considered, and keeps what a property has to
remember of them. `Always I Q` holds of a program when every step keeps `I` and the
result is in `Q`; `always_iff` says that this is a statement about all runs.
-/

namespace Interleaving

variable {S : Type} {R : S → Type} {F E D V K J α β : Type}

/-- The journal after a statement; `none` for choices of the environment that are left out. -/
abbrev Journal (S E V J : Type) := J → S → Choice E V → Option J

/-- A program in the middle of its run. -/
structure Config (S : Type) (R : S → Type) (F E D V J α : Type) where
  journal : J
  store : D
  proc : Proc S R F E V α

namespace Solo

variable (M : Machine S R E D V K) (note : Journal S E V J)

/-- One step of the program. -/
def Step (x y : Config S R F E D V J α) : Prop :=
  ∃ c, x.proc.step M c x.store = some (y.store, y.proc) ∧ match x.proc.prog with
    | .stmt s _ => note x.journal s c = some y.journal
    | _ => y.journal = x.journal

/-- Any number of steps. -/
def Reaches : Config S R F E D V J α → Config S R F E D V J α → Prop :=
  Relation.ReflTransGen (Step M note)

variable (I : J → D → Prop)

/-- Every step keeps `I`, and the result is in `Q`. -/
def Always (Q : Except E α → J → D → Local S F V → Prop) :
    Prog S R F E α → J → D → Local S F V → Prop
  | .ret r, j, d, l => I j d ∧ Q r j d l
  | .ctl ct k, j, d, l => I j d ∧ ∀ c, Always Q (k (M.ctlStep ct c d l).1) j
      (M.ctlStep ct c d l).2.1 (M.ctlStep ct c d l).2.2
  | .stmt s k, j, d, l => I j d ∧ ∀ c j', note j s c = some j' →
      Always Q (k (M.stmtStep s c d l).1) j' (M.stmtStep s c d l).2.1 (M.stmtStep s c d l).2.2

variable {M note I} {Q : Except E α → J → D → Local S F V → Prop} {p : Prog S R F E α}
  {j : J} {d : D} {l : Local S F V}

theorem Always.inv (h : Always M note I Q p j d l) : I j d := by
  cases p <;> exact h.1

/-- What holds of a program holds of what one step leaves of it. -/
theorem Always.step {x y : Config S R F E D V J α}
    (h : Always M note I Q x.proc.prog x.journal x.store x.proc.loc) (hs : Step M note x y) :
    Always M note I Q y.proc.prog y.journal y.store y.proc.loc := by
  obtain ⟨j, d, ⟨l, p⟩⟩ := x
  obtain ⟨j', d', p'⟩ := y
  obtain ⟨c, hstep, hnote⟩ := hs
  cases p with
  | ret r => cases hstep
  | ctl ct k =>
      have hj : j' = j := hnote
      cases hstep
      subst hj
      exact h.2 c
  | stmt s k =>
      cases hstep
      exact h.2 c j' hnote

/-- `Always` speaks about every state that a run reaches, and about its result. -/
theorem always_iff : Always M note I Q p j d l ↔
    ∀ y, Reaches M note ⟨j, d, ⟨l, p⟩⟩ y → I y.journal y.store ∧
      ∀ r, y.proc.prog = .ret r → Q r y.journal y.store y.proc.loc := by
  constructor
  · intro h y hy
    have hy' : Always M note I Q y.proc.prog y.journal y.store y.proc.loc := by
      induction hy with
      | refl => exact h
      | tail _ hs ih => exact ih.step hs
    refine ⟨hy'.inv, fun r hr => ?_⟩
    rw [hr] at hy'
    exact hy'.2
  · intro h
    induction p generalizing j d l with
    | ret r => exact ⟨(h _ .refl).1, (h _ .refl).2 r rfl⟩
    | ctl ct k ih =>
        refine ⟨(h _ .refl).1, fun c => ih _ fun y hy => ?_⟩
        have hs : Step M note ⟨j, d, ⟨l, .ctl ct k⟩⟩ ⟨j, (M.ctlStep ct c d l).2.1,
            ⟨(M.ctlStep ct c d l).2.2, k (M.ctlStep ct c d l).1⟩⟩ := ⟨c, rfl, rfl⟩
        exact h y (.head hs hy)
    | stmt s k ih =>
        refine ⟨(h _ .refl).1, fun c j' hj => ih _ fun y hy => ?_⟩
        have hs : Step M note ⟨j, d, ⟨l, .stmt s k⟩⟩ ⟨j', (M.stmtStep s c d l).2.1,
            ⟨(M.stmtStep s c d l).2.2, k (M.stmtStep s c d l).1⟩⟩ := ⟨c, rfl, hj⟩
        exact h y (.head hs hy)

theorem Always.and {Q' : Except E α → J → D → Local S F V → Prop}
    (h : Always M note I Q p j d l) (h' : Always M note I Q' p j d l) :
    Always M note I (fun r j d l => Q r j d l ∧ Q' r j d l) p j d l := by
  induction p generalizing j d l with
  | ret r => exact ⟨h.1, h.2, h'.2⟩
  | ctl ct k ih => exact ⟨h.1, fun c => ih _ (h.2 c) (h'.2 c)⟩
  | stmt s k ih => exact ⟨h.1, fun c j' hj => ih _ (h.2 c j' hj) (h'.2 c j' hj)⟩

/-- Where every statement has a choice, some run comes to an end. -/
theorem Always.ends [Nonempty V] (h : Always M note I Q p j d l)
    (hnote : ∀ j s, ∃ c j', note j s c = some j') : ∃ r j d l, Q r j d l := by
  induction p generalizing j d l with
  | ret r => exact ⟨r, j, d, l, h.2⟩
  | ctl ct k ih => exact ih _ (h.2 (.run (Classical.arbitrary V)))
  | stmt s k ih =>
      obtain ⟨c, j', hj⟩ := hnote j s
      exact ih _ (h.2 c j' hj)

theorem Always.mono {Q' : Except E α → J → D → Local S F V → Prop}
    (h : Always M note I Q p j d l) (hQ : ∀ r j d l, I j d → Q r j d l → Q' r j d l) :
    Always M note I Q' p j d l := by
  induction p generalizing j d l with
  | ret r => exact ⟨h.1, hQ r j d l h.1 h.2⟩
  | ctl ct k ih => exact ⟨h.1, fun c => ih _ (h.2 c)⟩
  | stmt s k ih => exact ⟨h.1, fun c j' hj => ih _ (h.2 c j' hj)⟩

/-- A handled program: the handler runs where the program has ended. -/
theorem always_handle {Q : Except E β → J → D → Local S F V → Prop}
    {h : Except E α → Prog S R F E β} :
    Always M note I Q (p.handle h) j d l ↔
      Always M note I (fun r => Always M note I Q (h r)) p j d l := by
  induction p generalizing j d l with
  | ret r => exact ⟨fun hr => ⟨hr.inv, hr⟩, fun hr => hr.2⟩
  | ctl ct k ih => exact and_congr_right fun _ => forall_congr' fun c => ih _
  | stmt s k ih =>
      exact and_congr_right fun _ => forall_congr' fun c => forall_congr' fun j' =>
        forall_congr' fun _ => ih _

/-- The rule of sequencing. -/
theorem always_bind {Q : Except E β → J → D → Local S F V → Prop} {f : α → Prog S R F E β} :
    Always M note I Q (p >>= f) j d l ↔ Always M note I (fun r => Always M note I Q
      (match r with | .ok a => f a | .error e => .ret (.error e))) p j d l := always_handle

/-- Sequencing, with an assertion between the two programs. -/
theorem always_then {Q : Except E β → J → D → Local S F V → Prop} {f : α → Prog S R F E β}
    {T : Except E α → J → D → Local S F V → Prop} (h : Always M note I T p j d l)
    (herr : ∀ e j d l, I j d → T (.error e) j d l → Q (.error e) j d l)
    (hok : ∀ a j d l, I j d → T (.ok a) j d l → Always M note I Q (f a) j d l) :
    Always M note I Q (p >>= f) j d l := by
  refine always_bind.mpr (h.mono fun r j d l hi hr => ?_)
  cases r with
  | ok a => exact hok a j d l hi hr
  | error e => exact ⟨hi, herr e j d l hi hr⟩

/-- A program whose statements keep `I`. -/
theorem always_of_plain {φ : S → Prop} (hp : p.Plain φ) (hl : l.txn = .none) (hi : I j d)
    (hkeep : ∀ s, φ s → ∀ c j j' d, I j d → note j s c = some j' → I j' (M.direct s c d).2) :
    Always M note I (fun _ _ _ l' => l' = l) p j d l := by
  induction p generalizing j d with
  | ret r => exact ⟨hi, rfl⟩
  | ctl c k _ => exact hp.elim
  | stmt s k ih =>
      refine ⟨hi, fun c j' hj => ?_⟩
      have hstep : M.stmtStep s c d l = ((M.direct s c d).1, (M.direct s c d).2, l) := by
        simp [Machine.stmtStep, hl]
      rw [hstep]
      exact ih _ (hp.2 _) (hkeep s hp.1 c j j' d hi hj)

/-- A weaker invariant. -/
theorem Always.weaken {I' : J → D → Prop} (h : Always M note I Q p j d l)
    (hI : ∀ j d, I j d → I' j d) : Always M note I' (fun r j d l => I j d ∧ Q r j d l) p j d l := by
  induction p generalizing j d l with
  | ret r => exact ⟨hI _ _ h.1, h⟩
  | ctl ct k ih => exact ⟨hI _ _ h.1, fun c => ih _ (h.2 c)⟩
  | stmt s k ih => exact ⟨hI _ _ h.1, fun c j' hj => ih _ (h.2 c j' hj)⟩

/-- A statement that takes effect at once. -/
theorem always_exec {s : S} {Q : Except E (R s) → J → D → Local S F V → Prop}
    (hl : M.inTx s = false ∨ l.txn = .none) :
    Always M note I Q (.exec s) j d l ↔ I j d ∧ ∀ c j', note j s c = some j' →
      I j' (M.direct s c d).2 ∧ Q (M.direct s c d).1 j' (M.direct s c d).2 l := by
  have hstep (c : Choice E V) :
      M.stmtStep s c d l = ((M.direct s c d).1, (M.direct s c d).2, l) := by
    rcases hl with hl | hl
    · simp [Machine.stmtStep, hl]
    · simp [Machine.stmtStep, hl]
  simp only [Prog.exec, Always, hstep]

/-- A statement that takes effect at once, and what follows its answer. -/
theorem always_exec_bind {s : S} {f : R s → Prog S R F E β}
    {Q : Except E β → J → D → Local S F V → Prop} (hl : M.inTx s = false ∨ l.txn = .none)
    (hi : I j d) (h : ∀ c j', note j s c = some j' → match (M.direct s c d).1 with
      | .ok a => Always M note I Q (f a) j' (M.direct s c d).2 l
      | .error e => I j' (M.direct s c d).2 ∧ Q (.error e) j' (M.direct s c d).2 l) :
    Always M note I Q (.exec s >>= f) j d l := by
  refine always_bind.mpr ((always_exec hl).mpr ⟨hi, fun c j' hj => ?_⟩)
  have hc := h c j' hj
  cases hr : (M.direct s c d).1 with
  | ok a =>
      rw [hr] at hc
      exact ⟨hc.inv, hc⟩
  | error e =>
      rw [hr] at hc
      exact ⟨hc.1, hc⟩

/-- A frame around a program. -/
theorem always_inFrame [Nonempty V] {f : F} : Always M note I Q (p.inFrame f) j d l ↔
    Always M note I (fun r j d l => Q r j d { l with frames := l.frames.tail }) p j d
      { l with frames := f :: l.frames } := by
  have : Nonempty (Choice E V) := ‹Nonempty V›.map .run
  have hleave (q : Except E α) (j : J) (d : D) (l : Local S F V) :
      Always M note I Q (.ctl .leave fun _ => .ret q) j d l ↔
        I j d ∧ Q q j d { l with frames := l.frames.tail } := by
    simp only [Always, Machine.ctlStep, forall_const, and_self_left]
  have henter : Always M note I Q (p.inFrame f) j d l ↔ I j d ∧ Always M note I Q
      (p.handle fun r => .ctl .leave fun _ => .ret r) j d { l with frames := f :: l.frames } := by
    simp only [Prog.inFrame, Always, Machine.ctlStep, forall_const]
  rw [henter, always_handle]
  constructor
  · exact fun h => h.2.mono fun r j d l _ hr => ((hleave r j d l).mp hr).2
  · exact fun h => ⟨h.inv, h.mono fun r j d l hi hr => (hleave r j d l).mpr ⟨hi, hr⟩⟩

section Outcome

/-- What the environment chooses for every statement, and for a commit. -/
structure Fate (S E V : Type) where
  stmt : S → Choice E V
  commit : Choice E V

variable (M : Machine S R E D V K) (fate : Fate S E V)

/-- The result, the store and the control state of the run that meets its fate. -/
def outcome : Prog S R F E α → D → Local S F V → Except E α × D × Local S F V
  | .ret r, d, l => (r, d, l)
  | .ctl ct k, d, l => outcome (k (M.ctlStep ct fate.commit d l).1)
      (M.ctlStep ct fate.commit d l).2.1 (M.ctlStep ct fate.commit d l).2.2
  | .stmt s k, d, l => outcome (k (M.stmtStep s (fate.stmt s) d l).1)
      (M.stmtStep s (fate.stmt s) d l).2.1 (M.stmtStep s (fate.stmt s) d l).2.2

variable {M fate} {p : Prog S R F E α} {d : D} {l : Local S F V}

/-- The outcome is the end of a run, whose journal stays as it is. -/
theorem outcome_reaches_note {note : Journal S E V J} {j : J}
    (hnote : ∀ s, note j s (fate.stmt s) = some j) : Reaches M note ⟨j, d, ⟨l, p⟩⟩
    ⟨j, (outcome M fate p d l).2.1, ⟨(outcome M fate p d l).2.2, .ret (outcome M fate p d l).1⟩⟩ := by
  induction p generalizing d l with
  | ret r => exact .refl
  | ctl ct k ih =>
      have hs : Step M note ⟨j, d, ⟨l, .ctl ct k⟩⟩
          ⟨j, (M.ctlStep ct fate.commit d l).2.1, ⟨(M.ctlStep ct fate.commit d l).2.2,
            k (M.ctlStep ct fate.commit d l).1⟩⟩ := ⟨fate.commit, rfl, rfl⟩
      exact .head hs (ih _)
  | stmt s k ih =>
      have hs : Step M note ⟨j, d, ⟨l, .stmt s k⟩⟩
          ⟨j, (M.stmtStep s (fate.stmt s) d l).2.1, ⟨(M.stmtStep s (fate.stmt s) d l).2.2,
            k (M.stmtStep s (fate.stmt s) d l).1⟩⟩ := ⟨fate.stmt s, rfl, hnote s⟩
      exact .head hs (ih _)

theorem outcome_handle {h : Except E α → Prog S R F E β} : outcome M fate (p.handle h) d l =
    outcome M fate (h (outcome M fate p d l).1) (outcome M fate p d l).2.1
      (outcome M fate p d l).2.2 := by
  induction p generalizing d l with
  | ret r => rfl
  | ctl ct k ih => exact ih _
  | stmt s k ih => exact ih _

theorem outcome_exec {s : S} {r : Except E (R s)} {d' : D} (hl : l.txn = .none)
    (hx : M.direct s (fate.stmt s) d = (r, d')) : outcome M fate (.exec s) d l = (r, d', l) := by
  simp [Prog.exec, outcome, Machine.stmtStep, hl, hx]

/-- A statement that answers. -/
theorem outcome_exec_bind {s : S} {f : R s → Prog S R F E β} {a : R s} {d' : D}
    (hl : l.txn = .none) (hx : M.direct s (fate.stmt s) d = (.ok a, d')) :
    outcome M fate (.exec s >>= f) d l = outcome M fate (f a) d' l := by
  rw [Prog.bind_eq, Prog.bind, outcome_handle, outcome_exec hl hx]

/-- A statement that raises ends the program. -/
theorem outcome_exec_bind_error {s : S} {f : R s → Prog S R F E β} {e : E} {d' : D}
    (hl : l.txn = .none) (hx : M.direct s (fate.stmt s) d = (.error e, d')) :
    outcome M fate (.exec s >>= f) d l = (.error e, d', l) := by
  rw [Prog.bind_eq, Prog.bind, outcome_handle, outcome_exec hl hx]
  rfl

theorem outcome_bind_ok {f : α → Prog S R F E β} {a : α} {d' : D} {l' : Local S F V}
    (h : outcome M fate p d l = (.ok a, d', l')) :
    outcome M fate (p >>= f) d l = outcome M fate (f a) d' l' := by
  rw [Prog.bind_eq, Prog.bind, outcome_handle, h]

theorem outcome_bind_error {f : α → Prog S R F E β} {e : E} {d' : D} {l' : Local S F V}
    (h : outcome M fate p d l = (.error e, d', l')) :
    outcome M fate (p >>= f) d l = (.error e, d', l') := by
  rw [Prog.bind_eq, Prog.bind, outcome_handle, h]
  rfl

/-- A result that is computed from another leaves the store alone. -/
theorem outcome_map_store {g : α → β} :
    (outcome M fate (p >>= fun a => pure (g a)) d l).2.1 = (outcome M fate p d l).2.1 := by
  rw [Prog.bind_eq, Prog.bind, outcome_handle]
  cases (outcome M fate p d l).1 <;> rfl

/-- A value passes through a handler. -/
theorem outcome_tryCatch_ok {h : E → Prog S R F E α} {a : α} {d' : D} {l' : Local S F V}
    (hp : outcome M fate p d l = (.ok a, d', l')) :
    outcome M fate (p.tryCatch h) d l = (.ok a, d', l') := by
  rw [Prog.tryCatch, outcome_handle, hp]
  rfl

theorem outcome_tryCatch_store {h : E → Prog S R F E α} {d' : D}
    (hp : ∃ a l', outcome M fate p d l = (.ok a, d', l')) :
    (outcome M fate (p.tryCatch h) d l).2.1 = d' := by
  obtain ⟨a, l', hp⟩ := hp
  rw [outcome_tryCatch_ok hp]

/-- A program that absorbs every exception ends without one. -/
theorem outcome_absorb {p : Prog S R F E Unit} : outcome M fate (p.tryCatch fun _ => pure ()) d l =
    (.ok (), (outcome M fate p d l).2.1, (outcome M fate p d l).2.2) := by
  rw [Prog.tryCatch, outcome_handle]
  cases (outcome M fate p d l).1 <;> rfl

theorem outcome_forEach_cons {b : β} {rest : List β} {f : β → Prog S R F E Unit}
    (h : (outcome M fate (f b) d l).1 = .ok ()) : outcome M fate (.forEach (b :: rest) f) d l =
      outcome M fate (.forEach rest f) (outcome M fate (f b) d l).2.1
        (outcome M fate (f b) d l).2.2 := by
  rw [Prog.forEach, Prog.bind, outcome_handle, h]

/-- An exception ends the loop. -/
theorem outcome_forEach_error {b : β} {rest : List β} {f : β → Prog S R F E Unit} {e : E}
    (h : (outcome M fate (f b) d l).1 = .error e) :
    outcome M fate (.forEach (b :: rest) f) d l = outcome M fate (f b) d l := by
  rw [Prog.forEach, Prog.bind, outcome_handle, h, outcome, ← h]

/-- A loop in two parts. -/
theorem outcome_forEach_append {first rest : List β} {f : β → Prog S R F E Unit}
    (h : (outcome M fate (.forEach first f) d l).1 = .ok ()) :
    outcome M fate (.forEach (first ++ rest) f) d l =
      outcome M fate (.forEach rest f) (outcome M fate (.forEach first f) d l).2.1
        (outcome M fate (.forEach first f) d l).2.2 := by
  induction first generalizing d l with
  | nil => rfl
  | cons b first ih =>
      cases hb : (outcome M fate (f b) d l).1 with
      | ok a =>
          rw [outcome_forEach_cons hb] at h ⊢
          rw [List.cons_append, outcome_forEach_cons hb, ih h]
      | error e =>
          rw [outcome_forEach_error hb, hb] at h
          cases h

/-- A program without control steps leaves the control state as it is. -/
theorem outcome_plain_local {φ : S → Prop} (hp : p.Plain φ) (hl : l.txn = .none) :
    (outcome M fate p d l).2.2 = l := by
  induction p generalizing d with
  | ret r => rfl
  | ctl c k _ => exact hp.elim
  | stmt s k ih =>
      have hstep : M.stmtStep s (fate.stmt s) d l =
          ((M.direct s (fate.stmt s) d).1, (M.direct s (fate.stmt s) d).2, l) := by
        simp [Machine.stmtStep, hl]
      simp only [outcome, hstep]
      exact ih _ (hp.2 _)

/-- A frame does not change the store. -/
theorem outcome_inFrame {f : F} : (outcome M fate (p.inFrame f) d l).2.1 =
    (outcome M fate p d { l with frames := f :: l.frames }).2.1 := by
  rw [Prog.inFrame, outcome, outcome_handle]
  rfl

/-- A transaction is closed at its end. -/
theorem outcome_transaction_txn :
    (outcome M fate p.transaction d l).2.2.txn = .none := by
  rw [Prog.transaction, outcome, outcome_handle]
  cases (outcome M fate p (M.ctlStep .beginTx fate.commit d l).2.1
      (M.ctlStep .beginTx fate.commit d l).2.2).1 with
  | ok a =>
      rcases M.ctlStep_commit (F := F) fate.commit (outcome M fate p (M.ctlStep .beginTx fate.commit
        d l).2.1 (M.ctlStep .beginTx fate.commit d l).2.2).2.1 (outcome M fate p (M.ctlStep .beginTx
        fate.commit d l).2.1 (M.ctlStep .beginTx fate.commit d l).2.2).2.2 with
        ⟨e, hx, -⟩ | ⟨log, v, d', -, -, -, hx⟩
      · simp only [outcome, hx]
      · simp only [outcome, hx]
  | error e => rfl

/-- What the statements keep, the run keeps. -/
theorem outcome_keeps {φ : S → Prop} {P : D → Prop} (hp : p.Framed φ) (hl : l.txn = .none)
    (hkeep : ∀ s, φ s → ∀ d, P d → P (M.direct s (fate.stmt s) d).2) (hd : P d) :
    P (outcome M fate p d l).2.1 ∧ (outcome M fate p d l).2.2.txn = .none := by
  induction p generalizing d l with
  | ret r => exact ⟨hd, hl⟩
  | ctl ct k ih =>
      cases ct with
      | enter f => exact ih _ (hp _) hl hd
      | leave => exact ih _ (hp _) hl hd
      | beginTx => exact hp.elim
      | commit => exact hp.elim
      | rollback => exact hp.elim
  | stmt s k ih =>
      have hstep : M.stmtStep s (fate.stmt s) d l =
          ((M.direct s (fate.stmt s) d).1, (M.direct s (fate.stmt s) d).2, l) := by
        simp [Machine.stmtStep, hl]
      simp only [outcome, hstep]
      exact ih _ (hp.2 _) hl (hkeep s hp.1 d hd)

end Outcome

section Performed

variable (M : Machine S R E D V K) (fate : Fate S E V)

/-- The statements of the run that meets its fate, in order. -/
def performed : Prog S R F E α → D → Local S F V → List S
  | .ret _, _, _ => []
  | .ctl ct k, d, l => performed (k (M.ctlStep ct fate.commit d l).1)
      (M.ctlStep ct fate.commit d l).2.1 (M.ctlStep ct fate.commit d l).2.2
  | .stmt s k, d, l => s :: performed (k (M.stmtStep s (fate.stmt s) d l).1)
      (M.stmtStep s (fate.stmt s) d l).2.1 (M.stmtStep s (fate.stmt s) d l).2.2

variable {M fate} {p : Prog S R F E α} {d : D} {l : Local S F V}

theorem performed_handle {h : Except E α → Prog S R F E β} : performed M fate (p.handle h) d l =
    performed M fate p d l ++ performed M fate (h (outcome M fate p d l).1)
      (outcome M fate p d l).2.1 (outcome M fate p d l).2.2 := by
  induction p generalizing d l with
  | ret r => rfl
  | ctl ct k ih => exact ih _
  | stmt s k ih => exact congrArg (List.cons s) (ih _)

/-- A statement that answers. -/
theorem performed_exec_bind {s : S} {f : R s → Prog S R F E β} {a : R s} {d' : D}
    (hl : l.txn = .none) (hx : M.direct s (fate.stmt s) d = (.ok a, d')) :
    performed M fate (.exec s >>= f) d l = s :: performed M fate (f a) d' l := by
  rw [Prog.bind_eq, Prog.bind, performed_handle, outcome_exec hl hx]
  rfl

theorem performed_exec_bind_error {s : S} {f : R s → Prog S R F E β} {e : E} {d' : D}
    (hl : l.txn = .none) (hx : M.direct s (fate.stmt s) d = (.error e, d')) :
    performed M fate (.exec s >>= f) d l = [s] := by
  rw [Prog.bind_eq, Prog.bind, performed_handle, outcome_exec hl hx]
  rfl

/-- A program that absorbs its exceptions performs what it performs without. -/
theorem performed_absorb {p : Prog S R F E Unit} :
    performed M fate (p.tryCatch fun _ => pure ()) d l = performed M fate p d l := by
  rw [Prog.tryCatch, performed_handle]
  cases (outcome M fate p d l).1 <;> simp [performed]

theorem performed_forEach_cons {b : β} {rest : List β} {f : β → Prog S R F E Unit}
    (h : (outcome M fate (f b) d l).1 = .ok ()) :
    performed M fate (.forEach (b :: rest) f) d l = performed M fate (f b) d l ++
      performed M fate (.forEach rest f) (outcome M fate (f b) d l).2.1
        (outcome M fate (f b) d l).2.2 := by
  rw [Prog.forEach, Prog.bind, performed_handle, h]

theorem performed_forEach_error {b : β} {rest : List β} {f : β → Prog S R F E Unit} {e : E}
    (h : (outcome M fate (f b) d l).1 = .error e) :
    performed M fate (.forEach (b :: rest) f) d l = performed M fate (f b) d l := by
  rw [Prog.forEach, Prog.bind, performed_handle, h, performed, List.append_nil]

/-- A loop in two parts. -/
theorem performed_forEach_append {first rest : List β} {f : β → Prog S R F E Unit}
    (h : (outcome M fate (.forEach first f) d l).1 = .ok ()) :
    performed M fate (.forEach (first ++ rest) f) d l = performed M fate (.forEach first f) d l ++
      performed M fate (.forEach rest f) (outcome M fate (.forEach first f) d l).2.1
        (outcome M fate (.forEach first f) d l).2.2 := by
  induction first generalizing d l with
  | nil => rfl
  | cons b first ih =>
      cases hb : (outcome M fate (f b) d l).1 with
      | ok a =>
          rw [outcome_forEach_cons hb] at h ⊢
          rw [List.cons_append, performed_forEach_cons hb, performed_forEach_cons hb, ih h,
            List.append_assoc]
      | error e =>
          rw [outcome_forEach_error hb, hb] at h
          cases h

/-- Two stores on which the statements answer alike, under fates that agree on them. -/
theorem outcome_congr {fate' : Fate S E V} {φ : S → Prop} {r : D → D → Prop} {d' : D}
    (hp : p.Plain φ) (hl : l.txn = .none) (hd : r d d')
    (hstep : ∀ s, φ s → ∀ d d', r d d' →
      (M.direct s (fate.stmt s) d).1 = (M.direct s (fate'.stmt s) d').1 ∧
        r (M.direct s (fate.stmt s) d).2 (M.direct s (fate'.stmt s) d').2) :
    (outcome M fate p d l).1 = (outcome M fate' p d' l).1 ∧
      r (outcome M fate p d l).2.1 (outcome M fate' p d' l).2.1 ∧
      performed M fate p d l = performed M fate' p d' l := by
  induction p generalizing d d' with
  | ret r => exact ⟨rfl, hd, rfl⟩
  | ctl c k _ => exact hp.elim
  | stmt s k ih =>
      have hdirect (f : Fate S E V) (d : D) : M.stmtStep s (f.stmt s) d l =
          ((M.direct s (f.stmt s) d).1, (M.direct s (f.stmt s) d).2, l) := by
        simp [Machine.stmtStep, hl]
      obtain ⟨hanswer, hstore⟩ := hstep s hp.1 d d' hd
      simp only [outcome, performed, hdirect, hanswer]
      obtain ⟨hresult, hrel, htrace⟩ := ih _ (hp.2 _) hstore
      exact ⟨hresult, hrel, by rw [htrace]⟩

/-- Only statements of the program are performed. -/
theorem mem_performed {φ : S → Prop} (hp : p.All φ) {s : S} (hs : s ∈ performed M fate p d l) :
    φ s := by
  induction p generalizing d l with
  | ret r => cases hs
  | ctl ct k ih => exact ih _ (hp _) hs
  | stmt q k ih =>
      rcases List.mem_cons.mp hs with rfl | hs
      · exact hp.1
      · exact ih _ (hp.2 _) hs

end Performed

end Solo

end Interleaving
