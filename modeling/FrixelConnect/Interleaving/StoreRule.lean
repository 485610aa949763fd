import FrixelConnect.Interleaving.Solo

/-!
# Invariants of the store alone

Many invariants do not depend on how far the processes have come: every single
statement keeps them. It is enough to know which statements the programs contain,
and to look at each of these once. Statements of a transaction are looked at when
the commit executes them.
-/

namespace Interleaving

variable {S : Type} {R : S → Type} {F E D V K A W : Type}

/-- The statements of the transaction so far. -/
def Txn.log : Txn S V → List (S × V)
  | .none => []
  | .active log => log
  | .aborted log => log

/-- Every statement that the process has in its transaction, or may still perform, satisfies `φ`. -/
structure Proc.Obeys (φ : S → Prop) (p : Proc S R F E V A) : Prop where
  log : ∀ x ∈ p.loc.txn.log, φ x.1
  prog : p.prog.All φ

/-- A process that has just started. -/
theorem Proc.Obeys.start {φ : S → Prop} {p : Prog S R F E A} (h : p.All φ) :
    Proc.Obeys φ ({ prog := p } : Proc S R F E V A) :=
  ⟨by simp [Txn.log], h⟩

theorem Proc.Obeys.trivial (p : Proc S R F E V A) : p.Obeys fun _ => True :=
  ⟨fun _ _ => True.intro, p.prog.all_true⟩

section Step

variable {M : Machine S R E D V K} {φ : S → Prop}

theorem Machine.log_ctlStep {ct : Control F} {c : Choice E V} {d : D} {l : Local S F V}
    {x : S × V} (h : x ∈ (M.ctlStep ct c d l).2.2.txn.log) : x ∈ l.txn.log := by
  cases ct with
  | enter f => exact h
  | leave => exact h
  | beginTx => cases h
  | rollback => cases h
  | commit =>
      rcases M.ctlStep_commit c d l with ⟨e, hs, -⟩ | ⟨log, v, d', -, -, -, hs⟩
      · rw [hs] at h
        cases h
      · rw [hs] at h
        cases h

theorem Machine.log_stmtStep {s : S} {c : Choice E V} {d : D} {l : Local S F V} {x : S × V}
    (h : x ∈ (M.stmtStep s c d l).2.2.txn.log) : x ∈ l.txn.log ∨ x.1 = s ∧ c = .run x.2 := by
  cases hin : M.inTx s with
  | false =>
      simp only [stmtStep, hin, Bool.false_eq_true, if_false] at h
      exact .inl h
  | true =>
      cases hl : l.txn with
      | none =>
          simp only [stmtStep, hin, hl, if_true] at h
          exact .inl h
      | aborted log =>
          simp only [stmtStep, hin, hl, if_true] at h
          exact .inl h
      | active log =>
          rcases M.stmtStep_active (c := c) (d := d) hin hl with
            ⟨e, hs, -⟩ | ⟨v, view, a, hc, -, -, hs⟩
          · rw [hs] at h
            exact .inl h
          · rw [hs] at h
            rcases List.mem_append.mp h with h | h
            · exact .inl h
            · rw [List.mem_singleton.mp h]
              exact .inr ⟨rfl, hc⟩

/-- A step of a process leaves it with statements that it had before. -/
theorem Proc.Obeys.step {p p' : Proc S R F E V A} {c : Choice E V} {d d' : D}
    (h : p.Obeys φ) (hs : p.step M c d = some (d', p')) : p'.Obeys φ := by
  obtain ⟨l, prog⟩ := p
  cases prog with
  | ret r => cases hs
  | ctl ct k =>
      cases hs
      exact ⟨fun x hx => h.log x (M.log_ctlStep hx), h.prog _⟩
  | stmt s k =>
      cases hs
      refine ⟨fun x hx => ?_, h.prog.2 _⟩
      rcases M.log_stmtStep hx with hx | ⟨hx, -⟩
      · exact h.log x hx
      · rw [hx]
        exact h.prog.1

/-- A log of statements that keep `I` keeps it. -/
theorem Machine.replay_keeps {I : D → Prop} (hkeep : ∀ s, φ s → ∀ v d, I d → I (M.exec s v d).2)
    {log : List (S × V)} {d d' : D} (hlog : ∀ x ∈ log, φ x.1) (hd : I d)
    (hd' : M.replay log d = some d') : I d' := by
  induction log generalizing d with
  | nil =>
      cases hd'
      exact hd
  | cons x rest ih =>
      rw [Machine.replay] at hd'
      have hx := hkeep x.1 (hlog x (List.mem_cons_self ..)) x.2 d hd
      split at hd'
      · next a d₁ he =>
          rw [he] at hx
          exact ih (fun y hy => hlog y (List.mem_cons_of_mem _ hy)) hx hd'
      · cases hd'

/-- What the statements keep, a run alone keeps, with its transactions. -/
theorem Solo.outcome_keeps_all {fate : Solo.Fate S E V} {I : D → Prop}
    (hkeep : ∀ s, φ s → ∀ v d, I d → I (M.exec s v d).2) {p : Prog S R F E A} {d : D}
    {l : Local S F V} (hp : p.All φ) (hl : ∀ x ∈ l.txn.log, φ x.1) (hd : I d) :
    I (Solo.outcome M fate p d l).2.1 := by
  induction p generalizing d l with
  | ret r => exact hd
  | ctl ct k ih =>
      refine ih _ (hp _) (fun x hx => hl x (M.log_ctlStep hx)) ?_
      cases ct with
      | enter f => exact hd
      | leave => exact hd
      | beginTx => exact hd
      | rollback => exact hd
      | commit =>
          rcases M.ctlStep_commit fate.commit d l with ⟨e, hx, -⟩ | ⟨log, v, d', hlog, -, hr, hx⟩
          · rw [hx]
            exact hd
          · rw [hx]
            refine M.replay_keeps hkeep (fun x hx => hl x ?_) hd hr
            rw [hlog]
            exact hx
  | stmt s k ih =>
      refine ih _ (hp.2 _) (fun x hx => ?_) ?_
      · rcases M.log_stmtStep hx with hx | ⟨hx, -⟩
        · exact hl x hx
        · rw [hx]
          exact hp.1
      · have hdirect : I (M.direct s (fate.stmt s) d).2 := by
          cases fate.stmt s with
          | fail e => exact hd
          | run v => exact hkeep s hp.1 v d hd
        cases hin : M.inTx s with
        | false => simpa [Machine.stmtStep, hin] using hdirect
        | true =>
            cases htxn : l.txn with
            | none => simpa [Machine.stmtStep, hin, htxn] using hdirect
            | aborted log => simpa [Machine.stmtStep, hin, htxn] using hd
            | active log =>
                rcases M.stmtStep_active (c := fate.stmt s) (d := d) hin htxn with
                  ⟨e, hx, -⟩ | ⟨v, view, a, -, -, -, hx⟩
                · rw [hx]
                  exact hd
                · rw [hx]
                  exact hd

end Step

/-- The starts, the edits and every statement in `φ` keep `I`. -/
structure StoreRule (Y : System S R F E D V K A W) (ρ : Rules S E D V W) (φ : S → Prop)
    (I : D → Prop) : Prop where
  restores : Y.Restores
  start : ∀ w d d' p, ρ.spawn w d → I d → Y.start w d = some (d', p) → I d' ∧ p.All φ
  edit : ∀ d d', ρ.edit d d' → I d → I d'
  stmt : ∀ s v d a d', φ s → ρ.stmt s (.run v) d → I d → Y.exec s v d = (.ok a, d') → I d'

namespace StoreRule

variable {Y : System S R F E D V K A W} {ρ : Rules S E D V W} {φ : S → Prop} {I : D → Prop}

theorem exec (h : StoreRule Y ρ φ I) {s : S} {v : V} {d : D} (hs : φ s)
    (hr : ρ.stmt s (.run v) d) (hd : I d) : I (Y.exec s v d).2 := by
  rcases h.restores s v d with ⟨a, d', hx⟩ | ⟨e, hx⟩
  · rw [hx]
    exact h.stmt s v d a d' hs hr hd hx
  · rwa [hx]

/-- A statement that takes effect at once. -/
theorem direct (h : StoreRule Y ρ φ I) {s : S} {c : Choice E V} {d : D} (hs : φ s)
    (hr : ρ.stmt s c d) (hd : I d) : I (Y.direct s c d).2 := by
  cases c with
  | fail e => exact hd
  | run v => exact h.exec hs hr hd

/-- A commit executes statements that are all allowed. -/
theorem replay (h : StoreRule Y ρ φ I) {log : List (S × V)} {d d' : D}
    (hlog : ∀ x ∈ log, φ x.1) (hr : ρ.allowsLog Y.toMachine log d) (hd : I d)
    (hd' : Y.replay log d = some d') : I d' := by
  induction log generalizing d with
  | nil =>
      cases hd'
      exact hd
  | cons x rest ih =>
      rw [Machine.replay] at hd'
      have hkeep := h.exec (hlog x (List.mem_cons_self ..)) hr.1 hd
      have hrest := hr.2
      split at hd'
      · next a d₁ hx =>
          rw [hx] at hkeep hrest
          exact ih (fun y hy => hlog y (List.mem_cons_of_mem _ hy)) hrest hkeep hd'
      · cases hd'

/-- A step of one process. -/
theorem procStep (h : StoreRule Y ρ φ I) {p p' : Proc S R F E V A} {c : Choice E V} {d d' : D}
    (hp : p.Obeys φ) (hr : ρ.allowsProc Y.toMachine p c d) (hd : I d)
    (hs : p.step Y.toMachine c d = some (d', p')) : I d' := by
  obtain ⟨l, prog⟩ := p
  cases prog with
  | ret r => cases hs
  | ctl ct k =>
      cases hs
      cases ct with
      | enter f => exact hd
      | leave => exact hd
      | beginTx => exact hd
      | rollback => exact hd
      | commit =>
          have hr : ρ.allowsCtl (F := F) Y.toMachine .commit c d l := hr
          rcases Y.ctlStep_commit c d l with ⟨e, hx, -⟩ | ⟨log, v, d', hl, rfl, hreplay, hx⟩
          · rw [hx]
            exact hd
          · rw [hx]
            have hlog : ∀ x ∈ log, φ x.1 := by
              intro x hx
              apply hp.log x
              rw [hl]
              exact hx
            refine h.replay hlog ?_ hd hreplay
            simpa only [Rules.allowsCtl, hl] using hr
  | stmt s k =>
      cases hs
      have hr : ρ.allowsStmt Y.toMachine s c d l := hr
      change I (Y.stmtStep s c d l).2.1
      cases hin : Y.inTx s with
      | false =>
          simp only [Rules.allowsStmt, hin] at hr
          simp only [Machine.stmtStep, hin, Bool.false_eq_true, if_false]
          exact h.direct hp.prog.1 hr hd
      | true =>
          cases hl : l.txn with
          | none =>
              simp only [Rules.allowsStmt, hin, hl] at hr
              simp only [Machine.stmtStep, hin, hl, if_true]
              exact h.direct hp.prog.1 hr hd
          | aborted log =>
              simp only [Machine.stmtStep, hin, hl, if_true]
              exact hd
          | active log =>
              rcases Y.stmtStep_active (c := c) (d := d) hin hl with
                ⟨e, hx, -⟩ | ⟨v, view, a, -, -, -, hx⟩
              · rw [hx]
                exact hd
              · rw [hx]
                exact hd

variable [DecidableEq K]

/-- The invariant along a run. -/
theorem reaches (h : StoreRule Y ρ φ I) {s s' : State S R F E D V A} (hr : Reaches Y ρ s s')
    (hd : I s.store) (hp : ∀ p ∈ s.procs, p.Obeys φ) :
    I s'.store ∧ ∀ p ∈ s'.procs, p.Obeys φ := by
  refine hr.each (fun w d d' p hw hI hstart => ?_) h.edit (fun p p' c d d' hr hI hp hs => ?_) hd hp
  · obtain ⟨hd', hall⟩ := h.start w d d' p hw hI hstart
    exact ⟨hd', .start hall⟩
  · exact ⟨h.procStep hp hr hI hs, hp.step hs⟩

/-- The invariant along a run from a store on which no process runs yet. -/
theorem run (h : StoreRule Y ρ φ I) {d : D} {s : State S R F E D V A}
    (hr : Reaches Y ρ { store := d } s) (hd : I d) : I s.store :=
  (h.reaches hr hd (by simp)).1

end StoreRule

/-- Every statement and every edit keeps `I`, which makes the answers satisfy `A`; processes that
start perform only statements in `φ` as long as their answers satisfy `A`. -/
structure AnswerRule (Y : System S R F E D V K A W) (ρ : Rules S E D V W) (φ : S → Prop)
    (B : (s : S) → R s → Prop) (I : D → Prop) : Prop where
  restores : Y.Restores
  start : ∀ w d d' p, ρ.spawn w d → I d → Y.start w d = some (d', p) → I d' ∧ p.AllUnder B φ
  edit : ∀ d d', ρ.edit d d' → I d → I d'
  stmt : ∀ s v d a d', I d → Y.exec s v d = (.ok a, d') → I d'
  answer : ∀ s v d a d', (Y.inTx s = false → ρ.stmt s (.run v) d) → I d →
    Y.exec s v d = (.ok a, d') → B s a

namespace AnswerRule

variable {Y : System S R F E D V K A W} {ρ : Rules S E D V W} {φ : S → Prop}
  {B : (s : S) → R s → Prop} {I : D → Prop}

theorem exec (h : AnswerRule Y ρ φ B I) {s : S} {v : V} {d : D} (hd : I d) :
    I (Y.exec s v d).2 := by
  rcases h.restores s v d with ⟨a, d', hx⟩ | ⟨e, hx⟩
  · rw [hx]
    exact h.stmt s v d a d' hd hx
  · rwa [hx]

theorem replay (h : AnswerRule Y ρ φ B I) {log : List (S × V)} {d d' : D} (hd : I d)
    (hd' : Y.replay log d = some d') : I d' := by
  induction log generalizing d with
  | nil =>
      cases hd'
      exact hd
  | cons x rest ih =>
      rw [Machine.replay] at hd'
      have hkeep := h.exec (s := x.1) (v := x.2) hd
      split at hd'
      · next a d₁ hx =>
          rw [hx] at hkeep
          exact ih hkeep hd'
      · cases hd'

theorem ctlStep (h : AnswerRule Y ρ φ B I) {ct : Control F} {c : Choice E V} {d : D}
    {l : Local S F V} (hd : I d) : I (Y.ctlStep ct c d l).2.1 := by
  cases ct with
  | enter f => exact hd
  | leave => exact hd
  | beginTx => exact hd
  | rollback => exact hd
  | commit =>
      rcases Y.ctlStep_commit c d l with ⟨e, hx, -⟩ | ⟨log, v, d', -, -, hreplay, hx⟩
      · rw [hx]
        exact hd
      · rw [hx]
        exact h.replay hd hreplay

/-- A statement, and what its answer tells. -/
theorem stmtStep (h : AnswerRule Y ρ φ B I) {s : S} {c : Choice E V} {d : D} {l : Local S F V}
    (hr : ρ.allowsStmt Y.toMachine s c d l) (hd : I d) :
    I (Y.stmtStep s c d l).2.1 ∧ ∀ a, (Y.stmtStep s c d l).1 = .ok a → B s a := by
  have hdirect (hr : Y.inTx s = false → ρ.stmt s c d) :
      I (Y.direct s c d).2 ∧ ∀ a, (Y.direct s c d).1 = .ok a → B s a := by
    cases c with
    | fail e => exact ⟨hd, fun a ha => by cases ha⟩
    | run v =>
        exact ⟨h.exec hd, fun a ha => h.answer s v d a (Y.exec s v d).2 hr hd (Prod.ext ha rfl)⟩
  cases hin : Y.inTx s with
  | false =>
      simp only [Rules.allowsStmt, hin] at hr
      simp only [Machine.stmtStep, hin, Bool.false_eq_true, if_false]
      exact hdirect fun _ => hr
  | true =>
      have hout : Y.inTx s = false → ρ.stmt s c d := fun h => by rw [hin] at h; cases h
      cases hl : l.txn with
      | none =>
          simp only [Machine.stmtStep, hin, hl, if_true]
          exact hdirect hout
      | aborted log =>
          simp only [Machine.stmtStep, hin, hl, if_true]
          exact ⟨hd, fun a ha => by cases ha⟩
      | active log =>
          rcases Y.stmtStep_active (c := c) (d := d) hin hl with
            ⟨e, hx, -⟩ | ⟨v, view, a, -, hview, ha, hx⟩
          · rw [hx]
            exact ⟨hd, fun a ha => by cases ha⟩
          · rw [hx]
            refine ⟨hd, fun a' ha' => ?_⟩
            cases ha'
            refine h.answer s v view a (Y.exec s v view).2 ?_ (h.replay hd hview) (Prod.ext ha rfl)
            exact fun h => by rw [hin] at h; cases h

/-- A step of one process, and what it goes on with. -/
theorem procStep (h : AnswerRule Y ρ φ B I) {p p' : Proc S R F E V A} {c : Choice E V} {d d' : D}
    (hr : ρ.allowsProc Y.toMachine p c d) (hd : I d) (hp : p.prog.AllUnder B φ)
    (hs : p.step Y.toMachine c d = some (d', p')) : I d' ∧ p'.prog.AllUnder B φ := by
  obtain ⟨l, prog⟩ := p
  cases prog with
  | ret r => cases hs
  | ctl ct k =>
      cases hs
      exact ⟨h.ctlStep hd, hp _⟩
  | stmt q k =>
      cases hs
      have hstmt := h.stmtStep (F := F) (l := l) hr hd
      exact ⟨hstmt.1, hp.2 _ hstmt.2⟩

variable [DecidableEq K]

/-- The processes go on to perform only statements in `φ`. -/
theorem reaches (h : AnswerRule Y ρ φ B I) {s s' : State S R F E D V A} (hr : Reaches Y ρ s s')
    (hd : I s.store) (hp : ∀ p ∈ s.procs, p.prog.AllUnder B φ) :
    I s'.store ∧ ∀ p ∈ s'.procs, p.prog.AllUnder B φ :=
  hr.each h.start h.edit (fun _ _ _ _ _ hr hI hp hs => h.procStep hr hI hp hs) hd hp

end AnswerRule

end Interleaving
