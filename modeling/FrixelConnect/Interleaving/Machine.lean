import FrixelConnect.Interleaving.Program
import Mathlib.Logic.Relation
import Mathlib.Data.List.Basic

/-!
# Processes over a shared store

A machine executes single statements. A system runs any number of processes
over one store: at every step the environment picks a process and lets its next
statement run or fail, starts a new process, or edits the store from outside.

Outside a transaction a statement takes effect at once. Inside a transaction
the effects stay with the process, as the log of the statements it has
executed, and reach the store together at the commit, which re-executes the
log on the store of that moment. Every statement of the log keeps its locks
until the transaction ends, and a statement that needs one of them waits.

## Implementation notes

Reads inside a transaction see the current store with the transaction's own
log applied to it. A statement that fails inside a transaction aborts it: the
statements after it fail until the rollback.
-/

namespace Interleaving

/-- The environment lets the next statement fail, or run with its answers `v`. -/
inductive Choice (E V : Type) where
  | fail (e : E)
  | run (v : V)

/-- The step goes through. -/
def Choice.isRun {E V : Type} : Choice E V → Bool
  | .fail _ => false
  | .run _ => true

/-- How single statements act on the store. -/
structure Machine (S : Type) (R : S → Type) (E D V K : Type) where
  exec : (s : S) → V → D → Except E (R s) × D
  /-- The statement belongs to an open transaction; calls to other parties do not. -/
  inTx : S → Bool
  /-- The keys the statement locks until its transaction ends. -/
  locks : S → List K
  /-- Raised by a statement of an aborted transaction and by its commit. -/
  aborted : E

/-- The transaction of a process, with the statements it has executed so far. -/
inductive Txn (S V : Type) where
  | none
  | active (log : List (S × V))
  | aborted (log : List (S × V))

/-- The control state of a process. -/
structure Local (S F V : Type) where
  frames : List F := []
  txn : Txn S V := .none

section Settle

variable {E D α : Type} {r : Except E (α × D)} {a : α} {e : E} {d d' : D}

/-- A result with the store it leaves, or the old store behind an exception. -/
def settle (r : Except E (α × D)) (d : D) : Except E α × D :=
  match r with
  | .ok r => (.ok r.1, r.2)
  | .error e => (.error e, d)

theorem settle_eq_ok : settle r d = (.ok a, d') ↔ r = .ok (a, d') := by
  cases r with
  | ok r => simp [settle, Prod.ext_iff]
  | error e => simp [settle]

theorem settle_eq_error : settle r d = (.error e, d) ↔ r = .error e := by
  cases r with
  | ok r => simp [settle]
  | error e' => simp [settle]

/-- The two ways a statement can end. -/
theorem settle_cases (r : Except E (α × D)) (d : D) :
    (∃ a d', r = .ok (a, d') ∧ settle r d = (.ok a, d')) ∨
      ∃ e, r = .error e ∧ settle r d = (.error e, d) := by
  cases r with
  | ok r => exact .inl ⟨r.1, r.2, rfl, rfl⟩
  | error e => exact .inr ⟨e, rfl, rfl⟩

end Settle

variable {S : Type} {R : S → Type} {F E D V K A W : Type}

namespace Machine

variable (M : Machine S R E D V K)

/-- Execute a log on a store; `none` when one of its statements raises. -/
def replay : List (S × V) → D → Option D
  | [], d => some d
  | (s, v) :: rest, d =>
      match M.exec s v d with
      | (.ok _, d') => replay rest d'
      | (.error _, _) => none

/-- The keys a process holds. -/
def held (l : Local S F V) : List K :=
  match l.txn with
  | .none => []
  | .active log => log.flatMap fun p => M.locks p.1
  | .aborted log => log.flatMap fun p => M.locks p.1

/-- A statement that takes effect at once, or fails without effect. -/
def direct (s : S) (c : Choice E V) (d : D) : Except E (R s) × D :=
  match c with
  | .fail e => (.error e, d)
  | .run v => M.exec s v d

/-- One statement of a process: its answer, the store and the control state after it. -/
def stmtStep (s : S) (c : Choice E V) (d : D) (l : Local S F V) :
    Except E (R s) × D × Local S F V :=
  if M.inTx s then
    match l.txn with
    | .none => ((M.direct s c d).1, (M.direct s c d).2, l)
    | .aborted _ => (.error M.aborted, d, l)
    | .active log =>
        match c, M.replay log d with
        | .fail e, _ => (.error e, d, { l with txn := .aborted log })
        | .run _, none => (.error M.aborted, d, { l with txn := .aborted log })
        | .run v, some view =>
            match (M.exec s v view).1 with
            | .ok a => (.ok a, d, { l with txn := .active (log ++ [(s, v)]) })
            | .error e => (.error e, d, { l with txn := .aborted log })
  else ((M.direct s c d).1, (M.direct s c d).2, l)

/-- One control step of a process. Only the commit touches the store. -/
def ctlStep (ct : Control F) (c : Choice E V) (d : D) (l : Local S F V) :
    Except E Unit × D × Local S F V :=
  match ct with
  | .enter f => (.ok (), d, { l with frames := f :: l.frames })
  | .leave => (.ok (), d, { l with frames := l.frames.tail })
  | .beginTx => (.ok (), d, { l with txn := .active [] })
  | .rollback => (.ok (), d, { l with txn := .none })
  | .commit =>
      match l.txn, c with
      | .active log, .run _ =>
          match M.replay log d with
          | some d' => (.ok (), d', { l with txn := .none })
          | none => (.error M.aborted, d, { l with txn := .none })
      | .active _, .fail e => (.error e, d, { l with txn := .none })
      | _, _ => (.error M.aborted, d, { l with txn := .none })

/-- A statement that raises has no effect. -/
def Restores (M : Machine S R E D V K) : Prop :=
  ∀ s v d, (∃ a d', M.exec s v d = (.ok a, d')) ∨ ∃ e, M.exec s v d = (.error e, d)

variable {M} in
theorem Restores.of_settle (eval : (s : S) → V → D → Except E (R s × D))
    (h : ∀ s v d, M.exec s v d = settle (eval s v d) d) : M.Restores := by
  intro s v d
  rw [h s v d]
  rcases settle_cases (eval s v d) d with ⟨a, d', -, hx⟩ | ⟨e, -, hx⟩
  · exact .inl ⟨a, d', hx⟩
  · exact .inr ⟨e, hx⟩

/-- The two outcomes of a statement in an open transaction. -/
theorem stmtStep_active {s : S} {c : Choice E V} {d : D} {l : Local S F V} {log : List (S × V)}
    (hin : M.inTx s = true) (hl : l.txn = .active log) :
    (∃ e, M.stmtStep s c d l = (.error e, d, { l with txn := .aborted log }) ∧
      ∀ v view, c = .run v → M.replay log d = some view → (M.exec s v view).1 = .error e) ∨
      ∃ v view a, c = .run v ∧ M.replay log d = some view ∧ (M.exec s v view).1 = .ok a ∧
        M.stmtStep s c d l = (.ok a, d, { l with txn := .active (log ++ [(s, v)]) }) := by
  simp only [stmtStep, hin, hl, if_true]
  cases c with
  | fail e => exact .inl ⟨e, rfl, fun _ _ hc => by cases hc⟩
  | run v =>
      cases hr : M.replay log d with
      | none => exact .inl ⟨_, rfl, fun _ _ _ hview => by cases hview⟩
      | some view =>
          cases ha : (M.exec s v view).1 with
          | ok a => exact .inr ⟨v, view, a, rfl, rfl, ha, by simp only [ha]⟩
          | error e =>
              refine .inl ⟨e, by simp only [ha], fun v' view' hc hview => ?_⟩
              cases hc
              cases hview
              exact ha

/-- The two outcomes of a commit. -/
theorem ctlStep_commit (c : Choice E V) (d : D) (l : Local S F V) :
    (∃ e, M.ctlStep .commit c d l = (.error e, d, { l with txn := .none }) ∧
      ∀ log v, l.txn = .active log → c = .run v → M.replay log d = none) ∨
      ∃ log v d', l.txn = .active log ∧ c = .run v ∧ M.replay log d = some d' ∧
        M.ctlStep .commit c d l = (.ok (), d', { l with txn := .none }) := by
  simp only [ctlStep]
  cases hl : l.txn with
  | none => exact .inl ⟨_, rfl, fun _ _ h => by cases h⟩
  | aborted log => exact .inl ⟨_, rfl, fun _ _ h => by cases h⟩
  | active log =>
      cases c with
      | fail e => exact .inl ⟨e, rfl, fun _ _ _ h => by cases h⟩
      | run v =>
          cases hr : M.replay log d with
          | none =>
              refine .inl ⟨M.aborted, by simp only [hr], fun log' _ h _ => ?_⟩
              cases h
              exact hr
          | some d' => exact .inr ⟨log, v, d', rfl, rfl, hr, by simp only [hr]⟩

/-- Replaying one statement more. -/
theorem replay_concat {log : List (S × V)} {s : S} {v : V} {d d' : D} :
    M.replay (log ++ [(s, v)]) d = some d' ↔
      ∃ view a, M.replay log d = some view ∧ M.exec s v view = (.ok a, d') := by
  induction log generalizing d with
  | nil =>
      simp only [List.nil_append, replay, Option.some.injEq, exists_and_left, exists_eq_left']
      cases h : M.exec s v d with
      | mk r d₁ => cases r <;> simp
  | cons x rest ih =>
      simp only [List.cons_append, replay]
      cases h : M.exec x.1 x.2 d with
      | mk r d₁ =>
          cases r with
          | ok a => exact ih
          | error e => simp

end Machine

/-- A process: its control state and the program it still has to run. -/
structure Proc (S : Type) (R : S → Type) (F E V A : Type) where
  loc : Local S F V := {}
  prog : Prog S R F E A

/-- The store and all processes started so far; finished ones stay in the list. -/
structure State (S : Type) (R : S → Type) (F E D V A : Type) where
  store : D
  procs : List (Proc S R F E V A) := []

/-- A machine together with the processes `W` that the environment can start. -/
structure System (S : Type) (R : S → Type) (F E D V K A W : Type) extends
    Machine S R E D V K where
  start : W → D → Option (D × Prog S R F E A)

/-- One move of the environment. -/
inductive Label (E D V W : Type) where
  | spawn (w : W)
  | step (i : Nat) (c : Choice E V)
  | edit (d : D)

namespace Proc

variable (M : Machine S R E D V K)

/-- The next step of one process. -/
def step (p : Proc S R F E V A) (c : Choice E V) (d : D) : Option (D × Proc S R F E V A) :=
  match p.prog with
  | .ret _ => none
  | .ctl ct k =>
      some ((M.ctlStep ct c d p.loc).2.1,
        ⟨(M.ctlStep ct c d p.loc).2.2, k (M.ctlStep ct c d p.loc).1⟩)
  | .stmt s k =>
      some ((M.stmtStep s c d p.loc).2.1,
        ⟨(M.stmtStep s c d p.loc).2.2, k (M.stmtStep s c d p.loc).1⟩)

/-- The keys the next statement of the process needs. -/
def needs (p : Proc S R F E V A) : List K :=
  match p.prog with
  | .stmt s _ => M.locks s
  | _ => []

/-- The process has its result. -/
def Finished (p : Proc S R F E V A) : Prop := ∃ r, p.prog = .ret r

end Proc

namespace State

variable [DecidableEq K] (Y : System S R F E D V K A W)

/-- No other process holds a key that the next statement of `p` needs. -/
def free (others : List (Proc S R F E V A)) (p : Proc S R F E V A) : Bool :=
  (p.needs Y.toMachine).all fun k =>
    others.all fun q => !decide (k ∈ Y.toMachine.held q.loc)

/-- One move of the system. A waiting statement can fail but not run. -/
def step (s : State S R F E D V A) : Label E D V W → Option (State S R F E D V A)
  | .spawn w => (Y.start w s.store).map fun r =>
      { store := r.1, procs := s.procs ++ [{ prog := r.2 }] }
  | .edit d => some { s with store := d }
  | .step i c =>
      match s.procs[i]?, c with
      | none, _ => none
      | some p, .run v =>
          if free Y (s.procs.eraseIdx i) p then
            (p.step Y.toMachine (.run v) s.store).map fun r =>
              { store := r.1, procs := s.procs.set i r.2 }
          else none
      | some p, .fail e =>
          (p.step Y.toMachine (.fail e) s.store).map fun r =>
            { store := r.1, procs := s.procs.set i r.2 }

variable {Y} in
/-- A move of one process. -/
theorem step_process {s t : State S R F E D V A} {i : Nat} {c : Choice E V}
    (h : s.step Y (.step i c) = some t) : ∃ p d p', s.procs[i]? = some p ∧
      p.step Y.toMachine c s.store = some (d, p') ∧ t = { store := d, procs := s.procs.set i p' } := by
  cases hp : s.procs[i]? with
  | none => simp [step, hp] at h
  | some p =>
      have hstep : (p.step Y.toMachine c s.store).map (fun r =>
          ({ store := r.1, procs := s.procs.set i r.2 } : State S R F E D V A)) = some t := by
        cases c with
        | fail e => simpa only [step, hp] using h
        | run v =>
            simp only [step, hp] at h
            split at h
            · exact h
            · cases h
      obtain ⟨⟨d, p'⟩, hp', rfl⟩ := Option.map_eq_some_iff.mp hstep
      exact ⟨p, d, p', rfl, hp', rfl⟩

/-- Several moves in order. -/
def run (s : State S R F E D V A) : List (Label E D V W) → Option (State S R F E D V A)
  | [] => some s
  | l :: ls => (s.step Y l).bind fun s' => s'.run ls

end State

/-- What a run may do: the statements that reach the store, the statements inside an open
transaction when they are executed, whether commits may fail, the processes that are started
and the edits from outside. -/
structure Rules (S E D V W : Type) where
  stmt : S → Choice E V → D → Prop := fun _ _ _ => True
  inner : S → Choice E V → D → Bool := fun _ _ _ => true
  lossy : Bool := true
  spawn : W → D → Prop := fun _ _ => True
  edit : D → D → Prop := fun _ _ => False

namespace Rules

variable (M : Machine S R E D V K) (ρ : Rules S E D V W)

/-- Every statement of the log is allowed on the store it meets at the commit. -/
def allowsLog : List (S × V) → D → Prop
  | [], _ => True
  | (s, v) :: rest, d => ρ.stmt s (.run v) d ∧ allowsLog rest (M.exec s v d).2

/-- The effects of an open transaction are judged at the commit, those of any other
statement at once. -/
def allowsStmt (s : S) (c : Choice E V) (d : D) (l : Local S F V) : Prop :=
  match M.inTx s, l.txn with
  | true, .active _ => ρ.inner s c d
  | true, .aborted _ => True
  | _, _ => ρ.stmt s c d

def allowsCtl (ct : Control F) (c : Choice E V) (d : D) (l : Local S F V) : Prop :=
  match ct, l.txn, c with
  | .commit, .active log, .run _ => ρ.allowsLog M log d
  | .commit, .active _, .fail _ => ρ.lossy
  | _, _, _ => True

def allowsProc (p : Proc S R F E V A) (c : Choice E V) (d : D) : Prop :=
  match p.prog with
  | .ret _ => True
  | .ctl ct _ => ρ.allowsCtl M ct c d p.loc
  | .stmt s _ => ρ.allowsStmt M s c d p.loc

/-- The move is allowed in the state. -/
def allows (s : State S R F E D V A) : Label E D V W → Prop
  | .spawn w => ρ.spawn w s.store
  | .edit d => ρ.edit s.store d
  | .step i c => ∀ p, s.procs[i]? = some p → ρ.allowsProc M p c s.store

variable {ρ} in
/-- The first statements of an allowed log are allowed. -/
theorem allowsLog_left {log rest : List (S × V)} {d : D} (h : ρ.allowsLog M (log ++ rest) d) :
    ρ.allowsLog M log d := by
  induction log generalizing d with
  | nil => trivial
  | cons x log ih => exact ⟨h.1, ih h.2⟩

variable [∀ s c d, Decidable (ρ.stmt s c d)]

instance decidableAllowsLog : (log : List (S × V)) → (d : D) → Decidable (ρ.allowsLog M log d)
  | [], _ => .isTrue trivial
  | (s, v) :: rest, d =>
      have := decidableAllowsLog rest (M.exec s v d).2
      inferInstanceAs (Decidable (ρ.stmt s (.run v) d ∧ ρ.allowsLog M rest (M.exec s v d).2))

instance (s : S) (c : Choice E V) (d : D) (l : Local S F V) :
    Decidable (ρ.allowsStmt M s c d l) :=
  match hs : M.inTx s, hl : l.txn with
  | false, _ => decidable_of_iff (ρ.stmt s c d) (by simp [allowsStmt, hs])
  | true, .none => decidable_of_iff (ρ.stmt s c d) (by simp [allowsStmt, hs, hl])
  | true, .active _ => decidable_of_iff (ρ.inner s c d = true) (by simp [allowsStmt, hs, hl])
  | true, .aborted _ => .isTrue (by simp [allowsStmt, hs, hl])

instance (ct : Control F) (c : Choice E V) (d : D) (l : Local S F V) :
    Decidable (ρ.allowsCtl M ct c d l) :=
  match ct, hl : l.txn, c with
  | .commit, .active log, .run v =>
      decidable_of_iff (ρ.allowsLog M log d) (by simp [allowsCtl, hl])
  | .commit, .active _, .fail _ => decidable_of_iff (ρ.lossy = true) (by simp [allowsCtl, hl])
  | .commit, .none, _ => .isTrue (by simp [allowsCtl, hl])
  | .commit, .aborted _, _ => .isTrue (by simp [allowsCtl, hl])
  | .enter _, _, _ => .isTrue trivial
  | .leave, _, _ => .isTrue trivial
  | .beginTx, _, _ => .isTrue trivial
  | .rollback, _, _ => .isTrue trivial

instance (p : Proc S R F E V A) (c : Choice E V) (d : D) : Decidable (ρ.allowsProc M p c d) :=
  match p with
  | ⟨_, .ret _⟩ => .isTrue trivial
  | ⟨l, .ctl ct _⟩ => inferInstanceAs (Decidable (ρ.allowsCtl M ct c d l))
  | ⟨l, .stmt s _⟩ => inferInstanceAs (Decidable (ρ.allowsStmt M s c d l))

instance [∀ w d, Decidable (ρ.spawn w d)] [∀ d d', Decidable (ρ.edit d d')]
    (s : State S R F E D V A) : (l : Label E D V W) → Decidable (ρ.allows M s l)
  | .spawn w => inferInstanceAs (Decidable (ρ.spawn w s.store))
  | .edit d => inferInstanceAs (Decidable (ρ.edit s.store d))
  | .step i c =>
      match h : s.procs[i]? with
      | none => .isTrue fun p hp => by rw [h] at hp; cases hp
      | some p => decidable_of_iff (ρ.allowsProc M p c s.store)
          ⟨fun ha q hq => by rw [h] at hq; cases hq; exact ha, fun ha => ha p h⟩

end Rules

section Runs

variable [DecidableEq K] (Y : System S R F E D V K A W) (ρ : Rules S E D V W)

/-- One allowed move. -/
def Step (s s' : State S R F E D V A) : Prop :=
  ∃ l, ρ.allows Y.toMachine s l ∧ s.step Y l = some s'

/-- Any number of allowed moves. -/
def Reaches : State S R F E D V A → State S R F E D V A → Prop :=
  Relation.ReflTransGen (Step Y ρ)

variable {Y ρ}

/-- A predicate that every allowed move preserves holds along every run. -/
theorem Reaches.invariant {I : State S R F E D V A → Prop} {s s' : State S R F E D V A}
    (h : Reaches Y ρ s s') (h₀ : I s) (hstep : ∀ t t', I t → Step Y ρ t t' → I t') : I s' := by
  induction h with
  | refl => exact h₀
  | tail _ hst ih => exact hstep _ _ ih hst

/-- What every spawn, every edit and every step of one process preserve, of the store and of each
process, holds along every run. -/
theorem Reaches.each {I : D → Prop} {J : Proc S R F E V A → Prop} {s s' : State S R F E D V A}
    (h : Reaches Y ρ s s')
    (hspawn : ∀ w d d' p, ρ.spawn w d → I d → Y.start w d = some (d', p) →
      I d' ∧ J { prog := p })
    (hedit : ∀ d d', ρ.edit d d' → I d → I d')
    (hproc : ∀ p p' c d d', ρ.allowsProc Y.toMachine p c d → I d → J p →
      p.step Y.toMachine c d = some (d', p') → I d' ∧ J p')
    (hd : I s.store) (hp : ∀ p ∈ s.procs, J p) : I s'.store ∧ ∀ p ∈ s'.procs, J p := by
  refine h.invariant (I := fun t => I t.store ∧ ∀ p ∈ t.procs, J p) ⟨hd, hp⟩ ?_
  rintro t t' ⟨hI, hall⟩ ⟨label, hallow, hstep⟩
  cases label with
  | spawn w =>
      obtain ⟨⟨d', p⟩, hstart, rfl⟩ := Option.map_eq_some_iff.mp hstep
      obtain ⟨hd', hp'⟩ := hspawn w t.store d' p hallow hI hstart
      refine ⟨hd', fun q hq => ?_⟩
      rcases List.mem_append.mp hq with hq | hq
      · exact hall q hq
      · rw [List.mem_singleton.mp hq]
        exact hp'
  | edit d =>
      cases hstep
      exact ⟨hedit _ _ hallow hI, hall⟩
  | step i c =>
      obtain ⟨p, d', p', hi, hps, rfl⟩ := State.step_process hstep
      obtain ⟨hd', hp'⟩ :=
        hproc p p' c t.store d' (hallow p hi) hI (hall p (List.mem_of_getElem? hi)) hps
      refine ⟨hd', fun q hq => ?_⟩
      rcases List.mem_or_eq_of_mem_set hq with hq | rfl
      · exact hall q hq
      · exact hp'

variable (Y ρ) in
/-- Every move of the list is allowed in the state it meets. -/
def AllowedRun : State S R F E D V A → List (Label E D V W) → Prop
  | _, [] => True
  | s, l :: ls => ρ.allows Y.toMachine s l ∧ ∀ t, s.step Y l = some t → AllowedRun t ls

instance decidableAllowedRun [∀ s c d, Decidable (ρ.stmt s c d)] [∀ w d, Decidable (ρ.spawn w d)]
    [∀ d d', Decidable (ρ.edit d d')] : (s : State S R F E D V A) →
    (ls : List (Label E D V W)) → Decidable (AllowedRun Y ρ s ls)
  | _, [] => .isTrue trivial
  | s, l :: ls =>
      match h : s.step Y l with
      | none => decidable_of_iff (ρ.allows Y.toMachine s l)
          ⟨fun ha => ⟨ha, fun t ht => by rw [h] at ht; cases ht⟩, fun ha => ha.1⟩
      | some t =>
          have := decidableAllowedRun t ls
          decidable_of_iff (ρ.allows Y.toMachine s l ∧ AllowedRun Y ρ t ls)
            ⟨fun ha => ⟨ha.1, fun u hu => by rw [h] at hu; cases hu; exact ha.2⟩,
              fun ha => ⟨ha.1, ha.2 t h⟩⟩

/-- Moves that are all allowed and lead to `s'` are a run to `s'`. -/
theorem Reaches.of_run {s s' : State S R F E D V A} {ls : List (Label E D V W)}
    (hall : AllowedRun Y ρ s ls) (h : s.run Y ls = some s') : Reaches Y ρ s s' := by
  induction ls generalizing s with
  | nil =>
      cases h
      exact .refl
  | cons l ls ih =>
      simp only [State.run] at h
      obtain ⟨t, ht, hrest⟩ := Option.bind_eq_some_iff.mp h
      exact .head ⟨l, hall.1, ht⟩ (ih (hall.2 t ht) hrest)

/-- A run that is given by its moves, with a view of the state it ends in. -/
theorem Reaches.of_moves_state {B : Type} (s : State S R F E D V A) (ls : List (Label E D V W))
    (f : State S R F E D V A → B) (b : B) (hall : AllowedRun Y ρ s ls)
    (h : (s.run Y ls).map f = some b) : ∃ s', Reaches Y ρ s s' ∧ f s' = b := by
  obtain ⟨s', hs', hb⟩ := Option.map_eq_some_iff.mp h
  exact ⟨s', .of_run hall hs', hb⟩

/-- A run that is given by its moves, with a view of the store it ends in. -/
theorem Reaches.of_moves {B : Type} (s : State S R F E D V A) (ls : List (Label E D V W))
    (f : D → B) (b : B) (hall : AllowedRun Y ρ s ls)
    (h : (s.run Y ls).map (fun t => f t.store) = some b) :
    ∃ s', Reaches Y ρ s s' ∧ f s'.store = b :=
  Reaches.of_moves_state s ls (fun t => f t.store) b hall h

theorem State.run_append {s : State S R F E D V A} {ls ls' : List (Label E D V W)} :
    s.run Y (ls ++ ls') = (s.run Y ls).bind fun t => t.run Y ls' := by
  induction ls generalizing s with
  | nil => rfl
  | cons l ls ih =>
      simp only [List.cons_append, State.run, Option.bind_assoc]
      congr 1
      funext t
      exact ih

theorem AllowedRun.append {s t : State S R F E D V A} {ls ls' : List (Label E D V W)}
    (h : AllowedRun Y ρ s (ls ++ ls')) (ht : s.run Y ls = some t) :
    AllowedRun Y ρ s ls ∧ AllowedRun Y ρ t ls' := by
  induction ls generalizing s with
  | nil =>
      cases ht
      exact ⟨trivial, h⟩
  | cons l ls ih =>
      simp only [State.run] at ht
      obtain ⟨t', ht', hrest⟩ := Option.bind_eq_some_iff.mp ht
      obtain ⟨h₁, h₂⟩ := ih (h.2 t' ht') hrest
      refine ⟨⟨h.1, fun u hu => ?_⟩, h₂⟩
      rw [ht'] at hu
      cases hu
      exact h₁

/-- A run in two parts, with a view of the stores after each. -/
theorem Reaches.of_moves_append {B : Type} (s : State S R F E D V A)
    (ls ls' : List (Label E D V W)) (f : D → B) (b b' : B) (hall : AllowedRun Y ρ s (ls ++ ls'))
    (h : (s.run Y ls).map (fun t => f t.store) = some b)
    (h' : (s.run Y (ls ++ ls')).map (fun t => f t.store) = some b') :
    ∃ t t', Reaches Y ρ s t ∧ Reaches Y ρ t t' ∧ f t.store = b ∧ f t'.store = b' := by
  obtain ⟨t, ht, hb⟩ := Option.map_eq_some_iff.mp h
  obtain ⟨t', ht', hb'⟩ := Option.map_eq_some_iff.mp h'
  rw [State.run_append, ht] at ht'
  obtain ⟨h₁, h₂⟩ := hall.append ht
  exact ⟨t, t', .of_run h₁ ht, .of_run h₂ ht', hb, hb'⟩

end Runs

end Interleaving
