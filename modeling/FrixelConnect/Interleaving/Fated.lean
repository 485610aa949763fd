import FrixelConnect.Interleaving.StoreRule

/-!
# The end of a run with a given fate

Rules for the result and the store at the end of a program that runs by itself and opens no
transaction, while the environment's choices are given. Such an end is reached by a run of any
system that allows these choices.
-/

namespace Interleaving

namespace Solo

variable {S : Type} {R : S → Type} {F E D V K α β : Type}

/-- The run that meets its fate ends with `Q`, outside of every transaction. -/
def Ends (M : Machine S R E D V K) (fate : Fate S E V) (Q : Except E α → D → Prop)
    (p : Prog S R F E α) (d : D) : Prop :=
  ∃ r d', outcome M fate p d {} = (r, d', {}) ∧ Q r d'

variable {M : Machine S R E D V K} {fate : Fate S E V} {Q : Except E α → D → Prop} {d d' : D}

theorem Ends.store {p : Prog S R F E α} (h : Ends M fate Q p d) :
    Q (outcome M fate p d {}).1 (outcome M fate p d {}).2.1 := by
  obtain ⟨r, d', hx, hQ⟩ := h
  rw [hx]
  exact hQ

theorem Ends.mono {Q' : Except E α → D → Prop} {p : Prog S R F E α} (h : Ends M fate Q p d)
    (hQ : ∀ r d', Q r d' → Q' r d') : Ends M fate Q' p d := by
  obtain ⟨r, d', hx, h⟩ := h
  exact ⟨r, d', hx, hQ r d' h⟩

theorem ends_ret {r : Except E α} (h : Q r d) :
    Ends M fate Q (.ret r : Prog S R F E α) d := ⟨r, d, rfl, h⟩

theorem Ends.handle {Q : Except E β → D → Prop} {B : Except E α → D → Prop} {p : Prog S R F E α}
    {h : Except E α → Prog S R F E β} (hp : Ends M fate B p d)
    (hh : ∀ r d', B r d' → Ends M fate Q (h r) d') : Ends M fate Q (p.handle h) d := by
  obtain ⟨r, d', hx, hB⟩ := hp
  obtain ⟨r', d'', hx', hQ⟩ := hh r d' hB
  exact ⟨r', d'', by rw [outcome_handle, hx, hx'], hQ⟩

theorem Ends.bind {Q : Except E β → D → Prop} {B : Except E α → D → Prop} {p : Prog S R F E α}
    {f : α → Prog S R F E β} (hp : Ends M fate B p d)
    (hok : ∀ a d', B (.ok a) d' → Ends M fate Q (f a) d')
    (herr : ∀ e d', B (.error e) d' → Q (.error e) d') : Ends M fate Q (p >>= f) d := by
  apply Ends.handle hp
  intro r d' hB
  cases r with
  | ok a => exact hok a d' hB
  | error e => exact ends_ret (herr e d' hB)

theorem ends_exec {s : S} {Q : Except E (R s) → D → Prop}
    (h : Q (M.direct s (fate.stmt s) d).1 (M.direct s (fate.stmt s) d).2) :
    Ends M fate Q (.exec s : Prog S R F E (R s)) d :=
  ⟨_, _, outcome_exec rfl rfl, h⟩

/-- A statement that answers. -/
theorem ends_exec_bind {s : S} {f : R s → Prog S R F E α} {a : R s}
    (hx : M.direct s (fate.stmt s) d = (.ok a, d')) (h : Ends M fate Q (f a) d') :
    Ends M fate Q (.exec s >>= f) d := by
  obtain ⟨r, d'', hx', hQ⟩ := h
  exact ⟨r, d'', by rw [outcome_exec_bind rfl hx, hx'], hQ⟩

/-- A statement that raises. -/
theorem ends_exec_bind_error {s : S} {f : R s → Prog S R F E α} {e : E}
    (hx : M.direct s (fate.stmt s) d = (.error e, d')) (h : Q (.error e) d') :
    Ends M fate Q (.exec s >>= f) d :=
  ⟨_, _, outcome_exec_bind_error rfl hx, h⟩

/-- A program that absorbs every exception. -/
theorem Ends.absorb {Q : Except E Unit → D → Prop} {p : Prog S R F E Unit}
    (h : Ends M fate (fun _ d' => Q (.ok ()) d') p d) :
    Ends M fate Q (p.tryCatch fun _ => pure ()) d := by
  apply Ends.handle h
  intro r d' hQ
  cases r with
  | ok a => exact ends_ret hQ
  | error e => exact ends_ret hQ

/-- What all statements keep. -/
theorem ends_of_plain {φ : S → Prop} {P : D → Prop} {p : Prog S R F E α} (hp : p.Plain φ)
    (hkeep : ∀ s, φ s → ∀ d, P d → P (M.direct s (fate.stmt s) d).2) (hd : P d) :
    Ends M fate (fun _ d' => P d') p d := by
  have hlocal : (outcome M fate p d {}).2.2 = {} := outcome_plain_local hp rfl
  have hkept : P (outcome M fate p d {}).2.1 :=
    (outcome_keeps (l := ({} : Local S F V)) hp.framed rfl hkeep hd).1
  exact ⟨(outcome M fate p d {}).1, (outcome M fate p d {}).2.1,
    Prod.ext rfl (Prod.ext rfl hlocal), hkept⟩

/-- A loop whose body keeps `I`, establishes `P` for its element and keeps `P` for the others. -/
theorem ends_forEach {I : D → Prop} {P : β → D → Prop} {list : List β} {f : β → Prog S R F E Unit}
    (hd : I d) (hbody : ∀ b ∈ list, ∀ d, I d → Ends M fate (fun r d' => r = .ok () ∧ I d' ∧ P b d' ∧
      ∀ b', P b' d → P b' d') (f b) d) :
    Ends M fate (fun r d' => r = .ok () ∧ I d' ∧ (∀ b ∈ list, P b d') ∧ ∀ b', P b' d → P b' d')
      (.forEach list f) d := by
  induction list generalizing d with
  | nil => exact ends_ret ⟨rfl, hd, (fun _ h => by cases h), fun _ h => h⟩
  | cons b list ih =>
      apply Ends.bind (hbody b List.mem_cons_self d hd)
      · rintro a d' ⟨-, hI, hP, hkeep⟩
        apply (ih hI fun b' hb' => hbody b' (List.mem_cons_of_mem _ hb')).mono
        rintro r d'' ⟨hr, hI', hall, hkeep'⟩
        refine ⟨hr, hI', ?_, fun b' h => hkeep' b' (hkeep b' h)⟩
        intro b' hb'
        rcases List.mem_cons.mp hb' with rfl | hb'
        · exact hkeep' _ hP
        · exact hall b' hb'
      · rintro e d' ⟨h, -⟩
        cases h

end Solo

section Reached

open Solo

variable {S : Type} {R : S → Type} {F E D V K A W : Type} {Y : System S R F E D V K A W}
  {ρ : Rules S E D V W} {fate : Fate S E V} {d d' : D}

/-- A single process never waits. -/
theorem step_single [DecidableEq K] {p p' : Proc S R F E V A} {c : Choice E V}
    (h : p.step Y.toMachine c d = some (d', p')) :
    ({ store := d, procs := [p] } : State S R F E D V A).step Y (.step 0 c) =
      some { store := d', procs := [p'] } := by
  cases c with
  | fail e => simp [State.step, h]
  | run v => simp [State.step, State.free, h]

theorem allowsLog_of_stmt (hstmt : ∀ s v d, fate.stmt s = .run v → ρ.stmt s (.run v) d)
    {log : List (S × V)} (hlog : ∀ x ∈ log, fate.stmt x.1 = .run x.2) :
    ρ.allowsLog Y.toMachine log d := by
  induction log generalizing d with
  | nil => trivial
  | cons x rest ih =>
      refine ⟨hstmt x.1 x.2 d (hlog x List.mem_cons_self), ?_⟩
      exact ih fun y hy => hlog y (List.mem_cons_of_mem x hy)

/-- A process that meets its fate gets to its outcome. -/
theorem reaches_outcome [DecidableEq K] (hstmt : ∀ s d, ρ.stmt s (fate.stmt s) d)
    (hinner : ∀ s d, ρ.inner s (fate.stmt s) d = true) (hcommit : ∃ v, fate.commit = .run v)
    {p : Prog S R F E A} {l : Local S F V} (hl : ∀ x ∈ l.txn.log, fate.stmt x.1 = .run x.2) :
    Interleaving.Reaches Y ρ { store := d, procs := [⟨l, p⟩] }
      { store := (outcome Y.toMachine fate p d l).2.1
        procs := [⟨(outcome Y.toMachine fate p d l).2.2,
          .ret (outcome Y.toMachine fate p d l).1⟩] } := by
  have hrun (s : S) (v : V) (d : D) (hs : fate.stmt s = .run v) : ρ.stmt s (.run v) d :=
    hs ▸ hstmt s d
  induction p generalizing d l with
  | ret r => exact .refl
  | ctl ct k ih =>
      have hallow : ρ.allowsCtl Y.toMachine ct fate.commit d l := by
        obtain ⟨v, hv⟩ := hcommit
        rw [hv]
        cases ct with
        | commit =>
            cases hlog : l.txn with
            | active log =>
                have hlogged : ∀ x ∈ log, fate.stmt x.1 = .run x.2 := by
                  simpa only [hlog, Txn.log] using hl
                simpa only [Rules.allowsCtl, hlog] using allowsLog_of_stmt hrun hlogged
            | none => simp [Rules.allowsCtl, hlog]
            | aborted log => simp [Rules.allowsCtl, hlog]
        | _ => simp [Rules.allowsCtl]
      refine .head ⟨.step 0 fate.commit, fun q hq => ?_, step_single rfl⟩ (ih _ fun x hx => ?_)
      · cases hq
        exact hallow
      · exact hl x (Y.log_ctlStep hx)
  | stmt s k ih =>
      have hallow : ρ.allowsStmt Y.toMachine s (fate.stmt s) d l := by
        unfold Rules.allowsStmt
        split
        · exact hinner s d
        · trivial
        · exact hstmt s d
      refine .head ⟨.step 0 (fate.stmt s), fun q hq => ?_, step_single rfl⟩ (ih _ fun x hx => ?_)
      · cases hq
        exact hallow
      · rcases Y.log_stmtStep hx with hx | ⟨hx, hv⟩
        · exact hl x hx
        · rw [hx, hv]

end Reached

end Interleaving
