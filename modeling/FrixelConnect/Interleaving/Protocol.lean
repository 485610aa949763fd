import FrixelConnect.Interleaving.Machine
import Mathlib.Data.Multiset.AddSub

/-!
# Invariants of interleaved programs

A protocol gives every process a ghost value, which says what the process may
assume about the store at this point of its program, an invariant that relates
the store to the control states and ghost values of all processes, and a
guarantee that relates the stores before and after a step. `wp` goes through one
program by recursion: every step it can take, from any store and among any other
processes that satisfy the invariant, must meet the guarantee and lead back to
the invariant with some new ghost value. `Valid.reaches` then carries both along
every run.

Since `wp` commutes with `Prog.handle`, one lemma for each function of a
program is enough, and the lemma of the caller uses it by name.
-/

namespace Interleaving

variable {S : Type} {R : S → Type} {F E D V K A W G α β : Type}

/-- The rules of a run, an invariant over the store and all processes, and a
guarantee that composes along a run. -/
structure Protocol (S : Type) (R : S → Type) (F E D V K W G : Type) where
  machine : Machine S R E D V K
  rules : Rules S E D V W
  inv : D → Multiset (Local S F V × G) → Prop
  guar : D → D → Prop := fun _ _ => True
  guar_refl : ∀ d, guar d d := by intros; trivial
  guar_trans : ∀ a b c, guar a b → guar b c → guar a c := by intros; trivial

namespace Protocol

variable (P : Protocol S R F E D V K W G)

/-- None of the other processes holds a key that `s` needs, if `s` runs. -/
def Free (s : S) (c : Choice E V) (others : Multiset (Local S F V × G)) : Prop :=
  match c with
  | .fail _ => True
  | .run _ => ∀ x ∈ others, ∀ k ∈ P.machine.locks s, k ∉ P.machine.held x.1

/-- The step from `d` to `d'` meets the guarantee and ends in the invariant. -/
def Keeps (d d' : D) (ls : Multiset (Local S F V × G)) : Prop := P.inv d' ls ∧ P.guar d d'

/-- Every run of the program keeps the invariant and ends with `Q`. -/
def wp (Q : Except E α → Local S F V → G → Prop) :
    Prog S R F E α → Local S F V → G → Prop
  | .ret r, l, g => Q r l g
  | .ctl ct k, l, g => ∀ d others c, P.inv d ((l, g) ::ₘ others) →
      P.rules.allowsCtl P.machine ct c d l →
      ∃ g', P.Keeps d (P.machine.ctlStep ct c d l).2.1
          (((P.machine.ctlStep ct c d l).2.2, g') ::ₘ others) ∧
        wp Q (k (P.machine.ctlStep ct c d l).1) (P.machine.ctlStep ct c d l).2.2 g'
  | .stmt s k, l, g => ∀ d others c, P.inv d ((l, g) ::ₘ others) → P.Free s c others →
      P.rules.allowsStmt P.machine s c d l →
      ∃ g', P.Keeps d (P.machine.stmtStep s c d l).2.1
          (((P.machine.stmtStep s c d l).2.2, g') ::ₘ others) ∧
        wp Q (k (P.machine.stmtStep s c d l).1) (P.machine.stmtStep s c d l).2.2 g'

variable {P} {Q Q' : Except E α → Local S F V → G → Prop} {l : Local S F V} {g : G}

theorem Keeps.refl {d : D} {ls : Multiset (Local S F V × G)} (h : P.inv d ls) :
    P.Keeps d d ls := ⟨h, P.guar_refl d⟩

@[simp] theorem wp_ret (r : Except E α) : P.wp Q (.ret r) l g ↔ Q r l g := Iff.rfl

theorem wp_mono {p : Prog S R F E α} (h : P.wp Q p l g)
    (hQ : ∀ r l g, Q r l g → Q' r l g) : P.wp Q' p l g := by
  induction p generalizing l g with
  | ret r => exact hQ r l g h
  | ctl ct k ih =>
      intro d others c hi ha
      obtain ⟨g', hi', hw⟩ := h d others c hi ha
      exact ⟨g', hi', ih _ hw⟩
  | stmt s k ih =>
      intro d others c hi hfree ha
      obtain ⟨g', hi', hw⟩ := h d others c hi hfree ha
      exact ⟨g', hi', ih _ hw⟩

/-- The rule of sequencing: first the program, then what handles its result. -/
theorem wp_handle {Q : Except E β → Local S F V → G → Prop} {p : Prog S R F E α}
    {h : Except E α → Prog S R F E β} :
    P.wp Q (p.handle h) l g ↔ P.wp (fun r l g => P.wp Q (h r) l g) p l g := by
  induction p generalizing l g with
  | ret r => rfl
  | ctl ct k ih => simp only [Prog.handle, wp, ih]
  | stmt s k ih => simp only [Prog.handle, wp, ih]

theorem wp_bind {Q : Except E β → Local S F V → G → Prop} {p : Prog S R F E α}
    {f : α → Prog S R F E β} :
    P.wp Q (p.bind f) l g ↔ P.wp (fun r l g => match r with
      | .ok a => P.wp Q (f a) l g
      | .error e => Q (.error e) l g) p l g := by
  rw [Prog.bind, wp_handle]
  apply iff_of_eq
  congr 1
  funext r l g
  cases r <;> rfl

/-- Sequencing, with an assertion between the two programs. -/
theorem wp_then {Q : Except E β → Local S F V → G → Prop} {p : Prog S R F E α}
    {f : α → Prog S R F E β} {B : Except E α → Local S F V → G → Prop} (h : P.wp B p l g)
    (herr : ∀ e l g, B (.error e) l g → Q (.error e) l g)
    (hok : ∀ a l g, B (.ok a) l g → P.wp Q (f a) l g) : P.wp Q (p >>= f) l g := by
  apply wp_bind.mpr
  apply wp_mono h
  intro r l g hr
  cases r with
  | ok a => exact hok a l g hr
  | error e => exact herr e l g hr

theorem wp_tryCatch {p : Prog S R F E α} {h : E → Prog S R F E α} :
    P.wp Q (p.tryCatch h) l g ↔ P.wp (fun r l g => match r with
      | .ok a => Q (.ok a) l g
      | .error e => P.wp Q (h e) l g) p l g := by
  rw [Prog.tryCatch, wp_handle]
  apply iff_of_eq
  congr 1
  funext r l g
  cases r <;> rfl

/-- A statement that takes effect at once: it may fail without effect, or run. -/
theorem wp_exec {s : S} {Q : Except E (R s) → Local S F V → G → Prop}
    (hl : P.machine.inTx s = false ∨ l.txn = .none)
    (hfail : ∀ d others e, P.inv d ((l, g) ::ₘ others) → P.rules.stmt s (.fail e) d →
      ∃ g', P.inv d ((l, g') ::ₘ others) ∧ Q (.error e) l g')
    (hrun : ∀ d others v, P.inv d ((l, g) ::ₘ others) → P.Free s (.run v) others →
      P.rules.stmt s (.run v) d →
      ∃ g', P.Keeps d (P.machine.exec s v d).2 ((l, g') ::ₘ others) ∧
        Q (P.machine.exec s v d).1 l g') :
    P.wp Q (Prog.exec s) l g := by
  intro d others c hi hfree ha
  have hstep : P.machine.stmtStep s c d l =
      ((P.machine.direct s c d).1, (P.machine.direct s c d).2, l) := by
    rcases hl with h | h
    · simp [Machine.stmtStep, h]
    · simp [Machine.stmtStep, h]
  have hrule : P.rules.stmt s c d := by
    rcases hl with h | h
    · simpa [Rules.allowsStmt, h] using ha
    · cases hs : P.machine.inTx s <;> simpa [Rules.allowsStmt, h, hs] using ha
  rw [hstep]
  cases c with
  | fail e =>
      obtain ⟨g', hi', hQ⟩ := hfail d others e hi hrule
      exact ⟨g', .refl hi', hQ⟩
  | run v => exact hrun d others v hi hfree hrule

/-- A loop keeps an assertion that its body keeps, on a value and on an exception. -/
theorem wp_forEach {list : List β} {f : β → Prog S R F E Unit}
    {I : Local S F V → G → Prop}
    (hf : ∀ b ∈ list, ∀ l g, I l g → P.wp (fun _ l g => I l g) (f b) l g)
    (h : I l g) : P.wp (fun _ l g => I l g) (Prog.forEach list f) l g := by
  induction list generalizing l g with
  | nil => exact h
  | cons b rest ih =>
      rw [Prog.forEach, wp_bind]
      apply wp_mono (hf b (by simp) l g h)
      intro r l g hI
      cases r with
      | ok a => exact ih (fun b hb => hf b (by simp [hb])) hI
      | error e => exact hI

section Neutral

variable (P)

/-- The statement, run by a process with ghost value `g`, keeps the invariant with the ghost
values that it finds. -/
def Neutral (g : G) (s : S) : Prop :=
  ∀ d l others v, P.inv d ((l, g) ::ₘ others) → P.rules.stmt s (.run v) d →
    P.Keeps d (P.machine.exec s v d).2 ((l, g) ::ₘ others)

/-- The invariant does not look at the control state of a process with ghost value `g`. -/
def LocalFree (g : G) : Prop :=
  ∀ d l l' others, P.inv d ((l, g) ::ₘ others) → P.inv d ((l', g) ::ₘ others)

/-- The open transaction, if any, has executed neutral statements only. -/
def NeutralLog (g : G) (l : Local S F V) : Prop :=
  ∀ log, l.txn = .active log → ∀ x ∈ log, P.Neutral g x.1

variable {P}

theorem replay_neutral {log : List (S × V)} {d d' : D} {others : Multiset (Local S F V × G)}
    (hlog : ∀ x ∈ log, P.Neutral g x.1) (ha : P.rules.allowsLog P.machine log d)
    (h : P.machine.replay log d = some d') (hi : P.inv d ((l, g) ::ₘ others)) :
    P.Keeps d d' ((l, g) ::ₘ others) := by
  induction log generalizing d with
  | nil =>
      cases h
      exact .refl hi
  | cons x rest ih =>
      obtain ⟨s, v⟩ := x
      have hs := hlog (s, v) (by simp) d l others v hi ha.1
      simp only [Machine.replay] at h
      cases he : P.machine.exec s v d with
      | mk r d₁ =>
          have ha₂ := ha.2
          rw [he] at hs ha₂
          cases r with
          | ok a =>
              rw [he] at h
              obtain ⟨hi', hg⟩ := ih (fun y hy => hlog y (by simp [hy])) ha₂ h hs.1
              exact ⟨hi', P.guar_trans _ _ _ hs.2 hg⟩
          | error e => rw [he] at h; cases h

/-- A control step with a neutral log keeps the invariant and the neutral log. -/
theorem ctlStep_neutral {ct : Control F} {c : Choice E V} {d : D}
    {others : Multiset (Local S F V × G)} (hfree : P.LocalFree g) (hlog : P.NeutralLog g l)
    (hi : P.inv d ((l, g) ::ₘ others)) (ha : P.rules.allowsCtl P.machine ct c d l) :
    P.Keeps d (P.machine.ctlStep ct c d l).2.1
        (((P.machine.ctlStep ct c d l).2.2, g) ::ₘ others) ∧
      P.NeutralLog g (P.machine.ctlStep ct c d l).2.2 := by
  have hstay (l' : Local S F V) : P.Keeps d d ((l', g) ::ₘ others) :=
    .refl (hfree _ _ _ _ hi)
  cases ct with
  | enter f => exact ⟨hstay _, hlog⟩
  | leave => exact ⟨hstay _, hlog⟩
  | beginTx =>
      refine ⟨hstay _, fun log h => ?_⟩
      cases h
      simp
  | rollback => exact ⟨hstay _, fun log h => by cases h⟩
  | commit =>
      cases ht : l.txn with
      | none => simpa [Machine.ctlStep, ht, NeutralLog] using hstay _
      | aborted log => simpa [Machine.ctlStep, ht, NeutralLog] using hstay _
      | active log =>
          cases c with
          | fail e => simpa [Machine.ctlStep, ht, NeutralLog] using hstay _
          | run v =>
              have ha' : P.rules.allowsLog P.machine log d := by
                simpa [Rules.allowsCtl, ht] using ha
              cases hr : P.machine.replay log d with
              | none => simpa [Machine.ctlStep, ht, hr, NeutralLog] using hstay _
              | some d' =>
                  obtain ⟨hi', hg⟩ := replay_neutral (hlog log ht) ha' hr hi
                  have hd : P.Keeps d d' (({ l with txn := .none }, g) ::ₘ others) :=
                    ⟨hfree _ _ _ _ hi', hg⟩
                  simpa [Machine.ctlStep, ht, hr, NeutralLog] using hd

/-- A statement step of a neutral statement keeps the invariant and the neutral log. -/
theorem stmtStep_neutral {s : S} {c : Choice E V} {d : D}
    {others : Multiset (Local S F V × G)} (hfree : P.LocalFree g) (hlog : P.NeutralLog g l)
    (hs : P.Neutral g s) (hi : P.inv d ((l, g) ::ₘ others))
    (ha : P.rules.allowsStmt P.machine s c d l) :
    P.Keeps d (P.machine.stmtStep s c d l).2.1
        (((P.machine.stmtStep s c d l).2.2, g) ::ₘ others) ∧
      P.NeutralLog g (P.machine.stmtStep s c d l).2.2 := by
  have hstay (l' : Local S F V) : P.Keeps d d ((l', g) ::ₘ others) :=
    .refl (hfree _ _ _ _ hi)
  have hdirect (hrule : P.rules.stmt s c d) :
      P.Keeps d (P.machine.direct s c d).2 ((l, g) ::ₘ others) := by
    cases c with
    | fail e => exact .refl hi
    | run v => exact hs d _ _ v hi hrule
  cases hin : P.machine.inTx s with
  | false =>
      have hd := hdirect (by simpa [Rules.allowsStmt, hin] using ha)
      simpa [Machine.stmtStep, hin] using ⟨hd, hlog⟩
  | true =>
      cases ht : l.txn with
      | none =>
          have hd := hdirect (by simpa [Rules.allowsStmt, hin, ht] using ha)
          simpa [Machine.stmtStep, hin, ht] using ⟨hd, hlog⟩
      | aborted log => simpa [Machine.stmtStep, hin, ht] using ⟨Keeps.refl hi, hlog⟩
      | active log =>
          simp only [Machine.stmtStep, hin, ht, if_true]
          split
          · exact ⟨hstay _, fun _ h => by cases h⟩
          · exact ⟨hstay _, fun _ h => by cases h⟩
          · split
            · refine ⟨hstay _, fun _ h => ?_⟩
              cases h
              intro x hx
              rcases List.mem_append.mp hx with hx | hx
              · exact hlog log ht x hx
              · rw [List.mem_singleton.mp hx]
                exact hs
            · exact ⟨hstay _, fun _ h => by cases h⟩

/-- A program of neutral statements needs no ghost state. -/
theorem wp_of_all {p : Prog S R F E α} (hp : p.All (P.Neutral g)) (hfree : P.LocalFree g)
    (hlog : P.NeutralLog g l) : P.wp (fun _ l' g' => g' = g ∧ P.NeutralLog g l') p l g := by
  induction p generalizing l with
  | ret r => exact ⟨rfl, hlog⟩
  | ctl ct k ih =>
      intro d others c hi ha
      obtain ⟨hi', hlog'⟩ := ctlStep_neutral hfree hlog hi ha
      exact ⟨g, hi', ih _ (hp _) hlog'⟩
  | stmt s k ih =>
      intro d others c hi _ ha
      obtain ⟨hi', hlog'⟩ := stmtStep_neutral hfree hlog hp.1 hi ha
      exact ⟨g, hi', ih _ (hp.2 _) hlog'⟩

/-- A program of neutral statements outside any transaction leaves its own control state
as it was. -/
theorem wp_of_plain {p : Prog S R F E α} (hp : p.Plain (P.Neutral g)) (hl : l.txn = .none) :
    P.wp (fun _ l' g' => l' = l ∧ g' = g) p l g := by
  induction p with
  | ret r => exact ⟨rfl, rfl⟩
  | ctl ct k _ => exact hp.elim
  | stmt s k ih =>
      intro d others c hi _ ha
      have hstep : P.machine.stmtStep s c d l =
          ((P.machine.direct s c d).1, (P.machine.direct s c d).2, l) := by
        simp [Machine.stmtStep, hl]
      have hrule : P.rules.stmt s c d := by
        cases hs : P.machine.inTx s <;> simpa [Rules.allowsStmt, hl, hs] using ha
      rw [hstep]
      refine ⟨g, ?_, ih _ (hp.2 _)⟩
      cases c with
      | fail e => exact .refl hi
      | run v => exact hp.1 d _ _ v hi hrule

end Neutral

end Protocol

section Soundness

variable [DecidableEq K] (Y : System S R F E D V K A W) (P : Protocol S R F E D V K W G)
  (Q : Except E A → Local S F V → G → Prop)

/-- The invariant holds with some ghost values that fit the remaining programs. -/
def Valid (s : State S R F E D V A) : Prop :=
  ∃ ann : List (Proc S R F E V A × G), ann.map Prod.fst = s.procs ∧
    P.inv s.store (ann.map fun a => (a.1.loc, a.2)) ∧
    ∀ a ∈ ann, P.wp Q a.1.prog a.1.loc a.2

variable {Y P Q}

/-- Splitting the annotated processes at the one that moves. -/
theorem annotated_split {ann : List (Proc S R F E V A × G)} {procs : List (Proc S R F E V A)}
    (hann : ann.map Prod.fst = procs) {i : Nat} {p : Proc S R F E V A}
    (hp : procs[i]? = some p) :
    ∃ pre g post, ann = pre ++ (p, g) :: post ∧ pre.length = i := by
  subst hann
  rw [List.getElem?_map, Option.map_eq_some_iff] at hp
  obtain ⟨⟨q, g⟩, ha, rfl⟩ := hp
  obtain ⟨hi, he⟩ := List.getElem?_eq_some_iff.mp ha
  refine ⟨ann.take i, g, ann.drop (i + 1), ?_, by simp; omega⟩
  rw [← he, ← List.drop_eq_getElem_cons hi, List.take_append_drop]

private theorem crowd_split (pre post : List (Proc S R F E V A × G))
    (a : Proc S R F E V A × G) :
    (((pre ++ a :: post).map fun a => (a.1.loc, a.2) : List _) :
        Multiset (Local S F V × G)) =
      (a.1.loc, a.2) ::ₘ (((pre ++ post).map fun a => (a.1.loc, a.2) : List _) :
        Multiset (Local S F V × G)) := by
  rw [Multiset.cons_coe, Multiset.coe_eq_coe]
  simp

omit [DecidableEq K] in
/-- An allowed step of one process keeps a valid state valid. -/
theorem Valid.proc_step {s : State S R F E D V A} (h : Valid P Q s) {i : Nat}
    {p p' : Proc S R F E V A} {c : Choice E V} {d : D} (hp : s.procs[i]? = some p)
    (ha : P.rules.allowsProc P.machine p c s.store)
    (hfree : ∀ v, c = .run v → ∀ q ∈ s.procs.eraseIdx i, ∀ k ∈ p.needs P.machine,
      k ∉ P.machine.held q.loc)
    (hstep : p.step P.machine c s.store = some (d, p')) :
    Valid P Q { store := d, procs := s.procs.set i p' } ∧ P.guar s.store d := by
  obtain ⟨ann, hann, hi, hw⟩ := h
  obtain ⟨pre, g, post, rfl, hlen⟩ := annotated_split hann hp
  have hprocs : s.procs = pre.map Prod.fst ++ p :: post.map Prod.fst := by
    rw [← hann]; simp
  have hset : s.procs.set i p' = pre.map Prod.fst ++ p' :: post.map Prod.fst := by
    rw [hprocs, List.set_append_right _ _ (by simp [hlen])]
    simp [hlen]
  have herase : s.procs.eraseIdx i = (pre ++ post).map Prod.fst := by
    rw [hprocs, List.eraseIdx_append_of_length_le (by simp [hlen])]
    simp [hlen]
  rw [crowd_split] at hi
  have hothers : ∀ v, c = .run v → ∀ x ∈ (((pre ++ post).map fun a => (a.1.loc, a.2) : List _) :
      Multiset (Local S F V × G)), ∀ k ∈ p.needs P.machine, k ∉ P.machine.held x.1 := by
    intro v hv x hx
    obtain ⟨a, hmem, rfl⟩ := List.mem_map.mp (Multiset.mem_coe.mp hx)
    exact hfree v hv a.1 (by rw [herase]; exact List.mem_map_of_mem hmem)
  have hwp := hw (p, g) (by simp)
  have hrest : ∀ a ∈ pre ++ post, P.wp Q a.1.prog a.1.loc a.2 := by
    intro a hmem
    rcases List.mem_append.mp hmem with hm | hm
    · exact hw a (by simp [hm])
    · exact hw a (by simp [hm])
  obtain ⟨loc, prog⟩ := p
  -- In both cases the program's own obligation gives the new ghost value.
  have hnew : ∃ g', P.Keeps s.store d ((p'.loc, g') ::ₘ (((pre ++ post).map fun a =>
      (a.1.loc, a.2) : List _) : Multiset (Local S F V × G))) ∧ P.wp Q p'.prog p'.loc g' := by
    cases prog with
    | ret r => cases hstep
    | ctl ct k =>
        simp only [Proc.step, Option.some.injEq, Prod.mk.injEq] at hstep
        obtain ⟨rfl, rfl⟩ := hstep
        exact hwp s.store _ c hi ha
    | stmt st k =>
        simp only [Proc.step, Option.some.injEq, Prod.mk.injEq] at hstep
        obtain ⟨rfl, rfl⟩ := hstep
        refine hwp s.store _ c hi ?_ ha
        cases c with
        | fail e => trivial
        | run v => exact hothers v rfl
  obtain ⟨g', ⟨hi', hg⟩, hw'⟩ := hnew
  refine ⟨⟨pre ++ (p', g') :: post, by simp [hset], ?_, ?_⟩, hg⟩
  · rw [crowd_split]
    exact hi'
  · intro a hmem
    rcases List.mem_append.mp hmem with hm | hm
    · exact hrest a (by simp [hm])
    · rcases List.mem_cons.mp hm with rfl | hm
      · exact hw'
      · exact hrest a (by simp [hm])

theorem free_iff {others : List (Proc S R F E V A)} {p : Proc S R F E V A} :
    State.free Y others p = true ↔
      ∀ q ∈ others, ∀ k ∈ p.needs Y.toMachine, k ∉ Y.toMachine.held q.loc := by
  simp only [State.free, List.all_eq_true, Bool.not_eq_true', decide_eq_false_iff_not]
  exact ⟨fun h q hq k hk => h k hk q hq, fun h k hk q hq => h q hq k hk⟩

/-- An allowed move of the system keeps a valid state valid. -/
theorem Valid.step (hmach : P.machine = Y.toMachine) {s s' : State S R F E D V A}
    (h : Valid P Q s)
    (hspawn : ∀ w d d' p ls, P.inv d ls → P.rules.spawn w d → Y.start w d = some (d', p) →
      ∃ g, P.Keeps d d' (({}, g) ::ₘ ls) ∧ P.wp Q p {} g)
    (hedit : ∀ d d' ls, P.inv d ls → P.rules.edit d d' → P.Keeps d d' ls)
    (hs : Step Y P.rules s s') : Valid P Q s' ∧ P.guar s.store s'.store := by
  obtain ⟨lab, ha, hstep⟩ := hs
  cases lab with
  | spawn w =>
      simp only [State.step, Option.map_eq_some_iff] at hstep
      obtain ⟨⟨d', p⟩, hstart, rfl⟩ := hstep
      obtain ⟨ann, hann, hi, hw⟩ := h
      obtain ⟨g, ⟨hi', hg⟩, hw'⟩ := hspawn w _ d' p _ hi ha hstart
      refine ⟨⟨ann ++ [({ prog := p }, g)], by simp [hann], ?_, ?_⟩, hg⟩
      · rw [crowd_split ann [] ({ prog := p }, g)]
        simpa using hi'
      · intro a hmem
        rcases List.mem_append.mp hmem with hm | hm
        · exact hw a hm
        · rw [List.mem_singleton.mp hm]
          exact hw'
  | edit d =>
      simp only [State.step, Option.some.injEq] at hstep
      subst hstep
      obtain ⟨ann, hann, hi, hw⟩ := h
      obtain ⟨hi', hg⟩ := hedit _ _ _ hi ha
      exact ⟨⟨ann, hann, hi', hw⟩, hg⟩
  | step i c =>
      simp only [State.step] at hstep
      cases hp : s.procs[i]? with
      | none => simp [hp] at hstep
      | some p =>
          rw [hp] at hstep
          have hrule : P.rules.allowsProc P.machine p c s.store := by
            rw [hmach]
            exact ha p hp
          cases c with
          | fail e =>
              simp only [Option.map_eq_some_iff] at hstep
              obtain ⟨⟨d, p'⟩, hp', rfl⟩ := hstep
              exact h.proc_step hp hrule (fun v hv => by cases hv) (hmach ▸ hp')
          | run v =>
              simp only [Option.ite_none_right_eq_some, Option.map_eq_some_iff] at hstep
              obtain ⟨hfree, ⟨d, p'⟩, hp', rfl⟩ := hstep
              refine h.proc_step hp hrule (fun v _ => ?_) (hmach ▸ hp')
              rw [hmach]
              exact free_iff.mp hfree

/-- The invariant of a protocol holds along every run, which meets the guarantee. -/
theorem Valid.reaches (hmach : P.machine = Y.toMachine) {s s' : State S R F E D V A}
    (h : Valid P Q s)
    (hspawn : ∀ w d d' p ls, P.inv d ls → P.rules.spawn w d → Y.start w d = some (d', p) →
      ∃ g, P.Keeps d d' (({}, g) ::ₘ ls) ∧ P.wp Q p {} g)
    (hedit : ∀ d d' ls, P.inv d ls → P.rules.edit d d' → P.Keeps d d' ls)
    (hr : Reaches Y P.rules s s') : Valid P Q s' ∧ P.guar s.store s'.store := by
  refine hr.invariant (I := fun t => Valid P Q t ∧ P.guar s.store t.store)
    ⟨h, P.guar_refl _⟩ ?_
  rintro t t' ⟨ht, hg⟩ hst
  obtain ⟨ht', hg'⟩ := ht.step hmach hspawn hedit hst
  exact ⟨ht', P.guar_trans _ _ _ hg hg'⟩

omit [DecidableEq K] in
/-- A store without processes is valid as soon as its invariant holds. -/
theorem Valid.start {d : D} (h : P.inv d 0) :
    Valid P Q { store := d, procs := ([] : List (Proc S R F E V A)) } :=
  ⟨[], rfl, by simpa using h, by simp⟩

end Soundness

end Interleaving
