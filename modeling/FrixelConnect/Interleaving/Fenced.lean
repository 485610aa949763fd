import FrixelConnect.Interleaving.StoreRule

/-!
# Programs within a fence

The statements in `φ` keep a property of the store, and while it holds their answers are in `B`. A
program stays within the fence when it performs only statements in `φ` as long as its answers are
in `B`. `Fenced.run` carries the property along every run of such programs, with their
transactions. `Prog.translate` brings programs with other exceptions into one system.
-/

namespace Interleaving

variable {S : Type} {R : S → Type} {F E D V K A W α : Type}

namespace Prog

theorem AllUnder.bind {β : Type} {B : (s : S) → R s → Prop} {φ : S → Prop} {p : Prog S R F E α}
    {f : α → Prog S R F E β} (hp : p.AllUnder B φ) (hf : ∀ a, (f a).AllUnder B φ) :
    (p >>= f).AllUnder B φ := by
  apply hp.handle
  intro r
  cases r with
  | ok a => exact hf a
  | error e => trivial

theorem All.embed {S' : Type} {R' : S' → Type} {f : S → S'} {φ : S' → Prop}
    {p : Prog S (fun s => R' (f s)) F E α} (hp : p.All fun s => φ (f s)) : (p.embed f).All φ := by
  induction p with
  | ret r => trivial
  | ctl c k ih => exact fun r => ih r (hp r)
  | stmt s k ih => exact ⟨hp.1, fun r => ih r (hp.2 r)⟩

variable {S' : Type} {R' : S' → Type} {F' E' : Type}

/-- A program over some of the statements of a larger signature, with other frames and other
exceptions. -/
def translate (f : S → S') (g : F → F') (into : E → E') (back : E' → E) :
    Prog S (fun s => R' (f s)) F E α → Prog S' R' F' E' α
  | .ret r => .ret (r.mapError into)
  | .ctl c k => .ctl (c.map g) fun r => translate f g into back (k (r.mapError back))
  | .stmt s k => .stmt (f s) fun r => translate f g into back (k (r.mapError back))

variable {f : S → S'} {g : F → F'} {into : E → E'} {back : E' → E} {φ : S' → Prop}
  {B : (s : S') → R' s → Prop}

theorem AllUnder.translate {p : Prog S (fun s => R' (f s)) F E α}
    (hp : p.AllUnder (fun s => B (f s)) fun s => φ (f s)) :
    (p.translate f g into back).AllUnder B φ := by
  induction p with
  | ret r => trivial
  | ctl c k ih => exact fun r => ih _ (hp _)
  | stmt s k ih =>
      refine ⟨hp.1, fun r hr => ih _ (hp.2 _ fun a ha => ?_)⟩
      cases r with
      | ok b => exact hr a (by cases ha; rfl)
      | error e => cases ha

end Prog

/-- The process has performed statements in `φ` in its transaction, and performs only such as long
as its answers are in `B`. -/
structure Proc.Within (φ : S → Prop) (B : (s : S) → R s → Prop) (p : Proc S R F E V A) : Prop where
  log : ∀ x ∈ p.loc.txn.log, φ x.1
  prog : p.prog.AllUnder B φ

/-- The statements in `φ` keep `I` and have answers in `B`; programs stay within the fence. -/
structure Fenced (Y : System S R F E D V K A W) (ρ : Rules S E D V W) (φ : S → Prop)
    (B : (s : S) → R s → Prop) (I : D → Prop) : Prop where
  restores : Y.Restores
  start : ∀ w d d' p, ρ.spawn w d → I d → Y.start w d = some (d', p) → I d' ∧ p.AllUnder B φ
  edit : ∀ d d', ρ.edit d d' → I d → I d'
  stmt : ∀ s v d a d', φ s → I d → Y.exec s v d = (.ok a, d') → I d' ∧ B s a

namespace Fenced

variable {Y : System S R F E D V K A W} {ρ : Rules S E D V W} {φ : S → Prop}
  {B : (s : S) → R s → Prop} {I : D → Prop} {s : S} {c : Choice E V} {d : D} {l : Local S F V}

theorem keeps (h : Fenced Y ρ φ B I) (s : S) (hs : φ s) (v : V) (d : D) (hd : I d) :
    I (Y.exec s v d).2 := by
  rcases h.restores s v d with ⟨a, d', hx⟩ | ⟨e, hx⟩
  · rw [hx]
    exact (h.stmt s v d a d' hs hd hx).1
  · rwa [hx]

/-- A statement, and what its answer tells. -/
theorem stmtStep (h : Fenced Y ρ φ B I) (hs : φ s) (hl : ∀ x ∈ l.txn.log, φ x.1) (hd : I d) :
    I (Y.stmtStep s c d l).2.1 ∧ ∀ a, (Y.stmtStep s c d l).1 = .ok a → B s a := by
  have hdirect : I (Y.direct s c d).2 ∧ ∀ a, (Y.direct s c d).1 = .ok a → B s a := by
    cases c with
    | fail e => exact ⟨hd, fun a ha => by cases ha⟩
    | run v =>
        exact ⟨h.keeps s hs v d hd, fun a ha => (h.stmt s v d a _ hs hd (Prod.ext ha rfl)).2⟩
  cases hin : Y.inTx s with
  | false =>
      simp only [Machine.stmtStep, hin, Bool.false_eq_true, if_false]
      exact hdirect
  | true =>
      cases htxn : l.txn with
      | none =>
          simp only [Machine.stmtStep, hin, htxn, if_true]
          exact hdirect
      | aborted log =>
          simp only [Machine.stmtStep, hin, htxn, if_true]
          exact ⟨hd, fun a ha => by cases ha⟩
      | active log =>
          rcases Y.stmtStep_active (c := c) (d := d) hin htxn with
            ⟨e, hx, -⟩ | ⟨v, view, a, rfl, hview, ha, hx⟩
          · rw [hx]
            exact ⟨hd, fun a ha => by cases ha⟩
          · rw [hx]
            have hlog : ∀ x ∈ log, φ x.1 := fun x hx => hl x (by rw [htxn]; exact hx)
            refine ⟨hd, fun b hb => ?_⟩
            cases hb
            exact (h.stmt s v view a _ hs (Machine.replay_keeps h.keeps hlog hd hview)
              (Prod.ext ha rfl)).2

theorem ctlStep (h : Fenced Y ρ φ B I) {ct : Control F} (hl : ∀ x ∈ l.txn.log, φ x.1)
    (hd : I d) : I (Y.ctlStep ct c d l).2.1 := by
  cases ct with
  | enter f => exact hd
  | leave => exact hd
  | beginTx => exact hd
  | rollback => exact hd
  | commit =>
      rcases Y.ctlStep_commit c d l with ⟨e, hx, -⟩ | ⟨log, v, d', hlog, -, hreplay, hx⟩
      · rw [hx]
        exact hd
      · rw [hx]
        exact Machine.replay_keeps h.keeps (fun x hx => hl x (by rw [hlog]; exact hx)) hd hreplay

/-- A step of one process, and what it goes on with. -/
theorem procStep (h : Fenced Y ρ φ B I) {p p' : Proc S R F E V A} {d' : D} (hp : p.Within φ B)
    (hd : I d) (hs : p.step Y.toMachine c d = some (d', p')) : I d' ∧ p'.Within φ B := by
  obtain ⟨l, prog⟩ := p
  cases prog with
  | ret r => cases hs
  | ctl ct k =>
      cases hs
      exact ⟨h.ctlStep hp.log hd, fun x hx => hp.log x (Y.log_ctlStep hx), hp.prog _⟩
  | stmt q k =>
      cases hs
      obtain ⟨hstore, hanswer⟩ := h.stmtStep (F := F) (c := c) (l := l) hp.prog.1 hp.log hd
      refine ⟨hstore, fun x hx => ?_, hp.prog.2 _ hanswer⟩
      rcases Y.log_stmtStep hx with hx | ⟨hx, -⟩
      · exact hp.log x hx
      · rw [hx]
        exact hp.prog.1

variable [DecidableEq K]

/-- The property along a run from a store on which no process runs yet. -/
theorem run (h : Fenced Y ρ φ B I) {s : State S R F E D V A} (hr : Reaches Y ρ { store := d } s)
    (hd : I d) : I s.store := by
  refine (hr.each (J := Proc.Within φ B) (fun w d d' p hw hI hstart => ?_) h.edit
    (fun p p' c d d' _ hI hp hs => h.procStep hp hI hs) hd (by simp)).1
  obtain ⟨hd', hall⟩ := h.start w d d' p hw hI hstart
  exact ⟨hd', fun x hx => (by cases hx), hall⟩

end Fenced

end Interleaving
