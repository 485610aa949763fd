import FrixelConnect.Interleaving.Discipline

/-!
# One process and nothing else

A process that runs without others knows the store, which is its ghost value. The rules of
the run say which steps are considered, and may look at the store of the step.
-/

namespace Interleaving

variable {S : Type} {R : S → Type} {F E D V K A W α β : Type}

/-- When no statement raises, the program gives a value. -/
def Prog.Returns : Prog S R F E α → Prop
  | .ret r => r.isOk = true
  | .ctl _ k => (k (.ok ())).Returns
  | .stmt _ k => ∀ a, (k (.ok a)).Returns

namespace Prog

theorem Returns.handle {p : Prog S R F E α} {h : Except E α → Prog S R F E β} (hp : p.Returns)
    (hh : ∀ a, (h (.ok a)).Returns) : (p.handle h).Returns := by
  induction p with
  | ret r =>
      cases r with
      | ok a => exact hh a
      | error e => cases hp
  | ctl c k ih => exact ih _ hp
  | stmt s k ih => exact fun a => ih _ (hp a)

theorem Returns.bind {p : Prog S R F E α} {f : α → Prog S R F E β} (hp : p.Returns)
    (hf : ∀ a, (f a).Returns) : (p >>= f).Returns := hp.handle hf

theorem Returns.tryCatch {p : Prog S R F E α} {h : E → Prog S R F E α} (hp : p.Returns) :
    (p.tryCatch h).Returns := hp.handle fun _ => rfl

/-- So do programs in which such programs stand for the statements. -/
theorem Returns.expand {S' : Type} {R' : S' → Type} {F' : Type} {φ : S → Prop}
    {f : (s : S) → Prog S' R' F' E (R s)} {g : F → F'} {p : Prog S R F E α} (hp : p.Returns)
    (hφ : p.All φ) (hf : ∀ s, φ s → (f s).Returns) : (p.expand f g).Returns := by
  induction p with
  | ret r => exact hp
  | ctl c k ih => exact ih _ hp (hφ _)
  | stmt s k ih => exact (hf s hφ.1).handle fun a => ih _ (hp a) (hφ.2 _)

theorem returns_exec (s : S) : (exec s : Prog S R F E (R s)).Returns := fun _ => rfl

theorem returns_pure (a : α) : (pure a : Prog S R F E α).Returns := rfl

end Prog

/-- A single process, whose ghost value is the store. The token excludes a second one. -/
def single (M : Machine S R E D V K) (ρ : Rules S E D V W) : Discipline S R F E D V K W D Unit where
  machine := M
  rules := ρ
  own d _ g := g = d
  token _ := some ()

namespace Single

variable {M : Machine S R E D V K} {ρ : Rules S E D V W} {d d' : D} {l l' : Local S F V}

theorem moves {ks : List K} : (single M ρ).Moves ks d d' l d l' d' where
  base := trivial
  own := rfl
  stable _ _ _ hapart := absurd rfl (hapart () rfl)
  token _ h := .inl h
  shared _ _ := trivial
  guar := trivial

/-- Every run of the program from the store ends with `Q`. -/
abbrev Ends (M : Machine S R E D V K) (ρ : Rules S E D V W)
    (Q : Except E α → Local S F V → D → Prop) (p : Prog S R F E α) (l : Local S F V) (d : D) :
    Prop :=
  (single M ρ).protocol.wp Q p l d

variable {Q : Except E α → Local S F V → D → Prop}

/-- A statement that takes effect at once. -/
theorem ends_exec {s : S} {Q : Except E (R s) → Local S F V → D → Prop}
    (hl : M.inTx s = false ∨ l.txn = .none)
    (h : ∀ c, ρ.stmt s c d → Q (M.direct s c d).1 l (M.direct s c d).2) :
    Ends M ρ Q (.exec s) l d := by
  apply Discipline.wp_atomic hl
  · rintro d e - rfl hr
    exact ⟨d, moves, h (.fail e) hr⟩
  · rintro d v - rfl hr
    exact ⟨_, moves, h (.run v) hr⟩

/-- A statement, and what follows its answer. -/
theorem ends_exec_bind {s : S} {f : R s → Prog S R F E α}
    (hl : M.inTx s = false ∨ l.txn = .none)
    (herr : ∀ c e d', ρ.stmt s c d → M.direct s c d = (.error e, d') → Q (.error e) l d')
    (hok : ∀ c a d', ρ.stmt s c d → M.direct s c d = (.ok a, d') → Ends M ρ Q (f a) l d') :
    Ends M ρ Q (.exec s >>= f) l d := by
  apply Protocol.wp_bind.mpr
  apply ends_exec hl
  intro c hc
  cases hr : (M.direct s c d).1 with
  | ok a => exact hok c a _ hc (Prod.ext hr rfl)
  | error e => exact herr c e _ hc (Prod.ext hr rfl)

/-- Sequencing, with an assertion between the two programs. -/
theorem ends_then {p : Prog S R F E α} {f : α → Prog S R F E β}
    {Q : Except E β → Local S F V → D → Prop} {B : Except E α → Local S F V → D → Prop}
    (h : Ends M ρ B p l d) (herr : ∀ e l d, B (.error e) l d → Q (.error e) l d)
    (hok : ∀ a l d, B (.ok a) l d → Ends M ρ Q (f a) l d) : Ends M ρ Q (p >>= f) l d :=
  Protocol.wp_then h herr hok

theorem ends_inFrame {f : F} {p : Prog S R F E α}
    (h : Ends M ρ (fun r l d => Q r { l with frames := l.frames.tail } d) p
      { l with frames := f :: l.frames } d) : Ends M ρ Q (p.inFrame f) l d := by
  apply Discipline.wp_inFrame
  · rintro d - rfl
    exact moves
  · apply Protocol.wp_mono h
    intro r l' d' hQ
    refine ⟨d', ?_, hQ⟩
    rintro d - rfl
    exact moves

/-- A statement of an open transaction that has only read so far. -/
theorem ends_logged {s : S} {Q : Except E (R s) → Local S F V → D → Prop} {log : List (S × V)}
    (hin : M.inTx s = true) (hl : l.txn = .active log) (hlog : M.replay log d = some d)
    (hinner : ∀ c, ρ.inner s c d = true → ∃ v a, c = .run v ∧ (M.exec s v d).1 = .ok a)
    (hQ : ∀ v a, (M.exec s v d).1 = .ok a →
      Q (.ok a) { l with txn := .active (log ++ [(s, v)]) } d) :
    Ends M ρ Q (.exec s) l d := by
  apply Discipline.wp_logged hin hl
  · rintro d e - rfl ⟨c, hc, hraise⟩
    obtain ⟨v, a, rfl, ha⟩ := hinner c hc
    cases ha.symm.trans (hraise v _ rfl hlog)
  · rintro d v view a - rfl hview ha
    have hsame : view = _ := Option.some.inj (hview.symm.trans hlog)
    subst hsame
    exact ⟨_, moves, hQ v a ha⟩

/-- A transaction whose commit cannot fail. -/
theorem ends_transaction {p : Prog S R F E α} (hlossy : ρ.lossy = false)
    (h : Ends M ρ (fun r l' d' => (∀ e, r = .error e → Q (.error e) { l' with txn := .none } d') ∧
      ∀ a, r = .ok a → ∃ log d'', l'.txn = .active log ∧ M.replay log d' = some d'' ∧
        Q (.ok a) { l' with txn := .none } d'') p { l with txn := .active [] } d) :
    Ends M ρ Q p.transaction l d := by
  apply Discipline.wp_transaction
  · rintro d - rfl
    exact moves
  · apply Protocol.wp_mono h
    rintro r l' d' ⟨herr, hok⟩
    constructor
    · rintro _ e he hrefuses - rfl
      cases r with
      | error e' =>
          cases he e' rfl
          exact ⟨_, moves, herr _ rfl⟩
      | ok a =>
          obtain ⟨log, d'', hlog, hr, -⟩ := hok a rfl
          rcases hrefuses a log rfl hlog with hloss | ⟨-, hnone⟩
          · cases hlossy.symm.trans hloss
          · cases hr.symm.trans hnone
    · rintro a rfl log hlog _ d'' - rfl hr -
      obtain ⟨log', d₁, hlog', hr', hQ⟩ := hok a rfl
      cases hlog.symm.trans hlog'
      cases hr.symm.trans hr'
      exact ⟨_, moves, hQ⟩

theorem ends_stmt {s : S} {k : Except E (R s) → Prog S R F E α}
    (hl : M.inTx s = false ∨ l.txn = .none) (h : ∀ c, ρ.stmt s c d →
      Ends M ρ Q (k (M.direct s c d).1) l (M.direct s c d).2) : Ends M ρ Q (.stmt s k) l d :=
  Protocol.wp_handle.mpr (ends_exec hl h)

theorem ends_ctl {ct : Control F} {k : Except E Unit → Prog S R F E α}
    (h : ∀ c, Ends M ρ Q (k (M.ctlStep ct c d l).1) (M.ctlStep ct c d l).2.2
      (M.ctlStep ct c d l).2.1) : Ends M ρ Q (.ctl ct k) l d := by
  intro d' others c hi _
  obtain rfl : d = d' := hi.own _ (Multiset.mem_cons_self _ _)
  have hm : (single M ρ).Moves [] d (M.ctlStep ct c d l).2.1 l d (M.ctlStep ct c d l).2.2
    (M.ctlStep ct c d l).2.1 := moves
  exact ⟨_, hi.moves hm (by simp), h c⟩

/-- A program without transactions whose statements answer and keep `I`. -/
theorem ends_returns {φ : S → Prop} {I : D → Prop} {p : Prog S R F E α} (hp : p.Framed φ)
    (hret : p.Returns) (hl : l.txn = .none) (hd : I d)
    (hkeep : ∀ s, φ s → ∀ c d, I d → ρ.stmt s c d →
      (M.direct s c d).1.isOk = true ∧ I (M.direct s c d).2) :
    Ends M ρ (fun r l' d' => r.isOk = true ∧ l'.txn = .none ∧ I d') p l d := by
  induction p generalizing l d with
  | ret r => exact ⟨hret, hl, hd⟩
  | ctl ct k ih =>
      apply ends_ctl
      intro c
      cases ct with
      | enter f => exact ih _ (hp _) hret hl hd
      | leave => exact ih _ (hp _) hret hl hd
      | beginTx => exact hp.elim
      | commit => exact hp.elim
      | rollback => exact hp.elim
  | stmt s k ih =>
      apply ends_stmt (.inr hl)
      intro c hc
      obtain ⟨hok, hI⟩ := hkeep s hp.1 c d hd hc
      cases hr : (M.direct s c d).1 with
      | ok a => exact ih _ (hp.2 _) (hret a) hl hI
      | error e =>
          rw [hr] at hok
          cases hok

section Run

variable [DecidableEq K] {Y : System S R F E D V K A W} {Q : Except E A → Local S F V → D → Prop}

/-- A run of one process, in which no process starts and nobody else writes. -/
theorem ends_run {p : Prog S R F E A} {s : State S R F E D V A} (hspawn : ∀ w d, ¬ ρ.spawn w d)
    (hedit : ∀ d d', ¬ ρ.edit d d') (h : Ends Y.toMachine ρ Q p {} d)
    (hs : Reaches Y ρ { store := d, procs := [{ prog := p }] } s) {q : Proc S R F E V A}
    {r : Except E A} (hq : q ∈ s.procs) (hr : q.prog = .ret r) : Q r q.loc s.store := by
  have hstart : Valid (single Y.toMachine ρ).protocol Q
      ({ store := d, procs := [{ prog := p }] } : State S R F E D V A) := by
    refine ⟨[({ prog := p }, d)], rfl, ⟨trivial, ?_, ?_, trivial⟩, ?_⟩
    · intro x hx
      rw [Multiset.mem_coe, List.map_singleton, List.mem_singleton] at hx
      rw [hx]
      rfl
    · change ((single Y.toMachine ρ).tokens (({}, d) ::ₘ 0)).Nodup
      rw [Discipline.tokens_cons_some rfl]
      exact Multiset.nodup_singleton ()
    · intro a ha
      rw [List.mem_singleton.mp ha]
      exact h
  have hvalid := (hstart.reaches (Y := Y) rfl (fun w d _ _ _ _ hw => absurd hw (hspawn w d))
    (fun d d' _ _ he => absurd he (hedit d d')) hs).1
  obtain ⟨ann, hann, hinv, hwp⟩ := hvalid
  rw [← hann] at hq
  obtain ⟨a, ha, rfl⟩ := List.mem_map.mp hq
  have hown : a.2 = s.store :=
    hinv.own (a.1.loc, a.2) (Multiset.mem_coe.mpr (List.mem_map_of_mem ha))
  have hend := hwp a ha
  rw [hr, hown] at hend
  exact hend

end Run

end Single

end Interleaving
