import FrixelConnect.Interleaving.Direct

/-!
# What led to a step

In a system without transactions a process performs one statement after the other, each at a
moment of the run and with one result. `Led` follows a program through such results, and
`Leads.led` takes them from the run. `Leads.provenance` says where the things come from that a
store holds.
-/

namespace Interleaving

variable {S : Type} {R : S → Type} {F E D V K A W α β : Type}

namespace Prog

/-- After any results in `B`, the statement that the program performs next is in `φ`, or the
result that it gives is in `ψ`. There are no control steps. -/
def Led (B : (s : S) → Except E (R s) → Prop) (φ : S → Prop) (ψ : Except E α → Prop) :
    Prog S R F E α → Prop
  | .ret r => ψ r
  | .ctl _ _ => False
  | .stmt s k => φ s ∧ ∀ r, B s r → Led B φ ψ (k r)

variable {B : (s : S) → Except E (R s) → Prop} {φ φ' : S → Prop} {ψ ψ' : Except E α → Prop}
  {χ : Except E β → Prop}

/-- The value of a result is in `Q`. -/
def OkIn (Q : α → Prop) : Except E α → Prop
  | .ok a => Q a
  | .error _ => True

variable {Q Q' : α → Prop} {Q₁ : β → Prop}

@[simp] theorem okIn_ok {a : α} : OkIn Q (.ok a : Except E α) ↔ Q a := Iff.rfl

@[simp] theorem okIn_error {e : E} : OkIn Q (.error e : Except E α) := trivial

@[simp] theorem led_ret (r : Except E α) : (Prog.ret r : Prog S R F E α).Led B φ ψ ↔ ψ r := Iff.rfl

theorem Led.mono {p : Prog S R F E α} (h : p.Led B φ ψ) (hφ : ∀ s, φ s → φ' s)
    (hψ : ∀ r, ψ r → ψ' r) : p.Led B φ' ψ' := by
  induction p with
  | ret r => exact hψ r h
  | ctl c k _ => exact h.elim
  | stmt s k ih => exact ⟨hφ s h.1, fun r hr => ih r (h.2 r hr)⟩

theorem Led.handle {p : Prog S R F E α} {h : Except E α → Prog S R F E β} (hp : p.Led B φ ψ)
    (hh : ∀ r, ψ r → (h r).Led B φ χ) : (p.handle h).Led B φ χ := by
  induction p with
  | ret r => exact hh r hp
  | ctl c k _ => exact hp.elim
  | stmt s k ih => exact ⟨hp.1, fun r hr => ih r (hp.2 r hr)⟩

theorem Led.bind {p : Prog S R F E α} {f : α → Prog S R F E β} (hp : p.Led B φ (OkIn Q))
    (hf : ∀ a, Q a → (f a).Led B φ (OkIn Q₁)) : (p >>= f).Led B φ (OkIn Q₁) := by
  apply hp.handle
  intro r hr
  cases r with
  | ok a => exact hf a hr
  | error e => trivial

theorem Led.tryCatch {p : Prog S R F E α} {h : E → Prog S R F E α} (hp : p.Led B φ (OkIn Q))
    (hh : ∀ e, (h e).Led B φ (OkIn Q)) : (p.tryCatch h).Led B φ (OkIn Q) := by
  apply hp.handle
  intro r hr
  cases r with
  | ok a => exact hr
  | error e => exact hh e

theorem led_exec {s : S} {Q : R s → Prop} (hs : φ s) (h : ∀ a, B s (.ok a) → Q a) :
    (exec s : Prog S R F E (R s)).Led B φ (OkIn Q) := by
  refine ⟨hs, fun r hr => ?_⟩
  cases r with
  | ok a => exact h a hr
  | error e => trivial

/-- A statement, and what follows its answer. -/
theorem led_then {s : S} {f : R s → Prog S R F E β} (hs : φ s)
    (hf : ∀ a, B s (.ok a) → (f a).Led B φ (OkIn Q₁)) : (exec s >>= f).Led B φ (OkIn Q₁) :=
  (led_exec hs fun _ h => h).bind hf

theorem led_ofExcept {r : Except E α} (h : ∀ a, r = .ok a → Q a) :
    (ofExcept r : Prog S R F E α).Led B φ (OkIn Q) := by
  cases r with
  | ok a => exact h a rfl
  | error e => trivial

/-- The statements of a program that is followed through any results. -/
theorem Led.plain {p : Prog S R F E α} (hp : p.Led (fun _ _ => True) φ ψ) : p.Plain φ := by
  induction p with
  | ret r => trivial
  | ctl c k _ => exact hp.elim
  | stmt s k ih => exact ⟨hp.1, fun r => ih r (hp.2 r trivial)⟩

/-- Other programs stand for the statements, and their results are those of the statements. -/
theorem Led.expand {S' : Type} {R' : S' → Type} {F' : Type} {f : (s : S) → Prog S' R' F' E (R s)}
    {g : F → F'} {B' : (s : S') → Except E (R' s) → Prop} {φ' : S' → Prop} {p : Prog S R F E α}
    (hp : p.Led B φ ψ) (hf : ∀ s, φ s → (f s).Led B' φ' (B s)) : (p.expand f g).Led B' φ' ψ := by
  induction p with
  | ret r => exact hp
  | ctl c k _ => exact hp.elim
  | stmt s k ih => exact (hf s hp.1).handle fun r hr => ih r (hp.2 r hr)

end Prog

/-- The rule that allows the step of a process without a transaction. -/
theorem Proc.Direct.allowed {Y : System S R F E D V K A W} {ρ : Rules S E D V W} {φ : S → Prop}
    {q : S} {k : Except E (R q) → Prog S R F E A} {c : Choice E V} {p : Proc S R F E V A} {d : D}
    (hp : p.Direct φ) (hq : p.prog = .stmt q k) (h : ρ.allowsProc Y.toMachine p c d) :
    ρ.stmt q c d := by
  rw [Rules.allowsProc, hq] at h
  cases hin : Y.inTx q with
  | true => simpa only [Rules.allowsStmt, hin, hp.txn] using h
  | false => simpa only [Rules.allowsStmt, hin] using h

/-- The value with which the process has ended. -/
def Proc.value (p : Proc S R F E V A) : Option A :=
  match p.prog with
  | .ret (.ok a) => some a
  | _ => none

/-- The value with which the process `i` has ended. -/
def State.value (s : State S R F E D V A) (i : ℕ) : Option A := s.procs[i]?.bind Proc.value

variable [DecidableEq K]

/-- In the run from `s₀` to `s` the process performed `q` with the result `r`: the environment chose
`c` in the state `t`, and the store was `d` afterwards. -/
structure Performed (Y : System S R F E D V K A W) (ρ : Rules S E D V W)
    (s₀ s : State S R F E D V A) (i : ℕ) (q : S) (r : Except E (R q)) (c : Choice E V)
    (t : State S R F E D V A) (d : D) : Prop where
  before : Reaches Y ρ s₀ t
  after : ∃ t', Step Y ρ t t' ∧ t.step Y (.step i c) = some t' ∧ t'.store = d ∧ Reaches Y ρ t' s
  allowed : ρ.stmt q c t.store
  result : Y.direct q c t.store = (r, d)

/-- The results of the statements that a process has performed. -/
def Had (Y : System S R F E D V K A W) (ρ : Rules S E D V W) (s₀ s : State S R F E D V A) (i : ℕ)
    (q : S) (r : Except E (R q)) : Prop := ∃ c t d, Performed Y ρ s₀ s i q r c t d

section Runs

variable {Y : System S R F E D V K A W} {ρ : Rules S E D V W} {s₀ s s' : State S R F E D V A}
  {i : ℕ}

theorem Performed.later {q : S} {r : Except E (R q)} {c : Choice E V} {t : State S R F E D V A}
    {d : D} (h : Performed Y ρ s₀ s i q r c t d) (hr : Reaches Y ρ s s') :
    Performed Y ρ s₀ s' i q r c t d := by
  obtain ⟨t', hstep, hmove, hd, hrest⟩ := h.after
  exact ⟨h.before, ⟨t', hstep, hmove, hd, hrest.trans hr⟩, h.allowed, h.result⟩

theorem Performed.reaches {q : S} {r : Except E (R q)} {c : Choice E V} {t : State S R F E D V A}
    {d : D} (h : Performed Y ρ s₀ s i q r c t d) : Reaches Y ρ t s := by
  obtain ⟨t', hstep, -, -, hrest⟩ := h.after
  exact hrest.head hstep

theorem Had.later {q : S} {r : Except E (R q)} (h : Had Y ρ s₀ s i q r) (hr : Reaches Y ρ s s') :
    Had Y ρ s₀ s' i q r := by
  obtain ⟨c, t, d, h⟩ := h
  exact ⟨c, t, d, h.later hr⟩

/-- No program has control steps, and whatever the results of a process were so far, its next
statement is in `φ` and its own result in `ψ` of them. -/
structure Leads (Y : System S R F E D V K A W)
    (φ : ((s : S) → Except E (R s) → Prop) → S → Prop)
    (ψ : ((s : S) → Except E (R s) → Prop) → Except E A → Prop) : Prop where
  restores : Y.Restores
  start : ∀ w d d' p, Y.start w d = some (d', p) → d' = d ∧ ∀ B, p.Led B (φ B) (ψ B)

namespace Leads

variable {φ : ((s : S) → Except E (R s) → Prop) → S → Prop}
  {ψ : ((s : S) → Except E (R s) → Prop) → Except E A → Prop}

omit [DecidableEq K] in
theorem direct (h : Leads Y φ ψ) : Direct Y (φ fun _ _ => True) where
  restores := h.restores
  start w d d' p hp := ⟨(h.start w d d' p hp).1, ((h.start w d d' p hp).2 _).plain⟩

/-- The process in a state `t` of the run to `s`, by its results in this run. -/
theorem led (h : Leads Y φ ψ) (hprocs : s₀.procs = []) {t : State S R F E D V A}
    (ht : Reaches Y ρ s₀ t) (hs : Reaches Y ρ t s) {i : ℕ} {p : Proc S R F E V A}
    (hp : t.procs[i]? = some p) :
    p.prog.Led (Had Y ρ s₀ s i) (φ (Had Y ρ s₀ s i)) (ψ (Had Y ρ s₀ s i)) := by
  induction ht generalizing i p with
  | refl => simp [hprocs] at hp
  | @tail t t' hr hstep ih =>
      have ih {i : ℕ} {p} := @ih (hs.head hstep) i p
      have hst := hstep
      obtain ⟨label, hallow, hmove⟩ := hstep
      cases label with
      | spawn w =>
          obtain ⟨⟨d', p'⟩, hstarted, rfl⟩ := Option.map_eq_some_iff.mp hmove
          rcases Nat.lt_or_ge i t.procs.length with hlt | hge
          · rw [List.getElem?_append_left hlt] at hp
            exact ih hp
          · rw [List.getElem?_append_right hge, List.getElem?_singleton] at hp
            split at hp
            · cases hp
              exact (h.start w t.store d' p' hstarted).2 _
            · cases hp
      | edit d =>
          cases hmove
          exact ih hp
      | step j c =>
          have hmove' := hmove
          obtain ⟨q, d, q', hq, hqs, rfl⟩ := State.step_process hmove
          by_cases hij : j = i
          · subst hij
            have hlt : j < t.procs.length := (List.getElem?_eq_some_iff.mp hq).1
            rw [List.getElem?_set_self hlt, Option.some.injEq] at hp
            rw [← hp]
            have hdirect : q.Direct (φ fun _ _ => True) :=
              h.direct.procs hr (by simp [hprocs]) q (List.mem_of_getElem? hq)
            have hled := ih hq
            have hrule := hallow q hq
            obtain ⟨l, prog⟩ := q
            cases prog with
            | ret r => cases hqs
            | ctl ct k => exact hled.elim
            | stmt u k =>
                have hl : l.txn = .none := hdirect.txn
                have hstep : Y.stmtStep u c t.store l =
                    ((Y.direct u c t.store).1, (Y.direct u c t.store).2, l) := by
                  simp [Machine.stmtStep, hl]
                cases hqs
                rw [hstep] at hs hst hmove' ⊢
                exact hled.2 _ ⟨c, t, _, hr, ⟨_, hst, hmove', rfl, hs⟩,
                  hdirect.allowed rfl hrule, rfl⟩
          · rw [List.getElem?_set_ne hij] at hp
            exact ih hp

/-- The value of a process, by its results. -/
theorem value (h : Leads Y φ ψ) (hprocs : s₀.procs = []) (hs : Reaches Y ρ s₀ s) {a : A}
    (ha : s.value i = some a) : ψ (Had Y ρ s₀ s i) (.ok a) := by
  obtain ⟨⟨l, prog⟩, hp, hvalue⟩ := Option.bind_eq_some_iff.mp ha
  have hled := h.led hprocs hs .refl hp
  cases prog with
  | ret r =>
      cases r with
      | ok b =>
          cases hvalue
          exact hled
      | error e => cases hvalue
  | ctl ct k => cases hvalue
  | stmt q k => cases hvalue

/-- Where things come from: the store holds none of them at first and none more after an edit, and
what a statement adds has an origin if what the store held has. -/
theorem provenance {C : Type} (h : Leads Y φ ψ) (held : D → C → Prop)
    (origin : State S R F E D V A → C → Prop) (hprocs : s₀.procs = [])
    (hinit : ∀ c, ¬ held s₀.store c)
    (hedit : ∀ d d' c, ρ.edit d d' → held d' c → held d c)
    (hlater : ∀ t t' c, Reaches Y ρ t t' → origin t c → origin t' c)
    (hstmt : ∀ t i q v a d, Reaches Y ρ s₀ t → φ (Had Y ρ s₀ t i) q →
      Y.exec q v t.store = (.ok a, d) → (∀ c, held t.store c → origin t c) →
      ∀ c, held d c → ¬ held t.store c → origin t c)
    (hr : Reaches Y ρ s₀ s) : ∀ c, held s.store c → origin s c := by
  induction hr with
  | refl => exact fun c hc => absurd hc (hinit c)
  | @tail t t' ht hst ih =>
      intro c hc
      have hnext : Reaches Y ρ t t' := .single hst
      by_cases hheld : held t.store c
      · exact hlater t t' c hnext (ih c hheld)
      have hprocs' := h.direct.procs ht (by simp [hprocs])
      rcases (h.direct.step hprocs' hst).2 with
        hsame | hedited | ⟨q, v, -, -, i, p, k, a, hi, hq, -, hx⟩
      · exact absurd (hsame ▸ hc) hheld
      · exact absurd (hedit _ _ c hedited hc) hheld
      · have hled := h.led hprocs ht .refl hi
        rw [hq] at hled
        exact hlater t t' c hnext (hstmt t i q v a t'.store ht hled.1 hx ih c hc hheld)

end Leads

end Runs

end Interleaving
