import FrixelConnect.System
import FrixelConnect.Interleaving.Transactions

/-!
# Contracts of the application

A contract is a discipline over the machine of the application. The rules below
speak of `Stmt.eval`: a statement fails, raises, or answers and changes the store.
-/

namespace FrixelConnect

open Decimals Python Interleaving

structure Contract (G T : Type) where
  rules : RunRules
  base : Store → Prop := fun _ => True
  own : Store → RunLocal → G → Prop := fun _ _ _ => True
  token : G → Option T := fun _ => none
  shared : Store → Multiset G → Prop := fun _ _ => True
  guar : Store → Store → Prop := fun _ _ => True
  guar_refl : ∀ d, guar d d := by intros; trivial
  guar_trans : ∀ a b c, guar a b → guar b c → guar a c := by intros; trivial

namespace Contract

variable {G T α β : Type} (𝒞 : Contract G T)

def discipline : Discipline Stmt Stmt.Res Frame Exn Store Env UUID Spawn G T where
  machine := machine
  rules := 𝒞.rules
  base := 𝒞.base
  own := 𝒞.own
  token := 𝒞.token
  shared := 𝒞.shared
  guar := 𝒞.guar
  guar_refl := 𝒞.guar_refl
  guar_trans := 𝒞.guar_trans

/-- Every run of the program keeps the contract and ends with `Q`. -/
def wp (Q : Except Exn α → RunLocal → G → Prop) (p : M α) (l : RunLocal) (g : G) : Prop :=
  𝒞.discipline.protocol.wp Q p l g

/-- What a step owes, with the keys that no other process holds. -/
def Moves (ks : List UUID) (d d' : Store) (l : RunLocal) (g : G) (l' : RunLocal) (g' : G) :
    Prop := 𝒞.discipline.Moves ks d d' l g l' g'

variable {𝒞} {Q : Except Exn α → RunLocal → G → Prop} {l l' : RunLocal} {g g' : G}
  {d d' : Store} {ks : List UUID}

theorem Moves.intro
    (base : 𝒞.base d') (own : 𝒞.own d' l' g')
    (stable : ∀ l₂ g₂, 𝒞.own d l₂ g₂ → (∀ t, 𝒞.token g = some t → 𝒞.token g₂ ≠ some t) →
      𝒞.own d' l₂ g₂)
    (token : ∀ t, 𝒞.token g' = some t → 𝒞.token g = some t ∨ ∀ l₂ g₂, 𝒞.own d l₂ g₂ →
      (∀ k ∈ ks, k ∉ machine.held l₂) → 𝒞.token g₂ ≠ some t)
    (shared : ∀ gs, 𝒞.shared d (g ::ₘ gs) → 𝒞.shared d' (g' ::ₘ gs))
    (guar : 𝒞.guar d d') : 𝒞.Moves ks d d' l g l' g' :=
  ⟨base, own, stable, token, shared, guar⟩

/-- A step without effect on the store and the ghost value. -/
theorem Moves.stay (hb : 𝒞.base d) (ho : 𝒞.own d l' g) : 𝒞.Moves ks d d l g l' g :=
  Discipline.Moves.stay hb ho

/-- A step that only forgets. -/
theorem Moves.forget (hb : 𝒞.base d) (ho : 𝒞.own d l' g')
    (ht : 𝒞.token g' = none ∨ 𝒞.token g' = 𝒞.token g)
    (hs : ∀ gs, 𝒞.shared d (g ::ₘ gs) → 𝒞.shared d (g' ::ₘ gs)) : 𝒞.Moves ks d d l g l' g' :=
  Discipline.Moves.forget hb ho ht hs

theorem wp_ret (r : Except Exn α) : 𝒞.wp Q (.ret r) l g ↔ Q r l g := Iff.rfl

theorem wp_mono {B : Except Exn α → RunLocal → G → Prop} {p : M α} (h : 𝒞.wp B p l g)
    (hQ : ∀ r l g, B r l g → Q r l g) : 𝒞.wp Q p l g := Protocol.wp_mono h hQ

/-- The rule of sequencing. -/
theorem wp_bind {Q : Except Exn β → RunLocal → G → Prop} {p : M α} {f : α → M β}
    (h : 𝒞.wp (fun r l g => match r with
      | .ok a => 𝒞.wp Q (f a) l g
      | .error e => Q (.error e) l g) p l g) : 𝒞.wp Q (p >>= f) l g := by
  change 𝒞.discipline.protocol.wp Q (p.bind f) l g
  rw [Protocol.wp_bind]
  apply Protocol.wp_mono h
  intro r l g hr
  cases r <;> exact hr

/-- Sequencing, with an assertion between the two programs. -/
theorem wp_then {Q : Except Exn β → RunLocal → G → Prop} {p : M α} {f : α → M β}
    {B : Except Exn α → RunLocal → G → Prop} (h : 𝒞.wp B p l g)
    (herr : ∀ e l g, B (.error e) l g → Q (.error e) l g)
    (hok : ∀ a l g, B (.ok a) l g → 𝒞.wp Q (f a) l g) : 𝒞.wp Q (p >>= f) l g :=
  Protocol.wp_then h herr hok

theorem wp_catch {p : M α} {h : Exn → M α} (hp : 𝒞.wp (fun r l g => match r with
      | .ok a => Q (.ok a) l g
      | .error e => 𝒞.wp Q (h e) l g) p l g) : 𝒞.wp Q (p.tryCatch h) l g := by
  change 𝒞.discipline.protocol.wp Q (p.tryCatch h) l g
  rw [Protocol.wp_tryCatch]
  apply Protocol.wp_mono hp
  intro r l g hr
  cases r <;> exact hr

/-- Swallowing every exception keeps an assertion that holds however the program ends. -/
theorem wp_swallow {p : M α} {a : α} {I : RunLocal → G → Prop}
    (h : 𝒞.wp (fun _ l g => I l g) p l g) :
    𝒞.wp (fun _ l g => I l g) (p.tryCatch fun _ => pure a) l g := by
  apply wp_catch
  apply wp_mono h
  intro r l g hI
  cases r <;> exact hI

/-- A computation without statements. -/
theorem wp_ofExcept {r : Except Exn α} (h : Q r l g) : 𝒞.wp Q (.ofExcept r) l g := h

/-- Looking a key up: the program goes on with the value. -/
theorem wp_get {x : Json} {key : String} {default : Json} {f : Json → M α}
    (herr : ∀ e, x.get key default = .error e → Q (.error (.fault e)) l g)
    (hok : ∀ y, x.get key default = .ok y → 𝒞.wp Q (f y) l g) :
    𝒞.wp Q (get x key default >>= f) l g := by
  cases h : x.get key default with
  | ok y =>
      have hget : (get x key default : M Json) = .ret (.ok y) := by rw [get, h]; rfl
      rw [hget]
      exact hok y h
  | error e =>
      have hget : (get x key default : M Json) = .ret (.error (.fault e)) := by rw [get, h]; rfl
      rw [hget]
      exact herr e h

section Statements

variable {s : Stmt} {Q : Except Exn s.Res → RunLocal → G → Prop}

/-- A statement that takes effect at once. -/
theorem wp_exec (hl : s.inTx = false ∨ l.txn = .none)
    (hfail : ∀ d e, 𝒞.base d → 𝒞.own d l g →
      𝒞.rules.stmt s (.fail e) d ∨ (∃ v, 𝒞.rules.stmt s (.run v) d ∧ s.eval v d = .error e) →
      ∃ g', 𝒞.Moves [] d d l g l g' ∧ Q (.error e) l g')
    (hok : ∀ d v a d', 𝒞.base d → 𝒞.own d l g → 𝒞.rules.stmt s (.run v) d →
      s.eval v d = .ok (a, d') →
      ∃ g', 𝒞.Moves s.locks d d' l g l g' ∧ Q (.ok a) l g') :
    𝒞.wp Q (exec s) l g := by
  apply Discipline.wp_exec machine_restores hl
  · rintro d e hb ho (hr | ⟨v, hr, hx⟩)
    · exact hfail d e hb ho (.inl hr)
    · exact hfail d e hb ho (.inr ⟨v, hr, Stmt.exec_eq_error.mp hx⟩)
  · exact fun d v a d' hb ho hr hx => hok d v a d' hb ho hr (Stmt.exec_eq_ok.mp hx)

/-- A read whose answer does not matter. -/
theorem wp_skip (hread : s.writes = none) (hl : s.inTx = false ∨ l.txn = .none)
    (hQ : ∀ r, Q r l g) : 𝒞.wp Q (exec s) l g := by
  apply Discipline.wp_skip _ hl hQ
  intro v d
  exact s.exec_read hread v d

/-- A statement of an open transaction changes the log only. -/
theorem wp_logged {log : List (Stmt × Env)} (hin : s.inTx = true) (hl : l.txn = .active log)
    (hfail : ∀ d e, 𝒞.base d → 𝒞.own d l g → 𝒞.discipline.Raises log s d e →
      ∃ g', 𝒞.Moves [] d d l g { l with txn := .aborted log } g' ∧
        Q (.error e) { l with txn := .aborted log } g')
    (hok : ∀ d v view a d', 𝒞.base d → 𝒞.own d l g → machine.replay log d = some view →
      s.eval v view = .ok (a, d') →
      ∃ g', 𝒞.Moves s.locks d d l g { l with txn := .active (log ++ [(s, v)]) } g' ∧
        Q (.ok a) { l with txn := .active (log ++ [(s, v)]) } g') :
    𝒞.wp Q (exec s) l g := by
  apply Discipline.wp_logged hin hl hfail
  intro d v view a hb ho hview ha
  refine hok d v view a (s.exec v view).2 hb ho hview ?_
  rw [← Stmt.exec_eq_ok]
  exact Prod.ext ha rfl

end Statements

/-- A statement of an open transaction, with an assertion that looks at the store only. -/
theorem wp_log {s : Stmt} {Q : Except Exn s.Res → RunLocal → G → Prop}
    {log : List (Stmt × Env)} (hin : s.inTx = true) (hkeys : s.locks = [])
    (hl : l.txn = .active log) (hloc : ∀ d l', 𝒞.own d l g → 𝒞.own d l' g)
    (herr : ∀ e, Q (.error e) { l with txn := .aborted log } g)
    (hok : ∀ v a view d', s.eval v view = .ok (a, d') →
      Q (.ok a) { l with txn := .active (log ++ [(s, v)]) } g) : 𝒞.wp Q (exec s) l g := by
  apply wp_logged hin hl
  · exact fun d e hb ho _ => ⟨g, .stay hb (hloc _ _ ho), herr e⟩
  · intro d v view a d' hb ho _ he
    rw [hkeys]
    exact ⟨g, .stay hb (hloc _ _ ho), hok v a view d' he⟩

theorem wp_inFrame {f : Frame} {p : M α} {g₁ : G}
    (henter : ∀ d, 𝒞.base d → 𝒞.own d l g →
      𝒞.Moves [] d d l g { l with frames := f :: l.frames } g₁)
    (h : 𝒞.wp (fun r l' g' => ∃ g'', (∀ d, 𝒞.base d → 𝒞.own d l' g' →
      𝒞.Moves [] d d l' g' { l' with frames := l'.frames.tail } g'') ∧
      Q r { l' with frames := l'.frames.tail } g'') p { l with frames := f :: l.frames } g₁) :
    𝒞.wp Q (p.inFrame f) l g := Discipline.wp_inFrame henter h

/-- What the body of a transaction must end with: it can roll back, and commit. -/
def TxPost (𝒞 : Contract G T) (Q : Except Exn α → RunLocal → G → Prop) (r : Except Exn α)
    (l : RunLocal) (g : G) : Prop :=
  (∀ d e, (∀ e', r = .error e' → e = e') → 𝒞.discipline.Refuses r l d → 𝒞.base d → 𝒞.own d l g →
    ∃ g', 𝒞.Moves [] d d l g { l with txn := .none } g' ∧ Q (.error e) { l with txn := .none } g') ∧
  ∀ a, r = .ok a → ∀ log, l.txn = .active log → ∀ d d', 𝒞.base d → 𝒞.own d l g →
    machine.replay log d = some d' → 𝒞.rules.allowsLog machine log d →
    ∃ g', 𝒞.Moves [] d d' l g { l with txn := .none } g' ∧ Q (.ok a) { l with txn := .none } g'

/-- The first statement of an allowed log that goes through. -/
theorem allowsLog_cons {s : Stmt} {v : Env} {rest : List (Stmt × Env)} {a : s.Res}
    (h : 𝒞.rules.allowsLog machine ((s, v) :: rest) d) (he : s.eval v d = .ok (a, d')) :
    𝒞.rules.stmt s (.run v) d ∧ 𝒞.rules.allowsLog machine rest d' := by
  have hx : s.exec v d = (.ok a, d') := Stmt.exec_eq_ok.mpr he
  refine ⟨h.1, ?_⟩
  have := h.2
  rwa [show machine.exec s v d = (.ok a, d') from hx] at this

theorem wp_transaction {p : M α} {g₁ : G}
    (hbegin : ∀ d, 𝒞.base d → 𝒞.own d l g → 𝒞.Moves [] d d l g { l with txn := .active [] } g₁)
    (h : 𝒞.wp (𝒞.TxPost Q) p { l with txn := .active [] } g₁) :
    𝒞.wp Q p.transaction l g := Discipline.wp_transaction hbegin h

/-- The rest of a transaction after the statements `pre`. -/
theorem wp_rest {p : M α} {pre : List (Stmt × Env)} {J : α → Store → Store → Prop}
    (hgrows : 𝒞.discipline.Grows g)
    (hout : p.Framed fun s => s.inTx = false → 𝒞.discipline.protocol.Neutral g s)
    (hl : 𝒞.discipline.Open g pre J p l)
    (hcommit : ∀ a d d' l, 𝒞.base d → 𝒞.own d l g → 𝒞.rules.allowsLog machine pre d →
      J a d d' → ∃ g', 𝒞.Moves [] d d' l g { l with txn := .none } g' ∧
        Q (.ok a) { l with txn := .none } g')
    (hback : ∀ e d l, 𝒞.base d → 𝒞.own d l g →
      ∃ g', 𝒞.Moves [] d d l g { l with txn := .none } g' ∧
        Q (.error e) { l with txn := .none } g') :
    𝒞.wp (𝒞.TxPost Q) p l g := Discipline.wp_rest hgrows hout hl hcommit hback

/-- A transaction: it commits a replay in `J`, or it changes nothing. -/
theorem wp_commit {p : M α} {J : α → Store → Store → Prop} {Q : Except Exn α → G → Prop}
    (hfree : ∀ d l l', 𝒞.own d l g → 𝒞.own d l' g)
    (hout : p.Framed fun s => s.inTx = false → 𝒞.discipline.protocol.Neutral g s)
    (hbody : Body machine (𝒞.discipline.Meets g) (fun d d' => d' = d) p J)
    (hcommit : ∀ a d d' l l', 𝒞.base d → 𝒞.own d l g → J a d d' →
      ∃ g', 𝒞.Moves [] d d' l g l' g' ∧ Q (.ok a) g')
    (hback : ∀ e, Q (.error e) g) :
    𝒞.wp (fun r l' g' => l'.txn = .none ∧ Q r g') p.transaction l g :=
  Discipline.wp_commit hfree hout hbody hcommit hback

/-- A statement that owes nothing but what it finds. -/
theorem neutral_of_moves {s : Stmt} (h : ∀ d l v a d', 𝒞.base d → 𝒞.own d l g →
    𝒞.rules.stmt s (.run v) d → s.eval v d = .ok (a, d') → 𝒞.Moves [] d d' l g l g) :
    𝒞.discipline.protocol.Neutral g s := by
  intro d l others v hi hrule
  change 𝒞.discipline.protocol.Keeps d (s.exec v d).2 ((l, g) ::ₘ others)
  rcases s.exec_cases v d with ⟨a, d', he, hx⟩ | ⟨e, -, hx⟩
  · rw [hx]
    have hm := h d l v a d' hi.base (hi.own _ (Multiset.mem_cons_self _ _)) hrule he
    exact hi.moves hm (by simp)
  · rw [hx]
    exact .refl hi

theorem wp_forEach {list : List β} {f : β → M Unit} {I : RunLocal → G → Prop}
    (hf : ∀ b ∈ list, ∀ l g, I l g → 𝒞.wp (fun _ l g => I l g) (f b) l g)
    (h : I l g) : 𝒞.wp (fun _ l g => I l g) (Prog.forEach list f) l g :=
  Protocol.wp_forEach hf h

/-- The contract does not look at the tables `Ts`. -/
structure Ignores (𝒞 : Contract G T) (Ts : List Table) : Prop where
  base : ∀ {d d'}, (∀ T, T ∉ Ts → d'.Same d T) → 𝒞.base d → 𝒞.base d'
  own : ∀ {d d' l g}, (∀ T, T ∉ Ts → d'.Same d T) → 𝒞.own d l g → 𝒞.own d' l g
  shared : ∀ {d d' gs}, (∀ T, T ∉ Ts → d'.Same d T) → 𝒞.shared d gs → 𝒞.shared d' gs
  guar : ∀ {d d'}, (∀ T, T ∉ Ts → d'.Same d T) → 𝒞.guar d d'

/-- The statement writes no table outside `Ts`. -/
def Within (Ts : List Table) (s : Stmt) : Prop := ∀ T, s.writes = some T → T ∈ Ts

variable {Ts : List Table}

theorem Ignores.keeps (h : 𝒞.Ignores Ts) (hs : ∀ T, T ∉ Ts → d'.Same d T)
    {ls : Multiset (RunLocal × G)} (hi : 𝒞.discipline.Inv d ls) :
    𝒞.discipline.protocol.Keeps d d' ls :=
  ⟨⟨h.base hs hi.base, fun x hx => h.own hs (hi.own x hx), hi.apart, h.shared hs hi.shared⟩,
    h.guar hs⟩

theorem Ignores.neutral (h : 𝒞.Ignores Ts) {s : Stmt} (hs : Within Ts s) :
    𝒞.discipline.protocol.Neutral g s := by
  intro d l others v hi _
  refine h.keeps (fun T hT => ?_) hi
  exact Stmt.exec_same (fun hw => hT (hs T hw)) v d

/-- A step that writes ignored tables only. -/
theorem Ignores.moves (h : 𝒞.Ignores Ts) (hs : ∀ T, T ∉ Ts → d'.Same d T) (hb : 𝒞.base d)
    (ho : 𝒞.own d l' g) : 𝒞.Moves ks d d' l g l' g :=
  .intro (h.base hs hb) (h.own hs ho) (fun _ _ h₂ _ => h.own hs h₂) (fun _ ht => .inl ht)
    (fun _ h₂ => h.shared hs h₂) (h.guar hs)

theorem Ignores.subset {Ts' : List Table} (h : 𝒞.Ignores Ts) (hsub : Ts' ⊆ Ts) :
    𝒞.Ignores Ts' where
  base hs := h.base fun T hT => hs T fun hT' => hT (hsub hT')
  own hs := h.own fun T hT => hs T fun hT' => hT (hsub hT')
  shared hs := h.shared fun T hT => hs T fun hT' => hT (hsub hT')
  guar hs := h.guar fun T hT => hs T fun hT' => hT (hsub hT')

/-- Nothing changes when no table does. -/
theorem ignores_nil : 𝒞.Ignores [] where
  base hs hb := Store.ext_same (fun T => hs T (by simp)) ▸ hb
  own hs ho := Store.ext_same (fun T => hs T (by simp)) ▸ ho
  shared hs hg := Store.ext_same (fun T => hs T (by simp)) ▸ hg
  guar hs := Store.ext_same (fun T => hs T (by simp)) ▸ 𝒞.guar_refl _

/-- A program that only reads. -/
theorem wp_reads {p : M α} (hp : p.Plain (Within [])) (hl : l.txn = .none) :
    𝒞.wp (fun _ l' g' => l' = l ∧ g' = g) p l g :=
  Protocol.wp_of_plain (hp.mono fun _ hs => ignores_nil.neutral hs) hl

/-- A program that writes ignored tables only, outside any transaction. -/
theorem wp_plain (h : 𝒞.Ignores Ts) {p : M α} (hp : p.Plain (Within Ts)) (hl : l.txn = .none) :
    𝒞.wp (fun _ l' g' => l' = l ∧ g' = g) p l g :=
  Protocol.wp_of_plain (hp.mono fun _ hs => h.neutral hs) hl

/-- A program of neutral statements. -/
theorem wp_neutral {φ : Stmt → Prop} {p : M α} (hp : p.All φ)
    (hφ : ∀ s, φ s → 𝒞.discipline.protocol.Neutral g s)
    (hloc : ∀ d l l', 𝒞.own d l g → 𝒞.own d l' g) (hl : l.txn = .none) :
    𝒞.wp (fun _ _ _ => True) p l g := by
  have hfree : 𝒞.discipline.protocol.LocalFree g := by
    intro d l l' others hi
    have ho := hi.own (l, g) (Multiset.mem_cons_self _ _)
    have hm : 𝒞.Moves [] d d l g l' g := .stay hi.base (hloc d l l' ho)
    exact (hi.moves hm (by simp)).1
  apply Protocol.wp_mono (Protocol.wp_of_all (hp.mono hφ) hfree ?_)
  · exact fun _ _ _ _ => trivial
  · intro log h
    rw [hl] at h
    cases h

/-- A program that writes ignored tables only, from its start. -/
theorem wp_ignored (h : 𝒞.Ignores Ts) {p : M α} (hp : p.All (Within Ts))
    (hloc : ∀ d l l', 𝒞.own d l g → 𝒞.own d l' g) (hl : l.txn = .none) :
    𝒞.wp (fun _ _ _ => True) p l g := wp_neutral hp (fun _ hs => h.neutral hs) hloc hl

/-- What the start of a process owes: the ghost value that it starts with. -/
structure Starts (𝒞 : Contract G T) (d d' : Store) (g : G) : Prop where
  base : 𝒞.base d'
  own : 𝒞.own d' {} g
  token : 𝒞.token g = none
  stable : ∀ l₂ g₂, 𝒞.own d l₂ g₂ → 𝒞.own d' l₂ g₂
  shared : ∀ gs, 𝒞.shared d gs → 𝒞.shared d' (g ::ₘ gs)
  guar : 𝒞.guar d d'

/-- Every process that may start keeps the contract. -/
def Serves (𝒞 : Contract G T) : Prop :=
  ∀ w d d' p, 𝒞.base d → 𝒞.rules.spawn w d → start w d = some (d', p) →
    ∃ g, 𝒞.Starts d d' g ∧ 𝒞.wp (fun _ _ _ => True) p {} g

/-- Every edit from outside keeps the contract. -/
def Tolerates (𝒞 : Contract G T) : Prop :=
  ∀ d d' ls, 𝒞.discipline.Inv d ls → 𝒞.rules.edit d d' → 𝒞.discipline.protocol.Keeps d d' ls

/-- The contract holds in the state. -/
def Holds (𝒞 : Contract G T) (s : RunState) : Prop :=
  Valid 𝒞.discipline.protocol (fun _ _ _ => True) s

theorem Holds.start (hb : 𝒞.base d) (hs : 𝒞.shared d 0) : 𝒞.Holds (FrixelConnect.idle d) :=
  Valid.start (.empty hb hs)

theorem Starts.keeps {ls : Multiset (RunLocal × G)} (h : 𝒞.Starts d d' g)
    (hi : 𝒞.discipline.Inv d ls) : 𝒞.discipline.protocol.Keeps d d' (({}, g) ::ₘ ls) :=
  hi.enters h.base h.own h.token h.stable (h.shared _) h.guar

/-- The contract holds along every allowed run, which meets the guarantee. -/
theorem Holds.reaches {s s' : RunState} (h : 𝒞.Holds s) (hserves : 𝒞.Serves)
    (hedit : 𝒞.Tolerates) (hr : Reaches system 𝒞.rules s s') :
    𝒞.Holds s' ∧ 𝒞.guar s.store s'.store := by
  refine Valid.reaches rfl h ?_ hedit hr
  intro w d d' p ls hi hspawn hstart
  obtain ⟨g, hstarts, hwp⟩ := hserves w d d' p hi.base hspawn hstart
  exact ⟨g, hstarts.keeps hi, hwp⟩

/-- What the contract says about a state: the store, and a ghost value for each process. -/
theorem Holds.facts {s : RunState} (h : 𝒞.Holds s) :
    ∃ ann : List (Proc Stmt Stmt.Res Frame Exn Env Unit × G), ann.map Prod.fst = s.procs ∧
      𝒞.base s.store ∧ (∀ a ∈ ann, 𝒞.own s.store a.1.loc a.2) ∧
      𝒞.shared s.store (ann.map Prod.snd) := by
  obtain ⟨ann, hann, hi, _⟩ := h
  refine ⟨ann, hann, hi.base, fun a ha => ?_, ?_⟩
  · exact hi.own (a.1.loc, a.2) (Multiset.mem_coe.mpr (List.mem_map_of_mem ha))
  · have hs := hi.shared
    rw [Multiset.map_coe, List.map_map] at hs
    exact hs

theorem Holds.base {s : RunState} (h : 𝒞.Holds s) : 𝒞.base s.store := by
  obtain ⟨_, _, hb, _⟩ := h.facts
  exact hb

end Contract

end FrixelConnect
