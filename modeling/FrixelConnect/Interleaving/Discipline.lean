import FrixelConnect.Interleaving.Protocol
import Mathlib.Data.Multiset.Filter
import Mathlib.Data.Multiset.UnionInter

/-!
# Assertions and tokens

The usual shape of an invariant: a property of the store, an assertion of each
process about the store, tokens that no two processes hold at the same time, and
a property of the store and all ghost values together. A step of one process then
owes a few facts about itself (`Moves`), and the assertions of the others only
have to be stable under it.
-/

namespace Interleaving

variable {S : Type} {R : S → Type} {F E D V K A W G T α β : Type}

/-- The parts of an invariant, with the rules of the runs that keep it. -/
structure Discipline (S : Type) (R : S → Type) (F E D V K W G T : Type) where
  machine : Machine S R E D V K
  rules : Rules S E D V W
  base : D → Prop := fun _ => True
  own : D → Local S F V → G → Prop := fun _ _ _ => True
  token : G → Option T := fun _ => none
  shared : D → Multiset G → Prop := fun _ _ => True
  guar : D → D → Prop := fun _ _ => True
  guar_refl : ∀ d, guar d d := by intros; trivial
  guar_trans : ∀ a b c, guar a b → guar b c → guar a c := by intros; trivial

namespace Discipline

variable (𝒜 : Discipline S R F E D V K W G T)

/-- The two ghost values hold no common token. -/
def Apart (g g' : G) : Prop := ∀ t, 𝒜.token g = some t → 𝒜.token g' ≠ some t

/-- The tokens that the processes hold. -/
def tokens (ls : Multiset (Local S F V × G)) : Multiset T := ls.filterMap fun x => 𝒜.token x.2

variable {𝒜} in
theorem tokens_cons_none {x : Local S F V × G} {ls : Multiset (Local S F V × G)}
    (h : 𝒜.token x.2 = none) : 𝒜.tokens (x ::ₘ ls) = 𝒜.tokens ls :=
  Multiset.filterMap_cons_none (f := fun x : Local S F V × G => 𝒜.token x.2) x ls h

variable {𝒜} in
theorem tokens_cons_some {x : Local S F V × G} {ls : Multiset (Local S F V × G)} {t : T}
    (h : 𝒜.token x.2 = some t) : 𝒜.tokens (x ::ₘ ls) = t ::ₘ 𝒜.tokens ls :=
  Multiset.filterMap_cons_some (f := fun x : Local S F V × G => 𝒜.token x.2) x ls h

structure Inv (d : D) (ls : Multiset (Local S F V × G)) : Prop where
  base : 𝒜.base d
  own : ∀ x ∈ ls, 𝒜.own d x.1 x.2
  apart : (𝒜.tokens ls).Nodup
  shared : 𝒜.shared d (ls.map Prod.snd)

/-- The protocol with this invariant. -/
def protocol : Protocol S R F E D V K W G where
  machine := 𝒜.machine
  rules := 𝒜.rules
  inv := 𝒜.Inv
  guar := 𝒜.guar
  guar_refl := 𝒜.guar_refl
  guar_trans := 𝒜.guar_trans

/-- What a step of one process owes, when the others hold none of the keys `ks`. -/
structure Moves (ks : List K) (d d' : D) (l : Local S F V) (g : G) (l' : Local S F V) (g' : G) :
    Prop where
  base : 𝒜.base d'
  own : 𝒜.own d' l' g'
  stable : ∀ l₂ g₂, 𝒜.own d l₂ g₂ → 𝒜.Apart g g₂ → 𝒜.own d' l₂ g₂
  token : ∀ t, 𝒜.token g' = some t → 𝒜.token g = some t ∨
    ∀ l₂ g₂, 𝒜.own d l₂ g₂ → (∀ k ∈ ks, k ∉ 𝒜.machine.held l₂) → 𝒜.token g₂ ≠ some t
  shared : ∀ gs, 𝒜.shared d (g ::ₘ gs) → 𝒜.shared d' (g' ::ₘ gs)
  guar : 𝒜.guar d d'

variable {𝒜} {l l' : Local S F V} {g g' : G} {d d' : D} {ks : List K}

theorem Moves.weaken (h : 𝒜.Moves [] d d' l g l' g') : 𝒜.Moves ks d d' l g l' g' where
  base := h.base
  own := h.own
  stable := h.stable
  token t ht := (h.token t ht).imp_right fun hf l₂ g₂ ho _ => hf l₂ g₂ ho (by simp)
  shared := h.shared
  guar := h.guar

/-- A step without effect on the store and the ghost value. -/
theorem Moves.stay (hb : 𝒜.base d) (ho : 𝒜.own d l' g) : 𝒜.Moves ks d d l g l' g where
  base := hb
  own := ho
  stable _ _ h _ := h
  token _ h := .inl h
  shared _ h := h
  guar := 𝒜.guar_refl d

/-- A step that only forgets: the store stays, and no token is gained. -/
theorem Moves.forget (hb : 𝒜.base d) (ho : 𝒜.own d l' g')
    (ht : 𝒜.token g' = none ∨ 𝒜.token g' = 𝒜.token g)
    (hs : ∀ gs, 𝒜.shared d (g ::ₘ gs) → 𝒜.shared d (g' ::ₘ gs)) :
    𝒜.Moves ks d d l g l' g' where
  base := hb
  own := ho
  stable _ _ h _ := h
  token t h := by
    rcases ht with ht | ht
    · rw [ht] at h; cases h
    · exact .inl (ht ▸ h)
  shared := hs
  guar := 𝒜.guar_refl d

theorem Inv.moves {others : Multiset (Local S F V × G)} (h : 𝒜.Inv d ((l, g) ::ₘ others))
    (hm : 𝒜.Moves ks d d' l g l' g')
    (hfree : ∀ x ∈ others, ∀ k ∈ ks, k ∉ 𝒜.machine.held x.1) :
    𝒜.protocol.Keeps d d' ((l', g') ::ₘ others) := by
  have hown : ∀ x ∈ others, 𝒜.own d x.1 x.2 := fun x hx => h.own x (Multiset.mem_cons_of_mem hx)
  have hrest : (𝒜.tokens others).Nodup := by
    have hall := h.apart
    cases ht : 𝒜.token g with
    | none => rwa [tokens_cons_none ht] at hall
    | some t =>
        rw [tokens_cons_some ht, Multiset.nodup_cons] at hall
        exact hall.2
  have happart : ∀ x ∈ others, 𝒜.Apart g x.2 := by
    intro x hx t ht hx'
    have hall := h.apart
    rw [tokens_cons_some ht, Multiset.nodup_cons] at hall
    exact hall.1 ((Multiset.mem_filterMap _ _).mpr ⟨x, hx, hx'⟩)
  refine ⟨⟨hm.base, ?_, ?_, ?_⟩, hm.guar⟩
  · intro x hx
    rcases Multiset.mem_cons.mp hx with rfl | hx
    · exact hm.own
    · exact hm.stable _ _ (hown x hx) (happart x hx)
  · cases ht : 𝒜.token g' with
    | none =>
        rw [tokens_cons_none ht]
        exact hrest
    | some t =>
        rw [tokens_cons_some ht, Multiset.nodup_cons]
        refine ⟨fun hmem => ?_, hrest⟩
        obtain ⟨x, hx, hxt⟩ := (Multiset.mem_filterMap _ _).mp hmem
        rcases hm.token t ht with hg | hg
        · exact happart x hx t hg hxt
        · exact hg _ _ (hown x hx) (hfree x hx) hxt
  · have := h.shared
    rw [Multiset.map_cons] at this ⊢
    exact hm.shared _ this

theorem Inv.empty (hb : 𝒜.base d) (hs : 𝒜.shared d 0) : 𝒜.Inv d 0 where
  base := hb
  own x hx := absurd hx (Multiset.notMem_zero x)
  apart := by simp [tokens]
  shared := hs

/-- A process that starts without a token. -/
theorem Inv.enters {ls : Multiset (Local S F V × G)} (h : 𝒜.Inv d ls) (hb : 𝒜.base d')
    (ho : 𝒜.own d' l g) (ht : 𝒜.token g = none)
    (hstable : ∀ l₂ g₂, 𝒜.own d l₂ g₂ → 𝒜.own d' l₂ g₂)
    (hs : 𝒜.shared d (ls.map Prod.snd) → 𝒜.shared d' (g ::ₘ ls.map Prod.snd))
    (hg : 𝒜.guar d d') : 𝒜.protocol.Keeps d d' ((l, g) ::ₘ ls) := by
  refine ⟨⟨hb, ?_, ?_, ?_⟩, hg⟩
  · intro x hx
    rcases Multiset.mem_cons.mp hx with rfl | hx
    · exact ho
    · exact hstable _ _ (h.own x hx)
  · rw [tokens_cons_none ht]
    exact h.apart
  · rw [Multiset.map_cons]
    exact hs h.shared

theorem Inv.joins {ls : Multiset (Local S F V × G)} (h : 𝒜.Inv d ls) (ho : 𝒜.own d l g)
    (ht : 𝒜.token g = none)
    (hs : 𝒜.shared d (ls.map Prod.snd) → 𝒜.shared d (g ::ₘ ls.map Prod.snd)) :
    𝒜.protocol.Keeps d d ((l, g) ::ₘ ls) :=
  h.enters h.base ho ht (fun _ _ ho => ho) hs (𝒜.guar_refl d)

section Rules

variable {Q : Except E α → Local S F V → G → Prop}

/-- A statement that takes effect at once. -/
theorem wp_atomic {s : S} {Q : Except E (R s) → Local S F V → G → Prop}
    (hl : 𝒜.machine.inTx s = false ∨ l.txn = .none)
    (hfail : ∀ d e, 𝒜.base d → 𝒜.own d l g → 𝒜.rules.stmt s (.fail e) d →
      ∃ g', 𝒜.Moves [] d d l g l g' ∧ Q (.error e) l g')
    (hrun : ∀ d v, 𝒜.base d → 𝒜.own d l g → 𝒜.rules.stmt s (.run v) d →
      ∃ g', 𝒜.Moves (𝒜.machine.locks s) d (𝒜.machine.exec s v d).2 l g l g' ∧
        Q (𝒜.machine.exec s v d).1 l g') :
    𝒜.protocol.wp Q (Prog.exec s) l g := by
  apply Protocol.wp_exec hl
  · intro d others e hi hr
    obtain ⟨g', hm, hQ⟩ := hfail d e hi.base (hi.own _ (Multiset.mem_cons_self _ _)) hr
    exact ⟨g', (hi.moves hm (by simp)).1, hQ⟩
  · intro d others v hi hfree hr
    obtain ⟨g', hm, hQ⟩ := hrun d v hi.base (hi.own _ (Multiset.mem_cons_self _ _)) hr
    exact ⟨g', hi.moves hm hfree, hQ⟩

/-- A statement that takes effect at once: it fails, raises, or answers. -/
theorem wp_exec {s : S} {Q : Except E (R s) → Local S F V → G → Prop}
    (hrestores : 𝒜.machine.Restores) (hl : 𝒜.machine.inTx s = false ∨ l.txn = .none)
    (hfail : ∀ d e, 𝒜.base d → 𝒜.own d l g →
      𝒜.rules.stmt s (.fail e) d ∨
        (∃ v, 𝒜.rules.stmt s (.run v) d ∧ 𝒜.machine.exec s v d = (.error e, d)) →
      ∃ g', 𝒜.Moves [] d d l g l g' ∧ Q (.error e) l g')
    (hok : ∀ d v a d', 𝒜.base d → 𝒜.own d l g → 𝒜.rules.stmt s (.run v) d →
      𝒜.machine.exec s v d = (.ok a, d') →
      ∃ g', 𝒜.Moves (𝒜.machine.locks s) d d' l g l g' ∧ Q (.ok a) l g') :
    𝒜.protocol.wp Q (Prog.exec s) l g := by
  apply wp_atomic hl
  · exact fun d e hb ho hr => hfail d e hb ho (.inl hr)
  · intro d v hb ho hr
    rcases hrestores s v d with ⟨a, d', hx⟩ | ⟨e, hx⟩
    · rw [hx]
      exact hok d v a d' hb ho hr hx
    · rw [hx]
      obtain ⟨g', hm, hQ⟩ := hfail d e hb ho (.inr ⟨v, hr, hx⟩)
      exact ⟨g', hm.weaken, hQ⟩

/-- A statement that leaves the store alone and whose answer does not matter. -/
theorem wp_skip {s : S} {Q : Except E (R s) → Local S F V → G → Prop}
    (hread : ∀ v d, (𝒜.machine.exec s v d).2 = d)
    (hl : 𝒜.machine.inTx s = false ∨ l.txn = .none) (hQ : ∀ r, Q r l g) :
    𝒜.protocol.wp Q (Prog.exec s) l g := by
  apply wp_atomic hl
  · exact fun d e hb ho _ => ⟨g, .stay hb ho, hQ _⟩
  · intro d v hb ho _
    rw [hread]
    exact ⟨g, .stay hb ho, hQ _⟩

/-- Why a statement of an open transaction raises. -/
def Raises (𝒜 : Discipline S R F E D V K W G T) (log : List (S × V)) (s : S) (d : D) (e : E) :
    Prop :=
  ∃ c, 𝒜.rules.inner s c d = true ∧ ∀ v view, c = .run v → 𝒜.machine.replay log d = some view →
    (𝒜.machine.exec s v view).1 = .error e

/-- A statement of an open transaction changes the log only. -/
theorem wp_logged {s : S} {Q : Except E (R s) → Local S F V → G → Prop} {log : List (S × V)}
    (hin : 𝒜.machine.inTx s = true) (hl : l.txn = .active log)
    (hfail : ∀ d e, 𝒜.base d → 𝒜.own d l g → 𝒜.Raises log s d e →
      ∃ g', 𝒜.Moves [] d d l g { l with txn := .aborted log } g' ∧
        Q (.error e) { l with txn := .aborted log } g')
    (hrun : ∀ d v view a, 𝒜.base d → 𝒜.own d l g → 𝒜.machine.replay log d = some view →
      (𝒜.machine.exec s v view).1 = .ok a →
      ∃ g', 𝒜.Moves (𝒜.machine.locks s) d d l g { l with txn := .active (log ++ [(s, v)]) } g' ∧
        Q (.ok a) { l with txn := .active (log ++ [(s, v)]) } g') :
    𝒜.protocol.wp Q (Prog.exec s) l g := by
  intro d others c hi hfree hallow
  have hb := hi.base
  have ho := hi.own _ (Multiset.mem_cons_self _ _)
  have hinner : 𝒜.rules.inner s c d = true := by
    change 𝒜.rules.allowsStmt 𝒜.machine s c d l at hallow
    simpa [Rules.allowsStmt, hin, hl] using hallow
  change ∃ g', 𝒜.protocol.Keeps d (𝒜.machine.stmtStep s c d l).2.1
      (((𝒜.machine.stmtStep s c d l).2.2, g') ::ₘ others) ∧
    Q (𝒜.machine.stmtStep s c d l).1 (𝒜.machine.stmtStep s c d l).2.2 g'
  rcases 𝒜.machine.stmtStep_active (c := c) (d := d) hin hl with
    ⟨e, hs, herr⟩ | ⟨v, view, a, rfl, hview, ha, hs⟩
  · obtain ⟨g', hm, hQ⟩ := hfail d e hb ho ⟨c, hinner, herr⟩
    rw [hs]
    exact ⟨g', hi.moves hm (by simp), hQ⟩
  · obtain ⟨g', hm, hQ⟩ := hrun d v view a hb ho hview ha
    rw [hs]
    exact ⟨g', hi.moves hm hfree, hQ⟩

/-- A frame around a program. -/
theorem wp_inFrame {f : F} {p : Prog S R F E α} {g₁ : G}
    (henter : ∀ d, 𝒜.base d → 𝒜.own d l g →
      𝒜.Moves [] d d l g { l with frames := f :: l.frames } g₁)
    (h : 𝒜.protocol.wp (fun r l' g' => ∃ g'', (∀ d, 𝒜.base d → 𝒜.own d l' g' →
      𝒜.Moves [] d d l' g' { l' with frames := l'.frames.tail } g'') ∧
      Q r { l' with frames := l'.frames.tail } g'') p { l with frames := f :: l.frames } g₁) :
    𝒜.protocol.wp Q (p.inFrame f) l g := by
  intro d others c hi _
  refine ⟨g₁, hi.moves (henter d hi.base (hi.own _ (Multiset.mem_cons_self _ _))) (by simp), ?_⟩
  simp only [Machine.ctlStep]
  rw [Protocol.wp_handle]
  apply Protocol.wp_mono h
  rintro r l' g' ⟨g'', hm, hQ⟩ d others c hi _
  exact ⟨g'', hi.moves (hm d hi.base (hi.own _ (Multiset.mem_cons_self _ _))) (by simp), hQ⟩

/-- Why the transaction of a body that has ended with a value does not commit. -/
def Refuses (𝒜 : Discipline S R F E D V K W G T) (r : Except E α) (l : Local S F V) (d : D) :
    Prop :=
  ∀ a log, r = .ok a → l.txn = .active log → 𝒜.rules.lossy = true ∨
    𝒜.rules.allowsLog 𝒜.machine log d ∧ 𝒜.machine.replay log d = none

/-- What the body of a transaction must end with. -/
def TxPost (Q : Except E α → Local S F V → G → Prop) (r : Except E α) (l : Local S F V) (g : G) :
    Prop :=
  (∀ d e, (∀ e', r = .error e' → e = e') → 𝒜.Refuses r l d → 𝒜.base d → 𝒜.own d l g →
    ∃ g', 𝒜.Moves [] d d l g { l with txn := .none } g' ∧ Q (.error e) { l with txn := .none } g') ∧
  ∀ a, r = .ok a → ∀ log, l.txn = .active log → ∀ d d', 𝒜.base d → 𝒜.own d l g →
    𝒜.machine.replay log d = some d' → 𝒜.rules.allowsLog 𝒜.machine log d →
    ∃ g', 𝒜.Moves [] d d' l g { l with txn := .none } g' ∧ Q (.ok a) { l with txn := .none } g'

/-- The transaction after the answer to its commit. -/
def committed (a : α) : Except E Unit → Prog S R F E α
  | .ok _ => .ret (.ok a)
  | .error e => .ret (.error e)

theorem wp_transaction {p : Prog S R F E α} {g₁ : G}
    (hbegin : ∀ d, 𝒜.base d → 𝒜.own d l g → 𝒜.Moves [] d d l g { l with txn := .active [] } g₁)
    (h : 𝒜.protocol.wp (TxPost (𝒜 := 𝒜) Q) p { l with txn := .active [] } g₁) :
    𝒜.protocol.wp Q p.transaction l g := by
  intro d others c hi _
  refine ⟨g₁, hi.moves (hbegin d hi.base (hi.own _ (Multiset.mem_cons_self _ _))) (by simp), ?_⟩
  simp only [Machine.ctlStep]
  rw [Protocol.wp_handle]
  apply Protocol.wp_mono h
  rintro r l' g' ⟨hbad, hok⟩
  cases r with
  | error e =>
      intro d others c hi _
      obtain ⟨g'', hm, hQ⟩ := hbad d e (fun _ h => by cases h; rfl) (fun _ _ h => by cases h)
        hi.base (hi.own _ (Multiset.mem_cons_self _ _))
      exact ⟨g'', hi.moves hm (by simp), hQ⟩
  | ok a =>
      intro d others c hi ha
      have hb := hi.base
      have ho := hi.own _ (Multiset.mem_cons_self _ _)
      change ∃ g'', 𝒜.protocol.Keeps d (𝒜.machine.ctlStep (F := F) .commit c d l').2.1
          (((𝒜.machine.ctlStep (F := F) .commit c d l').2.2, g'') ::ₘ others) ∧
        𝒜.protocol.wp Q (committed a (𝒜.machine.ctlStep (F := F) .commit c d l').1)
          (𝒜.machine.ctlStep (F := F) .commit c d l').2.2 g''
      change 𝒜.rules.allowsCtl (F := F) 𝒜.machine .commit c d l' at ha
      rcases 𝒜.machine.ctlStep_commit c d l' with ⟨e, hs, hnone⟩ | ⟨log, v, d', ht, rfl, hr, hs⟩
      · have hrefuses : 𝒜.Refuses (.ok a) l' d := by
          intro a' log _ ht
          cases c with
          | fail e => exact .inl (by simpa only [Rules.allowsCtl, ht] using ha)
          | run v => exact .inr ⟨by simpa only [Rules.allowsCtl, ht] using ha, hnone log v ht rfl⟩
        obtain ⟨g'', hm, hQ⟩ := hbad d e (fun _ h => by cases h) hrefuses hb ho
        rw [hs]
        exact ⟨g'', hi.moves hm (by simp), hQ⟩
      · have hlog : 𝒜.rules.allowsLog 𝒜.machine log d := by
          simpa only [Rules.allowsCtl, ht] using ha
        obtain ⟨g'', hm, hQ⟩ := hok a rfl log ht d d' hb ho hr hlog
        rw [hs]
        exact ⟨g'', hi.moves hm (by simp), hQ⟩

end Rules

section Outside

variable (𝒜) in
/-- Every run of the program, which opens no frame and no transaction, keeps the discipline and
ends with `Q`. -/
def Does (Q : Except E α → G → Prop) (p : Prog S R F E α) (g : G) : Prop :=
  𝒜.protocol.wp (fun r l g => l = {} ∧ Q r g) p {} g

variable {Q : Except E α → G → Prop}

theorem does_ret {r : Except E α} (h : Q r g) : 𝒜.Does Q (.ret r) g := ⟨rfl, h⟩

theorem Does.mono {Q' : Except E α → G → Prop} {p : Prog S R F E α} (h : 𝒜.Does Q p g)
    (hQ : ∀ r g, Q r g → Q' r g) : 𝒜.Does Q' p g :=
  Protocol.wp_mono h fun r _ g hr => ⟨hr.1, hQ r g hr.2⟩

theorem Does.bind {B : Except E α → G → Prop} {Q : Except E β → G → Prop} {p : Prog S R F E α}
    {f : α → Prog S R F E β} (h : 𝒜.Does B p g) (herr : ∀ e g, B (.error e) g → Q (.error e) g)
    (hok : ∀ a g, B (.ok a) g → 𝒜.Does Q (f a) g) : 𝒜.Does Q (p >>= f) g := by
  refine Protocol.wp_then h (fun e l g hB => ⟨hB.1, herr e g hB.2⟩) fun a l g hB => ?_
  obtain ⟨rfl, hB⟩ := hB
  exact hok a g hB

theorem Does.tryCatch {B : Except E α → G → Prop} {p : Prog S R F E α}
    {h : E → Prog S R F E α} (hp : 𝒜.Does B p g) (hok : ∀ a g, B (.ok a) g → Q (.ok a) g)
    (herr : ∀ e g, B (.error e) g → 𝒜.Does Q (h e) g) : 𝒜.Does Q (p.tryCatch h) g := by
  refine Protocol.wp_tryCatch.mpr (Protocol.wp_mono hp fun r l g hr => ?_)
  obtain ⟨rfl, hB⟩ := hr
  cases r with
  | ok a => exact ⟨rfl, hok a g hB⟩
  | error e => exact herr e g hB

/-- A statement: it fails or raises, or it answers. -/
theorem does_exec {s : S} {Q : Except E (R s) → G → Prop} (hrestores : 𝒜.machine.Restores)
    (hfail : ∀ d e, 𝒜.base d → 𝒜.own d {} g →
      ∃ g', 𝒜.Moves [] d d ({} : Local S F V) g {} g' ∧ Q (.error e) g')
    (hok : ∀ d v a d', 𝒜.base d → 𝒜.own d {} g → 𝒜.rules.stmt s (.run v) d →
      𝒜.machine.exec s v d = (.ok a, d') →
      ∃ g', 𝒜.Moves (𝒜.machine.locks s) d d' ({} : Local S F V) g {} g' ∧ Q (.ok a) g') :
    𝒜.Does Q (Prog.exec s) g := by
  refine wp_exec hrestores (.inr rfl) (fun d e hb ho _ => ?_) fun d v a d' hb ho hr hx => ?_
  · obtain ⟨g', hm, hQ⟩ := hfail d e hb ho
    exact ⟨g', hm, rfl, hQ⟩
  · obtain ⟨g', hm, hQ⟩ := hok d v a d' hb ho hr hx
    exact ⟨g', hm, rfl, hQ⟩

end Outside

/-- Two processes whose results say that they hold the same token are one process. -/
theorem ended_once {Q : Except E A → Local S F V → G → Prop} {s : State S R F E D V A}
    (h : Valid 𝒜.protocol Q s) {t : T} {i j : ℕ}
    (hi : ∃ p r, s.procs[i]? = some p ∧ p.prog = .ret r ∧ ∀ l g, Q r l g → 𝒜.token g = some t)
    (hj : ∃ p r, s.procs[j]? = some p ∧ p.prog = .ret r ∧ ∀ l g, Q r l g → 𝒜.token g = some t) :
    i = j := by
  obtain ⟨ann, hann, hinv, hwp⟩ := h
  have hapart : ann.Pairwise fun a b => 𝒜.Apart a.2 b.2 := by
    have hnodup := hinv.apart
    rw [tokens, Multiset.filterMap_coe, Multiset.coe_nodup, List.Nodup,
      List.pairwise_filterMap, List.pairwise_map] at hnodup
    exact hnodup.imp fun h t ht ht' => h t ht t ht' rfl
  have htoken (k : ℕ) (hk : ∃ p r, s.procs[k]? = some p ∧ p.prog = .ret r ∧
      ∀ l g, Q r l g → 𝒜.token g = some t) :
      ∃ a, ann[k]? = some a ∧ 𝒜.token a.2 = some t := by
    obtain ⟨p, r, hp, hprog, hQ⟩ := hk
    rw [← hann, List.getElem?_map] at hp
    obtain ⟨a, ha, rfl⟩ := Option.map_eq_some_iff.mp hp
    have hw := hwp a (List.mem_of_getElem? ha)
    rw [hprog] at hw
    exact ⟨a, ha, hQ _ _ hw⟩
  obtain ⟨a, ha, hta⟩ := htoken i hi
  obtain ⟨b, hb, htb⟩ := htoken j hj
  obtain ⟨hilt, rfl⟩ := List.getElem?_eq_some_iff.mp ha
  obtain ⟨hjlt, rfl⟩ := List.getElem?_eq_some_iff.mp hb
  have hpair := List.pairwise_iff_getElem.mp hapart
  rcases Nat.lt_trichotomy i j with hlt | heq | hlt
  · exact absurd htb (hpair i j hilt hjlt hlt _ hta)
  · exact heq
  · exact absurd hta (hpair j i hjlt hilt hlt _ htb)

end Discipline

end Interleaving
