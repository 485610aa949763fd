import FrixelConnect.Interleaving.Discipline

/-!
# What a transaction commits

The statements of an open transaction are answered from the stores of the moments
they run at, and take effect together on the store of the commit. `Body I p J`
speaks about both: `I` relates any store that the transaction may be replayed on
to the store after the statements so far, and `J` does so when `p` has ended with a
value. It is a logic of triples; `wp_commit` uses such a triple for a transaction
in a discipline.
-/

namespace Interleaving

variable {S : Type} {R : S → Type} {F E D V K W G T α β : Type}

section Body

variable (M : Machine S R E D V K) (P : D → Prop)

/-- The stores before and after any replay of the log are related by `I`. -/
def Replays (log : List (S × V)) (I : D → D → Prop) : Prop :=
  ∀ d d', P d → M.replay log d = some d' → I d d'

/-- Every way to end the program with a value gives a log whose replays are in `J`. -/
def Ends (J : α → D → D → Prop) : Prog S R F E α → List (S × V) → Prop
  | .ret (.ok a), log => Replays M P log (J a)
  | .ret (.error _), _ => True
  | .ctl (.enter _) k, log => Ends J (k (.ok ())) log
  | .ctl .leave k, log => Ends J (k (.ok ())) log
  | .ctl _ _, _ => False
  | .stmt s k, log =>
      (M.inTx s = true → ∀ d v view a, P d → M.replay log d = some view →
        (M.exec s v view).1 = .ok a → Ends J (k (.ok a)) (log ++ [(s, v)])) ∧
      (M.inTx s = false → ∀ r, Ends J (k r) log)

/-- From any log with replays in `I`, the program ends with replays in `J`. -/
def Body (I : D → D → Prop) (p : Prog S R F E α) (J : α → D → D → Prop) : Prop :=
  ∀ log, Replays M P log I → Ends M P J p log

variable {M P} {I : D → D → Prop} {J : α → D → D → Prop}

theorem Replays.mono {log : List (S × V)} {I' : D → D → Prop} (h : Replays M P log I)
    (hI : ∀ d d', P d → I d d' → I' d d') : Replays M P log I' :=
  fun d d' hd hr => hI d d' hd (h d d' hd hr)

theorem Ends.bind {p : Prog S R F E α} {f : α → Prog S R F E β} {J' : β → D → D → Prop}
    {log : List (S × V)} (hp : Ends M P J p log) (hf : ∀ a, Body M P (J a) (f a) J') :
    Ends M P J' (p.bind f) log := by
  induction p generalizing log with
  | ret r =>
      cases r with
      | ok a => exact hf a log hp
      | error e => trivial
  | ctl c k ih =>
      cases c with
      | enter f => exact ih _ hp
      | leave => exact ih _ hp
      | beginTx => exact hp.elim
      | commit => exact hp.elim
      | rollback => exact hp.elim
  | stmt s k ih =>
      refine ⟨fun hs d v view a hd hview ha => ?_, fun hs r => ?_⟩
      · exact ih _ (hp.1 hs d v view a hd hview ha)
      · exact ih _ (hp.2 hs r)

/-- The rule of sequencing. -/
theorem Body.bind {p : Prog S R F E α} {f : α → Prog S R F E β} {J' : β → D → D → Prop}
    (hp : Body M P I p J) (hf : ∀ a, Body M P (J a) (f a) J') : Body M P I (p >>= f) J' :=
  fun log hlog => (hp log hlog).bind hf

theorem Body.pure {a : α} (h : ∀ d d', P d → I d d' → J a d d') :
    Body (F := F) M P I (.ret (.ok a)) J := fun _ hlog => hlog.mono h

theorem Body.throw {e : E} : Body (F := F) M P I (.ret (.error e)) J := fun _ _ => trivial

theorem Body.ofExcept {r : Except E α} (h : ∀ a, r = .ok a → ∀ d d', P d → I d d' → J a d d') :
    Body (F := F) M P I (.ofExcept r) J := by
  cases r with
  | ok a => exact .pure (h a rfl)
  | error e => exact .throw

/-- A statement of the transaction: its answer comes from one store that the log may be
replayed on, its effect is on another. -/
theorem Body.exec {s : S} {J : R s → D → D → Prop} (hs : M.inTx s = true)
    (h : ∀ v a d₁ view, P d₁ → I d₁ view → (M.exec s v view).1 = .ok a →
      ∀ d d' a' d'', P d → I d d' → M.exec s v d' = (.ok a', d'') → J a d d'') :
    Body (F := F) M P I (.exec s) J := by
  intro log hlog
  refine ⟨fun _ d₁ v view a hd₁ hview ha d d'' hd hr => ?_, fun hs' => by rw [hs] at hs'; cases hs'⟩
  obtain ⟨d', a', hr', he⟩ := M.replay_concat.mp hr
  exact h v a d₁ view hd₁ (hlog _ _ hd₁ hview) ha d d' a' d'' hd (hlog _ _ hd hr') he

/-- A statement that changes nothing in the stores. -/
theorem Body.read {s : S} {J : R s → D → D → Prop} (hs : M.inTx s = true)
    (hread : ∀ v d, (M.exec s v d).2 = d)
    (h : ∀ v a d₁ view, P d₁ → I d₁ view → (M.exec s v view).1 = .ok a →
      ∀ d d', P d → I d d' → J a d d') : Body (F := F) M P I (.exec s) J := by
  refine .exec hs fun v a d₁ view hd₁ hview ha d d' a' d'' hd hI he => ?_
  obtain rfl : d'' = d' := by
    have hd' := hread v d'
    rwa [he] at hd'
  exact h v a d₁ view hd₁ hview ha d d'' hd hI

/-- A statement that does not belong to the transaction. -/
theorem Body.external {s : S} {J : R s → D → D → Prop} (hs : M.inTx s = false)
    (h : ∀ a d d', P d → I d d' → J a d d') : Body (F := F) M P I (.exec s) J := by
  intro log hlog
  refine ⟨fun hs' => (by rw [hs] at hs'; cases hs'), fun _ r => ?_⟩
  cases r with
  | ok a => exact hlog.mono (h a)
  | error e => trivial

/-- A statement that does not belong to the transaction, with its exceptions swallowed. -/
theorem Body.external_swallow {s : S} {a : R s} {J : R s → D → D → Prop} (hs : M.inTx s = false)
    (h : ∀ a d d', P d → I d d' → J a d d') :
    Body (F := F) M P I ((Prog.exec s).tryCatch fun _ => .ret (.ok a)) J := by
  intro log hlog
  refine ⟨fun hs' => (by rw [hs] at hs'; cases hs'), fun _ r => ?_⟩
  cases r with
  | ok a => exact hlog.mono (h a)
  | error e => exact hlog.mono (h a)

theorem Body.inFrame {p : Prog S R F E α} (f : F) (hp : Body M P I p J) :
    Body M P I (p.inFrame f) J := by
  have hleave (q : Prog S R F E α) (log : List (S × V)) (hq : Ends M P J q log) :
      Ends M P J (q.handle fun r => .ctl .leave fun _ => .ret r) log := by
    induction q generalizing log with
    | ret r => exact hq
    | ctl c k ih =>
        cases c with
        | enter f => exact ih _ _ hq
        | leave => exact ih _ _ hq
        | beginTx => exact hq.elim
        | commit => exact hq.elim
        | rollback => exact hq.elim
    | stmt s k ih =>
        exact ⟨fun hs d v view a hd hview ha => ih _ _ (hq.1 hs d v view a hd hview ha),
          fun hs r => ih _ _ (hq.2 hs r)⟩
  exact fun log hlog => hleave p log (hp log hlog)

/-- The rule of consequence. -/
theorem Body.conseq {p : Prog S R F E α} {I' : D → D → Prop} {J' : α → D → D → Prop}
    (hp : Body M P I p J) (hI : ∀ d d', P d → I' d d' → I d d')
    (hJ : ∀ a d d', P d → J a d d' → J' a d d') : Body M P I' p J' := by
  have hends (q : Prog S R F E α) (log : List (S × V)) (hq : Ends M P J q log) :
      Ends M P J' q log := by
    induction q generalizing log with
    | ret r =>
        cases r with
        | ok a => exact hq.mono (hJ a)
        | error e => trivial
    | ctl c k ih =>
        cases c with
        | enter f => exact ih _ _ hq
        | leave => exact ih _ _ hq
        | beginTx => exact hq.elim
        | commit => exact hq.elim
        | rollback => exact hq.elim
    | stmt s k ih =>
        exact ⟨fun hs d v view a hd hview ha => ih _ _ (hq.1 hs d v view a hd hview ha),
          fun hs r => ih _ _ (hq.2 hs r)⟩
  exact fun log hlog => hends p log (hp log (hlog.mono hI))

/-- A relation that every statement keeps. -/
theorem Body.of_framed {p : Prog S R F E α} {φ : S → Prop} (hp : p.Framed φ)
    (h : ∀ s, φ s → M.inTx s = true → ∀ v d d' a d'', P d → I d d' →
      M.exec s v d' = (.ok a, d'') → I d d'') : Body M P I p fun _ => I := by
  induction p with
  | ret r =>
      cases r with
      | ok a => exact .pure fun _ _ _ hI => hI
      | error e => exact .throw
  | ctl c k ih =>
      cases c with
      | enter f => exact ih _ (hp _)
      | leave => exact ih _ (hp _)
      | beginTx => exact hp.elim
      | commit => exact hp.elim
      | rollback => exact hp.elim
  | stmt s k ih =>
      refine fun log hlog => ⟨fun hs d₁ v view a hd₁ hview ha => ih _ (hp.2 _) _ ?_,
        fun _ r => ih _ (hp.2 _) log hlog⟩
      intro d d'' hd hr
      obtain ⟨d', a', hr', he⟩ := M.replay_concat.mp hr
      exact h s hp.1 hs v d d' a' d'' hd (hlog d d' hd hr') he

end Body

namespace Discipline

variable {𝒜 : Discipline S R F E D V K W G T} {g : G}

/-- The stores that a process with ghost value `g` may meet. -/
def Meets (𝒜 : Discipline S R F E D V K W G T) (g : G) (d : D) : Prop :=
  𝒜.base d ∧ ∃ l, 𝒜.own d l g

/-- The state of the transaction of a process that still has to run `p`, after the statements
`pre`. -/
def Open (𝒜 : Discipline S R F E D V K W G T) (g : G) (pre : List (S × V)) (J : α → D → D → Prop)
    (p : Prog S R F E α) (l : Local S F V) : Prop :=
  (∃ rest, l.txn = .active (pre ++ rest) ∧
    Ends 𝒜.machine (𝒜.Meets g) J p (pre ++ rest)) ∨ ∃ log, l.txn = .aborted log

variable {pre : List (S × V)} {l : Local S F V} {p : Prog S R F E α} {J : α → D → D → Prop}

/-- The assertion of the process survives every step inside the transaction: it depends on
the control state through the keys that are held. -/
def Grows (𝒜 : Discipline S R F E D V K W G T) (g : G) : Prop :=
  ∀ d l l', 𝒜.own d l g → (∀ k ∈ 𝒜.machine.held l, k ∈ 𝒜.machine.held l') → 𝒜.own d l' g

/-- A program inside a transaction: the transaction stays open or is aborted, and the
statements outside of it leave the ghost value alone. -/
theorem wp_body (hgrows : 𝒜.Grows g)
    (hout : p.Framed fun s => 𝒜.machine.inTx s = false → 𝒜.protocol.Neutral g s)
    (hl : 𝒜.Open g pre J p l) :
    𝒜.protocol.wp (fun r l' g' => g' = g ∧ 𝒜.Open g pre J (.ret r) l') p l g := by
  induction p generalizing l with
  | ret r => exact ⟨rfl, hl⟩
  | ctl c k ih =>
      intro d others c' hi _
      have hown := hi.own (l, g) (Multiset.mem_cons_self _ _)
      have hstay (l' : Local S F V) (hl' : l'.txn = l.txn) :
          𝒜.protocol.Keeps d d ((l', g) ::ₘ others) := by
        have ho := hgrows d l l' hown fun k hk => by simpa [Machine.held, hl'] using hk
        have hm : 𝒜.Moves [] d d l g l' g := .stay hi.base ho
        exact hi.moves hm (by simp)
      cases c with
      | enter f =>
          refine ⟨g, hstay _ rfl, ih _ (hout _) ?_⟩
          exact hl.imp (fun h => h) (fun h => h)
      | leave =>
          refine ⟨g, hstay _ rfl, ih _ (hout _) ?_⟩
          exact hl.imp (fun h => h) (fun h => h)
      | beginTx => exact hout.elim
      | commit => exact hout.elim
      | rollback => exact hout.elim
  | stmt s k ih =>
      intro d others c hi _ ha
      have hown := hi.own (l, g) (Multiset.mem_cons_self _ _)
      have hstay (l' : Local S F V) (hl' : ∀ k ∈ 𝒜.machine.held l, k ∈ 𝒜.machine.held l') :
          𝒜.protocol.Keeps d d ((l', g) ::ₘ others) := by
        have hm : 𝒜.Moves [] d d l g l' g := .stay hi.base (hgrows d l l' hown hl')
        exact hi.moves hm (by simp)
      change ∃ g', 𝒜.protocol.Keeps d (𝒜.machine.stmtStep s c d l).2.1
          (((𝒜.machine.stmtStep s c d l).2.2, g') ::ₘ others) ∧ 𝒜.protocol.wp _
        (k (𝒜.machine.stmtStep s c d l).1) (𝒜.machine.stmtStep s c d l).2.2 g'
      cases hs : 𝒜.machine.inTx s with
      | false =>
          have hstep : 𝒜.machine.stmtStep s c d l =
              ((𝒜.machine.direct s c d).1, (𝒜.machine.direct s c d).2, l) := by
            simp [Machine.stmtStep, hs]
          have hrule : 𝒜.rules.stmt s c d := by
            change 𝒜.rules.allowsStmt 𝒜.machine s c d l at ha
            simpa [Rules.allowsStmt, hs] using ha
          rw [hstep]
          refine ⟨g, ?_, ih _ (hout.2 _) ?_⟩
          · cases c with
            | fail e => exact hstay l fun _ hk => hk
            | run v => exact hout.1 hs d l others v hi hrule
          · refine hl.imp_left ?_
            rintro ⟨rest, htxn, hends⟩
            exact ⟨rest, htxn, hends.2 hs _⟩
      | true =>
          rcases hl with ⟨rest, htxn, hends⟩ | ⟨log, htxn⟩
          · rcases 𝒜.machine.stmtStep_active (c := c) (d := d) hs htxn with
              ⟨e, hstep, -⟩ | ⟨v, view, a, rfl, hview, hok, hstep⟩
            · rw [hstep]
              refine ⟨g, hstay _ fun k hk => ?_, ih _ (hout.2 _) (.inr ⟨_, rfl⟩)⟩
              simpa [Machine.held, htxn] using hk
            · rw [hstep]
              refine ⟨g, hstay _ fun k hk => ?_, ih _ (hout.2 _) (.inl ⟨rest ++ [(s, v)], ?_, ?_⟩)⟩
              · simp only [Machine.held, htxn, List.flatMap_append, List.mem_append] at hk ⊢
                exact .inl hk
              · rw [List.append_assoc]
              · rw [← List.append_assoc]
                exact hends.1 hs d v view a ⟨hi.base, l, hown⟩ hview hok
          · have hstep : 𝒜.machine.stmtStep s c d l = (.error 𝒜.machine.aborted, d, l) := by
              simp [Machine.stmtStep, hs, htxn]
            rw [hstep]
            exact ⟨g, hstay l fun _ hk => hk, ih _ (hout.2 _) (.inr ⟨log, htxn⟩)⟩

/-- The rest of a transaction after the statements `pre`: it commits an allowed replay in `J`,
or it changes nothing. -/
theorem wp_rest {Q : Except E α → Local S F V → G → Prop} (hgrows : 𝒜.Grows g)
    (hout : p.Framed fun s => 𝒜.machine.inTx s = false → 𝒜.protocol.Neutral g s)
    (hl : 𝒜.Open g pre J p l)
    (hcommit : ∀ a d d' l, 𝒜.base d → 𝒜.own d l g → 𝒜.rules.allowsLog 𝒜.machine pre d →
      J a d d' → ∃ g', 𝒜.Moves [] d d' l g { l with txn := .none } g' ∧
        Q (.ok a) { l with txn := .none } g')
    (hback : ∀ e d l, 𝒜.base d → 𝒜.own d l g →
      ∃ g', 𝒜.Moves [] d d l g { l with txn := .none } g' ∧
        Q (.error e) { l with txn := .none } g') :
    𝒜.protocol.wp (TxPost (𝒜 := 𝒜) Q) p l g := by
  refine Protocol.wp_mono (wp_body hgrows hout hl) ?_
  rintro r l' g' ⟨rfl, hopen⟩
  refine ⟨fun d e _ _ hb ho => hback e d l' hb ho, ?_⟩
  rintro a rfl log hlog d d' hb ho hr hallow
  rcases hopen with ⟨rest, htxn, hJ⟩ | ⟨log', htxn⟩
  · rw [hlog] at htxn
    cases htxn
    exact hcommit a d d' l' hb ho (𝒜.rules.allowsLog_left 𝒜.machine hallow)
      (hJ d d' ⟨hb, l', ho⟩ hr)
  · rw [hlog] at htxn
    cases htxn

/-- A transaction: it commits a replay in `J`, or it changes nothing. -/
theorem wp_commit {Q : Except E α → G → Prop}
    (hfree : ∀ d l l', 𝒜.own d l g → 𝒜.own d l' g)
    (hout : p.Framed fun s => 𝒜.machine.inTx s = false → 𝒜.protocol.Neutral g s)
    (hbody : Body 𝒜.machine (𝒜.Meets g) (fun d d' => d' = d) p J)
    (hcommit : ∀ a d d' l l', 𝒜.base d → 𝒜.own d l g → J a d d' →
      ∃ g', 𝒜.Moves [] d d' l g l' g' ∧ Q (.ok a) g')
    (hback : ∀ e, Q (.error e) g) :
    𝒜.protocol.wp (fun r l' g' => l'.txn = .none ∧ Q r g') p.transaction l g := by
  refine wp_transaction (fun d hb ho => .stay hb (hfree _ _ _ ho)) ?_
  have hends : Ends 𝒜.machine (𝒜.Meets g) J p [] := by
    refine hbody [] fun d d' _ hr => ?_
    cases hr
    rfl
  have hopen : 𝒜.Open g [] J p { l with txn := .active [] } := .inl ⟨[], rfl, hends⟩
  refine wp_rest (fun d l l' ho _ => hfree d l l' ho) hout hopen
    (fun a d d' l hb ho _ hJ => ?_) fun e d l hb ho => ?_
  · obtain ⟨g', hm, hQ⟩ := hcommit a d d' l { l with txn := .none } hb ho hJ
    exact ⟨g', hm, rfl, hQ⟩
  · exact ⟨g, .stay hb (hfree _ _ _ ho), rfl, hback e⟩

end Discipline

end Interleaving
