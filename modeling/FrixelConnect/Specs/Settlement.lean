import FrixelConnect.Specs.Footprint
import FrixelConnect.Effects

/-!
# Callbacks and polling under any contract

Both components look rows up, decide on Daraja's answer, and then write: they
fail the row, or confirm it and extend its tenant or queue a job. `Settlement`
lists what a contract must accept for these steps; the control flow of the two
programs is gone through once, for every such contract.

The ghost value `know rows won` of a process says which rows it has looked up,
and which payment it has just confirmed and not yet queued a job for.
-/

namespace FrixelConnect

open Decimals Python Interleaving Contract

abbrev LookedUp := List (PaymentTable × PaymentCore)

/-- The checkout id of the payment that a callback body fails. -/
def deniedId (body : Json) : Except Fault (Option String) := do
  let outer ← body.get "Body" (.obj [])
  let stk_callback ← outer.get "stkCallback" (.obj [])
  let checkout_id ← stk_callback.get "CheckoutRequestID"
  let result_code ← stk_callback.get "ResultCode"
  match checkout_id with
  | .str c => return if result_code.eqZero then none else some c
  | _ => return none

/-- A callback body that fails the payment with this checkout id. -/
def DeniesBody (body : Json) (checkout_id : String) : Prop :=
  deniedId body = .ok (some checkout_id)

instance (body : Json) (checkout_id : String) : Decidable (DeniesBody body checkout_id) :=
  inferInstanceAs (Decidable (deniedId body = .ok (some checkout_id)))

/-- An answer to a query that fails the payment. -/
def DeniesAnswer (answer : Except Exn HttpResponse) : Prop :=
  match answer.bind query_result with
  | .error _ => False
  | .ok result =>
      match result.get "ResponseCode", result.get "ResultCode" with
      | .ok response_code, .ok code => response_code.eqText "pending" = false ∧ code.text ≠ "0"
      | _, _ => False

instance (answer : Except Exn HttpResponse) : Decidable (DeniesAnswer answer) := by
  unfold DeniesAnswer
  split
  · infer_instance
  · split <;> infer_instance

/-- The row, as it was looked up, under the `WHERE` of one of the two components. -/
def Targets (w : RowFilter) (r : PaymentCore) : Prop :=
  w = .row r.id (some r.tenant_id) ∨ w = .pending r.id

variable {G T : Type}

/-- What a contract must accept from the callbacks and the poller. `Denied` says of which
checkout ids Daraja reports a failure. -/
structure Settlement (𝒞 : Contract G T) (know : LookedUp → Option PaymentCore → G)
    (Denied : String → Prop) : Prop where
  loc : ∀ {d l l' rows won}, 𝒞.own d l (know rows won) → 𝒞.own d l' (know rows won)
  learn : ∀ {d l rows new}, 𝒞.base d → 𝒞.own d l (know rows none) →
    (∀ x ∈ new, x.2 ∈ d.cores x.1 ∧ x.2.mpesa_checkout_id.isSome) →
    𝒞.Moves [] d d l (know rows none) l (know (rows ++ new) none)
  forget : ∀ {d l rows won}, 𝒞.base d → 𝒞.own d l (know rows won) →
    𝒞.Moves [] d d l (know rows won) l (know [] none)
  drop : ∀ {d l rows won}, 𝒞.base d → 𝒞.own d l (know rows won) →
    𝒞.Moves [] d d l (know rows won) l (know rows none)
  query : ∀ {d v c}, 𝒞.rules.stmt (.post_stk_query c) (.run v) d → DeniesAnswer v.query → Denied c
  fail : ∀ {d d' v l rows t r reason w}, 𝒞.base d → 𝒞.own d l (know rows none) → (t, r) ∈ rows →
    Targets w r → (∀ c, r.mpesa_checkout_id = some c → Denied c) →
    𝒞.rules.stmt (.fail t reason w) (.run v) d → (Stmt.fail t reason w).eval v d = .ok ((), d') →
    𝒞.Moves [] d d' l (know rows none) l (know rows none)
  confirm : ∀ {d d' v l l' rows r receipt w}, 𝒞.base d → 𝒞.own d l (know rows none) →
    (PaymentTable.payments, r) ∈ rows → Targets w r → receipt ≠ .null →
    𝒞.rules.stmt (.confirm .payments receipt w) (.run v) d →
    (Stmt.confirm .payments receipt w).eval v d = .ok ((), d') →
    𝒞.Moves [] d d' l (know rows none) l' (know rows (some r))
  extend : ∀ {d d₁ d' v v' l l' rows r receipt w}, 𝒞.base d → 𝒞.own d l (know rows none) →
    (PaymentTable.platform_payments, r) ∈ rows → Targets w r → receipt ≠ .null →
    𝒞.rules.stmt (.confirm .platform_payments receipt w) (.run v) d →
    (Stmt.confirm .platform_payments receipt w).eval v d = .ok ((), d₁) →
    𝒞.rules.stmt (.extend_tenant r.tenant_id) (.run v') d₁ →
    (Stmt.extend_tenant r.tenant_id).eval v' d₁ = .ok ((), d') →
    𝒞.Moves [] d d' l (know rows none) l' (know rows none)
  enqueue : ∀ {d l rows r}, 𝒞.base d → 𝒞.own d l (know rows (some r)) →
    𝒞.Moves [] d
      { d with queue := d.queue ++ [{ payment_id := r.id, tenant_id := r.tenant_id }] }
      l (know rows (some r)) l (know rows none)

namespace Settlement

variable {𝒞 : Contract G T} {know : LookedUp → Option PaymentCore → G} {Denied : String → Prop}
  {l : RunLocal} {rows : LookedUp}

/-- The payment that a confirming transaction leaves to be queued. -/
def wonBy (t : PaymentTable) (r : PaymentCore) (confirmed : Bool) : Option PaymentCore :=
  if confirmed ∧ t ≠ .platform_payments then some r else none

/-- One confirming transaction: the row is confirmed, and a customer payment is then won. -/
theorem wp_confirm (h : Settlement 𝒞 know Denied) (hl : l.txn = .none) {t : PaymentTable}
    {r : PaymentCore} {receipt : Json} {w : RowFilter} (hr : (t, r) ∈ rows) (hw : Targets w r)
    (hreceipt : receipt ≠ .null) :
    𝒞.wp (fun res l' g' => l' = l ∧ g' = know rows (wonBy t r res.isOk))
      (Prog.transaction (confirm_and_extend t receipt w r.tenant_id)) l (know rows none) := by
  obtain ⟨frames, txn⟩ := l
  subst hl
  apply wp_transaction fun d hb ho => .stay hb (h.loc ho)
  have hback (d : Store) (e : Exn) (l' : RunLocal) (hl' : l'.frames = frames) (hb : 𝒞.base d)
      (ho : 𝒞.own d l' (know rows none)) : ∃ g',
        𝒞.Moves [] d d l' (know rows none) { l' with txn := .none } g' ∧
        ({ l' with txn := .none } : RunLocal) = { frames, txn := .none } ∧
        g' = know rows (wonBy t r (Except.error e : Except Exn Unit).isOk) :=
    ⟨_, .stay hb (h.loc ho), by simp [hl'], by simp [wonBy, Except.isOk, Except.toBool]⟩
  have hfailed (e : Exn) (log : List (Stmt × Env)) : 𝒞.TxPost (fun res l' g' =>
      l' = ({ frames, txn := .none } : RunLocal) ∧ g' = know rows (wonBy t r res.isOk))
      (.error e) { frames, txn := .aborted log } (know rows none) :=
    ⟨fun d e' _ _ hb ho => hback d e' _ rfl hb ho, fun a ha => by cases ha⟩
  refine wp_bind (wp_log rfl rfl rfl (fun _ _ => h.loc) (fun e => hfailed e []) ?_)
  intro v _ view d' _
  cases t with
  | payments =>
      refine ⟨fun d e' _ _ hb ho => hback d e' _ rfl hb ho, ?_⟩
      rintro _ - log hlog d d' hb ho hreplay hallow
      cases hlog
      obtain ⟨_, _, he, hend⟩ := replay_cons.mp hreplay
      cases hend
      exact ⟨_, h.confirm hb (h.loc ho) hr hw hreceipt (allowsLog_cons hallow he).1 he, rfl, rfl⟩
  | platform_payments =>
      refine wp_log rfl rfl rfl (fun _ _ => h.loc) (fun e => hfailed e _) ?_
      intro v' _ _ _ _
      refine ⟨fun d e' _ _ hb ho => hback d e' _ rfl hb ho, ?_⟩
      rintro _ - log hlog d d' hb ho hreplay hallow
      cases hlog
      obtain ⟨_, d₁, he, hrest⟩ := replay_cons.mp hreplay
      obtain ⟨_, _, he', hend⟩ := replay_cons.mp hrest
      cases hend
      obtain ⟨hr₁, hallow'⟩ := allowsLog_cons hallow he
      exact ⟨_, h.extend hb (h.loc ho) hr hw hreceipt hr₁ he (allowsLog_cons hallow' he').1 he', rfl, rfl⟩

/-- The job of a payment that has just been confirmed. -/
theorem wp_queue_voucher (h : Settlement 𝒞 know Denied) (hl : l.txn = .none) {t : PaymentTable}
    {r : PaymentCore} {confirmed : Bool} :
    𝒞.wp (fun _ l' g' => l' = l ∧ g' = know rows none) (queue_voucher t r confirmed) l
      (know rows (wonBy t r confirmed)) := by
  unfold queue_voucher wonBy
  split
  · apply wp_exec (.inr hl)
    · exact fun d e hb ho _ => ⟨_, h.drop hb ho, rfl, rfl⟩
    · intro d v a d' hb ho _ he
      cases he
      exact ⟨_, h.enqueue hb ho, rfl, rfl⟩
  · exact ⟨rfl, rfl⟩

/-- The confirming transaction with a unique violation absorbed. -/
theorem wp_absorb_confirm {α : Type} {Q : Except Exn α → RunLocal → G → Prop} {f : Bool → M α}
    (h : Settlement 𝒞 know Denied) (hl : l.txn = .none) {t : PaymentTable} {r : PaymentCore}
    {receipt : Json} {w : RowFilter} (hr : (t, r) ∈ rows) (hw : Targets w r)
    (hreceipt : receipt ≠ .null)
    (herr : ∀ e, Q (.error e) l (know rows none))
    (hok : ∀ confirmed, 𝒞.wp Q (f confirmed) l (know rows (wonBy t r confirmed))) :
    𝒞.wp Q (absorbUnique (Prog.transaction (confirm_and_extend t receipt w r.tenant_id)) >>= f) l
      (know rows none) := by
  refine wp_bind (wp_catch (wp_bind (wp_mono (h.wp_confirm hl hr hw hreceipt) ?_)))
  rintro (e | u) l' g' ⟨rfl, rfl⟩
  · cases e with
    | uniqueViolation c => exact hok false
    | _ => exact herr _
  · exact hok true

/-- Failing a row that Daraja denies. -/
theorem wp_fail (h : Settlement 𝒞 know Denied) (hl : l.txn = .none) {t : PaymentTable}
    {r : PaymentCore} {reason : Json} {w : RowFilter} (hr : (t, r) ∈ rows) (hw : Targets w r)
    (hd : ∀ c, r.mpesa_checkout_id = some c → Denied c) :
    𝒞.wp (fun _ l' g' => l' = l ∧ g' = know rows none) (exec (.fail t reason w)) l
      (know rows none) := by
  apply wp_exec (.inr hl)
  · exact fun d e hb ho _ => ⟨_, .stay hb ho, rfl, rfl⟩
  · intro d v a d' hb ho hrule he
    exact ⟨_, h.fail hb ho hr hw hd hrule he, rfl, rfl⟩

theorem wp_apply_callback (h : Settlement 𝒞 know Denied) (hl : l.txn = .none)
    {t : PaymentTable} {r : PaymentCore} {stk_callback result_code result_desc : Json}
    (hr : (t, r) ∈ rows)
    (hd : result_code.eqZero = false → ∀ c, r.mpesa_checkout_id = some c → Denied c) :
    𝒞.wp (fun _ l' g' => l' = l ∧ g' = know rows none)
      (apply_callback t r stk_callback result_code result_desc) l (know rows none) := by
  unfold apply_callback
  dsimp only
  split
  · exact ⟨rfl, rfl⟩
  split
  · refine wp_then (wp_reads (callback_metadata_plain stk_callback) hl) (fun _ _ _ hg => hg) ?_
    rintro metadata l' g' ⟨rfl, rfl⟩
    split
    · exact ⟨rfl, rfl⟩
    · next htruthy =>
      refine h.wp_absorb_confirm hl hr (.inl rfl) (fun hn => htruthy (by rw [hn]; rfl))
        (fun _ => ⟨rfl, rfl⟩) fun confirmed => ?_
      exact wp_then (h.wp_queue_voucher hl) (fun _ _ _ hg => hg) (fun _ _ _ hg => hg)
  · next hz =>
      exact wp_then (h.wp_fail hl hr (.inl rfl) (hd (by simpa using hz))) (fun _ _ _ hg => hg)
        (fun _ _ _ hg => hg)

/-- A lookup by checkout id: the row that was found is known from then on. -/
theorem wp_lookup (h : Settlement 𝒞 know Denied) (hl : l.txn = .none) {t : PaymentTable}
    {checkout_id : Json} {Q : Except Exn (Option PaymentCore) → RunLocal → G → Prop}
    (hnone : ∀ e, Q (.error e) l (know [] none)) (hmiss : Q (.ok none) l (know [] none))
    (hfound : ∀ r c, checkout_id = .str c → r.mpesa_checkout_id = some c →
      Q (.ok (some r)) l (know [(t, r)] none)) :
    𝒞.wp Q (exec (.select_by_checkout t checkout_id)) l (know [] none) := by
  apply wp_exec (.inr hl)
  · exact fun d e hb ho _ => ⟨_, .stay hb ho, hnone e⟩
  · intro d v a d' hb ho _ he
    simp only [Stmt.eval, Except.bind_eq_ok, pure, Except.pure, Except.ok.injEq,
      Prod.mk.injEq] at he
    obtain ⟨o, ho', ha, rfl⟩ := he
    cases a with
    | none => exact ⟨_, .stay hb ho, hmiss⟩
    | some r =>
        obtain ⟨c, rfl, hfetch⟩ := Option.bind_eq_some_iff.mp ha
        obtain ⟨hmem, hc⟩ := fetchrow_eq_some hfetch
        have hc : r.mpesa_checkout_id = some c := by simpa using hc
        refine ⟨_, h.learn hb ho ?_, hfound r c (textParam_eq_ok ho') hc⟩
        simp [hmem, hc]

theorem wp_process_daraja_webhook (h : Settlement 𝒞 know Denied) (hl : l.txn = .none)
    {body : Json} (hd : ∀ c, DeniesBody body c → Denied c) :
    𝒞.wp (fun _ l' g' => l' = l ∧ ∃ rows, g' = know rows none) (process_daraja_webhook body) l
      (know [] none) := by
  have hdone : l = l ∧ ∃ rows, know [] none = know rows none := ⟨rfl, [], rfl⟩
  refine wp_get (fun _ _ => hdone) fun outer houter => ?_
  refine wp_get (fun _ _ => hdone) fun stk_callback hstk => ?_
  refine wp_get (fun _ _ => hdone) fun checkout_id hcheckout => ?_
  refine wp_get (fun _ _ => hdone) fun result_code hcode => ?_
  refine wp_get (fun _ _ => hdone) fun result_desc _ => ?_
  split
  · exact hdone
  have happly (t : PaymentTable) (r : PaymentCore) (c : String) (hc : checkout_id = .str c)
      (hr : r.mpesa_checkout_id = some c) : 𝒞.wp (fun _ l' g' => l' = l ∧ ∃ rows, g' = know rows none)
        (apply_callback t r stk_callback result_code result_desc) l (know [(t, r)] none) := by
    refine wp_mono (h.wp_apply_callback hl (by simp) ?_) fun _ _ _ hg => ⟨hg.1, _, hg.2⟩
    intro hz c' hc'
    rw [hr] at hc'
    cases hc'
    subst hc
    refine hd c ?_
    simp [DeniesBody, deniedId, houter, hstk, hcheckout, hcode, hz, Except.bind, bind, pure,
      Except.pure]
  refine wp_bind (h.wp_lookup hl (fun _ => hdone) ?_ (happly .payments))
  exact wp_bind (h.wp_lookup hl (fun _ => hdone) hdone (happly .platform_payments))

/-- What an answer to a query tells: no success code in a final answer means a denial. -/
def Tells (Denied : String → Prop) (checkout_id : String) (result : Json) : Prop :=
  ∀ response_code code, result.get "ResponseCode" = .ok response_code →
    response_code.eqText "pending" = false → result.get "ResultCode" = .ok code →
    code.text ≠ "0" → Denied checkout_id

theorem wp_stk_push_query (h : Settlement 𝒞 know Denied) {c : String} {g : G} :
    𝒞.wp (fun res l' g' => l' = l ∧ g' = g ∧ ∀ result, res = .ok result → Tells Denied c result)
      (stk_push_query c) l g := by
  refine wp_bind (wp_exec (.inl rfl) ?_ ?_)
  · exact fun d e hb ho _ => ⟨_, .stay hb ho, rfl, rfl, fun _ hr => by cases hr⟩
  intro d v reply d' hb ho hrule he
  cases he
  refine ⟨_, .stay hb ho, rfl, rfl, fun result hr rc code h₁ h₂ h₃ h₄ => ?_⟩
  refine h.query hrule ?_
  simp only [DeniesAnswer, hr, h₁, h₃]
  exact ⟨h₂, h₄⟩

theorem wp_poll_row (h : Settlement 𝒞 know Denied) (hl : l.txn = .none) {t : PaymentTable}
    {r : PaymentCore} (hr : (t, r) ∈ rows) (hc : r.mpesa_checkout_id.isSome) :
    𝒞.wp (fun _ l' g' => l' = l ∧ g' = know rows none) (poll_row t r) l (know rows none) := by
  obtain ⟨c, hc⟩ := Option.isSome_iff_exists.mp hc
  apply wp_swallow (I := fun l' g' => l' = l ∧ g' = know rows none)
  rw [hc]
  refine wp_then h.wp_stk_push_query (fun _ _ _ hg => ⟨hg.1, hg.2.1⟩) ?_
  rintro result l' g' ⟨rfl, rfl, htells⟩
  have hdone : l' = l' ∧ know rows none = know rows none := ⟨rfl, rfl⟩
  refine wp_get (fun _ _ => hdone) fun response_code h₁ => ?_
  split
  · exact hdone
  next h₂ =>
  refine wp_get (fun _ _ => hdone) fun result_code h₃ => ?_
  refine wp_get (fun _ _ => hdone) fun result_desc _ => ?_
  split
  · exact h.wp_absorb_confirm hl hr (.inr rfl) (by simp) (fun _ => hdone) fun _ => h.wp_queue_voucher hl
  next h₄ =>
  refine h.wp_fail hl hr (.inr rfl) fun c' hc' => ?_
  rw [hc] at hc'
  cases hc'
  exact htells result rfl _ _ h₁ (by simpa using h₂) h₃ h₄

theorem wp_poll (h : Settlement 𝒞 know Denied) (hl : l.txn = .none) :
    𝒞.wp (fun _ l' g' => l' = l ∧ ∃ rows, g' = know rows none)
      poll_pending_daraja_payments_cron l (know [] none) := by
  have hselect (t : PaymentTable) (rows : LookedUp)
      {Q : Except Exn (List PaymentCore) → RunLocal → G → Prop}
      (herr : ∀ e, Q (.error e) l (know rows none))
      (hok : ∀ found, (∀ r ∈ found, r.mpesa_checkout_id.isSome) →
        Q (.ok found) l (know (rows ++ found.map (t, ·)) none)) :
      𝒞.wp Q (exec (.select_pending t)) l (know rows none) := by
    apply wp_exec (.inr hl)
    · exact fun d e hb ho _ => ⟨_, .stay hb ho, herr e⟩
    · intro d v found d' hb ho _ he
      cases he
      have hfound : ∀ r ∈ (d.cores t).filter (fun r => r.pollable v.now),
          r ∈ d.cores t ∧ r.mpesa_checkout_id.isSome := by
        intro r hr
        obtain ⟨hmem, hp⟩ := List.mem_filter.mp hr
        simp only [PaymentCore.pollable, Bool.and_eq_true] at hp
        exact ⟨hmem, hp.1.1.2⟩
      refine ⟨_, h.learn hb ho ?_, hok _ fun r hr => (hfound r hr).2⟩
      intro x hx
      obtain ⟨r, hr, rfl⟩ := List.mem_map.mp hx
      exact hfound r hr
  refine wp_bind (hselect _ _ (fun _ => ⟨rfl, _, rfl⟩) fun payments hp => ?_)
  refine wp_bind (hselect _ _ (fun _ => ⟨rfl, _, rfl⟩) fun platform hq => ?_)
  refine wp_mono (wp_forEach (I := fun l' g' => l' = l ∧ g' = know (([] ++
    payments.map (PaymentTable.payments, ·)) ++ platform.map (PaymentTable.platform_payments, ·))
    none) ?_ ⟨rfl, rfl⟩) fun _ _ _ hg => ⟨hg.1, _, hg.2⟩
  rintro ⟨t, r⟩ hmem l' g' ⟨rfl, rfl⟩
  apply h.wp_poll_row hl (by simpa using hmem)
  rcases List.mem_append.mp hmem with hm | hm
  · obtain ⟨r', hr', he⟩ := List.mem_map.mp hm
    cases he
    exact hp r hr'
  · obtain ⟨r', hr', he⟩ := List.mem_map.mp hm
    cases he
    exact hq r hr'

end Settlement

end FrixelConnect
