import FrixelConnect.Specs.Contract

/-!
# What the helper programs write

Helper programs without transactions and frames are described by the tables they
write; the lemmas take any list that contains these tables. Whole programs are
described by a predicate on their statements.
-/

namespace FrixelConnect

open Calendar Decimals Python Interleaving Contract

variable {Ts : List Table}

theorem within_mono {Ts Ts' : List Table} {s : Stmt} (h : Within Ts s) (hsub : Ts ⊆ Ts') :
    Within Ts' s := fun T hT => hsub (h T hT)

theorem plain_read {s : Stmt} (h : s.writes = none) : (exec s).Plain (Within Ts) :=
  (Prog.plain_exec s).mpr fun T hT => by rw [h] at hT; cases hT

theorem plain_write {s : Stmt} {T : Table} (h : s.writes = some T) (hT : T ∈ Ts) :
    (exec s).Plain (Within Ts) :=
  (Prog.plain_exec s).mpr fun T' hT' => by
    rw [h] at hT'
    cases hT'
    exact hT

theorem plain_get (x : Json) (key : String) (default : Json) :
    (get x key default).Plain (Within Ts) := trivial

theorem plain_ofExcept {α : Type} (r : Except Exn α) :
    (Prog.ofExcept r : M α).Plain (Within Ts) := trivial

theorem stk_push_plain (payment_id : Option UUID) (phone : String) (amount : ℤ)
    (account_reference description : String) (h : Table.pushes ∈ Ts) :
    (stk_push payment_id phone amount account_reference description).Plain (Within Ts) :=
  (plain_write rfl h).bind fun _ => plain_ofExcept _

theorem stk_push_query_plain (checkout_id : String) :
    (stk_push_query checkout_id).Plain (Within Ts) :=
  (plain_read rfl).bind fun _ => plain_ofExcept _

theorem callback_metadata_plain (stk_callback : Json) :
    (callback_metadata stk_callback).Plain (Within Ts) :=
  (plain_get _ _ _).bind fun _ => (plain_get _ _ _).bind fun _ => plain_ofExcept _

theorem normalise_bill_ref_plain (bill_ref : Json) :
    (normalise_bill_ref bill_ref).Plain (Within Ts) := by
  unfold normalise_bill_ref
  split <;> trivial

theorem purchasable_plain (package_id tenant_id : UUID) :
    (purchasable package_id tenant_id).Plain (Within Ts) := by
  refine (plain_read rfl).bind fun package => ?_
  cases package with
  | none => trivial
  | some package =>
      dsimp only
      split <;> trivial

theorem get_or_create_guest_customer_plain (tenant_id : UUID) (phone : String)
    (h : Table.users ∈ Ts) :
    (get_or_create_guest_customer tenant_id phone).Plain (Within Ts) := by
  refine (plain_read rfl).bind fun user => ?_
  cases user with
  | some user => trivial
  | none =>
      exact (plain_read rfl).bind fun _ => (plain_read rfl).bind fun _ =>
        (plain_read rfl).bind fun _ => (plain_write rfl h).bind fun _ => trivial

theorem trial_package_plain (tenant_id : UUID) (h : Table.packages ∈ Ts) :
    (trial_package tenant_id).Plain (Within Ts) := by
  refine (plain_read rfl).bind fun package => ?_
  cases package with
  | some package => trivial
  | none => exact (plain_write rfl h).bind fun _ => trivial

theorem draw_code_plain (tenant_id : UUID) : (draw_code tenant_id).Plain (Within Ts) := by
  refine (plain_read rfl).bind fun code => (plain_read rfl).bind fun collision => ?_
  split
  · exact plain_read rfl
  · trivial

/-- Provisioning writes the credentials of one name in one tenant. -/
theorem _provision_radius_credentials_touches {φ : Stmt → Prop} {username password : String}
    {speed_mbps duration_minutes : ℤ} {tenant_id : UUID} {data_quota_mb : Option ℤ}
    (hdelete : ∀ t, φ (.delete_radius t username tenant_id))
    (hinsert : ∀ t row, row.username = username → row.tenant_id = tenant_id →
      φ (.insert_radius t row)) :
    (_provision_radius_credentials username password speed_mbps duration_minutes tenant_id
      data_quota_mb).Plain φ := by
  have hinsert (t : RadiusTable) (attr op value : String) :
      (exec (.insert_radius t { username, attr, op, value, tenant_id })).Plain φ :=
    (Prog.plain_exec _).mpr (hinsert t _ rfl rfl)
  refine ((Prog.plain_exec _).mpr (hdelete _)).bind fun _ =>
    ((Prog.plain_exec _).mpr (hdelete _)).bind fun _ => (hinsert _ _ _ _).bind fun _ =>
    (hinsert _ _ _ _).bind fun _ => (hinsert _ _ _ _).bind fun _ => ?_
  cases data_quota_mb with
  | none => trivial
  | some quota =>
      dsimp only
      split
      · exact hinsert _ _ _ _
      · trivial

theorem _provision_radius_credentials_plain (username password : String)
    (speed_mbps duration_minutes : ℤ) (tenant_id : UUID) (data_quota_mb : Option ℤ)
    (hc : Table.radcheck ∈ Ts) (hr : Table.radreply ∈ Ts) :
    (_provision_radius_credentials username password speed_mbps duration_minutes tenant_id
      data_quota_mb).Plain (Within Ts) := by
  have hmem (t : RadiusTable) : t.table ∈ Ts := by cases t <;> assumption
  refine _provision_radius_credentials_touches (fun t T hT => ?_) fun t row _ _ T hT => ?_
  · cases hT
    exact hmem t
  · cases hT
    exact hmem t

theorem welcome_guest_plain (user : Option User) (code : String) (customer_id tenant_id : UUID)
    (h : Table.users ∈ Ts) :
    (welcome_guest user code customer_id tenant_id).Plain (Within Ts) := by
  unfold welcome_guest
  split
  · exact (plain_read rfl).bind fun _ => (plain_write rfl h).bind fun _ =>
      (plain_read rfl).tryCatch fun _ => trivial
  · trivial

theorem bill_tenant_plain {φ : Stmt → Prop} (t : Tenant)
    (hpush : ∀ phone amount reference description,
      φ (.post_stk_push none phone amount reference description))
    (hinsert : ∀ amount phone checkout_id,
      φ (.insert_platform_payment t.id amount phone checkout_id)) : (bill_tenant t).Plain φ := by
  refine Prog.Plain.tryCatch ?_ fun _ => trivial
  refine Prog.Plain.bind ?_ fun result => ?_
  · exact Prog.Plain.bind ((Prog.plain_exec _).mpr (hpush _ _ _ _)) fun _ => trivial
  refine Prog.Plain.bind ?_ fun checkout_id => ?_
  · unfold getItem
    split <;> trivial
  · exact Prog.Plain.bind ((Prog.plain_exec _).mpr (hinsert _ _ _)) fun _ => trivial

theorem meter_tenant_plain {φ : Stmt → Prop} (now : Timestamptz) (t : Tenant)
    (hread : ∀ s, Within [] s → φ s)
    (hpush : ∀ phone amount reference description,
      φ (.post_stk_push none phone amount reference description))
    (hinsert : ∀ amount phone checkout_id,
      φ (.insert_platform_payment t.id amount phone checkout_id))
    (hsuspend : φ (.suspend_tenant t.id)) : (meter_tenant now t).Plain φ := by
  have hreads {s : Stmt} (h : s.writes = none) : (exec s).Plain φ := (plain_read h).mono hread
  refine (hreads rfl).bind fun _ => ?_
  split
  · split
    · exact (Prog.plain_exec _).mpr hsuspend
    · refine (hreads rfl).bind fun recent_push => ?_
      split
      · exact bill_tenant_plain t hpush hinsert
      · trivial
  · trivial

theorem tenant_billing_cron_plain {φ : Stmt → Prop} (hread : ∀ s, Within [] s → φ s)
    (hpush : ∀ phone amount reference description,
      φ (.post_stk_push none phone amount reference description))
    (hinsert : ∀ id amount phone checkout_id,
      φ (.insert_platform_payment id amount phone checkout_id))
    (hsuspend : ∀ id, φ (.suspend_tenant id)) : tenant_billing_cron.Plain φ := by
  have hreads {s : Stmt} (h : s.writes = none) : (exec s).Plain φ := (plain_read h).mono hread
  refine Prog.Plain.tryCatch ?_ fun _ => trivial
  refine (hreads rfl).bind fun tenants => (hreads rfl).bind fun now => ?_
  exact Prog.Plain.forEach fun t _ =>
    meter_tenant_plain now t hread hpush (hinsert t.id) (hsuspend t.id)

theorem reconcile_payments_cron_plain (h : Table.queue ∈ Ts) :
    reconcile_payments_cron.Plain (Within Ts) :=
  (plain_read rfl).bind fun _ => Prog.Plain.forEach fun _ _ => plain_write rfl h

theorem all_write {s : Stmt} {T : Table} (h : s.writes = some T) (hT : T ∈ Ts) :
    (exec s).All (Within Ts) := (plain_write h hT).all

/-- The tables of the credentials and of the users. -/
def credentialTables : List Table := [.users, .radcheck, .radreply]

theorem generate_voucher_framed {φ : Stmt → Prop} (payment_id tenant_id : UUID)
    (hφ : ∀ s, Within credentialTables s → φ s)
    (hvoucher : ∀ customer_id package_id code router_id,
      φ (.insert_voucher payment_id customer_id package_id code tenant_id router_id)) :
    (generate_voucher payment_id tenant_id).Framed φ := by
  have hplain {α : Type} {p : M α} (hp : p.Plain (Within credentialTables)) : p.Plain φ :=
    hp.mono hφ
  apply Prog.Framed.inFrame
  refine Prog.Plain.framed ((hplain (plain_read rfl)).bind fun row => ?_)
  cases row with
  | none => trivial
  | some row =>
      refine (hplain (plain_read rfl)).bind fun user_row =>
        (hplain (draw_code_plain _)).bind fun code => ?_
      refine (hplain (_provision_radius_credentials_plain _ _ _ _ _ _ (by simp [credentialTables])
        (by simp [credentialTables]))).bind fun _ => ?_
      refine Prog.Plain.bind ((Prog.plain_exec _).mpr (hvoucher _ _ _ _)) fun _ => ?_
      exact (hplain (welcome_guest_plain _ _ _ _ (by simp [credentialTables]))).bind fun _ => trivial

theorem generate_voucher_task_all {φ : Stmt → Prop} (job : Job)
    (hφ : ∀ s, Within credentialTables s → φ s)
    (hvoucher : ∀ customer_id package_id code router_id,
      φ (.insert_voucher job.payment_id customer_id package_id code job.tenant_id router_id)) :
    (generate_voucher_task job).All φ := by
  refine ((plain_read rfl).all.mono hφ).bind fun payment => ?_
  cases payment with
  | none => trivial
  | some payment =>
      refine Prog.All.tryCatch ?_ fun e => ?_
      · refine (generate_voucher_framed _ _ hφ hvoucher).all.bind fun code => ?_
        refine Prog.All.bind ?_ fun _ => trivial
        exact ((plain_read rfl).mono hφ).all.tryCatch fun _ => trivial
      · split <;> trivial

theorem run_job_all {φ : Stmt → Prop} (job : Job) (hφ : ∀ s, Within credentialTables s → φ s)
    (hvoucher : ∀ customer_id package_id code router_id,
      φ (.insert_voucher job.payment_id customer_id package_id code job.tenant_id router_id))
    (hqueue : ∀ n, φ (.enqueue_job { job with job_try := n })) : (run_job job).All φ := by
  refine (generate_voucher_task_all job hφ hvoucher).tryCatch fun e => ?_
  cases e with
  | retry n => exact Prog.All.bind ((Prog.all_exec _).mpr (hqueue _)) fun _ => trivial
  | _ => trivial

theorem get_wallet_balance_plain (reseller_id tenant_id : UUID) :
    (get_wallet_balance reseller_id tenant_id).Plain (Within Ts) :=
  (plain_read rfl).bind fun _ => trivial

section Ledger

variable {φ : Stmt → Prop}

/-- A new entry of the ledger of this type. -/
def Enters (φ : Stmt → Prop) (type : TransactionType) : Prop :=
  ∀ sequence_id tenant_id reseller_id amount balance reference,
    φ (.insert_wallet_transaction sequence_id tenant_id reseller_id type amount balance reference)

theorem enters_within (h : Table.wallet_transactions ∈ Ts) (type : TransactionType) :
    Enters (Within Ts) type := by
  intro _ _ _ _ _ _ T hT
  cases hT
  exact h

theorem insert_wallet_transaction_plain (tenant_id reseller_id : UUID) (type : TransactionType)
    (amount new_balance : Decimal) (reference : Json) (hseq : φ .next_sequence_id)
    (hinsert : Enters φ type) :
    (insert_wallet_transaction tenant_id reseller_id type amount new_balance reference).Plain φ :=
  ((Prog.plain_exec _).mpr hseq).bind fun _ => (Prog.plain_exec _).mpr (hinsert _ _ _ _ _ _)

theorem topup_wallet_plain (tenant_id reseller_id : UUID) (amount : Decimal) (reference : Json)
    (hread : ∀ s, Within [] s → φ s) (hseq : φ .next_sequence_id) (hinsert : Enters φ .topup) :
    (topup_wallet tenant_id reseller_id amount reference).Plain φ := by
  refine ((plain_read rfl).mono hread).bind fun locked => ?_
  split
  · trivial
  refine ((get_wallet_balance_plain _ _).mono hread).bind fun current_balance => ?_
  exact ((plain_ofExcept _).mono hread).bind fun new_balance =>
    insert_wallet_transaction_plain _ _ _ _ _ _ hseq hinsert

theorem debit_wallet_plain (tenant_id reseller_id : UUID) (amount : Decimal) (reference : Json)
    (hread : ∀ s, Within [] s → φ s) (hseq : φ .next_sequence_id) (hinsert : Enters φ .debit) :
    (debit_wallet tenant_id reseller_id amount reference).Plain φ := by
  refine ((plain_read rfl).mono hread).bind fun locked => ?_
  split
  · trivial
  refine ((get_wallet_balance_plain _ _).mono hread).bind fun current_balance => ?_
  refine ((plain_ofExcept _).mono hread).bind fun insufficient => ?_
  split
  · trivial
  · exact ((plain_ofExcept _).mono hread).bind fun new_balance =>
      insert_wallet_transaction_plain _ _ _ _ _ _ hseq hinsert

theorem process_daraja_c2b_webhook_all (body : Json) (hread : ∀ s, Within [] s → φ s)
    (hseq : φ .next_sequence_id) (hinsert : Enters φ .topup) :
    (process_daraja_c2b_webhook body).All φ := by
  have hget {α : Type} {p : M α} (hp : p.Plain (Within [])) : p.All φ := (hp.mono hread).all
  refine (hget (plain_get _ _ _)).bind fun trans_type => (hget (plain_get _ _ _)).bind
    fun bill_ref => ?_
  refine (hget (plain_get _ _ _)).bind fun trans_id => (hget (plain_get _ _ _)).bind
    fun amount => ?_
  split
  · trivial
  refine (hget (normalise_bill_ref_plain _)).bind fun bill_ref => ?_
  refine (hget (plain_read rfl)).bind fun reseller => ?_
  cases reseller with
  | none => trivial
  | some reseller =>
      dsimp only
      split
      · trivial
      split
      · trivial
      split
      · trivial
      · exact Prog.All.tryCatch ((topup_wallet_plain _ _ _ _ hread hseq hinsert).all.transaction.bind
          fun _ => trivial) fun _ => trivial

end Ledger

theorem absorbUnique_all {φ : Stmt → Prop} {p : M Unit} (hp : p.All φ) : (absorbUnique p).All φ := by
  refine Prog.All.tryCatch (Prog.All.bind hp fun _ => trivial) fun e => ?_
  cases e <;> trivial

theorem queue_voucher_plain (t : PaymentTable) (payment : PaymentCore) (confirmed : Bool)
    (hq : Table.queue ∈ Ts) : (queue_voucher t payment confirmed).Plain (Within Ts) := by
  unfold queue_voucher
  split
  · exact plain_write rfl hq
  · trivial

/-- The tables that the callbacks and the poller write, apart from the tenants. -/
def settlementTables : List Table := [.payments, .platform_payments, .queue]

theorem mem_settlementTables (t : PaymentTable) : t.table ∈ settlementTables := by
  cases t <;> simp [settlementTables, PaymentTable.table]

/-- The statement inserts a payment of a customer. -/
def Stmt.insertsPayment : Stmt → Bool
  | .insert_payment .. => true
  | _ => false

/-- The statement writes only what the callbacks and the poller write, and inserts no payment. -/
def Settles (s : Stmt) : Prop := Within settlementTables s ∧ s.insertsPayment = false

theorem Stmt.writes_payments {s : Stmt} (h : s.insertsPayment = true) :
    s.writes = some .payments := by
  unfold insertsPayment at h
  split at h
  · rfl
  · cases h

theorem settles_read {s : Stmt} (h : Within [] s) : Settles s := by
  refine ⟨within_mono h (by simp), ?_⟩
  by_contra hs
  rw [Bool.not_eq_false] at hs
  exact absurd (h .payments (Stmt.writes_payments hs)) (by simp)

theorem settles_write {s : Stmt} {T : Table} (h : s.writes = some T) (hT : T ∈ settlementTables)
    (hs : s.insertsPayment = false) : (exec s).Plain Settles := by
  refine (Prog.plain_exec s).mpr ⟨fun T' hT' => ?_, hs⟩
  rw [h] at hT'
  cases hT'
  exact hT

section Settlement

variable {φ : Stmt → Prop}

theorem queue_voucher_settles (t : PaymentTable) (payment : PaymentCore) (confirmed : Bool) :
    (queue_voucher t payment confirmed).Plain Settles := by
  unfold queue_voucher
  split
  · exact settles_write rfl (by simp [settlementTables]) rfl
  · trivial

theorem confirm_and_extend_plain (t : PaymentTable) (receipt : Json) (w : RowFilter)
    (tenant_id : UUID) (hφ : ∀ s, Settles s → φ s)
    (hextend : φ (.extend_tenant tenant_id)) :
    (confirm_and_extend t receipt w tenant_id).Plain φ := by
  refine ((settles_write rfl (mem_settlementTables t) rfl).mono hφ).bind fun _ => ?_
  split
  · exact (Prog.plain_exec _).mpr hextend
  · trivial

theorem apply_callback_all (t : PaymentTable) (payment : PaymentCore)
    (stk_callback result_code result_desc : Json) (hφ : ∀ s, Settles s → φ s)
    (hextend : ∀ id, φ (.extend_tenant id)) :
    (apply_callback t payment stk_callback result_code result_desc).All φ := by
  unfold apply_callback
  dsimp only
  split
  · trivial
  split
  · refine ((callback_metadata_plain _).all.mono fun s h => hφ s (settles_read h)).bind fun metadata => ?_
    split
    · trivial
    · refine Prog.All.bind (absorbUnique_all (Prog.All.transaction ?_)) fun confirmed => ?_
      · exact (confirm_and_extend_plain t _ _ _ hφ (hextend _)).all
      · refine Prog.All.bind ?_ fun _ => trivial
        exact (queue_voucher_settles _ _ _).all.mono hφ
  · exact ((settles_write rfl (mem_settlementTables t) rfl).all.mono hφ).bind fun _ => trivial

theorem process_daraja_webhook_all (body : Json) (hφ : ∀ s, Settles s → φ s)
    (hextend : ∀ id, φ (.extend_tenant id)) : (process_daraja_webhook body).All φ := by
  have hreads {s : Stmt} (h : s.writes = none) : (exec s).All φ :=
    (plain_read h).all.mono fun s h => hφ s (settles_read h)
  have hget (x : Json) (key : String) (default : Json) : (get x key default).All φ := trivial
  refine (hget _ _ _).bind fun outer => (hget _ _ _).bind fun stk_callback => ?_
  refine (hget _ _ _).bind fun checkout_id => (hget _ _ _).bind fun code => ?_
  refine (hget _ _ _).bind fun desc => ?_
  split
  · trivial
  refine (hreads rfl).bind fun payment => ?_
  cases payment with
  | some payment => exact apply_callback_all _ _ _ _ _ hφ hextend
  | none =>
      refine (hreads rfl).bind fun payment => ?_
      cases payment with
      | some payment => exact apply_callback_all _ _ _ _ _ hφ hextend
      | none => trivial

theorem poll_row_all (t : PaymentTable) (row : PaymentCore)
    (hφ : ∀ s, Settles s → φ s) (hextend : ∀ id, φ (.extend_tenant id)) :
    (poll_row t row).All φ := by
  have hget (x : Json) (key : String) (default : Json) : (get x key default).All φ := trivial
  refine Prog.All.tryCatch ?_ fun _ => trivial
  refine ((stk_push_query_plain _).all.mono fun s h => hφ s (settles_read h)).bind
    fun result => (hget _ _ _).bind fun rc => ?_
  split
  · trivial
  refine (hget _ _ _).bind fun code => (hget _ _ _).bind fun desc => ?_
  split
  · refine Prog.All.bind (absorbUnique_all (Prog.All.transaction ?_)) fun confirmed => ?_
    · exact (confirm_and_extend_plain t _ _ _ hφ (hextend _)).all
    · exact (queue_voucher_settles _ _ _).all.mono hφ
  · exact (settles_write rfl (mem_settlementTables t) rfl).all.mono hφ

theorem poll_pending_daraja_payments_cron_all (hφ : ∀ s, Settles s → φ s)
    (hextend : ∀ id, φ (.extend_tenant id)) : poll_pending_daraja_payments_cron.All φ := by
  have hreads {s : Stmt} (h : s.writes = none) : (exec s).All φ :=
    (plain_read h).all.mono fun s h => hφ s (settles_read h)
  exact (hreads rfl).bind fun _ => (hreads rfl).bind fun _ =>
    Prog.All.forEach fun r _ => poll_row_all r.1 r.2 hφ hextend

end Settlement

/-- The tables that the initiation of payments writes. -/
def initiationTables : List Table := [.users, .payments, .platform_payments, .pushes]

theorem push_block_all {φ : Stmt → Prop} {t : PaymentTable} {payment_id : UUID}
    {tenant_id : Option UUID} {push : M Json} {message : String} (hpush : push.All φ)
    (hφ : ∀ s, s.writes = some t.table → s.insertsPayment = false → φ s) :
    (push_block t payment_id tenant_id push message).All φ := by
  have hwrite {s : Stmt} (h : s.writes = some t.table) (hs : s.insertsPayment = false) :
      (exec s).All φ := (Prog.all_exec s).mpr (hφ s h hs)
  refine Prog.All.inFrame _ (Prog.All.tryCatch ?_ fun e => ?_)
  · refine hpush.bind fun response => Prog.All.bind trivial fun checkout_id => ?_
    refine (hwrite rfl rfl).bind fun updated_payment => ?_
    cases updated_payment <;> trivial
  · exact (hwrite rfl rfl).bind fun _ => trivial

theorem within_initiation {t : PaymentTable} {s : Stmt} (h : s.writes = some t.table) :
    Within initiationTables s := by
  intro T hT
  rw [h] at hT
  cases hT
  cases t <;> simp [initiationTables, PaymentTable.table]

theorem initiate_stk_push_all (tenant_id customer_id : UUID) (data : STKPushRequest) :
    (initiate_stk_push tenant_id customer_id data).All (Within initiationTables) := by
  refine (purchasable_plain _ _).all.bind fun package => ?_
  refine (all_write rfl (by simp [initiationTables])).bind fun payment => ?_
  refine push_block_all ((plain_ofExcept _).all.bind fun amount => ?_) fun _ h _ =>
    within_initiation h
  exact (stk_push_plain _ _ _ _ _ (by simp [initiationTables])).all

theorem initiate_hotspot_payment_all (data : PortalSTKPushRequest) :
    (initiate_hotspot_payment data).All (Within initiationTables) := by
  refine (get_or_create_guest_customer_plain _ _ (by simp [initiationTables])).all.bind
    fun customer_id => (purchasable_plain _ _).all.bind fun package => ?_
  refine (all_write rfl (by simp [initiationTables])).bind fun payment => ?_
  refine push_block_all ((plain_ofExcept _).all.bind fun amount => ?_) fun _ h _ =>
    within_initiation h
  exact (stk_push_plain _ _ _ _ _ (by simp [initiationTables])).all

theorem initiate_platform_billing_payment_all (tenant_id : UUID) :
    (initiate_platform_billing_payment tenant_id).All (Within initiationTables) := by
  refine (plain_read rfl).all.bind fun tenant => ?_
  cases tenant with
  | none => trivial
  | some tenant =>
      refine (all_write rfl (by simp [initiationTables])).bind fun payment => ?_
      exact push_block_all (stk_push_plain _ _ _ _ _ (by simp [initiationTables])).all
        fun _ h _ => within_initiation h

/-- The tables that a free trial writes, apart from its payment and its voucher. -/
def trialTables : List Table := [.users, .packages, .radcheck, .radreply]

theorem provision_free_trial_all {φ : Stmt → Prop} (data : PortalFreeTrialRequest)
    (hφ : ∀ s, Within trialTables s → φ s)
    (hpayment : ∀ customer_id package_id receipt, φ (.insert_payment customer_id package_id
      (.finite 100 (-2)) .confirmed data.phone data.tenant_id none receipt))
    (hvoucher : ∀ payment_id customer_id package_id code router_id,
      φ (.insert_voucher payment_id customer_id package_id code data.tenant_id router_id)) :
    (provision_free_trial data).All φ := by
  have hu : Table.users ∈ trialTables := by simp [trialTables]
  have hp : Table.packages ∈ trialTables := by simp [trialTables]
  have hsub : credentialTables ⊆ trialTables := by simp [credentialTables, trialTables]
  refine ((get_or_create_guest_customer_plain _ _ hu).all.mono hφ).bind fun customer_id => ?_
  refine ((plain_read rfl).all.mono hφ).bind fun existing_trial => ?_
  split
  · trivial
  refine ((trial_package_plain _ hp).all.mono hφ).bind fun package_id => ?_
  refine ((plain_read rfl).all.mono hφ).bind fun trial_receipt => ?_
  refine Prog.All.bind ((Prog.all_exec _).mpr (hpayment _ _ _)) fun payment => ?_
  exact (generate_voucher_framed _ _ (fun s h => hφ s (within_mono h hsub)) (hvoucher _)).all

/-- The tables that a sale writes, apart from its payment and its voucher. -/
def saleTables : List Table :=
  [.users, .radcheck, .radreply, .last_sequence_id, .wallet_transactions]

theorem sell_voucher_framed {φ : Stmt → Prop} (data : ResellerVoucherGenerateRequest)
    (reseller_id tenant_id : UUID) (customer : User) (package : Package)
    (hφ : ∀ s, Within saleTables s → φ s)
    (hpayment : ∀ amount phone checkout_id receipt, φ (.insert_payment data.customer_id
      data.package_id amount .confirmed phone tenant_id checkout_id receipt))
    (hvoucher : ∀ payment_id customer_id package_id code router_id,
      φ (.insert_voucher payment_id customer_id package_id code tenant_id router_id)) :
    (sell_voucher data reseller_id tenant_id customer package).Framed φ := by
  have hsub : credentialTables ⊆ saleTables := by simp [credentialTables, saleTables]
  refine ((plain_read rfl).framed.mono hφ).bind fun voucher_id => ?_
  refine ((debit_wallet_plain _ _ _ _ (fun s h => within_mono h (by simp)) ?_
    (enters_within (by simp [saleTables]) _)).framed.mono hφ).bind fun _ => ?_
  · exact fun T hT => by cases hT; simp [saleTables]
  refine ((plain_read rfl).framed.mono hφ).bind fun receipt => ?_
  refine Prog.Framed.bind ((Prog.plain_exec _).mpr (hpayment _ _ _ _)).framed fun payment => ?_
  refine Prog.Framed.bind ?_ fun _ => trivial
  exact generate_voucher_framed _ _ (fun s h => hφ s (within_mono h hsub)) (hvoucher _)

theorem generate_reseller_voucher_all {φ : Stmt → Prop} (data : ResellerVoucherGenerateRequest)
    (reseller_id tenant_id : UUID) (hφ : ∀ s, Within saleTables s → φ s)
    (hpayment : ∀ amount phone checkout_id receipt, φ (.insert_payment data.customer_id
      data.package_id amount .confirmed phone tenant_id checkout_id receipt))
    (hvoucher : ∀ payment_id customer_id package_id code router_id,
      φ (.insert_voucher payment_id customer_id package_id code tenant_id router_id)) :
    (generate_reseller_voucher data reseller_id tenant_id).All φ := by
  refine ((plain_read rfl).all.mono hφ).bind fun customer => ?_
  split
  · trivial
  refine ((plain_read rfl).all.mono hφ).bind fun package => ?_
  cases package with
  | none => trivial
  | some package =>
      dsimp only
      split
      · trivial
      refine Prog.All.bind (Prog.All.transaction ?_) fun payment_id => ?_
      · exact (sell_voucher_framed data _ _ _ _ hφ hpayment hvoucher).all
      · refine ((plain_read rfl).all.mono hφ).bind fun voucher_row => ?_
        cases voucher_row <;> trivial

/-- The processes that neither settle nor initiate payments. -/
def Spawn.aside : Spawn → Bool
  | .daraja_webhook _ => false
  | .poll => false
  | .stk_push .. => false
  | .hotspot_payment _ => false
  | .platform_billing _ => false
  | _ => true

/-- The tables that these processes write, apart from the payments. -/
def asideTables : List Table :=
  [.users, .packages, .radcheck, .radreply, .vouchers, .last_sequence_id, .wallet_transactions,
    .queue]

theorem discard_all {α : Type} {φ : Stmt → Prop} {p : M α} (hp : p.All φ) : (discard p).All φ :=
  Prog.All.bind hp fun _ => trivial

/-- The statements of these processes other than the billing of the tenants. -/
inductive Stmt.Apart : Stmt → Prop
  | tables {s : Stmt} (h : Within asideTables s) : s.Apart
  | payment {customer_id package_id tenant_id : UUID} {amount : Decimal} {phone : String}
      {checkout_id receipt : Option String} : (Stmt.insert_payment customer_id package_id amount
        .confirmed phone tenant_id checkout_id receipt).Apart

/-- The statements of these processes. -/
inductive Stmt.Aside : Stmt → Prop
  | tables {s : Stmt} (h : Within asideTables s) : s.Aside
  | payment {customer_id package_id tenant_id : UUID} {amount : Decimal} {phone : String}
      {checkout_id receipt : Option String} : (Stmt.insert_payment customer_id package_id amount
        .confirmed phone tenant_id checkout_id receipt).Aside
  | platform {id : UUID} {amount : Decimal} {phone : String} {checkout_id : Json} :
      (Stmt.insert_platform_payment id amount phone checkout_id).Aside
  | push {phone reference description : String} {amount : ℤ} :
      (Stmt.post_stk_push none phone amount reference description).Aside
  | suspend {id : UUID} : (Stmt.suspend_tenant id).Aside

/-- The start of such a process changes at most the queue. -/
theorem Spawn.aside_start {w : Spawn} {d d' : Store} {p : M Unit} (hs : start w d = some (d', p))
    {T : Table} (hT : T ≠ .queue) : d'.Same d T := by
  cases w with
  | job position keep =>
      obtain ⟨job, _, hjob⟩ := Option.map_eq_some_iff.mp hs
      cases keep <;> cases hjob <;> cases T <;> first | rfl | exact absurd rfl hT
  | _ => cases hs; exact .refl _ _

theorem Spawn.apart_all {w : Spawn} {d d' : Store} {p : M Unit} (hw : w.aside = true)
    (hcron : w ≠ .tenant_billing) (hs : start w d = some (d', p)) : p.All Stmt.Apart := by
  have hφ (s : Stmt) (h : Within asideTables s) : s.Apart := .tables h
  have hcredentials (s : Stmt) (h : Within credentialTables s) : s.Apart :=
    .tables (within_mono h (by simp [credentialTables, asideTables]))
  have hvoucher {payment_id customer_id package_id tenant_id : UUID} {code : String}
      {router_id : Option UUID} : (Stmt.insert_voucher payment_id customer_id package_id code
        tenant_id router_id).Apart := by
    refine .tables fun T hT => ?_
    cases hT
    simp [asideTables]
  have hqueue {job : Job} : (Stmt.enqueue_job job).Apart := by
    refine .tables fun T hT => ?_
    cases hT
    simp [asideTables]
  have hq : Table.queue ∈ asideTables := by simp [asideTables]
  have hreads (s : Stmt) (h : Within [] s) : s.Apart := .tables (within_mono h (by simp))
  have hseq : Stmt.next_sequence_id.Apart := by
    refine .tables fun T hT => ?_
    cases hT
    simp [asideTables]
  have hinserts {type : TransactionType} : Enters Stmt.Apart type :=
    fun _ _ _ _ _ _ => .tables (enters_within (by simp [asideTables]) _ _ _ _ _ _ _)
  cases w with
  | daraja_webhook body => cases hw
  | poll => cases hw
  | stk_push tenant_id customer_id data => cases hw
  | hotspot_payment data => cases hw
  | platform_billing tenant_id => cases hw
  | c2b_webhook body =>
      cases hs
      exact discard_all (process_daraja_c2b_webhook_all body hreads hseq hinserts)
  | reconcile =>
      cases hs
      exact (reconcile_payments_cron_plain hq).all.mono hφ
  | job position keep =>
      obtain ⟨job, _, hjob⟩ := Option.map_eq_some_iff.mp hs
      cases hjob
      exact discard_all (run_job_all job hcredentials (fun _ _ _ _ => hvoucher) fun _ => hqueue)
  | generate_voucher payment_id tenant_id =>
      cases hs
      exact discard_all (generate_voucher_framed _ _ hcredentials fun _ _ _ _ => hvoucher).all
  | free_trial data =>
      cases hs
      refine discard_all (provision_free_trial_all data (fun s h => ?_) (fun _ _ _ => .payment)
        fun _ _ _ _ _ => hvoucher)
      exact hφ s (within_mono h (by simp [trialTables, asideTables]))
  | tenant_billing => exact absurd rfl hcron
  | reseller_voucher data reseller_id tenant_id =>
      cases hs
      refine discard_all (generate_reseller_voucher_all data _ _ (fun s h => ?_)
        (fun _ _ _ _ => .payment) fun _ _ _ _ _ => hvoucher)
      exact hφ s (within_mono h (by simp [saleTables, asideTables]))
  | topup tenant_id reseller_id amount reference =>
      cases hs
      exact discard_all (topup_wallet_plain _ _ _ _ hreads hseq hinserts).all.transaction
  | debit tenant_id reseller_id amount reference =>
      cases hs
      exact discard_all (debit_wallet_plain _ _ _ _ hreads hseq hinserts).all.transaction

theorem Spawn.aside_all {w : Spawn} {d d' : Store} {p : M Unit}
    (hw : w.aside = true) (hs : start w d = some (d', p)) : p.All Stmt.Aside := by
  by_cases hcron : w = .tenant_billing
  · subst hcron
    cases hs
    refine (tenant_billing_cron_plain (fun s h => ?_) (fun _ _ _ _ => .push)
      (fun _ _ _ _ => .platform) fun _ => .suspend).all
    exact .tables (within_mono h (by simp))
  · refine (apart_all hw hcron hs).mono fun s hs => ?_
    cases hs with
    | tables h => exact .tables h
    | payment => exact .payment

end FrixelConnect
