import FrixelConnect.Specs.Alone
import FrixelConnect.Specs.Footprint
import FrixelConnect.TenantAdministration

/-!
# Manual billing and the billing run

The super admin can bill one tenant by hand, and the billing run bills every tenant
that is due. Both run here on the same store in a world in which nothing fails but
Daraja. The manual path inserts its row before the push, has no guard against a recent
push and asks another fee of the smallest tier, so that the two have the same effect
only on a tenant of another tier without a recent push whose push is accepted.
-/

namespace FrixelConnect

open Calendar Contract Decimals Interleaving Python

/-- What a platform payment says, apart from its generated values. -/
structure Fee where
  tenant_id : UUID
  amount_kes : Money
  phone_number : String
  status : PaymentStatus
  mpesa_checkout_id : Option String
  deriving DecidableEq

def PaymentCore.fee (r : PaymentCore) : Fee :=
  { tenant_id := r.tenant_id, amount_kes := r.amount_kes, phone_number := r.phone_number
    status := r.status, mpesa_checkout_id := r.mpesa_checkout_id }

namespace ManualBilling

/-- The platform payments of the tenant. -/
def rowsOf (tenant_id : UUID) (d : Store) : List PaymentCore :=
  d.platform_payments.filter fun r => r.tenant_id == tenant_id

def fees (tenant_id : UUID) (d : Store) : List Fee := (rowsOf tenant_id d).map PaymentCore.fee

/-- A world in which nothing fails but Daraja: the present, the ids of new fees, and what Daraja
makes of a push to a phone. -/
structure World where
  now : Timestamptz
  pick : ℕ := 0
  uuid : UUID → UUID
  push : String → PushOutcome

namespace World

variable (w : World)

def env : Stmt → Env
  | .insert_platform_payment tenant_id .. => { now := w.now, uuid := w.uuid tenant_id }
  | .post_stk_push _ phone .. => { now := w.now, push := w.push phone }
  | _ => { now := w.now, pick := w.pick }

/-- Nothing fails. -/
def fate : Solo.Fate Stmt Exn Env where
  stmt s := .run (w.env s)
  commit := .run {}

theorem env_now (s : Stmt) : (w.env s).now = w.now := by
  cases s <;> rfl

/-- The store after the program has run alone. -/
def after {α : Type} (p : M α) (d : Store) : Store := (Solo.outcome machine w.fate p d {}).2.1

/-- New ids are new. -/
structure Fresh (d : Store) : Prop where
  rows : ∀ r ∈ d.platform_payments, ∀ id, r.id ≠ w.uuid id
  injective : Function.Injective w.uuid

/-- Daraja accepts the push, and its answer has a checkout id that the column can hold. -/
def Accepts (phone : String) (checkout_id : Option String) : Prop :=
  ∃ fields value, (w.push phone).response.bind push_result = .ok (.obj fields) ∧
    fields.lookup "CheckoutRequestID" = some value ∧ textParam (some 100) value = .ok checkout_id

end World

/-- The keys and the columns of the tenants. -/
structure Stored (d : Store) : Prop where
  ids : (d.tenants.map (·.id)).Nodup
  phones : ∀ t ∈ d.tenants, textParam (some 20) (.str t.owner_phone) = .ok (some t.owner_phone)

/-- The tenant is active and its due date has come. -/
def Due (w : World) (t : Tenant) : Prop := t.status = .active ∧ t.next_billing_date ≤ w.now

/-- No push of the last 24 hours is pending or confirmed. -/
def NoRecentPush (w : World) (d : Store) (tenant_id : UUID) : Prop :=
  ∀ r ∈ rowsOf tenant_id d, w.now - 24 * hour < r.created_at →
    r.status ≠ .pending ∧ r.status ≠ .confirmed

/-- The tenant is billed alike by hand and by the billing run. -/
def BilledAlike (w : World) (d : Store) (t : Tenant) : Prop :=
  t.subscription_tier ≠ .starter ∧ (w.now - t.next_billing_date) / day ≤ 7 ∧
    NoRecentPush w d t.id ∧ ∃ checkout_id, w.Accepts t.owner_phone checkout_id

variable {w : World} {d d' : Store} {t : Tenant} {rows : List PaymentCore} {l : RunLocal}

/-- The amounts fit the column, and they agree on every tier but the smallest. -/
theorem moneyParam_fees (tier : SubscriptionTier) : ∃ m m',
    moneyParam (.finite (TIER_MONTHLY_FEES tier) 0) = .ok m ∧ m.positive = true ∧
    moneyParam (.finite (TIER_PRICING tier) 0) = .ok m' ∧ m'.positive = true ∧
    (m = m' ↔ tier ≠ .starter) := by
  cases tier with
  | starter => exact ⟨.units ⟨150000, by decide⟩, .units ⟨100000, by decide⟩, by decide⟩
  | growth => exact ⟨.units ⟨500000, by decide⟩, .units ⟨500000, by decide⟩, by decide⟩
  | scale => exact ⟨.units ⟨1500000, by decide⟩, .units ⟨1500000, by decide⟩, by decide⟩
  | enterprise => exact ⟨.units ⟨5000000, by decide⟩, .units ⟨5000000, by decide⟩, by decide⟩

/-- The row of a new fee. -/
def feeRow (w : World) (t : Tenant) (amount_kes : Money) (mpesa_checkout_id : Option String) :
    PaymentCore :=
  { id := w.uuid t.id, tenant_id := t.id, amount_kes, phone_number := t.owner_phone
    mpesa_checkout_id, created_at := w.now, updated_at := w.now }

/-- The tenant is there, and its next fee has a new id. -/
structure Ready (w : World) (t : Tenant) (d : Store) : Prop where
  tenant : d.hasTenant t.id = true
  fresh : ∀ r ∈ d.platform_payments, r.id ≠ w.uuid t.id

theorem exec_insert {amount : ℤ} {m : Money} {value : Json} {checkout_id : Option String}
    (h : Ready w t d) (hphone : textParam (some 20) (.str t.owner_phone) = .ok (some t.owner_phone))
    (hm : moneyParam (.finite amount 0) = .ok m) (hpos : m.positive = true)
    (hvalue : textParam (some 100) value = .ok checkout_id) :
    machine.direct (.insert_platform_payment t.id (.finite amount 0) t.owner_phone value)
      (w.fate.stmt (.insert_platform_payment t.id (.finite amount 0) t.owner_phone value)) d =
        (.ok (feeRow w t m checkout_id),
          { d with platform_payments := d.platform_payments ++ [feeRow w t m checkout_id] }) := by
  apply Stmt.exec_eq_ok.mpr
  have hfresh : (d.platform_payments.all fun r => r.id != w.uuid t.id) = true := by
    simpa using h.fresh
  simp only [Stmt.eval, hm, hphone, hvalue, World.env, hfresh, h.tenant, check, if_true, bind,
    Except.bind, hpos]
  rfl

section Reads

/-- A read answers. -/
theorem outcome_read {α : Type} {s : Stmt} {a : s.Res} {f : s.Res → M α} (hl : l.txn = .none)
    (he : s.eval (w.env s) d = .ok (a, d)) :
    Solo.outcome machine w.fate (exec s >>= f) d l = Solo.outcome machine w.fate (f a) d l :=
  Solo.outcome_exec_bind hl (Stmt.exec_eq_ok.mpr he)

/-- The tenant is found by its id. -/
theorem outcome_select_tenant {α : Type} {f : Option Tenant → M α} (hl : l.txn = .none)
    (hd : Stored d) (ht : t ∈ d.tenants) :
    Solo.outcome machine w.fate (exec (.select_tenant t.id) >>= f) d l =
      Solo.outcome machine w.fate (f (some t)) d l := by
  apply outcome_read hl
  have hfound : fetchrow (w.env (.select_tenant t.id)).pick (fun r => r.id == t.id) d.tenants =
      some t := by
    cases h : fetchrow (w.env (.select_tenant t.id)).pick (fun r => r.id == t.id) d.tenants with
    | none => exact absurd (fetchrow_eq_none.mp h t ht) (by simp)
    | some r =>
        obtain ⟨hr, hid⟩ := fetchrow_eq_some h
        rw [List.inj_on_of_nodup_map hd.ids hr ht (beq_iff_eq.mp hid)]
  rw [Stmt.eval, hfound]
  rfl

/-- A push to which Daraja answers. -/
theorem outcome_stk_push {phone : String} {r : Except Exn Json} (amount : ℤ)
    (reference description : String) (hl : l.txn = .none) (hr : (w.push phone).response.bind push_result = r) :
    ∃ pushes, Solo.outcome machine w.fate (stk_push none phone amount reference description) d l =
      (r, { d with pushes }, l) := by
  have hx : ∃ pushes, machine.direct (.post_stk_push none phone amount (front 12 reference)
      (front 13 description)) (w.fate.stmt (.post_stk_push none phone amount (front 12 reference)
      (front 13 description))) d = (.ok (w.push phone).response, { d with pushes }) := ⟨_, rfl⟩
  obtain ⟨pushes, hx⟩ := hx
  refine ⟨pushes, ?_⟩
  rw [stk_push, Solo.outcome_exec_bind hl hx, hr]
  rfl

/-- A key of a dict is there, or the program ends. -/
theorem outcome_getItem (x : Json) (key : String) (d : Store) (l : RunLocal) :
    (∃ e, Solo.outcome machine w.fate (getItem x key) d l = (.error e, d, l)) ∨
      ∃ fields value, x = .obj fields ∧ fields.lookup key = some value ∧
        Solo.outcome machine w.fate (getItem x key) d l = (.ok value, d, l) := by
  cases x with
  | obj fields =>
      cases h : fields.lookup key with
      | none => exact .inl ⟨.keyError key, by simp [getItem, h, Prog.ofExcept, Solo.outcome]⟩
      | some value =>
          exact .inr ⟨fields, value, rfl, h, by simp [getItem, h, Prog.ofExcept, Solo.outcome]⟩
  | _ => exact .inl ⟨.fault .typeError, rfl⟩

end Reads

section Manual

/-- The statements of the push that follows the insert. -/
inductive OnRow (id tenant_id : UUID) : Stmt → Prop
  | push {phone reference description : String} {amount : ℤ} :
      OnRow id tenant_id (.post_stk_push none phone amount reference description)
  | store {checkout_id : Json} :
      OnRow id tenant_id (.store_checkout .platform_payments checkout_id (.row id (some tenant_id)))
  | fail {reason : Json} :
      OnRow id tenant_id (.fail .platform_payments reason (.row id (some tenant_id)))

/-- The store has one more fee, which agrees with `row` in what the push leaves alone. -/
def Added (d : Store) (row : PaymentCore) (d' : Store) : Prop :=
  ∃ row', d'.platform_payments = d.platform_payments ++ [row'] ∧ row'.id = row.id ∧
    row'.tenant_id = row.tenant_id ∧ row'.amount_kes = row.amount_kes ∧
    row'.phone_number = row.phone_number

/-- An update of a row that comes last. -/
theorem updateRows_concat {rows : List PaymentCore} {r : PaymentCore} {p : PaymentCore → Bool}
    {f : PaymentCore → PaymentCore} (hrows : ∀ r' ∈ rows, p r' = false) :
    updateRows p f (rows ++ [r]) = rows ++ [if p r then f r else r] := by
  rw [updateRows, List.map_append]
  congr 1
  conv_rhs => rw [← List.map_id rows]
  apply List.map_congr_left
  intro r' hr'
  simp [hrows r' hr']

/-- No older row has the id of the new one. -/
theorem row_holds_false {row : PaymentCore} (hfresh : ∀ r ∈ d.platform_payments, r.id ≠ row.id) :
    ∀ r ∈ d.platform_payments, (RowFilter.row row.id (some row.tenant_id)).holds r = false := by
  intro r hr
  simp [RowFilter.holds, hfresh r hr]

theorem Added.update {row : PaymentCore} {f : PaymentCore → PaymentCore} (h : Added d row d')
    (hfresh : ∀ r ∈ d.platform_payments, r.id ≠ row.id)
    (hf : ∀ r, (f r).id = r.id ∧ (f r).tenant_id = r.tenant_id ∧ (f r).amount_kes = r.amount_kes ∧
      (f r).phone_number = r.phone_number) : Added d row
        (d'.updateCores .platform_payments (RowFilter.row row.id (some row.tenant_id)).holds f) := by
  obtain ⟨row', hd', hid, htenant, hamount, hphone⟩ := h
  refine ⟨f row', ?_, (hf row').1.trans hid, (hf row').2.1.trans htenant,
    (hf row').2.2.1.trans hamount, (hf row').2.2.2.trans hphone⟩
  have hrow : (RowFilter.row row.id (some row.tenant_id)).holds row' = true := by
    simp [RowFilter.holds, hid, htenant]
  have hupdate := updateRows_concat (f := f) (r := row') (row_holds_false hfresh)
  rw [hrow, if_pos rfl] at hupdate
  rw [← hupdate, ← hd']
  rfl

/-- The statements of the push keep the new row. -/
theorem Added.direct {row : PaymentCore} {s : Stmt} (hs : OnRow row.id row.tenant_id s)
    (hfresh : ∀ r ∈ d.platform_payments, r.id ≠ row.id) (h : Added d row d')
    (c : Choice Exn Env) : Added d row (machine.direct s c d').2 := by
  cases c with
  | fail e => exact h
  | run v =>
      rcases s.exec_cases v d' with ⟨a, d₁, he, hx⟩ | ⟨e, -, hx⟩
      · rw [show machine.direct s (.run v) d' = (.ok a, d₁) from hx]
        cases hs with
        | push =>
            cases he
            exact h
        | store =>
            simp only [Stmt.eval, Except.bind_eq_ok, pure, Except.pure, Except.ok.injEq,
              Prod.mk.injEq] at he
            obtain ⟨checkout, -, -, rfl⟩ := he
            exact h.update hfresh fun _ => ⟨rfl, rfl, rfl, rfl⟩
        | fail =>
            simp only [Stmt.eval, Except.bind_eq_ok, pure, Except.pure, Except.ok.injEq,
              Prod.mk.injEq] at he
            obtain ⟨reason, -, -, rfl⟩ := he
            exact h.update hfresh fun _ => ⟨rfl, rfl, rfl, rfl⟩
      · rw [show machine.direct s (.run v) d' = (.error e, d') from hx]
        exact h

theorem push_block_framed {id tenant_id : UUID} {phone reference description message : String}
    {amount : ℤ} : (push_block .platform_payments id (some tenant_id)
      (stk_push none phone amount reference description) message).Framed (OnRow id tenant_id) := by
  have hget (x : Json) (key : String) (default : Json) :
      (get x key default).Plain (OnRow id tenant_id) := trivial
  refine Prog.Framed.inFrame _ (Prog.Plain.framed (Prog.Plain.tryCatch ?_ fun e => ?_))
  · refine Prog.Plain.bind ?_ fun response => (hget _ _ _).bind fun c => ?_
    · exact Prog.Plain.bind ((Prog.plain_exec _).mpr .push) fun _ => trivial
    · refine Prog.Plain.bind ((Prog.plain_exec _).mpr .store) fun updated => ?_
      cases updated <;> trivial
  · exact Prog.Plain.bind ((Prog.plain_exec _).mpr .fail) fun _ => trivial

/-- The push for a fee that was inserted by hand. -/
def manualPush (t : Tenant) (id : UUID) : M PaymentCore :=
  push_block .platform_payments id (some t.id)
    (stk_push none t.owner_phone (TIER_MONTHLY_FEES t.subscription_tier)
      ("ZS-" ++ front 8 (str id)) "Frixel Connect Fee")
    "Platform billing payment initiation failed: "

/-- The store with a fee that was inserted by hand. -/
def inserted (w : World) (t : Tenant) (m : Money) (d : Store) : Store :=
  { d with platform_payments := d.platform_payments ++ [feeRow w t m none] }

variable {m : Money}

theorem outcome_initiate (hd : Stored d) (ht : t ∈ d.tenants) (hready : Ready w t d)
    (hm : moneyParam (.finite (TIER_MONTHLY_FEES t.subscription_tier) 0) = .ok m)
    (hpos : m.positive = true) (hl : l.txn = .none) :
    Solo.outcome machine w.fate (initiate_platform_billing_payment t.id) d l =
      Solo.outcome machine w.fate (manualPush t (w.uuid t.id)) (inserted w t m d) l := by
  rw [initiate_platform_billing_payment, outcome_select_tenant hl hd ht]
  dsimp only
  rw [Solo.outcome_exec_bind hl (exec_insert hready (hd.phones t ht) hm hpos rfl)]
  rfl

/-- The store after the manual billing is the one after its push. -/
theorem after_trigger (hd : Stored d) (ht : t ∈ d.tenants) (hready : Ready w t d)
    (hm : moneyParam (.finite (TIER_MONTHLY_FEES t.subscription_tier) 0) = .ok m)
    (hpos : m.positive = true) : w.after (trigger_tenant_billing t.id) d =
      w.after (manualPush t (w.uuid t.id)) (inserted w t m d) := by
  rw [World.after, trigger_tenant_billing, outcome_select_tenant rfl hd ht]
  dsimp only
  rw [Prog.bind_eq, Prog.bind, Solo.outcome_handle, outcome_initiate hd ht hready hm hpos rfl]
  have hclosed : (Solo.outcome machine w.fate (manualPush t (w.uuid t.id)) (inserted w t m d)
      ({} : RunLocal)).2.2.txn = .none :=
    (Solo.outcome_keeps (P := fun _ => True) push_block_framed rfl (fun _ _ _ _ => trivial)
      trivial).2
  rw [World.after]
  revert hclosed
  generalize Solo.outcome machine w.fate (manualPush t (w.uuid t.id)) (inserted w t m d)
    ({} : RunLocal) = x
  obtain ⟨r, d₁, l₁⟩ := x
  intro hclosed
  cases r with
  | ok row =>
      have hlog : machine.direct (.log_action "tenant.billing_triggered" t.id)
          (w.fate.stmt (.log_action "tenant.billing_triggered" t.id)) d₁ = (.ok (), d₁) := rfl
      dsimp only
      rw [Solo.outcome_exec_bind hclosed hlog]
      rfl
  | error e => rfl

/-- Billing by hand adds one fee, whatever Daraja answers. -/
theorem manual_adds (hd : Stored d) (ht : t ∈ d.tenants) (hready : Ready w t d)
    (hm : moneyParam (.finite (TIER_MONTHLY_FEES t.subscription_tier) 0) = .ok m)
    (hpos : m.positive = true) :
    Added d (feeRow w t m none) (w.after (trigger_tenant_billing t.id) d) := by
  rw [after_trigger hd ht hready hm hpos]
  refine (Solo.outcome_keeps push_block_framed rfl (fun s hs d' h => ?_) ?_).1
  · exact h.direct hs hready.fresh _
  · exact ⟨feeRow w t m none, rfl, rfl, rfl, rfl, rfl⟩

/-- The update after the push. -/
theorem exec_store_checkout (pushes : List Push) {value : Json} {checkout_id : Option String}
    (hfresh : ∀ r ∈ d.platform_payments, r.id ≠ w.uuid t.id)
    (hvalue : textParam (some 100) value = .ok checkout_id) : ∃ row d',
      machine.direct (.store_checkout .platform_payments value (.row (w.uuid t.id) (some t.id)))
        (w.fate.stmt (.store_checkout .platform_payments value (.row (w.uuid t.id) (some t.id))))
        { inserted w t m d with pushes } = (.ok (some row), d') ∧
      d'.platform_payments = d.platform_payments ++ [feeRow w t m checkout_id] := by
  obtain ⟨d', hd'⟩ : ∃ d', d' = ({ inserted w t m d with pushes } : Store).updateCores
      .platform_payments (RowFilter.row (w.uuid t.id) (some t.id)).holds
      (PaymentCore.pushed checkout_id w.now) := ⟨_, rfl⟩
  have hrow : (RowFilter.row (feeRow w t m none).id (some (feeRow w t m none).tenant_id)).holds
      (feeRow w t m none) = true := by
    simp [RowFilter.holds]
  have hrows : d'.platform_payments = d.platform_payments ++ [feeRow w t m checkout_id] := by
    have hfresh' : ∀ r ∈ d.platform_payments, r.id ≠ (feeRow w t m none).id := hfresh
    have hupdate := updateRows_concat (r := feeRow w t m none)
      (f := PaymentCore.pushed checkout_id w.now)
      (row_holds_false hfresh')
    rw [if_pos hrow] at hupdate
    rw [hd']
    exact hupdate
  have hlast : (RowFilter.row (w.uuid t.id) (some t.id)).holds (feeRow w t m checkout_id) = true := by
    simp [RowFilter.holds, feeRow]
  cases hfound : fetchrow w.pick (RowFilter.row (w.uuid t.id) (some t.id)).holds
      (d'.cores .platform_payments) with
  | none =>
      have hnone := fetchrow_eq_none.mp hfound (feeRow w t m checkout_id) (by
        change _ ∈ d'.platform_payments
        simp [hrows])
      exact absurd hlast hnone
  | some row =>
      refine ⟨row, d', Stmt.exec_eq_ok.mpr ?_, hrows⟩
      simp only [Stmt.eval, hvalue, World.env, bind, Except.bind, ← hd', hfound]
      rfl

/-- When Daraja accepts the push, the fee is pending under the checkout id. -/
theorem manual_accepted (hd : Stored d) (ht : t ∈ d.tenants) (hready : Ready w t d)
    (hm : moneyParam (.finite (TIER_MONTHLY_FEES t.subscription_tier) 0) = .ok m)
    (hpos : m.positive = true) {checkout_id : Option String}
    (haccepts : w.Accepts t.owner_phone checkout_id) :
    (w.after (trigger_tenant_billing t.id) d).platform_payments =
      d.platform_payments ++ [feeRow w t m checkout_id] := by
  obtain ⟨fields, value, hresponse, hvalue, hparam⟩ := haccepts
  rw [after_trigger hd ht hready hm hpos, World.after, manualPush, push_block,
    Solo.outcome_inFrame]
  let l : RunLocal := { frames := [.initiating .platform_payments (w.uuid t.id)] }
  obtain ⟨pushes, hpush⟩ := outcome_stk_push (d := inserted w t m d) (l := l)
    (TIER_MONTHLY_FEES t.subscription_tier) ("ZS-" ++ front 8 (str (w.uuid t.id)))
    "Frixel Connect Fee" rfl hresponse
  obtain ⟨row, d', hstore, hd'⟩ := exec_store_checkout (m := m) pushes hready.fresh hparam
  have hget : (Json.obj fields).get "CheckoutRequestID" .null = .ok value := by
    simp [Json.get, hvalue]
  refine (congrArg Store.platform_payments (Solo.outcome_tryCatch_store ⟨row, l, ?_⟩)).trans hd'
  rw [Solo.outcome_bind_ok hpush, get_bind hget, Solo.outcome_exec_bind rfl hstore]
  rfl

end Manual

section Cron

variable {m : Money}

/-- The billing run bills a tenant whose push is accepted. -/
theorem bill_accepted (hready : Ready w t d) (hl : l.txn = .none)
    (hphone : textParam (some 20) (.str t.owner_phone) = .ok (some t.owner_phone))
    (hm : moneyParam (.finite (TIER_PRICING t.subscription_tier) 0) = .ok m)
    (hpos : m.positive = true) {checkout_id : Option String}
    (haccepts : w.Accepts t.owner_phone checkout_id) :
    (Solo.outcome machine w.fate (bill_tenant t) d l).2.1.platform_payments =
      d.platform_payments ++ [feeRow w t m checkout_id] := by
  obtain ⟨fields, value, hresponse, hvalue, hparam⟩ := haccepts
  obtain ⟨pushes, hpush⟩ := outcome_stk_push (d := d) (TIER_PRICING t.subscription_tier)
    "Frixel Connect" "Frixel Connect Platform" hl hresponse
  have hready' : Ready w t { d with pushes } := ⟨hready.tenant, hready.fresh⟩
  have hitem : Solo.outcome machine w.fate (getItem (.obj fields) "CheckoutRequestID")
      { d with pushes } l = (.ok value, { d with pushes }, l) := by
    simp [getItem, hvalue, Prog.ofExcept, Solo.outcome]
  rw [bill_tenant, Solo.outcome_absorb, Solo.outcome_bind_ok hpush, Solo.outcome_bind_ok hitem,
    Solo.outcome_exec_bind hl (exec_insert hready' hphone hm hpos hparam)]
  rfl

/-- A push that is not accepted leaves no fee. -/
theorem bill_refused (hl : l.txn = .none)
    (hrefused : ∀ checkout_id, ¬ w.Accepts t.owner_phone checkout_id) :
    (Solo.outcome machine w.fate (bill_tenant t) d l).2.1.platform_payments =
      d.platform_payments := by
  rw [bill_tenant, Solo.outcome_absorb]
  cases hresponse : (w.push t.owner_phone).response.bind push_result with
  | error e =>
      obtain ⟨pushes, hpush⟩ := outcome_stk_push (d := d) (TIER_PRICING t.subscription_tier)
        "Frixel Connect" "Frixel Connect Platform" hl hresponse
      rw [Solo.outcome_bind_error hpush]
  | ok result =>
      obtain ⟨pushes, hpush⟩ := outcome_stk_push (d := d) (TIER_PRICING t.subscription_tier)
        "Frixel Connect" "Frixel Connect Platform" hl hresponse
      rw [Solo.outcome_bind_ok hpush]
      rcases outcome_getItem result "CheckoutRequestID" { d with pushes } l with
        ⟨e, hitem⟩ | ⟨fields, value, rfl, hvalue, hitem⟩
      · rw [Solo.outcome_bind_error hitem]
      rw [Solo.outcome_bind_ok hitem]
      let s := Stmt.insert_platform_payment t.id (.finite (TIER_PRICING t.subscription_tier) 0)
        t.owner_phone value
      rcases s.exec_cases (w.env s) { d with pushes } with ⟨row, d', he, -⟩ | ⟨e, -, hx⟩
      · obtain ⟨-, -, -, -, -, hparam⟩ := Stmt.eval_insert_platform_payment he
        exact absurd ⟨fields, value, hresponse, hvalue, hparam⟩ (hrefused row.mpesa_checkout_id)
      · have hfail : machine.direct s (w.fate.stmt s) { d with pushes } =
            (.error e, { d with pushes }) := hx
        rw [Solo.outcome_exec_bind_error hl hfail]

/-- The statements that concern other tenants. -/
inductive NotOf (tenant_id : UUID) : Stmt → Prop
  | read {s : Stmt} (h : s.writes = none) : NotOf tenant_id s
  | push {phone reference description : String} {amount : ℤ} :
      NotOf tenant_id (.post_stk_push none phone amount reference description)
  | suspend {id : UUID} : NotOf tenant_id (.suspend_tenant id)
  | fee {id : UUID} (h : id ≠ tenant_id) {amount : Decimal} {phone : String} {checkout_id : Json} :
      NotOf tenant_id (.insert_platform_payment id amount phone checkout_id)

theorem rowsOf_concat {row : PaymentCore} :
    rowsOf t.id { d with platform_payments := d.platform_payments ++ [row] } =
      if row.tenant_id = t.id then rowsOf t.id d ++ [row] else rowsOf t.id d := by
  by_cases h : row.tenant_id = t.id <;> simp [rowsOf, h]

theorem hasTenant_updateTenant {id : UUID} {f : Tenant → Tenant} (hf : ∀ x, (f x).id = x.id)
    (h : d.hasTenant t.id = true) : (d.updateTenant id f).hasTenant t.id = true := by
  obtain ⟨x, hx, hid⟩ := List.any_eq_true.mp h
  refine List.any_eq_true.mpr ⟨_, mem_updateRows.mpr ⟨x, hx, rfl⟩, ?_⟩
  split
  · rwa [hf]
  · exact hid

/-- The billing of other tenants leaves the fees of the tenant alone. -/
theorem NotOf.keeps_rows {s : Stmt} (hs : NotOf t.id s) (d : Store) :
    rowsOf t.id (machine.direct s (w.fate.stmt s) d).2 = rowsOf t.id d := by
  rcases s.exec_cases (w.env s) d with ⟨a, d', he, hx⟩ | ⟨e, -, hx⟩
  · rw [show machine.direct s (w.fate.stmt s) d = (.ok a, d') from hx]
    cases hs with
    | read hread => rw [Stmt.eval_read hread he]
    | push =>
        cases he
        rfl
    | suspend =>
        cases he
        rfl
    | fee hne =>
        obtain ⟨rfl, -, htenant, -⟩ := Stmt.eval_insert_platform_payment he
        rw [rowsOf_concat, if_neg (htenant ▸ hne)]
  · rw [show machine.direct s (w.fate.stmt s) d = (.error e, d) from hx]

/-- It does not take the id of the tenant's next fee. -/
theorem NotOf.keeps_ready (hw : Function.Injective w.uuid) {s : Stmt} (hs : NotOf t.id s)
    (h : Ready w t d) : Ready w t (machine.direct s (w.fate.stmt s) d).2 := by
  rcases s.exec_cases (w.env s) d with ⟨a, d', he, hx⟩ | ⟨e, -, hx⟩
  · rw [show machine.direct s (w.fate.stmt s) d = (.ok a, d') from hx]
    cases hs with
    | read hread => rwa [Stmt.eval_read hread he]
    | push =>
        cases he
        exact ⟨h.tenant, h.fresh⟩
    | suspend =>
        cases he
        exact ⟨hasTenant_updateTenant (fun _ => rfl) h.tenant, h.fresh⟩
    | fee hne =>
        obtain ⟨rfl, -⟩ := Stmt.eval_insert_platform_payment he
        have hid := Stmt.eval_insert_platform_payment_id he
        refine ⟨h.tenant, fun r hr => ?_⟩
        rcases List.mem_append.mp hr with hr | hr
        · exact h.fresh r hr
        · rw [List.mem_singleton.mp hr, hid]
          exact fun heq => hne (hw heq)
  · rw [show machine.direct s (w.fate.stmt s) d = (.error e, d) from hx]
    exact h

/-- The billing of one tenant ends without an exception. -/
theorem meter_ok (now : Timestamptz) (x : Tenant) (hl : l.txn = .none) :
    (Solo.outcome machine w.fate (meter_tenant now x) d l).1 = .ok () := by
  rw [meter_tenant, outcome_read hl rfl]
  split
  · split
    · have hx : machine.direct (.suspend_tenant x.id) (w.fate.stmt (.suspend_tenant x.id)) d =
          (.ok (), d.updateTenant x.id fun r => { r with status := .suspended }) := rfl
      rw [Solo.outcome_exec hl hx]
    · rw [outcome_read hl rfl]
      split
      · rw [bill_tenant, Solo.outcome_absorb]
      · rfl
  · rfl

/-- The billing of other tenants. -/
theorem meter_notOf (now : Timestamptz) {x : Tenant} (hx : x.id ≠ t.id) :
    (meter_tenant now x).Plain (NotOf t.id) := by
  refine meter_tenant_plain now x (fun s hs => .read ?_) (fun _ _ _ _ => .push)
    (fun _ _ _ => .fee hx) .suspend
  cases hw : s.writes with
  | none => rfl
  | some T => exact absurd (hs T hw) List.not_mem_nil

/-- The billing of all tenants changes the fees of one as its own billing does. -/
theorem forEach_meter {rows' : List PaymentCore} (hw : Function.Injective w.uuid)
    (hmeter : ∀ d l, Ready w t d → rowsOf t.id d = rows → l.txn = .none →
      rowsOf t.id (Solo.outcome machine w.fate (meter_tenant w.now t) d l).2.1 = rows')
    {ts : List Tenant} (hids : (ts.map (·.id)).Nodup) (ht : t ∈ ts) (h : Ready w t d)
    (hrows : rowsOf t.id d = rows) (hl : l.txn = .none) :
    rowsOf t.id (Solo.outcome machine w.fate (.forEach ts (meter_tenant w.now)) d l).2.1 =
      rows' := by
  induction ts generalizing d l with
  | nil => cases ht
  | cons x ts ih =>
      rw [Solo.outcome_forEach_cons (meter_ok w.now x hl)]
      rw [List.map_cons, List.nodup_cons] at hids
      rcases List.mem_cons.mp ht with rfl | ht
      · have hclosed : (Solo.outcome machine w.fate (meter_tenant w.now t) d l).2.2.txn = .none :=
          (Solo.outcome_keeps (φ := fun _ => True) (P := fun _ => True) (meter_tenant_plain w.now t
            (fun _ _ => trivial) (fun _ _ _ _ => trivial) (fun _ _ _ => trivial) trivial).framed hl
            (fun _ _ _ _ => trivial) trivial).2
        have hrest : (Prog.forEach ts (meter_tenant w.now)).Plain (NotOf t.id) :=
          Prog.Plain.forEach fun y hy => meter_notOf w.now fun heq =>
            hids.1 (heq ▸ List.mem_map_of_mem hy)
        exact (Solo.outcome_keeps (P := fun d => rowsOf t.id d = rows') hrest.framed hclosed
          (fun s hs d hd => (hs.keeps_rows d).trans hd) (hmeter d l h hrows hl)).1
      · have hne : x.id ≠ t.id := fun heq => hids.1 (heq ▸ List.mem_map_of_mem ht)
        obtain ⟨⟨hready', hrows'⟩, hclosed⟩ := Solo.outcome_keeps
          (P := fun d => Ready w t d ∧ rowsOf t.id d = rows) (meter_notOf w.now hne).framed hl
          (fun s hs d hd => ⟨hs.keeps_ready hw hd.1, (hs.keeps_rows d).trans hd.2⟩) ⟨h, hrows⟩
        exact ih hids.2 ht hready' hrows' hclosed

/-- The guard of the billing run. -/
theorem recent_push_eq_zero : (d.platform_payments.filter fun r => r.tenant_id == t.id &&
    decide (w.now - 24 * hour < r.created_at) &&
    (r.status == .pending || r.status == .confirmed)).length = 0 ↔ NoRecentPush w d t.id := by
  rw [List.length_eq_zero_iff, List.filter_eq_nil_iff]
  constructor
  · intro h r hr hrecent
    obtain ⟨hr, htenant⟩ := List.mem_filter.mp hr
    have hnot := h r hr
    constructor
    · rintro hs
      exact hnot (by simp [htenant, hrecent, hs])
    · rintro hs
      exact hnot (by simp [htenant, hrecent, hs])
  · intro h r hr hall
    simp only [Bool.and_eq_true, decide_eq_true_eq, Bool.or_eq_true, beq_iff_eq] at hall
    obtain ⟨⟨htenant, hrecent⟩, hs⟩ := hall
    have hnot := h r (List.mem_filter.mpr ⟨hr, by simpa using htenant⟩) hrecent
    rcases hs with hs | hs
    · exact hnot.1 hs
    · exact hnot.2 hs

/-- A tenant that is due, without a recent push, whose push is accepted. -/
theorem meter_billed (hready : Ready w t d) (hl : l.txn = .none)
    (hphone : textParam (some 20) (.str t.owner_phone) = .ok (some t.owner_phone))
    (hm : moneyParam (.finite (TIER_PRICING t.subscription_tier) 0) = .ok m)
    (hpos : m.positive = true) (hdue : Due w t)
    (hweek : (w.now - t.next_billing_date) / day ≤ 7) (hrecent : NoRecentPush w d t.id)
    {checkout_id : Option String} (haccepts : w.Accepts t.owner_phone checkout_id) :
    rowsOf t.id (Solo.outcome machine w.fate (meter_tenant w.now t) d l).2.1 =
      rowsOf t.id d ++ [feeRow w t m checkout_id] := by
  have hcount := recent_push_eq_zero.mpr hrecent
  obtain ⟨hactive, hdate⟩ := hdue
  rw [meter_tenant, outcome_read hl rfl, if_pos ⟨hactive, hdate⟩, if_neg (not_lt.mpr hweek),
    outcome_read hl rfl, World.env_now, if_pos hcount]
  have hrows := bill_accepted hready hl hphone hm hpos haccepts
  rw [rowsOf, hrows, List.filter_append]
  simp [rowsOf, feeRow]

/-- A tenant that the billing run does not bill. -/
theorem meter_unbilled (hl : l.txn = .none)
    (hnot : ¬ ((w.now - t.next_billing_date) / day ≤ 7 ∧ NoRecentPush w d t.id ∧
      ∃ checkout_id, w.Accepts t.owner_phone checkout_id)) :
    rowsOf t.id (Solo.outcome machine w.fate (meter_tenant w.now t) d l).2.1 = rowsOf t.id d := by
  rw [meter_tenant, outcome_read hl rfl]
  split
  · split
    · have hx : machine.direct (.suspend_tenant t.id) (w.fate.stmt (.suspend_tenant t.id)) d =
          (.ok (), d.updateTenant t.id fun r => { r with status := .suspended }) := rfl
      rw [Solo.outcome_exec hl hx]
      rfl
    · next hweek =>
        rw [outcome_read hl rfl]
        split
        · next hcount =>
            have hrefused : ∀ checkout_id, ¬ w.Accepts t.owner_phone checkout_id :=
              fun c hc => hnot ⟨not_lt.mp hweek, recent_push_eq_zero.mp hcount, c, hc⟩
            rw [rowsOf, bill_refused hl hrefused, rowsOf]
        · rfl
  · rfl

theorem after_cron {rows' : List PaymentCore} (hd : Stored d) (hw : w.Fresh d)
    (ht : t ∈ d.tenants) (hmeter : ∀ d' l, Ready w t d' → rowsOf t.id d' = rowsOf t.id d →
      l.txn = .none → rowsOf t.id (Solo.outcome machine w.fate (meter_tenant w.now t) d' l).2.1 =
        rows') : rowsOf t.id (w.after tenant_billing_cron d) = rows' := by
  have hready : Ready w t d :=
    ⟨List.any_eq_true.mpr ⟨t, ht, by simp⟩, fun r hr => hw.rows r hr t.id⟩
  rw [World.after, tenant_billing_cron, Solo.outcome_absorb, outcome_read rfl rfl,
    outcome_read rfl rfl]
  exact forEach_meter hw.injective hmeter hd.ids ht hready rfl rfl

end Cron

/-- What the manual billing inserts agrees with what the billing run inserts only where the
condition holds. -/
theorem manual_billing_equals_cron_iff (hd : Stored d) (hw : w.Fresh d) (ht : t ∈ d.tenants)
    (hdue : Due w t) : fees t.id (w.after (trigger_tenant_billing t.id) d) =
      fees t.id (w.after tenant_billing_cron d) ↔ BilledAlike w d t := by
  have hready : Ready w t d :=
    ⟨List.any_eq_true.mpr ⟨t, ht, by simp⟩, fun r hr => hw.rows r hr t.id⟩
  have hphone := hd.phones t ht
  obtain ⟨m, m', hm, hpos, hm', hpos', hfee⟩ := moneyParam_fees t.subscription_tier
  obtain ⟨row', hadded, -, htenant, hamount, -⟩ := manual_adds hd ht hready hm hpos
  have hmanual : fees t.id (w.after (trigger_tenant_billing t.id) d) =
      fees t.id d ++ [row'.fee] := by
    rw [fees, rowsOf, hadded, List.filter_append]
    simp [fees, rowsOf, htenant, feeRow]
  by_cases hbilled : (w.now - t.next_billing_date) / day ≤ 7 ∧ NoRecentPush w d t.id ∧
      ∃ checkout_id, w.Accepts t.owner_phone checkout_id
  · obtain ⟨hweek, hrecent, checkout_id, haccepts⟩ := hbilled
    have hcron : fees t.id (w.after tenant_billing_cron d) =
        fees t.id d ++ [(feeRow w t m' checkout_id).fee] := by
      rw [fees, fees, ← List.map_singleton, ← List.map_append]
      congr 1
      refine after_cron hd hw ht fun d' l hready' hrows hl => ?_
      have hrecent' : NoRecentPush w d' t.id := by rwa [NoRecentPush, hrows]
      rw [meter_billed hready' hl hphone hm' hpos' hdue hweek hrecent' haccepts, hrows]
    have hrow : row' = feeRow w t m checkout_id := by
      have heq := manual_accepted hd ht hready hm hpos haccepts
      rw [hadded] at heq
      simpa using heq
    rw [hmanual, hcron, hrow, List.append_cancel_left_eq]
    constructor
    · intro h
      have hsame : m = m' := by simpa [PaymentCore.fee, feeRow] using h
      exact ⟨hfee.mp hsame, hweek, hrecent, checkout_id, haccepts⟩
    · intro h
      rw [hfee.mpr h.1]
  · have hcron : fees t.id (w.after tenant_billing_cron d) = fees t.id d := by
      rw [fees, fees]
      congr 1
      refine after_cron hd hw ht fun d' l _ hrows hl => ?_
      rw [← hrows]
      refine meter_unbilled hl fun h => hbilled ⟨h.1, ?_, h.2.2⟩
      have hrecent := h.2.1
      rwa [NoRecentPush, hrows] at hrecent
    constructor
    · intro h
      rw [hmanual, hcron] at h
      simp at h
    · exact fun h => absurd h.2 hbilled

section Decidable

instance (id : UUID) : Decidable (NoRecentPush w d id) :=
  inferInstanceAs (Decidable (∀ r ∈ rowsOf id d, _))

instance : Decidable (Due w t) := inferInstanceAs (Decidable (_ ∧ _))

instance : Decidable (Stored d) :=
  decidable_of_iff (_ ∧ ∀ t ∈ d.tenants, _) ⟨fun h => ⟨h.1, h.2⟩, fun h => ⟨h.ids, h.phones⟩⟩

end Decidable

/-- A tenant of the tier, whose due date has just come. -/
def dueTenant (subscription_tier : SubscriptionTier) : Tenant :=
  { id := 1, owner_phone := "254700000001", subscription_tier, next_billing_date := 0 }

def dueStore (tier : SubscriptionTier) : Store := { tenants := [dueTenant tier] }

/-- Daraja accepts every push. -/
def acceptingWorld : World where
  now := day
  uuid := id
  push _ := .accepted "ws_CO_9" (.ok { is_success := true, json := .ok (.obj
    [("ResponseCode", .str "0"), ("CheckoutRequestID", .str "ws_CO_9")]) })

theorem fresh_dueStore (tier : SubscriptionTier) : acceptingWorld.Fresh (dueStore tier) where
  rows r hr := by cases hr
  injective := Function.injective_id

theorem accepts_dueStore : acceptingWorld.Accepts "254700000001" (some "ws_CO_9") :=
  ⟨_, .str "ws_CO_9", rfl, rfl, by decide⟩

/-- A tenant of the second tier is billed alike. -/
theorem manual_billing_equals_cron_growth : fees 1 (acceptingWorld.after
    (trigger_tenant_billing 1) (dueStore .growth)) =
      fees 1 (acceptingWorld.after tenant_billing_cron (dueStore .growth)) :=
  (manual_billing_equals_cron_iff (t := dueTenant .growth) (by decide) (fresh_dueStore .growth)
    (List.mem_singleton_self _) (by decide)).mpr
      ⟨by decide, by decide, by decide, some "ws_CO_9", accepts_dueStore⟩

/-- A tenant of the smallest tier is asked for another amount. -/
theorem not_manual_billing_equals_cron : ¬ ∀ (w : World) (d : Store) (t : Tenant), Stored d →
    w.Fresh d → t ∈ d.tenants → Due w t →
      fees t.id (w.after (trigger_tenant_billing t.id) d) =
        fees t.id (w.after tenant_billing_cron d) := by
  intro h
  have hsame := h acceptingWorld (dueStore .starter) (dueTenant .starter) (by decide)
    (fresh_dueStore .starter) (List.mem_singleton_self _) (by decide)
  revert hsame
  decide +kernel

end ManualBilling

end FrixelConnect
