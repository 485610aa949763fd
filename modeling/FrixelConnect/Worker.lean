import FrixelConnect.Webhooks

/-!
# The background worker

The queued voucher task with its retries, and the cron jobs that reconcile
payments, poll Daraja and bill the tenants.
-/

namespace FrixelConnect

open Decimals Calendar Python Interleaving

def max_tries : ℕ := 4

def delays : List ℕ := [5, 15, 45]

def generate_voucher_task (job : Job) : M (Option String) := do
  let payment ← exec (.select_payment job.payment_id job.tenant_id)
  match payment with
  | none => return none
  | some _ =>
      (do
        let code ← generate_voucher job.payment_id job.tenant_id
        (exec (.generate_invoice job.payment_id)).tryCatch fun _ => pure ()
        return some code : M (Option String)).tryCatch fun e =>
          if max_tries ≤ job.job_try then throw e
          else throw (.retry (delays[job.job_try - 1]?.getD 0))

/-- What the queue does with a job: an attempt that asks for a retry is queued again. -/
def run_job (job : Job) : M (Option String) :=
  (generate_voucher_task job).tryCatch fun e => match e with
    | .retry _ => do
        exec (.enqueue_job { job with job_try := job.job_try + 1 })
        return none
    | e => throw e

def reconcile_payments_cron : M Unit := do
  let stuck_payments ← exec .select_stuck
  .forEach stuck_payments fun row =>
    exec (.enqueue_job { payment_id := row.id, tenant_id := row.tenant_id })

/-- The receipt of a payment that the poller confirms. -/
def fallback_receipt (checkout_id : String) : String := "POLL-" ++ back 10 checkout_id

/-- The transaction of a successful query. -/
def confirm_polled (t : PaymentTable) (checkout_id : String) (row : PaymentCore) : M Unit :=
  Prog.transaction (confirm_and_extend t (.str (fallback_receipt checkout_id)) (.pending row.id)
    row.tenant_id)

/-- What the poller does with Daraja's answer about one row. -/
def apply_query (t : PaymentTable) (row : PaymentCore) (checkout_id : String)
    (result : Json) : M Unit := do
  let response_code ← get result "ResponseCode"
  if response_code.eqText "pending" then
    return ()
  let result_code ← get result "ResultCode"
  let result_desc ← get result "ResultDesc" (.str "No description provided.")
  if result_code.text = "0" then
    let confirmed ← absorbUnique (confirm_polled t checkout_id row)
    queue_voucher t row confirmed
  else
    exec (.fail t result_desc (.pending row.id))

def poll_row (t : PaymentTable) (row : PaymentCore) : M Unit :=
  (do
    let checkout_id := row.mpesa_checkout_id.getD ""
    let result ← stk_push_query checkout_id
    apply_query t row checkout_id result : M Unit).tryCatch fun _ => pure ()

def poll_pending_daraja_payments_cron : M Unit := do
  let pending_payments ← exec (.select_pending .payments)
  let pending_platform ← exec (.select_pending .platform_payments)
  .forEach (pending_payments.map (PaymentTable.payments, ·) ++
      pending_platform.map (PaymentTable.platform_payments, ·)) fun r =>
    poll_row r.1 r.2

def TIER_PRICING : SubscriptionTier → ℤ
  | .starter => 1000
  | .growth => 5000
  | .scale => 15000
  | .enterprise => 50000

/-- The push for a tenant's fee; the row is inserted after Daraja has accepted. -/
def bill_tenant (t : Tenant) : M Unit :=
  (do
    let amount := TIER_PRICING t.subscription_tier
    let result ← stk_push none t.owner_phone amount "Frixel Connect" "Frixel Connect Platform"
    let checkout_id ← getItem result "CheckoutRequestID"
    let _ ← exec (.insert_platform_payment t.id (.finite amount 0) t.owner_phone checkout_id)
    return () : M Unit).tryCatch fun _ => pure ()

def meter_tenant (now : Timestamptz) (t : Tenant) : M Unit := do
  let _ ← exec (.count_customers t.id)
  if t.status = .active ∧ t.next_billing_date ≤ now then
    if 7 < (now - t.next_billing_date) / day then
      exec (.suspend_tenant t.id)
    else
      let recent_push ← exec (.count_recent_pushes t.id)
      if recent_push = 0 then
        bill_tenant t

def tenant_billing_cron : M Unit :=
  (do
    let tenants ← exec .select_tenants
    let now ← exec .utc_now
    .forEach tenants (meter_tenant now) : M Unit).tryCatch fun _ => pure ()

end FrixelConnect
