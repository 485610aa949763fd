import FrixelConnect.Schema
import FrixelConnect.Interleaving.Machine
import Mathlib.Tactic.CasesM
import Mathlib.Data.Fintype.Defs

/-!
# Statements of the application

One constructor for each SQL statement, Redis call, HTTP call and random draw
of the modelled functions. Statements that differ in the table only share a
constructor. `Stmt.eval` says what a statement answers and what it does to the
store; a statement that raises has no effect.

## Implementation notes

Rows come back whole, and a caller reads the columns that its `SELECT` names.
Constraints are checked where a modelled statement can violate them. Of the row
locks only those on `users` are kept: they are what `FOR UPDATE` waits for. The
others delay an update until an open transaction on the same row ends, and the
effects of a transaction reach the store together at its commit anyway.
-/

namespace FrixelConnect

open Decimals Calendar Python Interleaving

/-- The unique constraints that modelled statements can violate. -/
inductive Constraint where
  | primary_key
  | mpesa_receipt_number (t : PaymentTable)
  | vouchers_payment_id_unique
  | vouchers_code_unique
  | wallet_transactions_reference_unique
  | users_email_unique
  | users_phone_unique
  | users_wallet_reference_unique
  | tenants_owner_email_unique
  | tenants_owner_phone_unique
  | packages_tenant_name_unique
  | refresh_tokens_token_hash
  | routers_tenant_name_unique
  | setup_tokens_token
  | pre_auth_tokens_token_hash
  | invoices_tenant_number
  | invoices_payment_id
  deriving DecidableEq

def Constraint.name : Constraint → String
  | .primary_key => "pkey"
  | .mpesa_receipt_number .payments => "payments_mpesa_receipt_number_key"
  | .mpesa_receipt_number .platform_payments => "platform_payments_mpesa_receipt_number_key"
  | .vouchers_payment_id_unique => "vouchers_payment_id_unique"
  | .vouchers_code_unique => "vouchers_code_unique"
  | .wallet_transactions_reference_unique => "wallet_transactions_reference_unique"
  | .users_email_unique => "users_email_unique"
  | .users_phone_unique => "users_phone_unique"
  | .users_wallet_reference_unique => "users_wallet_reference_unique"
  | .tenants_owner_email_unique => "tenants_owner_email_unique"
  | .tenants_owner_phone_unique => "tenants_owner_phone_unique"
  | .packages_tenant_name_unique => "packages_tenant_name_unique"
  | .refresh_tokens_token_hash => "refresh_tokens_token_hash_key"
  | .routers_tenant_name_unique => "routers_tenant_name_unique"
  | .setup_tokens_token => "setup_tokens_token_key"
  | .pre_auth_tokens_token_hash => "super_admin_pre_auth_tokens_token_hash_key"
  | .invoices_tenant_number => "invoices_tenant_id_invoice_number_key"
  | .invoices_payment_id => "invoices_payment_id_key"

/-- Exceptions. `database` is any error of the driver other than a unique violation,
`lost` any failure of another party or of the connection to it, `exception` a plain one. -/
inductive Exn where
  | uniqueViolation (c : Constraint)
  | database (message : String)
  | inFailedTransaction
  | lost (message : String)
  | darajaError (message : String)
  | valueError (message : String)
  | keyError (key : String)
  | fault (f : Fault)
  | decimal (s : Signal)
  | notFound (resource identifier : String)
  | unauthorised (detail : String)
  | forbidden (detail : String)
  | conflict (detail : String)
  | payment (detail : String)
  | insufficientBalance (detail : String)
  | retry (defer : ℕ)
  | exception (message : String)
  deriving DecidableEq

/-- `str(e)`. -/
def Exn.str : Exn → String
  | .uniqueViolation c => "duplicate key value violates unique constraint \"" ++ c.name ++ "\""
  | .database message => message
  | .inFailedTransaction =>
      "current transaction is aborted, commands ignored until end of transaction block"
  | .lost message => message
  | .darajaError message => message
  | .valueError message => message
  | .keyError key => "'" ++ key ++ "'"
  | .fault .attributeError => "object has no attribute 'get'"
  | .fault .typeError => "'NoneType' object is not iterable"
  | .decimal .invalidOperation => "[<class 'decimal.InvalidOperation'>]"
  | .decimal .overflow => "[<class 'decimal.Overflow'>]"
  | .notFound resource identifier => "404: " ++ resource ++ " '" ++ identifier ++ "' not found."
  | .unauthorised detail => "401: " ++ detail
  | .forbidden detail => "403: " ++ detail
  | .conflict detail => "409: " ++ detail
  | .payment detail => "402: " ++ detail
  | .insufficientBalance detail => "402: " ++ detail
  | .retry _ => "<Retry>"
  | .exception message => message

/-- What an HTTP call comes back with. -/
structure HttpResponse where
  is_success : Bool
  status_code : ℕ := 200
  json : Except Exn Json

/-- What Daraja does with a push request: it refuses it, or accepts it under a
`CheckoutRequestID`; in both cases the caller may or may not get an answer. -/
inductive PushOutcome where
  | refused (response : Except Exn HttpResponse)
  | accepted (checkout_id : String) (response : Except Exn HttpResponse)

/-- The id under which Daraja has accepted the push. -/
def PushOutcome.checkout_id : PushOutcome → Option String
  | .refused _ => none
  | .accepted checkout_id _ => some checkout_id

/-- The answer that the caller gets. -/
def PushOutcome.response : PushOutcome → Except Exn HttpResponse
  | .refused response => response
  | .accepted _ response => response

/-- What the environment contributes to one statement. -/
structure Env where
  now : Timestamptz := 0
  uuid : UUID := 0
  /-- Which of several rows comes first where the statement gives no order. -/
  pick : ℕ := 0
  draw : ℕ → ℕ := fun _ => 0
  text : String := ""
  push : PushOutcome := .refused (.error (.lost ""))
  query : Except Exn HttpResponse := .error (.lost "")

inductive RadiusTable where
  | radcheck
  | radreply
  deriving DecidableEq

namespace PaymentCore

/-- `SET status = 'confirmed', mpesa_receipt_number = $1, updated_at = NOW()`. -/
def confirmed (receipt : Option String) (now : Timestamptz) (r : PaymentCore) : PaymentCore :=
  { r with status := .confirmed, mpesa_receipt_number := receipt, updated_at := now }

/-- `SET status = 'failed', failure_reason = $1, updated_at = NOW()`. -/
def failed (reason : Option String) (now : Timestamptz) (r : PaymentCore) : PaymentCore :=
  { r with status := .failed, failure_reason := reason, updated_at := now }

/-- `SET mpesa_checkout_id = $1, updated_at = NOW()`. -/
def pushed (checkout_id : Option String) (now : Timestamptz) (r : PaymentCore) : PaymentCore :=
  { r with mpesa_checkout_id := checkout_id, updated_at := now }

end PaymentCore

/-- `SET next_billing_date = next_billing_date + INTERVAL '1 month', status = 'active'`. -/
def Tenant.extended (r : Tenant) : Tenant :=
  { r with next_billing_date := plusMonth r.next_billing_date, status := .active }

/-- The `WHERE` of an update of a payment table. -/
inductive RowFilter where
  /-- `id = $1 AND tenant_id = $2`, without the second part where there is no tenant. -/
  | row (id : UUID) (tenant_id : Option UUID)
  /-- `id = $1 AND status = 'pending'` -/
  | pending (id : UUID)
  deriving DecidableEq

namespace RowFilter

def id : RowFilter → UUID
  | .row id _ => id
  | .pending id => id

def holds : RowFilter → PaymentCore → Bool
  | .row id tenant_id, r => r.id == id && tenant_id.all fun t => r.tenant_id == t
  | .pending id, r => r.id == id && r.status == .pending

end RowFilter

/-- The columns of `users` that are unique over all tenants. -/
inductive Contact where
  | email
  | phone
  deriving DecidableEq

namespace Contact

def of : Contact → User → String
  | .email, u => u.email
  | .phone, u => u.phone

def set : Contact → String → User → User
  | .email, value, u => { u with email := value }
  | .phone, value, u => { u with phone := value }

/-- The length of the column. -/
def limit : Contact → ℕ
  | .email => 255
  | .phone => 20

def unique : Contact → Constraint
  | .email => .users_email_unique
  | .phone => .users_phone_unique

end Contact

inductive Stmt where
  | select_by_checkout (t : PaymentTable) (checkout_id : Json)
  | select_pending (t : PaymentTable)
  | confirm (t : PaymentTable) (receipt : Json) (w : RowFilter)
  | fail (t : PaymentTable) (reason : Json) (w : RowFilter)
  | store_checkout (t : PaymentTable) (checkout_id : Json) (w : RowFilter)
  | insert_payment (customer_id package_id : UUID) (amount_kes : Decimal)
      (status : PaymentStatus) (phone : String) (tenant_id : UUID)
      (checkout_id receipt : Option String)
  | insert_platform_payment (tenant_id : UUID) (amount_kes : Decimal) (phone : String)
      (checkout_id : Json)
  | select_payment (id tenant_id : UUID)
  | select_payment_package (id tenant_id : UUID)
  | select_payment_voucher (id : UUID)
  | select_stuck
  | count_trials (customer_id tenant_id : UUID)
  | count_recent_pushes (tenant_id : UUID)
  | select_tenants
  | select_tenant (id : UUID)
  | extend_tenant (id : UUID)
  | suspend_tenant (id : UUID)
  | set_tenant_status (id : UUID) (status : TenantStatus)
  | count_customers (tenant_id : UUID)
  | select_user_by_phone (phone : String) (tenant_id : UUID)
  | select_user_by_contact (email phone : String) (tenant_id : UUID)
  | select_other_user (c : Contact) (value : String) (tenant_id id : UUID)
  | count_wallet_reference (wallet_reference : String)
  | insert_guest (email phone hashed_password : String) (tenant_id : UUID)
  | insert_user (email phone hashed_password : String) (role : Role) (reseller_id : Option UUID)
      (tenant_id : UUID) (wallet_reference : Option String)
  | set_contact (c : Contact) (value : String) (id tenant_id : UUID)
  | select_contact (id tenant_id : UUID)
  | select_account (variants : List String)
  | set_hashed_password (hashed_password : String) (id tenant_id : UUID)
  | select_customer (id : UUID)
  | select_reseller (wallet_reference : String)
  | lock_user (id tenant_id : UUID)
  | select_package (id tenant_id : UUID)
  | select_trial_package (tenant_id : UUID)
  | insert_trial_package (tenant_id : UUID)
  | count_code (code : String) (tenant_id : UUID)
  | insert_voucher (payment_id customer_id package_id : UUID) (code : String)
      (tenant_id : UUID) (router_id : Option UUID)
  | delete_radius (t : RadiusTable) (username : String) (tenant_id : UUID)
  | insert_radius (t : RadiusTable) (row : RadiusRow)
  | select_voucher (payment_id : UUID)
  | select_balance (reseller_id tenant_id : UUID)
  | next_sequence_id
  | insert_wallet_transaction (sequence_id : ℕ) (tenant_id reseller_id : UUID)
      (type : TransactionType) (amount_kes balance_after : Decimal) (reference : Json)
  | enqueue_job (job : Job)
  | post_stk_push (payment_id : Option UUID) (phone : String) (amount : ℤ)
      (account_reference description : String)
  | post_stk_query (checkout_id : String)
  | send_sms (phone : Option String) (message : String)
  | generate_invoice (payment_id : UUID)
  | log_action (action : String) (target_id : UUID)
  | generate_voucher_code (length : ℕ)
  | token_hex (bytes : ℕ)
  | uuid4
  | hash_password (plain : String)
  | utc_now

namespace Stmt

/-- The type of a statement's answer. -/
abbrev Res : Stmt → Type
  | .select_by_checkout .. => Option PaymentCore
  | .select_pending .. => List PaymentCore
  | .store_checkout .. => Option PaymentCore
  | .insert_payment .. => Payment
  | .insert_platform_payment .. => PaymentCore
  | .select_payment .. => Option Payment
  | .select_payment_package .. => Option (Payment × Package)
  | .select_payment_voucher .. => Option (Payment × Option String)
  | .select_stuck => List Payment
  | .count_trials .. => ℕ
  | .count_recent_pushes .. => ℕ
  | .select_tenants => List Tenant
  | .select_tenant .. => Option Tenant
  | .count_customers .. => ℕ
  | .select_user_by_phone .. => Option User
  | .select_user_by_contact .. => Option User
  | .select_other_user .. => Option User
  | .count_wallet_reference .. => ℕ
  | .insert_guest .. => User
  | .insert_user .. => User
  | .select_contact .. => Option User
  | .select_account .. => Option (User × TenantStatus)
  | .select_customer .. => Option User
  | .select_reseller .. => Option User
  | .lock_user .. => Option User
  | .select_package .. => Option Package
  | .select_trial_package .. => Option Package
  | .insert_trial_package .. => Package
  | .count_code .. => ℕ
  | .select_voucher .. => Option Voucher
  | .select_balance .. => Option Money
  | .next_sequence_id => ℕ
  | .insert_wallet_transaction .. => WalletTransaction
  | .post_stk_push .. => Except Exn HttpResponse
  | .post_stk_query .. => Except Exn HttpResponse
  | .generate_voucher_code .. => String
  | .token_hex .. => String
  | .uuid4 => UUID
  | .hash_password .. => String
  | .utc_now => Timestamptz
  | _ => Unit

/-- The statement runs on the database connection. The number of a ledger row is drawn
outside the transaction, as from any sequence. -/
def inTx : Stmt → Bool
  | .next_sequence_id => false
  | .enqueue_job .. => false
  | .post_stk_push .. => false
  | .post_stk_query .. => false
  | .send_sms .. => false
  | .generate_invoice .. => false
  | .generate_voucher_code .. => false
  | .token_hex .. => false
  | .uuid4 => false
  | .hash_password .. => false
  | .utc_now => false
  | _ => true

/-- The rows of `users` that the statement locks. -/
def locks : Stmt → List UUID
  | .lock_user id _ => [id]
  | .set_hashed_password _ id _ => [id]
  | .set_contact _ _ id _ => [id]
  | _ => []

end Stmt

/-- Raise `e` unless `b`. -/
def check (b : Bool) (e : Exn) : Except Exn Unit := if b then .ok () else .error e

@[simp] theorem check_eq_ok {b : Bool} {e : Exn} {u : Unit} : check b e = .ok u ↔ b = true := by
  cases b <;> simp [check]

theorem Except.bind_eq_ok {ε α β : Type} {x : Except ε α} {f : α → Except ε β} {b : β} :
    (x >>= f) = .ok b ↔ ∃ a, x = .ok a ∧ f a = .ok b := by
  cases x <;> simp [bind, Except.bind]

/-- The first row that satisfies `p`, in whatever order the database returns them. -/
def fetchrow {α : Type} (pick : ℕ) (p : α → Bool) (rows : List α) : Option α :=
  let found := rows.filter p
  found[pick % found.length]?

theorem fetchrow_eq_some {α : Type} {pick : ℕ} {p : α → Bool} {rows : List α} {r : α}
    (h : fetchrow pick p rows = some r) : r ∈ rows ∧ p r = true :=
  List.mem_filter.mp (List.mem_of_getElem? h)

theorem fetchrow_eq_none {α : Type} {pick : ℕ} {p : α → Bool} {rows : List α} :
    fetchrow pick p rows = none ↔ ∀ r ∈ rows, ¬ p r = true := by
  rw [fetchrow, List.getElem?_eq_none_iff, ← List.filter_eq_nil_iff]
  constructor
  · intro h
    by_contra hne
    exact absurd (Nat.mod_lt pick (List.length_pos_iff.mpr hne)) (by omega)
  · intro h
    simp [h]

/-- The only row that satisfies `p`. -/
theorem fetchrow_unique {α : Type} {pick : ℕ} {p : α → Bool} {rows : List α} {r : α}
    (hr : r ∈ rows) (hp : p r = true) (hunique : ∀ r' ∈ rows, p r' = true → r' = r) :
    fetchrow pick p rows = some r := by
  cases h : fetchrow pick p rows with
  | none => exact absurd hp (fetchrow_eq_none.mp h r hr)
  | some r' =>
      obtain ⟨hmem, hp'⟩ := fetchrow_eq_some h
      rw [hunique r' hmem hp']

/-- A value for a text column of at most `limit` characters. -/
def textParam (limit : Option ℕ) : Json → Except Exn (Option String)
  | .null => .ok none
  | .str s => do
      check (!s.toList.contains (Char.ofNat 0)) (.database "invalid byte sequence for encoding")
      check (limit.all fun n => s.length ≤ n) (.database "value too long for type character varying")
      pure (some s)
  | _ => .error (.database "invalid input for query argument: expected str")

def notNull {α : Type} : Option α → Except Exn α
  | some a => .ok a
  | none => .error (.database "null value violates not-null constraint")

/-- A value for a `NUMERIC(10, 2)` column. -/
def moneyParam (x : Decimal) : Except Exn Money :=
  match Column.store 10 2 x with
  | some m => .ok m
  | none => .error (.database "numeric field overflow")

/-- Alphabet excluding easily confused characters. -/
def VOUCHER_ALPHABET : String := "ABCDEFGHJKMNPQRSTUVWXYZ23456789"

def codeOfDraws (draw : ℕ → ℕ) (length : ℕ) : String :=
  String.ofList ((List.range length).map fun i => VOUCHER_ALPHABET.toList[draw i % 31]?.getD 'A')

def hexOfDraws (draw : ℕ → ℕ) (bytes : ℕ) : String :=
  String.ofList ((List.range (2 * bytes)).map fun i => hexDigit (draw i % 16))

namespace Store

variable (d : Store)

def hasTenant (id : UUID) : Bool := d.tenants.any fun r => r.id == id
def hasUser (id : UUID) : Bool := d.users.any fun r => r.id == id
def hasPackage (id : UUID) : Bool := d.packages.any fun r => r.id == id
def hasPayment (id : UUID) : Bool := d.payments.any fun r => r.id == id

/-- Another row of the table carries the receipt. -/
def receiptTaken (t : PaymentTable) (receipt : String) (p : PaymentCore → Bool) : Bool :=
  (d.cores t).any fun r => !p r && r.mpesa_receipt_number == some receipt

/-- Write a receipt and the status to the rows that satisfy `p`. -/
def confirmRows (t : PaymentTable) (receipt : Option String) (p : PaymentCore → Bool)
    (now : Timestamptz) : Except Exn Store := do
  check (receipt.all fun s => !(d.cores t).any p || !d.receiptTaken t s p)
    (.uniqueViolation (.mpesa_receipt_number t))
  pure (d.updateCores t p (PaymentCore.confirmed receipt now))

def updateTenant (id : UUID) (f : Tenant → Tenant) : Store :=
  { d with tenants := updateRows (fun r => r.id == id) f d.tenants }

@[simp] theorem cores_updateTenant (id : UUID) (f : Tenant → Tenant) (t : PaymentTable) :
    (d.updateTenant id f).cores t = d.cores t := by
  cases t <;> rfl

/-- The rows of `radcheck` or `radreply`. -/
def radius : RadiusTable → List RadiusRow
  | .radcheck => d.radcheck
  | .radreply => d.radreply

def setRadius (t : RadiusTable) (rows : List RadiusRow) : Store :=
  match t with
  | .radcheck => { d with radcheck := rows }
  | .radreply => { d with radreply := rows }

/-- The ledger rows of a reseller within a tenant. -/
def ledger (reseller_id tenant_id : UUID) : List WalletTransaction :=
  d.wallet_transactions.filter fun w => w.reseller_id == reseller_id && w.tenant_id == tenant_id

end Store

/-- `ORDER BY sequence_id DESC LIMIT 1`. -/
def lastEntry (rows : List WalletTransaction) : Option WalletTransaction :=
  rows.foldl (fun best w => match best with
    | none => some w
    | some b => if b.sequence_id < w.sequence_id then some w else some b) none

/-- The row is pending, has a checkout id, and is between two minutes and two hours old. -/
def PaymentCore.pollable (r : PaymentCore) (now : Timestamptz) : Bool :=
  r.status == .pending && r.mpesa_checkout_id.isSome &&
    decide (r.created_at < now - 2 * minute) && decide (now - 2 * hour < r.created_at)

/-- Confirmed, older than two minutes, and without a voucher in its tenant. -/
def Payment.stuck (p : Payment) (vouchers : List Voucher) (now : Timestamptz) : Bool :=
  p.status == .confirmed && decide (p.created_at < now - 2 * minute) &&
    !vouchers.any fun w => w.payment_id == p.id && w.tenant_id == p.tenant_id

/-- What a statement answers and the store after it, or what it raises. -/
def Stmt.eval (v : Env) (d : Store) : (s : Stmt) → Except Exn (s.Res × Store)
  | .select_by_checkout t checkout_id => do
      let checkout_id ← textParam none checkout_id
      pure (checkout_id.bind fun c =>
        fetchrow v.pick (fun r => r.mpesa_checkout_id == some c) (d.cores t), d)
  | .select_pending t => pure ((d.cores t).filter fun r => r.pollable v.now, d)
  | .confirm t receipt w => do
      let receipt ← textParam (some 20) receipt
      let d' ← d.confirmRows t receipt w.holds v.now
      pure ((), d')
  | .fail t reason w => do
      let reason ← textParam none reason
      pure ((), d.updateCores t w.holds (PaymentCore.failed reason v.now))
  | .store_checkout t checkout_id w => do
      let checkout_id ← textParam (some 100) checkout_id
      let d' := d.updateCores t w.holds (PaymentCore.pushed checkout_id v.now)
      pure (fetchrow v.pick w.holds (d'.cores t), d')
  | .insert_payment customer_id package_id amount_kes status phone tenant_id checkout_id
      receipt => do
      let amount_kes ← moneyParam amount_kes
      let phone_number ← textParam (some 20) (.str phone)
      let checkout ← textParam (some 100) ((checkout_id.map Json.str).getD .null)
      let receipt ← textParam (some 20) ((receipt.map Json.str).getD .null)
      check amount_kes.positive (.database "payments_amount_kes_check")
      check (d.payments.all fun r => r.id != v.uuid) (.uniqueViolation .primary_key)
      check (receipt.all fun s => !d.receiptTaken .payments s fun _ => false)
        (.uniqueViolation (.mpesa_receipt_number .payments))
      check (d.hasUser customer_id) (.database "payments_customer_id_fkey")
      check (d.hasPackage package_id) (.database "payments_package_id_fkey")
      check (d.hasTenant tenant_id) (.database "payments_tenant_id_fkey")
      let row : Payment := {
        id := v.uuid, customer_id, package_id, amount_kes, status, tenant_id
        phone_number := phone_number.getD phone, mpesa_checkout_id := checkout
        mpesa_receipt_number := receipt, created_at := v.now, updated_at := v.now }
      pure (row, { d with payments := d.payments ++ [row] })
  | .insert_platform_payment tenant_id amount_kes phone checkout_id => do
      let amount_kes ← moneyParam amount_kes
      let phone_number ← textParam (some 20) (.str phone)
      let checkout ← textParam (some 100) checkout_id
      check amount_kes.positive (.database "platform_payments_amount_kes_check")
      check (d.platform_payments.all fun r => r.id != v.uuid) (.uniqueViolation .primary_key)
      check (d.hasTenant tenant_id) (.database "platform_payments_tenant_id_fkey")
      let row : PaymentCore := {
        id := v.uuid, tenant_id, amount_kes, phone_number := phone_number.getD phone
        mpesa_checkout_id := checkout, created_at := v.now, updated_at := v.now }
      pure (row, { d with platform_payments := d.platform_payments ++ [row] })
  | .select_payment id tenant_id =>
      pure (fetchrow v.pick (fun r => r.id == id && r.tenant_id == tenant_id) d.payments, d)
  | .select_payment_package id tenant_id =>
      let joined := d.payments.flatMap fun p =>
        (d.packages.filter fun pkg => pkg.id == p.package_id && pkg.tenant_id == tenant_id).map
          fun pkg => (p, pkg)
      pure (fetchrow v.pick (fun r => r.1.id == id && r.1.tenant_id == tenant_id) joined, d)
  | .select_payment_voucher id =>
      let joined := d.payments.flatMap fun p =>
        match d.vouchers.filter fun w => w.payment_id == p.id with
        | [] => [(p, none)]
        | vouchers => vouchers.map fun w => (p, some w.code)
      pure (fetchrow v.pick (fun r => r.1.id == id) joined, d)
  | .select_stuck => pure (d.payments.filter fun p => p.stuck d.vouchers v.now, d)
  | .count_trials customer_id tenant_id =>
      let joined := d.payments.flatMap fun p =>
        (d.vouchers.filter fun w => w.payment_id == p.id).map fun _ => p
      pure ((joined.filter fun p => p.customer_id == customer_id && p.tenant_id == tenant_id &&
        (p.mpesa_receipt_number.any fun s => s.startsWith "TRIAL-") &&
        decide (v.now - 24 * hour < p.created_at)).length, d)
  | .count_recent_pushes tenant_id =>
      pure ((d.platform_payments.filter fun r => r.tenant_id == tenant_id &&
        decide (v.now - 24 * hour < r.created_at) &&
        (r.status == .pending || r.status == .confirmed)).length, d)
  | .select_tenants => pure (d.tenants, d)
  | .select_tenant id => pure (fetchrow v.pick (fun r => r.id == id) d.tenants, d)
  | .extend_tenant id =>
      pure ((), d.updateTenant id Tenant.extended)
  | .suspend_tenant id =>
      pure ((), d.updateTenant id fun r => { r with status := .suspended })
  | .set_tenant_status id status =>
      pure ((), d.updateTenant id fun r => { r with status })
  | .count_customers tenant_id =>
      pure ((d.users.filter fun r => r.tenant_id == tenant_id && r.role == .customer &&
        r.is_active).length, d)
  | .select_user_by_phone phone tenant_id =>
      pure (fetchrow v.pick (fun r => r.phone == phone && r.tenant_id == tenant_id) d.users, d)
  | .select_user_by_contact email phone tenant_id => do
      let _ ← textParam none (.str email)
      let _ ← textParam none (.str phone)
      pure (fetchrow v.pick (fun r => (r.email == email || r.phone == phone) &&
        r.tenant_id == tenant_id) d.users, d)
  | .select_other_user c value tenant_id id => do
      let _ ← textParam none (.str value)
      pure (fetchrow v.pick (fun r => c.of r == value && r.tenant_id == tenant_id && r.id != id)
        d.users, d)
  | .count_wallet_reference wallet_reference =>
      pure ((d.users.filter fun r => r.wallet_reference == some wallet_reference).length, d)
  | .insert_guest email phone hashed_password tenant_id => do
      let _ ← textParam (some 255) (.str email)
      let _ ← textParam (some 20) (.str phone)
      check (d.users.all fun r => r.id != v.uuid) (.uniqueViolation .primary_key)
      check (d.users.all fun r => r.email != email) (.uniqueViolation .users_email_unique)
      check (d.users.all fun r => r.phone != phone) (.uniqueViolation .users_phone_unique)
      check (d.hasTenant tenant_id) (.database "users_tenant_id_fkey")
      let row : User := { id := v.uuid, email, phone, hashed_password, tenant_id }
      pure (row, { d with users := d.users ++ [row] })
  | .insert_user email phone hashed_password role reseller_id tenant_id wallet_reference => do
      let _ ← textParam (some 255) (.str email)
      let _ ← textParam (some 20) (.str phone)
      check (d.users.all fun r => r.id != v.uuid) (.uniqueViolation .primary_key)
      check (d.users.all fun r => r.email != email) (.uniqueViolation .users_email_unique)
      check (d.users.all fun r => r.phone != phone) (.uniqueViolation .users_phone_unique)
      check (wallet_reference.all fun w => d.users.all fun r => r.wallet_reference != some w)
        (.uniqueViolation .users_wallet_reference_unique)
      check (reseller_id.all d.hasUser) (.database "users_reseller_id_fkey")
      check (d.hasTenant tenant_id) (.database "users_tenant_id_fkey")
      let row : User := {
        id := v.uuid, email, phone, hashed_password, role, reseller_id, tenant_id
        wallet_reference }
      pure (row, { d with users := d.users ++ [row] })
  | .set_contact c value id tenant_id => do
      let _ ← textParam (some c.limit) (.str value)
      let p (r : User) : Bool := r.id == id && r.tenant_id == tenant_id
      check (!d.users.any p || d.users.all fun r => p r || c.of r != value)
        (.uniqueViolation c.unique)
      pure ((), { d with users := updateRows p (c.set value) d.users })
  | .select_contact id tenant_id =>
      pure (fetchrow v.pick (fun r => r.id == id && r.tenant_id == tenant_id) d.users, d)
  | .select_account variants => do
      let _ ← variants.mapM fun s => textParam none (.str s)
      let joined := d.users.flatMap fun u =>
        (d.tenants.filter fun t => t.id == u.tenant_id).map fun t => (u, t.status)
      pure (fetchrow v.pick (fun r => variants.contains r.1.email || variants.contains r.1.phone)
        joined, d)
  | .set_hashed_password hashed_password id tenant_id =>
      let users := updateRows (fun r => r.id == id && r.tenant_id == tenant_id)
        (fun r => { r with hashed_password }) d.users
      pure ((), { d with users })
  | .select_customer id =>
      pure (fetchrow v.pick (fun r => r.id == id && r.role == .customer) d.users, d)
  | .select_reseller wallet_reference => do
      let _ ← textParam none (.str wallet_reference)
      pure (fetchrow v.pick (fun r => r.wallet_reference == some wallet_reference &&
        r.role == .reseller) d.users, d)
  | .lock_user id tenant_id =>
      pure (fetchrow v.pick (fun r => r.id == id && r.tenant_id == tenant_id) d.users, d)
  | .select_package id tenant_id =>
      pure (fetchrow v.pick (fun r => r.id == id && r.tenant_id == tenant_id) d.packages, d)
  | .select_trial_package tenant_id =>
      pure (fetchrow v.pick (fun r => r.tenant_id == tenant_id && r.name == "Free Trial")
        d.packages, d)
  | .insert_trial_package tenant_id => do
      let price_kes ← moneyParam (.finite 1 0)
      check (d.packages.all fun r => r.id != v.uuid) (.uniqueViolation .primary_key)
      check (d.packages.all fun r => !(r.tenant_id == tenant_id && r.name == "Free Trial"))
        (.uniqueViolation .packages_tenant_name_unique)
      check (d.hasTenant tenant_id) (.database "packages_tenant_id_fkey")
      let row : Package := {
        id := v.uuid, name := "Free Trial", description := some "10 Minutes Free Trial Access"
        price_kes, duration_minutes := 5, speed_mbps := 2, tenant_id }
      pure (row, { d with packages := d.packages ++ [row] })
  | .count_code code tenant_id =>
      pure ((d.vouchers.filter fun w => w.code == code && w.tenant_id == tenant_id).length, d)
  | .insert_voucher payment_id customer_id package_id code tenant_id router_id => do
      let _ ← textParam (some 50) (.str code)
      check (d.vouchers.all fun w => w.id != v.uuid) (.uniqueViolation .primary_key)
      check (d.vouchers.all fun w => w.payment_id != payment_id)
        (.uniqueViolation .vouchers_payment_id_unique)
      check (d.vouchers.all fun w => w.code != code) (.uniqueViolation .vouchers_code_unique)
      check (d.hasPayment payment_id) (.database "vouchers_payment_id_fkey")
      check (d.hasUser customer_id) (.database "vouchers_customer_id_fkey")
      check (d.hasPackage package_id) (.database "vouchers_package_id_fkey")
      check (d.hasTenant tenant_id) (.database "vouchers_tenant_id_fkey")
      let row : Voucher := {
        id := v.uuid, payment_id, customer_id, package_id, code, status := .active
        created_at := v.now, tenant_id, router_id }
      pure ((), { d with vouchers := d.vouchers ++ [row] })
  | .delete_radius t username tenant_id =>
      pure ((), d.setRadius t ((d.radius t).filter fun r =>
        !(r.username == username && r.tenant_id == tenant_id)))
  | .insert_radius t row => do
      check (d.hasTenant row.tenant_id) (.database "tenant_id_fkey")
      pure ((), d.setRadius t (d.radius t ++ [row]))
  | .select_voucher payment_id =>
      let joined := d.vouchers.filter fun w => d.hasPackage w.package_id
      pure (fetchrow v.pick (fun w => w.payment_id == payment_id) joined, d)
  | .select_balance reseller_id tenant_id =>
      pure ((lastEntry (d.ledger reseller_id tenant_id)).map (·.balance_after), d)
  | .next_sequence_id =>
      pure (d.last_sequence_id + 1, { d with last_sequence_id := d.last_sequence_id + 1 })
  | .insert_wallet_transaction sequence_id tenant_id reseller_id type amount_kes balance_after
      reference => do
      let amount_kes ← moneyParam amount_kes
      let balance_after ← moneyParam balance_after
      let reference ← notNull (← textParam (some 100) reference)
      check (d.wallet_transactions.all fun w => w.id != v.uuid) (.uniqueViolation .primary_key)
      check (d.wallet_transactions.all fun w => w.reference != reference)
        (.uniqueViolation .wallet_transactions_reference_unique)
      check (d.hasTenant tenant_id) (.database "wallet_transactions_tenant_id_fkey")
      check (d.hasUser reseller_id) (.database "wallet_transactions_reseller_id_fkey")
      let row : WalletTransaction := {
        sequence_id, id := v.uuid, tenant_id, reseller_id, type, amount_kes, balance_after
        reference, created_at := v.now }
      pure (row, { d with wallet_transactions := d.wallet_transactions ++ [row] })
  | .enqueue_job job => pure ((), { d with queue := d.queue ++ [job] })
  | .post_stk_push payment_id phone amount account_reference description =>
      let push (checkout_id : String) : Push :=
        { checkout_id, payment_id, phone, amount, account_reference, description }
      pure (v.push.response, { d with pushes := d.pushes ++ v.push.checkout_id.toList.map push })
  | .post_stk_query _ => pure (v.query, d)
  | .send_sms phone _ => do
      check phone.isSome (.fault .attributeError)
      pure ((), d)
  | .generate_invoice _ => pure ((), d)
  | .log_action _ _ => pure ((), d)
  | .generate_voucher_code length => pure (codeOfDraws v.draw length, d)
  | .token_hex bytes => pure (hexOfDraws v.draw bytes, d)
  | .uuid4 => pure (v.uuid, d)
  | .hash_password _ => pure (v.text, d)
  | .utc_now => pure (v.now, d)

/-- A statement that raises leaves the store as it was. -/
def Stmt.exec (s : Stmt) (v : Env) (d : Store) : Except Exn s.Res × Store :=
  match s.eval v d with
  | .ok r => (.ok r.1, r.2)
  | .error e => (.error e, d)

/-- The parts of the store that statements write. -/
inductive Table where
  | tenants
  | users
  | packages
  | payments
  | platform_payments
  | vouchers
  | radcheck
  | radreply
  | wallet_transactions
  | last_sequence_id
  | queue
  | pushes
  deriving DecidableEq

instance : Fintype Table where
  elems := {.tenants, .users, .packages, .payments, .platform_payments, .vouchers, .radcheck,
    .radreply, .wallet_transactions, .last_sequence_id, .queue, .pushes}
  complete T := by cases T <;> decide

/-- The two stores agree on the table. -/
def Store.Same (d' d : Store) : Table → Prop
  | .tenants => d'.tenants = d.tenants
  | .users => d'.users = d.users
  | .packages => d'.packages = d.packages
  | .payments => d'.payments = d.payments
  | .platform_payments => d'.platform_payments = d.platform_payments
  | .vouchers => d'.vouchers = d.vouchers
  | .radcheck => d'.radcheck = d.radcheck
  | .radreply => d'.radreply = d.radreply
  | .wallet_transactions => d'.wallet_transactions = d.wallet_transactions
  | .last_sequence_id => d'.last_sequence_id = d.last_sequence_id
  | .queue => d'.queue = d.queue
  | .pushes => d'.pushes = d.pushes

instance (d' d : Store) (T : Table) : Decidable (d'.Same d T) := by
  cases T <;> exact decEq _ _

def PaymentTable.table : PaymentTable → Table
  | .payments => .payments
  | .platform_payments => .platform_payments

def RadiusTable.table : RadiusTable → Table
  | .radcheck => .radcheck
  | .radreply => .radreply

namespace Stmt

/-- The table that the statement writes, if it is no pure read. -/
def writes : Stmt → Option Table
  | .confirm t .. => some t.table
  | .fail t .. => some t.table
  | .store_checkout t .. => some t.table
  | .insert_payment .. => some .payments
  | .insert_platform_payment .. => some .platform_payments
  | .extend_tenant .. => some .tenants
  | .suspend_tenant .. => some .tenants
  | .set_tenant_status .. => some .tenants
  | .insert_guest .. => some .users
  | .insert_user .. => some .users
  | .set_contact .. => some .users
  | .set_hashed_password .. => some .users
  | .insert_trial_package .. => some .packages
  | .insert_voucher .. => some .vouchers
  | .delete_radius t .. => some t.table
  | .insert_radius t .. => some t.table
  | .next_sequence_id => some .last_sequence_id
  | .insert_wallet_transaction .. => some .wallet_transactions
  | .enqueue_job .. => some .queue
  | .post_stk_push .. => some .pushes
  | _ => none

variable {s : Stmt} {v : Env} {d d' : Store} {a : s.Res}

theorem exec_eq_settle (s : Stmt) (v : Env) (d : Store) :
    s.exec v d = settle (s.eval v d) d := by
  rw [exec]
  cases s.eval v d with
  | ok r => rfl
  | error e => rfl

/-- The two ways a statement can end. -/
theorem exec_cases (s : Stmt) (v : Env) (d : Store) :
    (∃ a d', s.eval v d = .ok (a, d') ∧ s.exec v d = (.ok a, d')) ∨
      ∃ e, s.eval v d = .error e ∧ s.exec v d = (.error e, d) := by
  rw [exec_eq_settle]
  exact settle_cases (s.eval v d) d

theorem exec_eq_ok : s.exec v d = (.ok a, d') ↔ s.eval v d = .ok (a, d') := by
  rw [exec_eq_settle, settle_eq_ok]

theorem exec_eq_error {e : Exn} : s.exec v d = (.error e, d) ↔ s.eval v d = .error e := by
  rw [exec_eq_settle, settle_eq_error]

end Stmt

theorem Store.same_updateCores (d : Store) (t : PaymentTable) (p : PaymentCore → Bool)
    (f : PaymentCore → PaymentCore) {T : Table} (h : t.table ≠ T) :
    (d.updateCores t p f).Same d T := by
  cases t <;> cases T <;> first | rfl | exact absurd rfl h

theorem Store.same_setRadius (d : Store) (t : RadiusTable) (rows : List RadiusRow) {T : Table}
    (h : t.table ≠ T) : (d.setRadius t rows).Same d T := by
  cases t <;> cases T <;> first | rfl | exact absurd rfl h

theorem Store.Same.refl (d : Store) (T : Table) : d.Same d T := by
  cases T <;> rfl

/-- A statement leaves every other table as it was. -/
theorem Stmt.eval_same {s : Stmt} {v : Env} {d d' : Store} {a : s.Res} {T : Table}
    (hT : s.writes ≠ some T) (h : s.eval v d = .ok (a, d')) : d'.Same d T := by
  cases s
  all_goals
    simp only [eval, Except.bind_eq_ok, pure, Except.pure, Except.ok.injEq, Prod.mk.injEq,
      Store.confirmRows, Store.updateTenant, writes, ne_eq, Option.some.injEq] at h hT
    try casesm* ∃ _, _, _ ∧ _
    subst_vars
    first
      | exact .refl _ _
      | exact Store.same_updateCores _ _ _ _ hT
      | exact Store.same_setRadius _ _ _ hT
      | (cases T <;> first | rfl | exact absurd rfl hT)

theorem Stmt.exec_same {s : Stmt} {T : Table} (hT : s.writes ≠ some T) (v : Env) (d : Store) :
    (s.exec v d).2.Same d T := by
  rcases exec_cases s v d with ⟨a, d', he, hx⟩ | ⟨e, _, hx⟩
  · rw [hx]
    exact eval_same hT he
  · rw [hx]
    exact .refl _ _

theorem Store.ext_same {d' d : Store} (h : ∀ T, d'.Same d T) : d' = d := by
  cases d
  cases d'
  simpa only [Store.mk.injEq] using ⟨h .tenants, h .users, h .packages, h .payments,
    h .platform_payments, h .vouchers, h .radcheck, h .radreply, h .wallet_transactions,
    h .last_sequence_id, h .queue, h .pushes⟩

/-- A read leaves the store as it was. -/
theorem Stmt.eval_read {s : Stmt} {v : Env} {d d' : Store} {a : s.Res} (hs : s.writes = none)
    (h : s.eval v d = .ok (a, d')) : d' = d :=
  Store.ext_same fun _ => eval_same (by simp [hs]) h

theorem Stmt.exec_read {s : Stmt} (hs : s.writes = none) (v : Env) (d : Store) :
    (s.exec v d).2 = d :=
  Store.ext_same fun _ => exec_same (by simp [hs]) v d

/-- The machine of the application. -/
def machine : Machine Stmt Stmt.Res Exn Store Env UUID where
  exec := Stmt.exec
  inTx := Stmt.inTx
  locks := Stmt.locks
  aborted := .inFailedTransaction

theorem machine_restores : machine.Restores := .of_settle _ Stmt.exec_eq_settle

theorem replay_cons {s : Stmt} {v : Env} {rest : List (Stmt × Env)} {d d' : Store} :
    machine.replay ((s, v) :: rest) d = some d' ↔
      ∃ a d₁, s.eval v d = .ok (a, d₁) ∧ machine.replay rest d₁ = some d' := by
  rw [Machine.replay]
  rcases s.exec_cases v d with ⟨a, d₁, he, hx⟩ | ⟨e, he, hx⟩
  · rw [he, show machine.exec s v d = (.ok a, d₁) from hx]
    simp
  · rw [he, show machine.exec s v d = (.error e, d) from hx]
    simp

@[simp] theorem replay_nil {d : Store} : machine.replay [] d = some d := rfl

end FrixelConnect
