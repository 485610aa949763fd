import FrixelConnect.Tables.Bags
import FrixelConnect.Invoices
import FrixelConnect.Renewals
import FrixelConnect.SuperAdminPages

/-!
# Reads of one tenant

The lists and look-ups of the payments, vouchers, users, packages, invoices, wallets and
subscriptions services. Each of them names a tenant, and some take its rows together with rows
of other tables by their ids only.

## Implementation notes

A table is a bag of rows, and a query gives a bag, which the environment scans in some order. A
sort keeps that order among equal keys. The charge for a change of the package is the program of
the subscriptions, run on the scanned tables.
-/

namespace FrixelConnect

open Bags Calendar Decimals Ordering Python

structure UserRow extends User where
  created_at : Timestamptz

structure PackageRow extends Package where
  created_at : Timestamptz
  updated_at : Timestamptz

structure InvoiceRow extends Invoice where
  created_at : Timestamptz

structure SubscriptionRow extends Subscription where
  updated_at : Timestamptz

/-- The tables that the services read, with the keys that the reads rely on. -/
structure TenantTables where
  users : Multiset UserRow := 0
  packages : Multiset PackageRow := 0
  payments : Multiset Payment := 0
  vouchers : Multiset Voucher := 0
  invoices : Multiset InvoiceRow := 0
  subscriptions : Multiset SubscriptionRow := 0
  wallet_transactions : Multiset WalletTransaction := 0
  packages_pkey : (packages.map (·.id)).Nodup := by decide
  subscriptions_pkey : (subscriptions.map (·.id)).Nodup := by decide
  payments_customer_id_fkey : ∀ p ∈ payments, p.customer_id ∈ users.map (·.id) := by decide

/-- What the environment contributes to a read: the time, the order in which rows are scanned, and
how the driver reads an id from a text. -/
structure ReadEnv where
  now : Timestamptz
  scan : {α : Type} → Multiset α → List α
  scan_eq : ∀ {α : Type} (rows : Multiset α), (scan rows : Multiset α) = rows
  uuid_of_text : String → Except Exn UUID

/-- An id, as a `UUID` or as a text. -/
inductive IdArg where
  | uuid (u : UUID)
  | text (s : String)

/-- `str(id)`. -/
def IdArg.str : IdArg → String
  | .uuid u => FrixelConnect.str u
  | .text s => s

/-! ## What the reads show -/

structure PaymentState where
  payment_id : UUID
  status : PaymentStatus
  voucher_code : Option String

/-- A payment in the list of the stuck ones. -/
structure PaymentEntry where
  id : UUID
  customer_id : UUID
  package_id : UUID
  amount_kes : Money
  status : PaymentStatus
  phone_number : String
  mpesa_receipt_number : Option String
  created_at : Timestamptz

def Payment.entry (p : Payment) : PaymentEntry where
  id := p.id
  customer_id := p.customer_id
  package_id := p.package_id
  amount_kes := p.amount_kes
  status := p.status
  phone_number := p.phone_number
  mpesa_receipt_number := p.mpesa_receipt_number
  created_at := p.created_at

/-- A payment in a history, with the name of its package. -/
structure NamedPayment extends PaymentEntry where
  package_name : String

structure VoucherEntry where
  id : UUID
  code : String
  status : VoucherStatus
  expires_at : Option Timestamptz
  customer_id : UUID
  activated_at : Option Timestamptz
  created_at : Timestamptz
  router_id : Option UUID
  payment_id : UUID
  package_name : String

structure UserEntry where
  id : UUID
  email : String
  phone : String
  role : Role
  reseller_id : Option UUID
  tenant_id : UUID
  is_active : Bool
  created_at : Timestamptz

def UserRow.entry (u : UserRow) : UserEntry where
  id := u.id
  email := u.email
  phone := u.phone
  role := u.role
  reseller_id := u.reseller_id
  tenant_id := u.tenant_id
  is_active := u.is_active
  created_at := u.created_at

structure PackageEntry where
  id : UUID
  name : String
  description : Option String
  price_kes : Money
  duration_minutes : ℤ
  speed_mbps : ℤ
  data_quota_mb : Option ℤ
  is_active : Bool
  created_at : Timestamptz
  updated_at : Timestamptz

def PackageRow.entry (k : PackageRow) : PackageEntry where
  id := k.id
  name := k.name
  description := k.description
  price_kes := k.price_kes
  duration_minutes := k.duration_minutes
  speed_mbps := k.speed_mbps
  data_quota_mb := k.data_quota_mb
  is_active := k.is_active
  created_at := k.created_at
  updated_at := k.updated_at

structure InvoiceEntry extends InvoiceRow where
  amount_kes : Money
  pdf_url : Option String

structure NamedSubscription extends SubscriptionRow where
  package_name : String

structure SubscriptionCustomer where
  id : String
  email : String
  phone : String

/-- A subscription in the list of the administration. -/
structure AdminSubscription where
  id : UUID
  tenant_id : UUID
  package_id : UUID
  status : SubscriptionStatus
  current_period_end : Timestamptz
  auto_renew : Bool
  created_at : Timestamptz
  updated_at : Timestamptz
  package_name : String
  customer : SubscriptionCustomer

structure WalletEntry where
  id : UUID
  tenant_id : UUID
  reseller_id : UUID
  type : TransactionType
  amount_kes : Money
  balance_after : Money
  reference : String
  created_at : Timestamptz

structure ExportedUser where
  id : UUID
  email : String
  phone : String
  role : Role
  created_at : Timestamptz

structure ExportedPayment where
  id : UUID
  amount_kes : Money
  status : PaymentStatus
  mpesa_receipt_number : Option String
  phone_number : String
  created_at : Timestamptz

structure ExportedVoucher where
  id : UUID
  code : String
  status : VoucherStatus
  expires_at : Option Timestamptz
  created_at : Timestamptz

structure ExportedSubscription where
  id : UUID
  status : SubscriptionStatus
  current_period_end : Timestamptz

structure CustomerExport where
  user : ExportedUser
  payments : List ExportedPayment
  vouchers : List ExportedVoucher
  subscriptions : List ExportedSubscription

/-! ## The queries -/

namespace ReadEnv

variable {α K : Type} [LinearOrder K] (v : ReadEnv)

/-- The value of an id parameter. -/
def param : IdArg → Except Exn UUID
  | .uuid u => .ok u
  | .text s => v.uuid_of_text s

/-- `fetchrow`. -/
def first (rows : Multiset α) : Option α := (v.scan rows).head?

/-- `ORDER BY key DESC`. -/
def descending (key : α → K) (rows : Multiset α) : List α :=
  (OrderBy.stable key).arrange (v.scan rows)

end ReadEnv

/-- How prices compare; NaN is above every number. -/
def Money.rank : Money → WithTop ℤ
  | .nan => ⊤
  | .units n => (n.1 : ℤ)

def SubscriptionStatus.value : SubscriptionStatus → String
  | .active => "active"
  | .grace => "grace"
  | .suspended => "suspended"
  | .cancelled => "cancelled"

def Payment.named (r : Payment × PackageRow) : NamedPayment :=
  { r.1.entry with package_name := r.2.name }

def Voucher.entry (r : Voucher × PackageRow) : VoucherEntry where
  id := r.1.id
  code := r.1.code
  status := r.1.status
  expires_at := r.1.expires_at
  customer_id := r.1.customer_id
  activated_at := r.1.activated_at
  created_at := r.1.created_at
  router_id := r.1.router_id
  payment_id := r.1.payment_id
  package_name := r.2.name

def InvoiceRow.entry (r : InvoiceRow × Payment) : InvoiceEntry where
  toInvoiceRow := r.1
  amount_kes := r.2.amount_kes
  pdf_url := r.1.pdf_path.map fun _ => "/invoices/" ++ str r.1.id ++ "/pdf"

def SubscriptionRow.named (r : SubscriptionRow × PackageRow) : NamedSubscription :=
  { r.1 with package_name := r.2.name }

def SubscriptionRow.admin (r : (SubscriptionRow × PackageRow) × UserRow) : AdminSubscription where
  id := r.1.1.id
  tenant_id := r.1.1.tenant_id
  package_id := r.1.1.package_id
  status := r.1.1.status
  current_period_end := r.1.1.current_period_end
  auto_renew := r.1.1.auto_renew
  created_at := r.1.1.created_at
  updated_at := r.1.1.updated_at
  package_name := r.1.2.name
  customer := { id := str r.2.id, email := r.2.email, phone := r.2.phone }

def WalletTransaction.entry (w : WalletTransaction) : WalletEntry where
  id := w.id
  tenant_id := w.tenant_id
  reseller_id := w.reseller_id
  type := w.type
  amount_kes := w.amount_kes
  balance_after := w.balance_after
  reference := w.reference
  created_at := w.created_at

/-- `FROM vouchers v JOIN packages pkg ON v.package_id = pkg.id`. -/
def TenantTables.voucher_packages (d : TenantTables) : Multiset (Voucher × PackageRow) :=
  join (fun w k => w.package_id == k.id) d.vouchers d.packages

/-- `FROM invoices i JOIN payments p ON i.payment_id = p.id`. -/
def TenantTables.invoice_payments (d : TenantTables) : Multiset (InvoiceRow × Payment) :=
  join (fun i p => i.payment_id == p.id) d.invoices d.payments

/-- `FROM subscriptions s JOIN packages p ON s.package_id = p.id`. -/
def TenantTables.subscription_packages (d : TenantTables) :
    Multiset (SubscriptionRow × PackageRow) :=
  join (fun s k => s.package_id == k.id) d.subscriptions d.packages

/-- `FROM payments p JOIN packages pkg ON p.package_id = pkg.id AND pkg.tenant_id = p.tenant_id`. -/
def TenantTables.payment_packages (d : TenantTables) : Multiset (Payment × PackageRow) :=
  join (fun p k => p.package_id == k.id && k.tenant_id == p.tenant_id) d.payments d.packages

/-- `FROM payments p LEFT JOIN vouchers v ON p.id = v.payment_id AND v.tenant_id = p.tenant_id`. -/
def TenantTables.payment_vouchers (d : TenantTables) : Multiset (Payment × Option Voucher) :=
  leftJoin (fun p w => p.id == w.payment_id && w.tenant_id == p.tenant_id) d.payments d.vouchers

/-- The payments with their customers and packages. -/
def TenantTables.payment_users (d : TenantTables) : Multiset ((Payment × UserRow) × PackageRow) :=
  join (fun r k => r.1.package_id == k.id && k.tenant_id == r.1.tenant_id)
    (join (fun p u => p.customer_id == u.id) d.payments d.users) d.packages

/-- The vouchers with their packages and customers. -/
def TenantTables.voucher_users (d : TenantTables) : Multiset ((Voucher × PackageRow) × UserRow) :=
  join (fun r u => r.1.customer_id == u.id) d.voucher_packages d.users

/-- The subscriptions with their packages and customers. -/
def TenantTables.subscription_users (d : TenantTables) :
    Multiset ((SubscriptionRow × PackageRow) × UserRow) :=
  join (fun r u => r.1.customer_id == u.id) d.subscription_packages d.users

namespace TenantReads

variable (v : ReadEnv) (tenant_id : UUID) (d : TenantTables)

/-! ## Payments -/

def get_payment_status (payment_id customer_id : IdArg) : Except Exn PaymentState := do
  let id ← v.param payment_id
  match v.first (select (fun r => r.1.id == id && r.1.tenant_id == tenant_id)
      d.payment_vouchers) with
  | none => throw (.notFound "Payment" payment_id.str)
  | some (p, w) =>
      if str p.customer_id ≠ customer_id.str then throw (.notFound "Payment" payment_id.str)
      else return { payment_id := p.id, status := p.status, voucher_code := w.map (·.code) }

def get_customer_payments (customer_id : IdArg) : Except Exn (List NamedPayment) := do
  let id ← v.param customer_id
  let rows := select (fun r => r.1.customer_id == id && r.1.tenant_id == tenant_id)
    d.payment_packages
  return (v.descending (·.1.created_at) rows).map Payment.named

def get_reseller_payments (reseller_id : IdArg) : Except Exn (List NamedPayment) := do
  let id ← v.param reseller_id
  let rows := select (fun r => r.1.2.reseller_id == some id && r.1.1.tenant_id == tenant_id)
    d.payment_users
  return (v.descending (·.1.1.created_at) rows).map fun r => Payment.named (r.1.1, r.2)

def get_all_payments : List NamedPayment :=
  (v.descending (·.1.created_at)
    (select (fun r => r.1.tenant_id == tenant_id) d.payment_packages)).map Payment.named

/-- Confirmed, older than two minutes, and without a voucher in its tenant. -/
def isStuck (p : Payment) : Bool :=
  p.status == .confirmed && decide (p.created_at < v.now - 2 * minute) &&
    !present (fun w => w.payment_id == p.id && w.tenant_id == p.tenant_id) d.vouchers

def get_stuck_payments : List PaymentEntry :=
  (v.descending (·.created_at)
    (select (fun p => p.tenant_id == tenant_id && isStuck v d p) d.payments)).map Payment.entry

/-! ## Vouchers -/

def get_customer_vouchers (customer_id : IdArg) : Except Exn (List VoucherEntry) := do
  let id ← v.param customer_id
  let rows := select (fun r => r.1.customer_id == id && r.1.tenant_id == tenant_id)
    d.voucher_packages
  return (v.descending (·.1.created_at) rows).map Voucher.entry

def get_voucher_by_id (voucher_id : IdArg) : Except Exn (Option VoucherEntry) := do
  let id ← v.param voucher_id
  let rows := select (fun r => r.1.id == id && r.1.tenant_id == tenant_id) d.voucher_packages
  return (v.first rows).map Voucher.entry

def get_reseller_vouchers (reseller_id : IdArg) : Except Exn (List VoucherEntry) := do
  let id ← v.param reseller_id
  let rows := select (fun r => r.2.reseller_id == some id && r.1.1.tenant_id == tenant_id)
    d.voucher_users
  return (v.descending (·.1.1.created_at) rows).map fun r => Voucher.entry r.1

def get_all_vouchers : List VoucherEntry :=
  (v.descending (·.1.created_at)
    (select (fun r => r.1.tenant_id == tenant_id) d.voucher_packages)).map Voucher.entry

/-! ## Users -/

/-- The row of the caller, by `get_or_404`. -/
def get_my_profile (user_id : IdArg) : Except Exn UserEntry := do
  let id ← v.param user_id
  match v.first (select (fun u => u.id == id && u.tenant_id == tenant_id) d.users) with
  | none => throw (.notFound "User" user_id.str)
  | some u => return u.entry

def list_customers (caller_role : String) (caller_id : IdArg) : Except Exn (List UserEntry) := do
  if caller_role = "admin" then
    let rows := select (fun u => u.tenant_id == tenant_id && u.role == .customer) d.users
    return (v.descending (·.created_at) rows).map UserRow.entry
  else
    let id ← v.param caller_id
    let rows := select (fun u => u.tenant_id == tenant_id && u.role == .customer &&
      u.reseller_id == some id) d.users
    return (v.descending (·.created_at) rows).map UserRow.entry

def list_all_users : List UserEntry :=
  (v.descending (·.created_at) (select (fun u => u.tenant_id == tenant_id) d.users)).map
    UserRow.entry

def export_customer_data (user_id : IdArg) : Except Exn CustomerExport := do
  let id ← v.param user_id
  match v.first (select (fun u => u.id == id && u.tenant_id == tenant_id) d.users) with
  | none => throw (.notFound "User" user_id.str)
  | some u =>
      let payments := v.scan (select (fun p => p.customer_id == id && p.tenant_id == tenant_id)
        d.payments)
      let vouchers := v.scan (select (fun w => w.customer_id == id && w.tenant_id == tenant_id)
        d.vouchers)
      let subscriptions := v.scan (select (fun s => s.customer_id == id &&
        s.tenant_id == tenant_id) d.subscriptions)
      return {
        user := {
          id := u.id, email := u.email, phone := u.phone, role := u.role
          created_at := u.created_at }
        payments := payments.map fun p => {
          id := p.id, amount_kes := p.amount_kes, status := p.status
          mpesa_receipt_number := p.mpesa_receipt_number, phone_number := p.phone_number
          created_at := p.created_at }
        vouchers := vouchers.map fun w => {
          id := w.id, code := w.code, status := w.status, expires_at := w.expires_at
          created_at := w.created_at }
        subscriptions := subscriptions.map fun s => {
          id := s.id, status := s.status, current_period_end := s.current_period_end } }

/-! ## Packages -/

def get_all_packages : List PackageEntry :=
  (v.descending (fun k => OrderDual.toDual k.price_kes.rank)
    (select (fun k => k.tenant_id == tenant_id && k.is_active) d.packages)).map PackageRow.entry

def get_package_by_id (package_id : IdArg) : Except Exn PackageEntry := do
  let id ← v.param package_id
  match v.first (select (fun k => k.id == id && k.tenant_id == tenant_id && k.is_active)
      d.packages) with
  | none => throw (.notFound "Package" package_id.str)
  | some k => return k.entry

/-! ## Invoices -/

/-- `HTTPException(status_code=404, detail="Invoice not found")`. -/
def invoiceNotFound : Exn := .exception "404: Invoice not found"

def get_invoice_by_id (invoice_id : IdArg) : Except Exn InvoiceEntry := do
  let id ← v.param invoice_id
  match v.first (select (fun r => r.1.id == id && r.1.tenant_id == tenant_id)
      d.invoice_payments) with
  | none => throw invoiceNotFound
  | some r => return InvoiceRow.entry r

def list_invoices : List InvoiceEntry :=
  (v.descending (·.1.created_at)
    (select (fun r => r.1.tenant_id == tenant_id) d.invoice_payments)).map InvoiceRow.entry

def list_customer_invoices (customer_id : IdArg) : Except Exn (List InvoiceEntry) := do
  let id ← v.param customer_id
  let rows := select (fun r => r.1.tenant_id == tenant_id && r.2.tenant_id == tenant_id &&
    r.2.customer_id == id) d.invoice_payments
  return (v.descending (·.1.created_at) rows).map InvoiceRow.entry

def get_customer_invoice_by_id (invoice_id customer_id : IdArg) : Except Exn InvoiceEntry := do
  let id ← v.param invoice_id
  let customer ← v.param customer_id
  match v.first (select (fun r => r.1.id == id && r.1.tenant_id == tenant_id &&
      r.2.tenant_id == tenant_id && r.2.customer_id == customer) d.invoice_payments) with
  | none => throw invoiceNotFound
  | some r => return InvoiceRow.entry r

/-! ## Wallets -/

/-- The ledger of a reseller, the last entry first. -/
def ledger (reseller : UUID) : List WalletTransaction :=
  v.descending (·.sequence_id) (select (fun w => w.reseller_id == reseller &&
    w.tenant_id == tenant_id) d.wallet_transactions)

def get_wallet_balance (reseller_id : IdArg) : Except Exn Decimal := do
  let reseller ← v.param reseller_id
  return match (ledger v tenant_id d reseller).head? with
    | some w => w.balance_after.load
    | none => .finite 0 (-2)

def get_wallet_transactions (reseller_id : IdArg) (limit : ℤ) : Except Exn (List WalletEntry) := do
  let reseller ← v.param reseller_id
  let rows ← limit_offset limit 0 (ledger v tenant_id d reseller)
  return rows.map WalletTransaction.entry

/-! ## Subscriptions -/

def get_subscription (subscription_id : IdArg) : Except Exn NamedSubscription := do
  let id ← v.param subscription_id
  match v.first (select (fun r => r.1.id == id && r.1.tenant_id == tenant_id)
      d.subscription_packages) with
  | none => throw (.notFound "Subscription" subscription_id.str)
  | some r => return SubscriptionRow.named r

def get_customer_subscription (customer_id : IdArg) : Except Exn NamedSubscription := do
  let id ← v.param customer_id
  let rows := select (fun r => r.1.tenant_id == tenant_id && r.1.customer_id == id &&
    [.active, .grace, .suspended].contains r.1.status) d.subscription_packages
  match (v.descending (·.1.created_at) rows).head? with
  | none => throw (.notFound "Subscription" "me")
  | some r => return SubscriptionRow.named r

/-- The condition on the status is there for a text that is not empty. -/
def list_subscriptions_admin (status : Option String) : Except Exn (List AdminSubscription) := do
  let status ← textParam none ((status.filter (· ≠ "")).elim .null .str)
  let rows := select (fun r => r.1.1.tenant_id == tenant_id &&
    status.all fun s => r.1.1.status.value == s) d.subscription_users
  return (v.descending (·.1.1.created_at) rows).map SubscriptionRow.admin

/-- The tables of the subscriptions, scanned. -/
def subscriptionStore : SubscriptionStore where
  subscriptions := v.scan (d.subscriptions.map (·.toSubscription))
  packages := v.scan (d.packages.map (·.toPackage))

def calculate_proration (subscription_id new_package_id : UUID) :
    Except Exn Subscriptions.Proration :=
  Subscriptions.proration ⟨fun _ => .run { now := v.now }, .run {}⟩ (subscriptionStore v d)
    tenant_id subscription_id new_package_id

end TenantReads

/-- A read, with its arguments apart from the tenant. -/
inductive TenantRead where
  | get_payment_status (payment_id customer_id : IdArg)
  | get_customer_payments (customer_id : IdArg)
  | get_reseller_payments (reseller_id : IdArg)
  | get_all_payments
  | get_stuck_payments
  | get_customer_vouchers (customer_id : IdArg)
  | get_voucher_by_id (voucher_id : IdArg)
  | get_reseller_vouchers (reseller_id : IdArg)
  | get_all_vouchers
  | get_my_profile (user_id : IdArg)
  | list_customers (caller_role : String) (caller_id : IdArg)
  | list_all_users
  | export_customer_data (user_id : IdArg)
  | get_all_packages
  | get_package_by_id (package_id : IdArg)
  | get_invoice_by_id (invoice_id : IdArg)
  | list_invoices
  | list_customer_invoices (customer_id : IdArg)
  | get_customer_invoice_by_id (invoice_id customer_id : IdArg)
  | get_wallet_balance (reseller_id : IdArg)
  | get_wallet_transactions (reseller_id : IdArg) (limit : ℤ)
  | get_subscription (subscription_id : IdArg)
  | get_customer_subscription (customer_id : IdArg)
  | list_subscriptions_admin (status : Option String)
  | calculate_proration (subscription_id new_package_id : UUID)

namespace TenantRead

abbrev Res : TenantRead → Type
  | get_payment_status .. => PaymentState
  | get_customer_payments _ => List NamedPayment
  | get_reseller_payments _ => List NamedPayment
  | get_all_payments => List NamedPayment
  | get_stuck_payments => List PaymentEntry
  | get_customer_vouchers _ => List VoucherEntry
  | get_voucher_by_id _ => Option VoucherEntry
  | get_reseller_vouchers _ => List VoucherEntry
  | get_all_vouchers => List VoucherEntry
  | get_my_profile _ => UserEntry
  | list_customers .. => List UserEntry
  | list_all_users => List UserEntry
  | export_customer_data _ => CustomerExport
  | get_all_packages => List PackageEntry
  | get_package_by_id _ => PackageEntry
  | get_invoice_by_id _ => InvoiceEntry
  | list_invoices => List InvoiceEntry
  | list_customer_invoices _ => List InvoiceEntry
  | get_customer_invoice_by_id .. => InvoiceEntry
  | get_wallet_balance _ => Decimal
  | get_wallet_transactions .. => List WalletEntry
  | get_subscription _ => NamedSubscription
  | get_customer_subscription _ => NamedSubscription
  | list_subscriptions_admin _ => List AdminSubscription
  | calculate_proration .. => Subscriptions.Proration

/-- What the read of a tenant returns, or what it raises. -/
def answer (v : ReadEnv) (tenant_id : UUID) (d : TenantTables) :
    (c : TenantRead) → Except Exn c.Res
  | get_payment_status payment_id customer_id =>
      TenantReads.get_payment_status v tenant_id d payment_id customer_id
  | get_customer_payments customer_id => TenantReads.get_customer_payments v tenant_id d customer_id
  | get_reseller_payments reseller_id => TenantReads.get_reseller_payments v tenant_id d reseller_id
  | get_all_payments => .ok (TenantReads.get_all_payments v tenant_id d)
  | get_stuck_payments => .ok (TenantReads.get_stuck_payments v tenant_id d)
  | get_customer_vouchers customer_id => TenantReads.get_customer_vouchers v tenant_id d customer_id
  | get_voucher_by_id voucher_id => TenantReads.get_voucher_by_id v tenant_id d voucher_id
  | get_reseller_vouchers reseller_id => TenantReads.get_reseller_vouchers v tenant_id d reseller_id
  | get_all_vouchers => .ok (TenantReads.get_all_vouchers v tenant_id d)
  | get_my_profile user_id => TenantReads.get_my_profile v tenant_id d user_id
  | list_customers caller_role caller_id =>
      TenantReads.list_customers v tenant_id d caller_role caller_id
  | list_all_users => .ok (TenantReads.list_all_users v tenant_id d)
  | export_customer_data user_id => TenantReads.export_customer_data v tenant_id d user_id
  | get_all_packages => .ok (TenantReads.get_all_packages v tenant_id d)
  | get_package_by_id package_id => TenantReads.get_package_by_id v tenant_id d package_id
  | get_invoice_by_id invoice_id => TenantReads.get_invoice_by_id v tenant_id d invoice_id
  | list_invoices => .ok (TenantReads.list_invoices v tenant_id d)
  | list_customer_invoices customer_id =>
      TenantReads.list_customer_invoices v tenant_id d customer_id
  | get_customer_invoice_by_id invoice_id customer_id =>
      TenantReads.get_customer_invoice_by_id v tenant_id d invoice_id customer_id
  | get_wallet_balance reseller_id => TenantReads.get_wallet_balance v tenant_id d reseller_id
  | get_wallet_transactions reseller_id limit =>
      TenantReads.get_wallet_transactions v tenant_id d reseller_id limit
  | get_subscription subscription_id => TenantReads.get_subscription v tenant_id d subscription_id
  | get_customer_subscription customer_id =>
      TenantReads.get_customer_subscription v tenant_id d customer_id
  | list_subscriptions_admin status => TenantReads.list_subscriptions_admin v tenant_id d status
  | calculate_proration subscription_id new_package_id =>
      TenantReads.calculate_proration v tenant_id d subscription_id new_package_id

end TenantRead

end FrixelConnect
