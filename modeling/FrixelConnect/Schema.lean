import FrixelConnect.Python.Json
import FrixelConnect.Calendar

/-!
# Rows of the migrated schema

One structure for each table, with the columns that some modelled statement
reads or writes. `payments` and `platform_payments` share the columns that the
Daraja code works on; these are the rows of `platform_payments`, and a row of
`payments` adds the customer and the package.
-/

namespace FrixelConnect

open Decimals Calendar

/-- A UUID column. -/
abbrev UUID := BitVec 128

instance : LawfulBEq UUID := inferInstanceAs (LawfulBEq (BitVec 128))

def hexDigit (n : ℕ) : Char := ("0123456789abcdef".toList)[n]?.getD '0'

/-- `str(uuid)`: 32 hexadecimal digits in groups of 8, 4, 4, 4 and 12. -/
def UUID.str (u : UUID) : List Char :=
  let nibble (i : ℕ) : Char := hexDigit (u.toNat / 16 ^ (31 - i) % 16)
  (List.range 32).flatMap fun i =>
    if [8, 12, 16, 20].contains i then ['-', nibble i] else [nibble i]

/-- `UUID(text)`; `none` where the constructor raises. -/
def UUID.ofText (s : String) : Option UUID :=
  let brace (c : Char) : Bool := c == '\x7b' || c == '\x7d'
  let hex := Python.removeWord "uuid:".toList 0 (Python.removeWord "urn:".toList 0 s.toList)
  let hex := (((hex.dropWhile brace).reverse.dropWhile brace).reverse).filter (· ≠ '-')
  if hex.length = 32 then
    (Python.intOfHex hex).bind fun n => if 0 ≤ n ∧ n < 2 ^ 128 then some (.ofInt 128 n) else none
  else none

theorem hexDigit_mem (k : ℕ) : hexDigit k ∈ "0123456789abcdef".toList := by
  unfold hexDigit
  generalize hdigit : "0123456789abcdef".toList[k]? = digit
  cases digit with
  | none => decide
  | some c => exact List.mem_of_getElem? hdigit

/-- An id consists of dashes and digits. -/
theorem UUID.mem_str {u : UUID} {c : Char} (h : c ∈ u.str) :
    c = '-' ∨ c ∈ "0123456789abcdef".toList := by
  simp only [UUID.str, List.mem_flatMap] at h
  obtain ⟨i, -, hi⟩ := h
  split at hi
  · simp only [List.mem_cons, List.not_mem_nil, or_false] at hi
    rcases hi with hi | hi
    · exact .inl hi
    · rw [hi]
      exact .inr (hexDigit_mem _)
  · rw [List.mem_singleton.mp hi]
    exact .inr (hexDigit_mem _)

/-- `NUMERIC(10, 2)`, in cents. -/
abbrev Money := Column 10

namespace Money

/-- `x > 0` as PostgreSQL compares, where NaN is above every number. -/
def positive : Money → Bool
  | .nan => true
  | .units n => decide (0 < n.1)

/-- The amount as the driver returns it. -/
def load (x : Money) : Decimal := Column.load 2 x

/-- The number of cents; zero for NaN. -/
def cents : Money → ℤ
  | .nan => 0
  | .units n => n

/-! Amounts of the examples. -/

theorem fits_1000 : (1000 : ℤ).natAbs < 10 ^ 10 := by decide

theorem fits_5000 : (5000 : ℤ).natAbs < 10 ^ 10 := by decide

theorem fits_150000 : (150000 : ℤ).natAbs < 10 ^ 10 := by decide

end Money

inductive PaymentStatus where
  | pending
  | confirmed
  | failed
  | cancelled
  deriving DecidableEq

inductive TenantStatus where
  | active
  | suspended
  | cancelled
  deriving DecidableEq

inductive VoucherStatus where
  | active
  | used
  | expired
  | revoked
  | pending_provision
  deriving DecidableEq

inductive Role where
  | admin
  | reseller
  | customer
  deriving DecidableEq

inductive SubscriptionTier where
  | starter
  | growth
  | scale
  | enterprise
  deriving DecidableEq

inductive TransactionType where
  | topup
  | debit
  | adjustment
  deriving DecidableEq

structure Tenant where
  id : UUID
  owner_phone : String
  subscription_tier : SubscriptionTier := .starter
  max_customers : ℕ := 50
  status : TenantStatus := .active
  next_billing_date : Timestamptz
  deriving DecidableEq

structure User where
  id : UUID
  email : String
  phone : String
  hashed_password : String
  role : Role := .customer
  reseller_id : Option UUID := none
  is_active : Bool := true
  tenant_id : UUID
  router_id : Option UUID := none
  wallet_reference : Option String := none
  deriving DecidableEq

structure Package where
  id : UUID
  name : String
  description : Option String := none
  price_kes : Money
  duration_minutes : ℤ
  speed_mbps : ℤ
  data_quota_mb : Option ℤ := none
  is_active : Bool := true
  tenant_id : UUID
  deriving DecidableEq

/-- A row of `platform_payments`, and the common columns of `payments`. -/
structure PaymentCore where
  id : UUID
  tenant_id : UUID
  amount_kes : Money
  status : PaymentStatus := .pending
  mpesa_receipt_number : Option String := none
  mpesa_checkout_id : Option String := none
  phone_number : String
  failure_reason : Option String := none
  created_at : Timestamptz
  updated_at : Timestamptz
  deriving DecidableEq

structure Payment extends PaymentCore where
  customer_id : UUID
  package_id : UUID
  deriving DecidableEq

structure Voucher where
  id : UUID
  payment_id : UUID
  customer_id : UUID
  package_id : UUID
  code : String
  status : VoucherStatus := .active
  activated_at : Option Timestamptz := none
  expires_at : Option Timestamptz := none
  created_at : Timestamptz
  tenant_id : UUID
  router_id : Option UUID := none
  deriving DecidableEq

/-- A row of `radcheck` or `radreply`; `attr` is the column `attribute`. -/
structure RadiusRow where
  username : String
  attr : String
  op : String
  value : String
  tenant_id : UUID
  deriving DecidableEq

structure WalletTransaction where
  sequence_id : ℕ
  id : UUID
  tenant_id : UUID
  reseller_id : UUID
  type : TransactionType
  amount_kes : Money
  balance_after : Money
  reference : String
  created_at : Timestamptz
  deriving DecidableEq

/-- A queued `generate_voucher_task`. -/
structure Job where
  payment_id : UUID
  tenant_id : UUID
  job_try : ℕ := 1
  deriving DecidableEq

/-- A push that Daraja has accepted, with the payment it was made for. The daily platform
bill is pushed before it has a row. -/
structure Push where
  checkout_id : String
  payment_id : Option UUID
  phone : String
  amount : ℤ
  account_reference : String
  description : String
  deriving DecidableEq

/-- The two tables of payments that wait for Daraja. -/
inductive PaymentTable where
  | payments
  | platform_payments
  deriving DecidableEq

/-- The database, the job queue and what Daraja has accepted. -/
structure Store where
  tenants : List Tenant := []
  users : List User := []
  packages : List Package := []
  payments : List Payment := []
  platform_payments : List PaymentCore := []
  vouchers : List Voucher := []
  radcheck : List RadiusRow := []
  radreply : List RadiusRow := []
  wallet_transactions : List WalletTransaction := []
  /-- The last value drawn from the sequence of `wallet_transactions.sequence_id`. -/
  last_sequence_id : ℕ := 0
  queue : List Job := []
  pushes : List Push := []
  deriving DecidableEq

/-- The rows of a payment table, as the Daraja code sees them. -/
def Store.cores (d : Store) : PaymentTable → List PaymentCore
  | .payments => d.payments.map Payment.toPaymentCore
  | .platform_payments => d.platform_payments

/-- Update one column or more in the rows that satisfy `p`. -/
def updateRows {α : Type} (p : α → Bool) (f : α → α) (rows : List α) : List α :=
  rows.map fun r => if p r then f r else r

/-- A column without repetition, and a row with a new value. -/
theorem nodup_map_concat {α β : Type} (f : α → β) {rows : List α} {row : α}
    (h : (rows.map f).Nodup) (hnew : ∀ r ∈ rows, f r ≠ f row) :
    ((rows ++ [row]).map f).Nodup := by
  rw [List.map_append, List.map_singleton, List.nodup_append]
  refine ⟨h, List.nodup_singleton _, ?_⟩
  rintro _ hr _ hrow rfl
  obtain ⟨r, hr, heq⟩ := List.mem_map.mp hr
  exact hnew r hr (heq.trans (List.mem_singleton.mp hrow))

/-- A column without repetition, and an update of others. -/
theorem nodup_updateRows {α β : Type} (f : α → β) {rows : List α} {p : α → Bool} {g : α → α}
    (hg : ∀ r, f (g r) = f r) (h : (rows.map f).Nodup) : ((updateRows p g rows).map f).Nodup := by
  suffices hcolumn : (updateRows p g rows).map f = rows.map f from hcolumn ▸ h
  rw [updateRows, List.map_map]
  apply List.map_congr_left
  intro r _
  dsimp only [Function.comp_apply]
  split
  · exact hg r
  · rfl

def Payment.withCore (r : Payment) (c : PaymentCore) : Payment :=
  { toPaymentCore := c, customer_id := r.customer_id, package_id := r.package_id }

/-- Update the Daraja columns of the rows that satisfy `p`. -/
def Store.updateCores (d : Store) (t : PaymentTable) (p : PaymentCore → Bool)
    (f : PaymentCore → PaymentCore) : Store :=
  match t with
  | .payments => { d with
      payments := updateRows (fun r => p r.toPaymentCore)
        (fun r => r.withCore (f r.toPaymentCore)) d.payments }
  | .platform_payments => { d with platform_payments := updateRows p f d.platform_payments }

namespace Store

variable (d : Store) (t t' : PaymentTable) (p : PaymentCore → Bool)
  (f : PaymentCore → PaymentCore)

@[simp] theorem cores_updateCores :
    (d.updateCores t p f).cores t' =
      if t' = t then updateRows p f (d.cores t') else d.cores t' := by
  cases t with
  | payments =>
      cases t' with
      | payments =>
          simp only [cores, updateCores, updateRows, if_true, List.map_map]
          apply List.map_congr_left
          intro r _
          by_cases h : p r.toPaymentCore <;> simp [h, Payment.withCore]
      | platform_payments => rfl
  | platform_payments => cases t' <;> rfl

@[simp] theorem updateCores_tenants : (d.updateCores t p f).tenants = d.tenants := by
  cases t <;> rfl

@[simp] theorem updateCores_users : (d.updateCores t p f).users = d.users := by
  cases t <;> rfl

@[simp] theorem updateCores_packages : (d.updateCores t p f).packages = d.packages := by
  cases t <;> rfl

@[simp] theorem updateCores_vouchers : (d.updateCores t p f).vouchers = d.vouchers := by
  cases t <;> rfl

@[simp] theorem updateCores_radcheck : (d.updateCores t p f).radcheck = d.radcheck := by
  cases t <;> rfl

@[simp] theorem updateCores_radreply : (d.updateCores t p f).radreply = d.radreply := by
  cases t <;> rfl

@[simp] theorem updateCores_wallet_transactions :
    (d.updateCores t p f).wallet_transactions = d.wallet_transactions := by
  cases t <;> rfl

@[simp] theorem updateCores_last_sequence_id :
    (d.updateCores t p f).last_sequence_id = d.last_sequence_id := by
  cases t <;> rfl

@[simp] theorem updateCores_queue : (d.updateCores t p f).queue = d.queue := by
  cases t <;> rfl

@[simp] theorem updateCores_pushes : (d.updateCores t p f).pushes = d.pushes := by
  cases t <;> rfl

end Store

end FrixelConnect
