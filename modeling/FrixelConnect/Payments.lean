import FrixelConnect.Vouchers

/-!
# Initiation of payments

The three functions that ask Daraja to push a payment first insert a pending
row and then share one block: push, store the checkout id, and on any exception
mark the row failed. The free trial inserts a confirmed payment instead.
-/

namespace FrixelConnect

open Decimals Python Interleaving

/-- `int(price_kes)`. -/
def Money.toInt : Money → Except Exn ℤ
  | .nan => .error (.valueError "cannot convert NaN to integer")
  | .units n => .ok (n.1.tdiv 100)

/-- The block after the insert: `push` gives Daraja's response, `tenant_id` is the tenant in
the `WHERE` of the two updates, `message` starts the error that the caller sees. -/
def push_block (t : PaymentTable) (payment_id : UUID) (tenant_id : Option UUID)
    (push : M Json) (message : String) : M PaymentCore :=
  .inFrame (.initiating t payment_id) ((do
    let response ← push
    let checkout_id ← get response "CheckoutRequestID"
    let updated_payment ← exec (.store_checkout t checkout_id (.row payment_id tenant_id))
    match updated_payment with
    | none => throw (.fault .typeError)
    | some row => return row : M PaymentCore).tryCatch fun e => do
      exec (.fail t (.str e.str) (.row payment_id tenant_id))
      throw (.payment (message ++ e.str)))

/-- The active package of a tenant, or the error for the caller. -/
def purchasable (package_id tenant_id : UUID) : M Package := do
  let package ← exec (.select_package package_id tenant_id)
  match package with
  | none => throw (.notFound "Package" (str package_id))
  | some package =>
      if !package.is_active then
        throw (.conflict "Package is inactive and cannot be purchased.")
      return package

structure STKPushRequest where
  phone : String
  package_id : UUID

def initiate_stk_push (tenant_id customer_id : UUID) (data : STKPushRequest) :
    M PaymentCore := do
  let package ← purchasable data.package_id tenant_id
  let payment ← exec (.insert_payment customer_id data.package_id package.price_kes.load
    .pending data.phone tenant_id none none)
  push_block .payments payment.id (some tenant_id)
    (do let amount ← Prog.ofExcept package.price_kes.toInt
        stk_push (some payment.id) data.phone amount ("WIFI-" ++ front 7 (str payment.id))
          "WiFi Payment")
    "M-Pesa payment initiation failed: "

def get_or_create_guest_customer (tenant_id : UUID) (phone : String) : M UUID := do
  let user ← exec (.select_user_by_phone phone tenant_id)
  match user with
  | some user => return user.id
  | none =>
      let unique ← exec .uuid4
      let random_pass ← exec .uuid4
      let hashed_pass ← exec (.hash_password (hex random_pass))
      let new_user ← exec (.insert_guest
        ("guest-" ++ phone ++ "-" ++ front 6 (hex unique) ++ "@guest.example.com") phone
        hashed_pass tenant_id)
      return new_user.id

structure PortalSTKPushRequest where
  phone : String
  package_id : UUID
  tenant_id : UUID

def initiate_hotspot_payment (data : PortalSTKPushRequest) : M PaymentCore := do
  let customer_id ← get_or_create_guest_customer data.tenant_id data.phone
  let package ← purchasable data.package_id data.tenant_id
  let payment ← exec (.insert_payment customer_id data.package_id package.price_kes.load
    .pending data.phone data.tenant_id none none)
  push_block .payments payment.id none
    (do let amount ← Prog.ofExcept package.price_kes.toInt
        stk_push (some payment.id) data.phone amount ("WIFI-" ++ front 7 (str payment.id))
          "Hotspot WiFi Pass")
    "M-Pesa payment initiation failed: "

structure PortalFreeTrialRequest where
  phone : String
  tenant_id : UUID

/-- The id of the tenant's trial package, which is created when it does not exist. -/
def trial_package (tenant_id : UUID) : M UUID := do
  let package ← exec (.select_trial_package tenant_id)
  match package with
  | some package => return package.id
  | none =>
      let package ← exec (.insert_trial_package tenant_id)
      return package.id

def provision_free_trial (data : PortalFreeTrialRequest) : M String := do
  let customer_id ← get_or_create_guest_customer data.tenant_id data.phone
  let existing_trial ← exec (.count_trials customer_id data.tenant_id)
  if 0 < existing_trial then
    throw (.conflict ("You have already used your free trial for today. " ++
      "Please select a paid plan to connect."))
  let package_id ← trial_package data.tenant_id
  let trial_receipt ← exec (.token_hex 4)
  let payment ← exec (.insert_payment customer_id package_id (.finite 100 (-2)) .confirmed
    data.phone data.tenant_id none (some ("TRIAL-" ++ trial_receipt.map Char.toUpper)))
  generate_voucher payment.id data.tenant_id

def TIER_MONTHLY_FEES : SubscriptionTier → ℤ
  | .starter => 1500
  | .growth => 5000
  | .scale => 15000
  | .enterprise => 50000

def initiate_platform_billing_payment (tenant_id : UUID) : M PaymentCore := do
  let tenant ← exec (.select_tenant tenant_id)
  match tenant with
  | none => throw (.notFound "Tenant" (str tenant_id))
  | some tenant =>
      let amount := TIER_MONTHLY_FEES tenant.subscription_tier
      let payment ← exec (.insert_platform_payment tenant_id (.finite amount 0)
        tenant.owner_phone .null)
      push_block .platform_payments payment.id (some tenant_id)
        (stk_push none tenant.owner_phone amount ("ZS-" ++ front 8 (str payment.id))
          "Frixel Connect Fee")
        "Platform billing payment initiation failed: "

end FrixelConnect
