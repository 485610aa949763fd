import FrixelConnect.Specs.Knowledge

/-!
# Outcomes as Daraja reports them

The outcome of a transaction reaches the application as the body of a callback or
as the answer to a query. The store of the examples has one customer payment and one
platform fee that wait for their outcome, and a second one has a reseller as well.
-/

namespace FrixelConnect

open Python Interleaving

/-- The final outcome of a transaction, with the receipt of a successful one. -/
structure Outcome where
  code : Json
  desc : String
  receipt : Option String := none

namespace Outcome

/-- `CallbackMetadata`, which is sent with a receipt. -/
def metadata (o : Outcome) : List (String × Json) :=
  o.receipt.toList.map fun receipt => ("CallbackMetadata", .obj [("Item", .arr
    [.obj [("Name", .str "MpesaReceiptNumber"), ("Value", .str receipt)]])])

/-- The body of the callback for a transaction. -/
def body (o : Outcome) (checkout_id : String) : Json :=
  .obj [("Body", .obj [("stkCallback", .obj (("CheckoutRequestID", .str checkout_id) ::
    ("ResultCode", o.code) :: ("ResultDesc", .str o.desc) :: o.metadata))])]

/-- The answer to a query about a transaction. -/
def answer (o : Outcome) : Json :=
  .obj [("ResponseCode", .str "0"), ("ResultCode", o.code), ("ResultDesc", .str o.desc)]

/-- The query is answered with the outcome. -/
def reply (o : Outcome) : Except Exn HttpResponse :=
  .ok { is_success := true, json := .ok o.answer }

/-- A transaction that went through. -/
def success (receipt : String) : Outcome :=
  { code := .int 0, desc := "The service request is processed successfully."
    receipt := some receipt }

/-- A transaction that the customer cancelled. -/
def cancelled : Outcome := { code := .int 1032, desc := "Request cancelled by user" }

end Outcome

/-- A customer payment that waits for Daraja. -/
def waiting : Payment :=
  { id := 1, tenant_id := 1, amount_kes := .units ⟨5000, Money.fits_5000⟩,
    mpesa_checkout_id := some "ws_CO_1", phone_number := "254700000002", created_at := 0,
    updated_at := 0, customer_id := 2, package_id := 3 }

/-- A platform fee that waits for Daraja. -/
def waitingFee : PaymentCore :=
  { id := 4, tenant_id := 1, amount_kes := .units ⟨150000, Money.fits_150000⟩,
    mpesa_checkout_id := some "ws_CO_4", phone_number := "254700000001", created_at := 0,
    updated_at := 0 }

/-- The customer of the waiting payment. -/
def customer : User :=
  { id := 2, email := "a@example.com", phone := "254700000002", hashed_password := "",
    tenant_id := 1 }

/-- The package of the waiting payment. -/
def daily : Package :=
  { id := 3, name := "Daily", price_kes := .units ⟨5000, Money.fits_5000⟩, duration_minutes := 1440,
    speed_mbps := 5, tenant_id := 1 }

/-- One tenant with a customer, a package and the two waiting rows. -/
def shop : Store :=
  { tenants := [{ id := 1, owner_phone := "254700000001", next_billing_date := 0 }]
    users := [customer], packages := [daily], payments := [waiting]
    platform_payments := [waitingFee] }

theorem uniqueIds_shop : UniqueIds shop := by
  intro t
  cases t <;> simp [shop, Store.cores]

/-- A reseller of the tenant. -/
def reseller : User :=
  { id := 5, email := "r@example.com", phone := "254700000005", hashed_password := "",
    role := .reseller, tenant_id := 1, wallet_reference := some "WSABCDE" }

/-- The first top-up of the reseller. -/
def deposit : WalletTransaction :=
  { sequence_id := 1, id := 6, tenant_id := 1, reseller_id := 5, type := .topup,
    amount_kes := .units ⟨8000, by decide⟩, balance_after := .units ⟨8000, by decide⟩,
    reference := "QK6", created_at := 0 }

/-- The shop with a reseller who has topped up. -/
def kiosk : Store :=
  { shop with
    users := [customer, reseller]
    wallet_transactions := [deposit]
    last_sequence_id := 1 }

/-- Runs in which only these processes start, in any interleaving. -/
def runsOf (p : Spawn → Bool) : RunRules := { spawn := fun w _ => p w }

section Decidable

variable (p : Spawn → Bool) (s : Stmt) (c : Choice Exn Env) (w : Spawn) (d d' : Store)

instance : Decidable ((runsOf p).stmt s c d) := .isTrue trivial

instance : Decidable ((runsOf p).spawn w d) := inferInstanceAs (Decidable (p w = true))

instance : Decidable ((runsOf p).edit d d') := .isFalse not_false

end Decidable

/-- A callback. -/
def Spawn.isCallback : Spawn → Bool
  | .daraja_webhook _ => true
  | _ => false

/-- A callback, a run of the poller or of the reconciliation, or a job. -/
def Spawn.isSettling : Spawn → Bool
  | .daraja_webhook _ => true
  | .poll => true
  | .reconcile => true
  | .job .. => true
  | _ => false

/-- A step of one process that goes through. -/
def stepOf (i : ℕ) (v : Env) : RunLabel := .step i (.run v)

/-- Several steps of one process. -/
def stepsOf (n i : ℕ) : List RunLabel := List.replicate n (stepOf i {})

end FrixelConnect
