import FrixelConnect.Payments

/-!
# Daraja callbacks

Both endpoints are public and take any JSON body. What the callbacks only log
(the phone number, the amount and the type of a transaction) is left out.
-/

namespace FrixelConnect

open Decimals Python Interleaving

/-- The body of the answer to Daraja. -/
structure Ack where
  ResultCode : ℕ
  ResultDesc : String
  deriving DecidableEq

def accepted : Ack := { ResultCode := 0, ResultDesc := "Accepted" }

/-- `CallbackMetadata.Item` as a dict. -/
def callback_metadata (stk_callback : Json) : M (List (String × Json)) := do
  let callback_metadata ← get stk_callback "CallbackMetadata" (.obj [])
  let metadata_items ← get callback_metadata "Item" (.arr [])
  Prog.ofExcept ((metadata_items.elements.bind Json.metadata).mapError .fault)

/-- The body of a confirming transaction: the row, and the tenant of a platform fee. -/
def confirm_and_extend (t : PaymentTable) (receipt : Json) (w : RowFilter) (tenant_id : UUID) :
    M Unit := do
  exec (.confirm t receipt w)
  if t = .platform_payments then
    exec (.extend_tenant tenant_id)

/-- A customer payment that was confirmed gets a job; a platform fee does not. -/
def queue_voucher (t : PaymentTable) (payment : PaymentCore) (confirmed : Bool) : M Unit :=
  if confirmed ∧ t ≠ .platform_payments then
    exec (.enqueue_job { payment_id := payment.id, tenant_id := payment.tenant_id })
  else pure ()

/-- The transaction of a successful callback. -/
def confirm_payment (t : PaymentTable) (receipt_number : Json) (payment : PaymentCore) : M Unit :=
  Prog.transaction (confirm_and_extend t receipt_number
    (.row payment.id (some payment.tenant_id)) payment.tenant_id)

/-- What a callback does to the row that it was found to be about. -/
def apply_callback (t : PaymentTable) (payment : PaymentCore) (stk_callback result_code
    result_desc : Json) : M Ack := do
  if payment.status ≠ .pending then
    return accepted
  if result_code.eqZero then
    let metadata ← callback_metadata stk_callback
    let receipt_number := (metadata.lookup "MpesaReceiptNumber").getD .null
    if !receipt_number.truthy then
      return accepted
    let confirmed ← absorbUnique (confirm_payment t receipt_number payment)
    queue_voucher t payment confirmed
    return accepted
  else
    exec (.fail t result_desc (.row payment.id (some payment.tenant_id)))
    return accepted

def process_daraja_webhook (body : Json) : M Ack := do
  let outer ← get body "Body" (.obj [])
  let stk_callback ← get outer "stkCallback" (.obj [])
  let checkout_id ← get stk_callback "CheckoutRequestID"
  let result_code ← get stk_callback "ResultCode"
  let result_desc ← get stk_callback "ResultDesc" (.str "No description provided.")
  if !checkout_id.truthy then
    return accepted
  let payment ← exec (.select_by_checkout .payments checkout_id)
  match payment with
  | some payment => apply_callback .payments payment stk_callback result_code result_desc
  | none =>
      let payment ← exec (.select_by_checkout .platform_payments checkout_id)
      match payment with
      | some payment =>
          apply_callback .platform_payments payment stk_callback result_code result_desc
      | none => return accepted

def completed : Ack := { ResultCode := 0, ResultDesc := "Service completed successfully" }

/-- `bill_ref.strip().upper()`. -/
def normalise_bill_ref : Json → M String
  | .str s => pure (String.ofList (upper (strip s.toList)))
  | _ => throw (.fault .attributeError)

def process_daraja_c2b_webhook (body : Json) : M Ack := do
  let trans_type ← get body "TransactionType"
  let bill_ref ← get body "BillRefNumber"
  let trans_id ← get body "TransID"
  let trans_amount ← get body "TransAmount"
  if !bill_ref.truthy then
    return { ResultCode := 1, ResultDesc := "Missing BillRefNumber" }
  let bill_ref ← normalise_bill_ref bill_ref
  let reseller ← exec (.select_reseller bill_ref)
  match reseller with
  | none => return { ResultCode := 1, ResultDesc := "Invalid wallet reference" }
  | some reseller =>
      if trans_type.eqText "Pay Bill Validation" then
        return completed
      if !trans_id.truthy || !trans_amount.truthy then
        return completed
      match trans_amount.decimal with
      | none => throw (.decimal .invalidOperation)
      | some amount =>
          (Prog.transaction (topup_wallet reseller.tenant_id reseller.id amount trans_id)
            |>.bind fun _ => (pure completed : M Ack)).tryCatch fun _ => pure completed

end FrixelConnect
