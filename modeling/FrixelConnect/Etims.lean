import FrixelConnect.Invoices
import Mathlib.Data.Rat.Defs
import Mathlib.Algebra.Order.Field.Rat
import Mathlib.Tactic.Linarith
import Mathlib.Tactic.Ring

/-!
# The submission of an invoice

`submit_invoice` takes the VAT out of an amount with float arithmetic. The database hands the
amount over as a `Decimal`, which Python does not divide by a float.

## Implementation notes

Floats are a parameter: a type with the operations that the payload is built with.
-/

namespace FrixelConnect

namespace Etims

open Decimals Python

/-- Float arithmetic. -/
structure Floats (F : Type) where
  ofInt : ℤ → F
  /-- `16.0` -/
  sixteen : F
  add : F → F → F
  sub : F → F → F
  div : F → F → F
  /-- `round(x, 2)` -/
  round : F → F
  value : F → ℚ

/-- A number as Python knows it. -/
inductive Number (F : Type) where
  | int (n : ℤ)
  | float (x : F)
  | decimal (d : Decimal)

variable {F : Type} (floats : Floats F)

/-- An arithmetic operation with a float on the right. -/
def Number.withFloat (op : F → F → F) (y : F) : Number F → Except Fault F
  | .int n => .ok (op (floats.ofInt n) y)
  | .float x => .ok (op x y)
  | .decimal _ => .error .typeError

/-- One item of the body that is posted, with the fields of the transaction. -/
structure Payload (F : Type) where
  tin : String
  bhfId : String
  invcNo : String
  itemCd : String := "WIFI_SUBSCRIPTION"
  itemNm : String
  qty : ℕ := 1
  prc : Number F
  splyAmt : F
  dcRt : ℕ := 0
  dcAmt : ℕ := 0
  taxTyCd : String := "V"
  taxAmt : F

/-- The body for an amount that includes the tax. -/
def payload (tin bhf_id : String) (invoice_number : ℕ) (amount : Number F)
    (package_name : String) : Except Fault (Payload F) := do
  let vat_rate := floats.sixteen
  let taxable_amount ← amount.withFloat floats floats.div
    (floats.add (floats.ofInt 1) (floats.div vat_rate (floats.ofInt 100)))
  let tax_amount ← amount.withFloat floats floats.sub taxable_amount
  pure { tin, bhfId := bhf_id, invcNo := toString invoice_number, itemNm := package_name
         prc := amount, splyAmt := floats.round taxable_amount, taxAmt := floats.round tax_amount }

/-- `settings.KRA_ETIMS_MOCK`, the token or the failure to get one, and what the server makes of
a body. -/
structure Server (F : Type) where
  mock : Bool
  sign : String
  token : Except Exn String
  post : Payload F → Except Exn EtimsResult

def submit_invoice (server : Server F) (tin bhf_id : String) (invoice_number : ℕ)
    (amount : Number F) (package_name : String) : Except Exn EtimsResult :=
  if server.mock then
    .ok { rcptSign := "MOCK-SIGN-" ++ server.sign
          qrCodeUrl := "https://itax.kra.go.ke/KRA-Portal/receipt?invoice=" ++
            toString invoice_number ++ "&mock=true" }
  else do
    let _ ← server.token
    let body ← (payload floats tin bhf_id invoice_number amount package_name).mapError .fault
    server.post body

/-- The number of cents is nearest to the amount. -/
def Nearest (x amount : ℚ) : Prop := ∃ cents : ℤ, x = cents / 100 ∧ |x - amount| ≤ 1 / 200

/-- The body splits the amount into the supply and the tax. -/
structure Splits (amount : Money) (body : Payload F) : Prop where
  number : amount ≠ .nan
  prc : body.prc = .decimal amount.load
  supply : Nearest (floats.value body.splyAmt) (amount.cents / 100 / (116 / 100))
  tax : Nearest (floats.value body.taxAmt) (amount.cents / 100 * 16 / 116)
  sum : floats.value body.splyAmt + floats.value body.taxAmt = (amount.cents / 100 : ℚ)

/-- The submission of the stored amount posts a body that splits it. -/
def Submits (amount : Money) : Prop :=
  ∀ tin bhf_id invoice_number package_name, ∃ body,
    payload floats tin bhf_id invoice_number (.decimal amount.load) package_name = .ok body ∧
      Splits floats amount body

theorem payload_decimal (tin bhf_id : String) (invoice_number : ℕ) (d : Decimal)
    (package_name : String) :
    payload floats tin bhf_id invoice_number (.decimal d) package_name = .error .typeError := rfl

/-- Nothing is posted outside of the mock mode. -/
theorem submit_invoice_decimal {server : Server F} (h : server.mock = false) {tin bhf_id : String}
    {invoice_number : ℕ} {d : Decimal} {package_name : String} : ∃ e,
    submit_invoice floats server tin bhf_id invoice_number (.decimal d) package_name = .error e := by
  cases htoken : server.token with
  | error e => exact ⟨e, by simp [submit_invoice, h, htoken, bind, Except.bind]⟩
  | ok token =>
      refine ⟨.fault .typeError, ?_⟩
      simp [submit_invoice, h, htoken, bind, Except.bind, payload_decimal, Except.mapError]

/-- The two halves of an amount in cents, each rounded, add up to it. -/
theorem halves_add_up (cents : ℕ) :
    halfAway (25 * cents) 29 + halfAway (4 * cents) 29 = cents := by
  simp only [halfAway]
  omega

/-- The nearest halves exist for every amount, and their sum is right. -/
theorem exists_halves (cents : ℕ) : ∃ supply tax : ℚ,
    Nearest supply (cents / 100 / (116 / 100)) ∧ Nearest tax (cents / 100 * 16 / 116) ∧
      supply + tax = cents / 100 := by
  have hnearest (m : ℕ) : |(halfAway m 29 : ℚ) / 100 - m / 29 / 100| ≤ 1 / 200 := by
    have hlow : 58 * halfAway m 29 ≤ 2 * m + 29 := by
      simp only [halfAway]
      omega
    have hhigh : 2 * m + 29 ≤ 58 * halfAway m 29 + 58 := by
      simp only [halfAway]
      omega
    have hlow' : (58 * halfAway m 29 : ℚ) ≤ 2 * m + 29 := by exact_mod_cast hlow
    have hhigh' : (2 * m + 29 : ℚ) ≤ 58 * halfAway m 29 + 58 := by exact_mod_cast hhigh
    rw [abs_le]
    constructor <;> linarith
  have hsum : (halfAway (25 * cents) 29 + halfAway (4 * cents) 29 : ℚ) = cents := by
    exact_mod_cast halves_add_up cents
  refine ⟨halfAway (25 * cents) 29 / 100, halfAway (4 * cents) 29 / 100,
    ⟨halfAway (25 * cents) 29, by push_cast; rfl, ?_⟩,
    ⟨halfAway (4 * cents) 29, by push_cast; rfl, ?_⟩, ?_⟩
  · have h := hnearest (25 * cents)
    push_cast at h
    convert h using 2
    ring
  · have h := hnearest (4 * cents)
    push_cast at h
    convert h using 2
    ring
  · rw [← add_div, hsum]

/-- No stored amount is submitted. -/
theorem not_submits (amount : Money) : ¬ Submits floats amount := by
  intro h
  obtain ⟨body, hbody, -⟩ := h "P000000000A" "00" 1 "Daily"
  rw [payload_decimal] at hbody
  cases hbody

/-- A payment of 1500 shillings, whatever float arithmetic does. -/
theorem not_submits_month : ¬ ∃ F, ∃ floats : Floats F,
    Submits floats (.units ⟨150000, by decide⟩) := by
  rintro ⟨F, floats, h⟩
  obtain ⟨body, hbody, -⟩ := h "P000000000A" "00" 1 "Monthly"
  rw [payload_decimal] at hbody
  cases hbody

end Etims

end FrixelConnect
