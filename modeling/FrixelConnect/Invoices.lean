import FrixelConnect.Daraja

/-!
# Invoices

The invoice of a confirmed payment. Its number is set by a trigger of the insert, which
locks the row of the tenant and takes the next number; then the invoice is submitted to
the revenue authority, printed, and completed.

## Implementation notes

The insert with its trigger is a transaction of three statements, whose lock lasts to the
commit. The revenue authority answers with a signature and a QR code, or fails.
-/

namespace FrixelConnect

open Interleaving

/-- A tenant with the columns that an invoice shows. -/
structure InvoiceTenant where
  id : UUID
  business_name : String
  owner_email : String
  deriving DecidableEq

structure Invoice where
  id : UUID
  tenant_id : UUID
  payment_id : UUID
  invoice_number : ℕ
  kra_etims_qr_code : Option String := none
  pdf_path : Option String := none
  deriving DecidableEq

structure InvoiceStore where
  tenants : List InvoiceTenant := []
  users : List User := []
  packages : List Package := []
  payments : List Payment := []
  invoices : List Invoice := []
  deriving DecidableEq

/-- A payment with its tenant, its customer and its package. -/
structure PaymentDetails where
  payment_id : UUID
  tenant_id : UUID
  amount : Money
  status : PaymentStatus
  tenant_name : String
  owner_email : String
  customer_phone : String
  package_name : String
  deriving DecidableEq

/-- What the revenue authority answers. -/
structure EtimsResult where
  rcptSign : String := ""
  qrCodeUrl : String := ""
  deriving DecidableEq

/-- What is printed. -/
structure PdfContents where
  invoice_number : ℕ
  tenant_name : String
  tenant_pin : String
  customer_phone : String
  package_name : String
  amount : Money
  kra_qr_url : String
  kra_sign : String
  deriving DecidableEq

/-- What the environment contributes to one statement. -/
structure InvoiceEnv where
  uuid : UUID := 0
  pick : ℕ := 0
  text : String := ""
  etims : EtimsResult := {}

inductive InvoiceStmt where
  | select_payment (payment_id : UUID)
  | select_invoice (payment_id tenant_id : UUID)
  | lock_tenant (tenant_id : UUID)
  | next_invoice_number (tenant_id : UUID)
  | insert_invoice (tenant_id payment_id : UUID) (invoice_number : ℕ)
  | submit_invoice (tin bhf_id : String) (invoice_number : ℕ) (amount : Money)
      (package_name : String)
  | generate_pdf (contents : PdfContents)
  | update_invoice (kra_etims_qr_code : Option String) (pdf_path : String) (id tenant_id : UUID)

namespace InvoiceStmt

abbrev Res : InvoiceStmt → Type
  | .select_payment _ => Option PaymentDetails
  | .select_invoice .. => Option (UUID × ℕ)
  | .next_invoice_number _ => ℕ
  | .insert_invoice .. => UUID × ℕ
  | .submit_invoice .. => EtimsResult
  | .generate_pdf _ => String
  | _ => Unit

/-- The statement runs on the database connection. -/
def inTx : InvoiceStmt → Bool
  | .submit_invoice .. => false
  | .generate_pdf _ => false
  | _ => true

/-- `FOR UPDATE`. -/
def locks : InvoiceStmt → List UUID
  | .lock_tenant tenant_id => [tenant_id]
  | _ => []

end InvoiceStmt

namespace InvoiceStore

variable (d : InvoiceStore)

/-- The payments with their tenants, customers and packages. -/
def joined : List PaymentDetails :=
  d.payments.flatMap fun p => (d.tenants.filter fun t => t.id == p.tenant_id).flatMap fun t =>
    (d.users.filter fun u => u.id == p.customer_id).flatMap fun u =>
      (d.packages.filter fun pkg => pkg.id == p.package_id).map fun pkg => {
        payment_id := p.id, tenant_id := p.tenant_id, amount := p.amount_kes, status := p.status
        tenant_name := t.business_name, owner_email := t.owner_email
        customer_phone := u.phone, package_name := pkg.name }

/-- The numbers of the invoices of a tenant. -/
def numbers (tenant_id : UUID) : List ℕ :=
  (d.invoices.filter fun i => i.tenant_id == tenant_id).map (·.invoice_number)

end InvoiceStore

/-- What a statement answers and the store after it, or what it raises. -/
def InvoiceStmt.eval (v : InvoiceEnv) (d : InvoiceStore) :
    (s : InvoiceStmt) → Except Exn (s.Res × InvoiceStore)
  | .select_payment payment_id =>
      pure (fetchrow v.pick (fun r => r.payment_id == payment_id) d.joined, d)
  | .select_invoice payment_id tenant_id =>
      pure ((fetchrow v.pick (fun i => i.payment_id == payment_id && i.tenant_id == tenant_id)
        d.invoices).map fun i => (i.id, i.invoice_number), d)
  | .lock_tenant _ => pure ((), d)
  | .next_invoice_number tenant_id => pure ((d.numbers tenant_id).max?.getD 0 + 1, d)
  | .insert_invoice tenant_id payment_id invoice_number => do
      check (d.invoices.all fun i => i.id != v.uuid) (.uniqueViolation .primary_key)
      check (d.invoices.all fun i =>
        !(i.tenant_id == tenant_id && i.invoice_number == invoice_number))
        (.uniqueViolation .invoices_tenant_number)
      check (d.invoices.all fun i => i.payment_id != payment_id)
        (.uniqueViolation .invoices_payment_id)
      check (d.tenants.any fun t => t.id == tenant_id) (.database "invoices_tenant_id_fkey")
      check (d.payments.any fun p => p.id == payment_id) (.database "invoices_payment_id_fkey")
      let row : Invoice := { id := v.uuid, tenant_id, payment_id, invoice_number }
      pure ((row.id, row.invoice_number), { d with invoices := d.invoices ++ [row] })
  | .submit_invoice .. => pure (v.etims, d)
  | .generate_pdf _ => pure (v.text, d)
  | .update_invoice kra_etims_qr_code pdf_path id tenant_id =>
      let completed (i : Invoice) : Invoice :=
        { i with kra_etims_qr_code, pdf_path := some pdf_path }
      let invoices :=
        updateRows (fun i => i.id == id && i.tenant_id == tenant_id) completed d.invoices
      pure ((), { d with invoices })

/-- A statement that raises leaves the store as it was. -/
def InvoiceStmt.exec (s : InvoiceStmt) (v : InvoiceEnv) (d : InvoiceStore) :
    Except Exn s.Res × InvoiceStore :=
  match s.eval v d with
  | .ok r => (.ok r.1, r.2)
  | .error e => (.error e, d)

def invoiceMachine : Machine InvoiceStmt InvoiceStmt.Res Exn InvoiceStore InvoiceEnv UUID where
  exec := InvoiceStmt.exec
  inTx := InvoiceStmt.inTx
  locks := InvoiceStmt.locks
  aborted := .inFailedTransaction

/-- Programs of the invoices. -/
abbrev InvoiceM := Prog InvoiceStmt InvoiceStmt.Res Unit Exn

namespace Invoices

/-- One statement of a program. -/
abbrev run (s : InvoiceStmt) : InvoiceM s.Res := Prog.exec s

/-- `INSERT INTO invoices (tenant_id, payment_id)` with `set_tenant_invoice_number`. -/
def insert_invoice (tenant_id payment_id : UUID) : InvoiceM (UUID × ℕ) :=
  Prog.transaction (do
    run (.lock_tenant tenant_id)
    let invoice_number ← run (.next_invoice_number tenant_id)
    run (.insert_invoice tenant_id payment_id invoice_number))

/-- The signature, the QR code and the stored text of a submission; a failure is only logged. -/
def submit (tin bhf_id : String) (invoice_number : ℕ) (row : PaymentDetails) :
    InvoiceM (String × String × Option String) :=
  (do let result ← run (.submit_invoice tin bhf_id invoice_number row.amount row.package_name)
      return (result.qrCodeUrl, result.rcptSign,
        some (result.rcptSign ++ "|" ++ result.qrCodeUrl)) :
    InvoiceM (String × String × Option String)).tryCatch fun _ => pure ("", "", none)

def generate_invoice_for_payment (payment_id : UUID) : InvoiceM Unit := do
  let row ← run (.select_payment payment_id)
  match row with
  | none => return
  | some row =>
      if row.status ≠ .confirmed then
        return
      else
        let existing ← run (.select_invoice payment_id row.tenant_id)
        match existing with
        | some _ => return
        | none =>
            let (invoice_id, invoice_number) ← insert_invoice row.tenant_id payment_id
            let tenant_tin := "P000000000A"
            let tenant_bhf_id := "00"
            let (qr_url, kra_sign, kra_qr_code_data) ←
              submit tenant_tin tenant_bhf_id invoice_number row
            let contents : PdfContents := {
              invoice_number, tenant_name := row.tenant_name, tenant_pin := tenant_tin
              customer_phone := row.customer_phone, package_name := row.package_name
              amount := row.amount, kra_qr_url := qr_url, kra_sign }
            let pdf_path ← run (.generate_pdf contents)
            run (.update_invoice kra_qr_code_data pdf_path invoice_id row.tenant_id)

/-- Any number of calls, for the payments `UUID`. -/
def invoiceSystem : System InvoiceStmt InvoiceStmt.Res Unit Exn InvoiceStore InvoiceEnv UUID Unit
    UUID :=
  { invoiceMachine with start := fun w d => some (d, generate_invoice_for_payment w) }

abbrev InvoiceState := State InvoiceStmt InvoiceStmt.Res Unit Exn InvoiceStore InvoiceEnv Unit
abbrev InvoiceRules := Rules InvoiceStmt Exn InvoiceStore InvoiceEnv UUID
abbrev InvoiceLocal := Local InvoiceStmt Unit InvoiceEnv

end Invoices

namespace InvoiceStmt

variable {s : InvoiceStmt} {v : InvoiceEnv} {d d' : InvoiceStore} {a : s.Res}

theorem exec_eq_settle (s : InvoiceStmt) (v : InvoiceEnv) (d : InvoiceStore) :
    s.exec v d = settle (s.eval v d) d := by
  rw [exec]
  cases s.eval v d with
  | ok r => rfl
  | error e => rfl

theorem exec_cases (s : InvoiceStmt) (v : InvoiceEnv) (d : InvoiceStore) :
    (∃ a d', s.eval v d = .ok (a, d') ∧ s.exec v d = (.ok a, d')) ∨
      ∃ e, s.eval v d = .error e ∧ s.exec v d = (.error e, d) := by
  rw [exec_eq_settle]
  exact settle_cases (s.eval v d) d

theorem exec_eq_ok : s.exec v d = (.ok a, d') ↔ s.eval v d = .ok (a, d') := by
  rw [exec_eq_settle, settle_eq_ok]

/-- An INSERT adds one invoice, of a payment that has none. -/
theorem eval_insert_invoice {tenant_id payment_id : UUID} {invoice_number : ℕ} {a : UUID × ℕ}
    (h : (insert_invoice tenant_id payment_id invoice_number).eval v d = .ok (a, d')) :
    d' = { d with invoices :=
      d.invoices ++ [{ id := v.uuid, tenant_id, payment_id, invoice_number }] } ∧
      ∀ i ∈ d.invoices, i.payment_id ≠ payment_id := by
  simp only [eval, Except.bind_eq_ok, check_eq_ok, List.all_eq_true, bne_iff_ne] at h
  obtain ⟨-, -, -, -, -, hpayment, -, -, -, -, hd'⟩ := h
  cases hd'
  exact ⟨rfl, hpayment⟩

theorem eval_insert_invoice_answer {tenant_id payment_id : UUID} {invoice_number : ℕ}
    {a : UUID × ℕ}
    (h : (insert_invoice tenant_id payment_id invoice_number).eval v d = .ok (a, d')) :
    a = (v.uuid, invoice_number) := by
  simp only [eval, Except.bind_eq_ok] at h
  obtain ⟨-, -, -, -, -, -, -, -, -, -, h⟩ := h
  cases h
  rfl

end InvoiceStmt

theorem invoiceMachine_restores : invoiceMachine.Restores := .of_settle _ InvoiceStmt.exec_eq_settle

end FrixelConnect
