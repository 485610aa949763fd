import FrixelConnect.Wallets

/-!
# Voucher generation and the reseller's sale

`generate_voucher` writes the RADIUS credentials and then the voucher. On a
connection without a transaction each of its statements takes effect alone; the
reseller's sale runs it inside one transaction with the debit and the payment.
-/

namespace FrixelConnect

open Python Interleaving

def _provision_radius_credentials (username password : String) (speed_mbps duration_minutes : ℤ)
    (tenant_id : UUID) (data_quota_mb : Option ℤ) : M Unit := do
  exec (.delete_radius .radcheck username tenant_id)
  exec (.delete_radius .radreply username tenant_id)
  exec (.insert_radius .radcheck
    { username, attr := "Cleartext-Password", op := ":=", value := password, tenant_id })
  exec (.insert_radius .radreply
    { username, attr := "Mikrotik-Rate-Limit", op := ":=",
      value := toString speed_mbps ++ "M", tenant_id })
  exec (.insert_radius .radreply
    { username, attr := "Session-Timeout", op := ":=",
      value := toString (duration_minutes * 60), tenant_id })
  match data_quota_mb with
  | some quota =>
      if quota ≠ 0 then
        exec (.insert_radius .radreply
          { username, attr := "Mikrotik-Total-Limit", op := ":=",
            value := toString (quota * 1024 * 1024), tenant_id })
  | none => pure ()

/-- A code for the tenant; drawn once more, without a second check, when it is taken. -/
def draw_code (tenant_id : UUID) : M String := do
  let code ← exec (.generate_voucher_code 10)
  let collision ← exec (.count_code code tenant_id)
  if 0 < collision then
    exec (.generate_voucher_code 10)
  else
    return code

/-- `customer_email.endswith("@guest.example.com")`. -/
def isGuest (email : String) : Bool := "@guest.example.com".toList.isSuffixOf email.toList

/-- A guest gets the code as password, and a message; a failure to send it is only logged. -/
def welcome_guest (user : Option User) (code : String) (customer_id tenant_id : UUID) :
    M Unit := do
  if isGuest ((user.map (·.email)).getD "") then
    let hashed_password ← exec (.hash_password code)
    exec (.set_hashed_password hashed_password customer_id tenant_id)
    (exec (.send_sms (user.map (·.phone))
      ("Frixel Connect Wi-Fi: Payment successful! Your voucher code is " ++ code ++ ". " ++
        "You can also use this code as your PIN to log into the Customer Portal on the " ++
        "login page."))).tryCatch fun _ => pure ()

def generate_voucher (payment_id tenant_id : UUID) : M String :=
  .inFrame (.generate_voucher payment_id tenant_id) do
    let row ← exec (.select_payment_package payment_id tenant_id)
    match row with
    | none =>
        throw (.valueError ("Payment " ++ str payment_id ++ " not found for tenant " ++
          str tenant_id ++ " when generating voucher"))
    | some (payment, package) =>
        let user_row ← exec (.select_contact payment.customer_id tenant_id)
        let code ← draw_code tenant_id
        _provision_radius_credentials code code package.speed_mbps package.duration_minutes
          tenant_id package.data_quota_mb
        exec (.insert_voucher payment_id payment.customer_id payment.package_id code
          tenant_id (user_row.bind (·.router_id)))
        welcome_guest user_row code payment.customer_id tenant_id
        return code

structure ResellerVoucherGenerateRequest where
  customer_id : UUID
  package_id : UUID

/-- The transaction of the sale: debit, payment and voucher. -/
def sell_voucher (data : ResellerVoucherGenerateRequest) (reseller_id tenant_id : UUID)
    (customer : User) (package : Package) : M UUID := do
  let voucher_id ← exec .uuid4
  let _ ← debit_wallet tenant_id reseller_id package.price_kes.load (.str (str voucher_id))
  let receipt ← exec (.generate_voucher_code 8)
  let payment ← exec (.insert_payment data.customer_id data.package_id
    package.price_kes.load .confirmed customer.phone tenant_id
    (some ("WALLET-" ++ front 20 (str voucher_id))) (some ("WAL-" ++ receipt)))
  let _ ← generate_voucher payment.id tenant_id
  return payment.id

def generate_reseller_voucher (data : ResellerVoucherGenerateRequest)
    (reseller_id tenant_id : UUID) : M Voucher := do
  let customer ← exec (.select_customer data.customer_id)
  match customer.filter fun c => c.tenant_id == tenant_id with
  | none => throw (.notFound "Customer" (str data.customer_id))
  | some customer =>
      let package ← exec (.select_package data.package_id tenant_id)
      match package with
      | none => throw (.notFound "Package" (str data.package_id))
      | some package =>
          if !package.is_active then
            throw (.conflict "Package is inactive.")
          let payment_id ← Prog.transaction
            (sell_voucher data reseller_id tenant_id customer package)
          let voucher_row ← exec (.select_voucher payment_id)
          match voucher_row with
          | none => throw (.fault .typeError)
          | some voucher => return voucher

end FrixelConnect
