import FrixelConnect.Daraja

/-!
# Subscriptions

The recurring subscriptions of the customers that dial in with a password: the charge for
a change of the package, the renewal, the suspension by hand and the nightly billing run.
A suspension is a row of the database and a disabled secret on the router of the customer.

## Implementation notes

The columns of `packages` are those that the migrations leave, and a query that names
another one raises. Every statement of the billing run carries the subscription that it is
about, which nothing reads. A request to a router takes effect and is answered, or fails
without effect. Amounts are exact where the source converts them to binary numbers.
-/

namespace FrixelConnect

open Decimals Calendar Interleaving Python

inductive SubscriptionStatus where
  | active
  | grace
  | suspended
  | cancelled
  deriving DecidableEq

structure Subscription where
  id : UUID
  tenant_id : UUID
  customer_id : UUID
  package_id : UUID
  status : SubscriptionStatus := .active
  current_period_end : Timestamptz
  auto_renew : Bool := true
  created_at : Timestamptz
  deriving DecidableEq

/-- The columns of a router that a client is made of. -/
structure RouterLogin where
  id : UUID
  tenant_id : UUID
  host : String
  port : ℤ := 80
  username : String
  password_encrypted : String
  deriving DecidableEq

structure MikroTikClient where
  host : String
  port : ℤ
  username : String
  password : String
  deriving DecidableEq

/-- A secret on the router with the address; `id` is RouterOS's own. -/
structure PppSecret where
  host : String
  port : ℤ
  id : String
  name : String
  disabled : Bool := false
  deriving DecidableEq

structure Sms where
  number : String
  message : String
  deriving DecidableEq

/-- The tables, the secrets on the routers, and the messages that were sent. -/
structure SubscriptionStore where
  subscriptions : List Subscription := []
  packages : List Package := []
  users : List User := []
  routers : List RouterLogin := []
  secrets : List PppSecret := []
  sms : List Sms := []
  deriving DecidableEq

/-- What a migration does to the columns of a table. -/
inductive Ddl where
  | create (columns : List String)
  | add (column : String)
  | rename (old new : String)

/-- `RENAME COLUMN` stands behind a check that the old name exists. -/
def Ddl.apply (columns : List String) : Ddl → List String
  | .create columns => columns
  | .add column => if columns.contains column then columns else columns ++ [column]
  | .rename old new => columns.map fun c => if c == old then new else c

/-- The migrations of `packages`, in order. -/
def packageMigrations : List Ddl :=
  [.create ["id", "name", "description", "price_kes", "duration_days", "speed_mbps", "is_active",
    "created_by", "created_at", "updated_at"],
   .add "tenant_id",
   .add "data_quota_mb",
   .rename "duration_days" "duration_minutes"]

def packageColumns : List String := packageMigrations.foldl Ddl.apply []

/-- `pkg[column]`, for a column of numbers. -/
def Package.item (pkg : Package) (column : String) : Except Exn ℤ :=
  if column = "duration_minutes" then .ok pkg.duration_minutes
  else if column = "speed_mbps" then .ok pkg.speed_mbps
  else .error (.keyError column)

/-- A subscription with the customer's columns that the billing run reads. -/
structure BillableRow where
  subscription : Subscription
  phone : String
  router_id : Option UUID
  deriving DecidableEq

/-- What the environment contributes to one statement. -/
structure SubscriptionEnv where
  now : Timestamptz := 0
  uuid : UUID := 0
  pick : ℕ := 0
  password : String := ""
  delivered : Bool := true

inductive SubscriptionQuery where
  | select_subscription (id tenant_id : UUID)
  | select_customer_subscription (customer_id tenant_id : UUID)
  | select_package (columns : List String) (id tenant_id : UUID)
  | select_user (id tenant_id : UUID)
  | select_router (id : UUID)
  | select_tenant_router (id tenant_id : UUID)
  | select_billable
  | set_status (status : SubscriptionStatus) (id : UUID)
  | set_tenant_status (status : SubscriptionStatus) (id tenant_id : UUID)
  | renew_subscription (current_period_end : Timestamptz) (package_id id tenant_id : UUID)
  | insert_subscription (tenant_id customer_id package_id : UUID) (current_period_end : Timestamptz)
  | utc_now
  | decrypt_secret (ciphertext : String)
  | find_ppp_secret (client : MikroTikClient) (name : String)
  | switch_ppp_secret (client : MikroTikClient) (id : String) (disabled : Bool)
  | post_sms (number message : String)
  deriving DecidableEq

/-- A statement, with the subscription that the billing run performs it for. -/
structure SubscriptionStmt where
  subscription : Option UUID
  query : SubscriptionQuery
  deriving DecidableEq

namespace SubscriptionQuery

abbrev Res : SubscriptionQuery → Type
  | .select_subscription .. => Option Subscription
  | .select_customer_subscription .. => Option Subscription
  | .select_package .. => Option Package
  | .select_user .. => Option User
  | .select_router _ => Option RouterLogin
  | .select_tenant_router .. => Option RouterLogin
  | .select_billable => List BillableRow
  | .utc_now => Timestamptz
  | .decrypt_secret _ => String
  | .find_ppp_secret .. => List String
  | .post_sms .. => Bool
  | _ => Unit

/-- The query runs on the database connection. -/
def inTx : SubscriptionQuery → Bool
  | .utc_now => false
  | .decrypt_secret _ => false
  | .find_ppp_secret .. => false
  | .switch_ppp_secret .. => false
  | .post_sms .. => false
  | _ => true

end SubscriptionQuery

abbrev SubscriptionStmt.Res (s : SubscriptionStmt) : Type := s.query.Res

/-- The secret is stored on the router of the client. -/
def PppSecret.isOn (client : MikroTikClient) (s : PppSecret) : Bool :=
  s.host == client.host && s.port == client.port

namespace SubscriptionStore

variable (d : SubscriptionStore)

def updateSubscriptions (p : Subscription → Bool) (f : Subscription → Subscription) :
    SubscriptionStore :=
  { d with subscriptions := updateRows p f d.subscriptions }

/-- The subscriptions that have a package. -/
def withPackage : List Subscription :=
  d.subscriptions.filter fun s => d.packages.any fun p => p.id == s.package_id

/-- The subscriptions that the billing run looks at, with their customers. -/
def billable : List BillableRow :=
  (d.subscriptions.filter fun s => s.status == .active || s.status == .grace).flatMap fun s =>
    (d.users.filter fun u => u.id == s.customer_id).map fun u =>
      { subscription := s, phone := u.phone, router_id := u.router_id }

end SubscriptionStore

/-- What a query answers and the store after it, or what it raises. -/
def SubscriptionQuery.eval (v : SubscriptionEnv) (d : SubscriptionStore) :
    (q : SubscriptionQuery) → Except Exn (q.Res × SubscriptionStore)
  | .select_subscription id tenant_id =>
      pure (fetchrow v.pick (fun s => s.id == id && s.tenant_id == tenant_id) d.withPackage, d)
  | .select_customer_subscription customer_id tenant_id =>
      pure (fetchrow v.pick (fun s => s.customer_id == customer_id && s.tenant_id == tenant_id)
        d.subscriptions, d)
  | .select_package columns id tenant_id =>
      match columns.find? fun c => !packageColumns.contains c with
      | some c => throw (.database ("column \"" ++ c ++ "\" does not exist"))
      | none =>
          pure (fetchrow v.pick (fun p => p.id == id && p.tenant_id == tenant_id) d.packages, d)
  | .select_user id tenant_id =>
      pure (fetchrow v.pick (fun u => u.id == id && u.tenant_id == tenant_id) d.users, d)
  | .select_router id => pure (fetchrow v.pick (fun r => r.id == id) d.routers, d)
  | .select_tenant_router id tenant_id =>
      pure (fetchrow v.pick (fun r => r.id == id && r.tenant_id == tenant_id) d.routers, d)
  | .select_billable => pure (d.billable, d)
  | .set_status status id =>
      pure ((), d.updateSubscriptions (fun s => s.id == id) fun s => { s with status })
  | .set_tenant_status status id tenant_id =>
      pure ((), d.updateSubscriptions (fun s => s.id == id && s.tenant_id == tenant_id) fun s =>
        { s with status })
  | .renew_subscription current_period_end package_id id tenant_id => do
      check (d.packages.any fun p => p.id == package_id)
        (.database "subscriptions_package_id_fkey")
      pure ((), d.updateSubscriptions (fun s => s.id == id && s.tenant_id == tenant_id) fun s =>
        { s with status := .active, current_period_end, package_id })
  | .insert_subscription tenant_id customer_id package_id current_period_end => do
      check (d.subscriptions.all fun s => s.id != v.uuid) (.uniqueViolation .primary_key)
      check (d.users.any fun u => u.id == customer_id)
        (.database "subscriptions_customer_id_fkey")
      check (d.packages.any fun p => p.id == package_id)
        (.database "subscriptions_package_id_fkey")
      let row : Subscription := {
        id := v.uuid, tenant_id, customer_id, package_id, current_period_end, created_at := v.now }
      pure ((), { d with subscriptions := d.subscriptions ++ [row] })
  | .utc_now => pure (v.now, d)
  | .decrypt_secret _ => pure (v.password, d)
  | .find_ppp_secret client name =>
      pure ((d.secrets.filter fun s => s.isOn client && s.name == name).map (·.id), d)
  | .switch_ppp_secret client id disabled =>
      let secrets := updateRows (fun s => s.isOn client && s.id == id)
        (fun s => { s with disabled }) d.secrets
      pure ((), { d with secrets })
  | .post_sms number message =>
      let sms := if v.delivered then d.sms ++ [{ number, message }] else d.sms
      pure (v.delivered, { d with sms })

/-- A statement that raises leaves the store as it was. -/
def SubscriptionStmt.exec (s : SubscriptionStmt) (v : SubscriptionEnv) (d : SubscriptionStore) :
    Except Exn s.Res × SubscriptionStore :=
  match s.query.eval v d with
  | .ok r => (.ok r.1, r.2)
  | .error e => (.error e, d)

def subscriptionMachine : Machine SubscriptionStmt SubscriptionStmt.Res Exn SubscriptionStore
    SubscriptionEnv UUID where
  exec := SubscriptionStmt.exec
  inTx s := s.query.inTx
  locks _ := []
  aborted := .inFailedTransaction

/-- Programs of the subscriptions. -/
abbrev SubscriptionM := Prog SubscriptionStmt SubscriptionStmt.Res Unit Exn

namespace Subscriptions

/-- One statement of a program. -/
abbrev run (subscription : Option UUID) (q : SubscriptionQuery) : SubscriptionM q.Res :=
  Prog.exec (R := SubscriptionStmt.Res) { subscription, query := q }

def get_subscription (tenant_id subscription_id : UUID) : SubscriptionM Subscription := do
  let row ← run none (.select_subscription subscription_id tenant_id)
  match row with
  | none => throw (.notFound "Subscription" (str subscription_id))
  | some row => return row

/-- `float(pkg["price_kes"])`, exactly. -/
def price (pkg : Package) : ℚ := pkg.price_kes.cents / 100

/-- `round(x, 2)`, exactly. -/
def round2 (x : ℚ) : ℚ :=
  let y := x * 100
  (y.num.sign * halfEven y.num.natAbs y.den : ℤ) / 100

structure Proration where
  old_package_id : UUID
  new_package_id : UUID
  days_remaining : ℤ
  prorated_charge_kes : ℚ
  description : String
  deriving DecidableEq

def calculate_proration (tenant_id subscription_id new_package_id : UUID) :
    SubscriptionM Proration := do
  let sub ← get_subscription tenant_id subscription_id
  let old_pkg ← run none (.select_package ["price_kes", "duration_days"] sub.package_id tenant_id)
  let new_pkg ← run none (.select_package ["price_kes", "duration_days"] new_package_id tenant_id)
  match new_pkg with
  | none => throw (.notFound "Package" (str new_package_id))
  | some new_pkg =>
      let now ← run none .utc_now
      let current_end := sub.current_period_end
      if current_end ≤ now then
        return {
          old_package_id := sub.package_id, new_package_id, days_remaining := 0
          prorated_charge_kes := price new_pkg
          description := "Period expired, full charge applies." }
      else
        let days_remaining := max 0 ((current_end - now) / day)
        match old_pkg with
        | none => throw (.fault .typeError)
        | some old_pkg =>
            let old_duration ← .ofExcept (old_pkg.item "duration_days")
            let ratio : ℚ := if 0 < old_duration then days_remaining / old_duration else 0
            let price_diff := price new_pkg - price old_pkg
            let prorated_charge := max 0 (round2 (ratio * price_diff))
            return {
              old_package_id := sub.package_id, new_package_id, days_remaining
              prorated_charge_kes := prorated_charge
              description := "Prorated charge for upgrading with " ++ toString days_remaining ++
                " days remaining." }

/-- A client for the router, with the password decrypted. -/
def get_mikrotik_client (caller : Option UUID) (router : RouterLogin) :
    SubscriptionM MikroTikClient := do
  let password ← run caller (.decrypt_secret router.password_encrypted)
  return { host := router.host, port := router.port, username := router.username, password }

/-- The first of the secrets that were found is switched; one without an id is left alone. -/
def switch_first (caller : Option UUID) (client : MikroTikClient) (disabled : Bool) :
    List String → SubscriptionM Unit
  | [] => return ()
  | mikrotik_id :: _ =>
      if mikrotik_id = "" then return ()
      else run caller (.switch_ppp_secret client mikrotik_id disabled)

/-- The secret with the name is looked up and switched. -/
def switch_secret (caller : Option UUID) (client : MikroTikClient) (username : String)
    (disabled : Bool) : SubscriptionM Unit := do
  let secrets ← run caller (.find_ppp_secret client username)
  switch_first caller client disabled secrets

def disable_ppp_secret (caller : Option UUID) (client : MikroTikClient) (username : String) :
    SubscriptionM Unit :=
  switch_secret caller client username true

def enable_ppp_secret (caller : Option UUID) (client : MikroTikClient) (username : String) :
    SubscriptionM Unit :=
  switch_secret caller client username false

/-- The secret of a customer on the customer's router, if there is one. -/
def switch_customer (tenant_id customer_id : UUID)
    (switch : MikroTikClient → String → SubscriptionM Unit) : SubscriptionM Unit := do
  let user_row ← run none (.select_user customer_id tenant_id)
  match user_row with
  | none => return ()
  | some user_row =>
      match user_row.router_id with
      | none => return ()
      | some router_id =>
          let router_row ← run none (.select_tenant_router router_id tenant_id)
          match router_row with
          | none => return ()
          | some router_row =>
              let client ← get_mikrotik_client none router_row
              switch client user_row.phone

/-- The end of the renewed period. The module imports the class `datetime`, which has no
attribute `timedelta`, so that a running period is not extended. -/
def renewed_end (sub : Subscription) (now : Timestamptz) (duration_days : ℤ) :
    Except Exn Timestamptz :=
  if now < sub.current_period_end ∧ (sub.status = .active ∨ sub.status = .grace) then
    .error (.fault .attributeError)
  else .ok (now + duration_days * day)

def process_renewal_payment (tenant_id customer_id package_id : UUID) : SubscriptionM Unit := do
  let pkg ← run none (.select_package ["duration_days"] package_id tenant_id)
  match pkg with
  | none => throw (.notFound "Package" (str package_id))
  | some pkg =>
      let duration_days ← .ofExcept (pkg.item "duration_days")
      let sub ← run none (.select_customer_subscription customer_id tenant_id)
      let now ← run none .utc_now
      match sub with
      | some sub =>
          let new_end ← .ofExcept (renewed_end sub now duration_days)
          run none (.renew_subscription new_end package_id sub.id tenant_id)
          if sub.status = .suspended then
            switch_customer tenant_id customer_id (enable_ppp_secret none)
          else return ()
      | none =>
          run none (.insert_subscription tenant_id customer_id package_id
            (now + duration_days * day))

def update_subscription_status (tenant_id subscription_id : UUID)
    (new_status : SubscriptionStatus) : SubscriptionM Unit := do
  let sub ← get_subscription tenant_id subscription_id
  run none (.set_tenant_status new_status subscription_id tenant_id)
  switch_customer tenant_id sub.customer_id fun client phone =>
    match new_status with
    | .suspended => disable_ppp_secret none client phone
    | .active => enable_ppp_secret none client phone
    | _ => return ()

/-- The number in international format. -/
def international (phone_number : String) : String :=
  if front 1 phone_number = "0" then "+254" ++ String.ofList (phone_number.toList.drop 1)
  else if front 1 phone_number = "+" then phone_number
  else "+" ++ phone_number

/-- A failure to send a message is only logged. -/
def send_sms (caller : Option UUID) (phone_number message : String) : SubscriptionM Bool :=
  (run caller (.post_sms (international phone_number) message)).tryCatch fun _ => pure false

/-- The secret of the customer of a suspended subscription is disabled. -/
def disable_customer (s : BillableRow) : SubscriptionM Unit :=
  match s.router_id with
  | none => return ()
  | some router_id => do
      let router_row ← run s.subscription.id (.select_router router_id)
      match router_row with
      | none => return ()
      | some router_row =>
          let client ← get_mikrotik_client s.subscription.id router_row
          disable_ppp_secret s.subscription.id client s.phone

/-- The loop of the billing run, for one subscription. -/
def bill_subscription (now : Timestamptz) (s : BillableRow) : SubscriptionM Unit := do
  let id := s.subscription.id
  let days_left := (s.subscription.current_period_end - now) / day
  if days_left = 3 ∧ s.subscription.auto_renew then
    let _ ← send_sms id s.phone ("Your Frixel Connect WiFi subscription expires in 3 days. " ++
      "Please ensure you have sufficient funds to renew.")
  else if days_left = 1 ∧ s.subscription.auto_renew then
    let _ ← send_sms id s.phone ("Your Frixel Connect WiFi subscription expires tomorrow. " ++
      "Please renew to avoid disconnection.")
  else if days_left = 0 ∧ s.subscription.status = .active then
    run id (.set_status .grace id)
    let _ ← send_sms id s.phone ("Your WiFi subscription has expired. " ++
      "You are now in a 24-hour grace period.")
  else if days_left < 0 ∧
      (s.subscription.status = .active ∨ s.subscription.status = .grace) then
    run id (.set_status .suspended id)
    disable_customer s
    let _ ← send_sms id s.phone ("Your WiFi subscription has been suspended due to non-payment. " ++
      "Please pay to reconnect.")

def pppoe_billing_cron : SubscriptionM Unit :=
  (do
    let subs ← run none .select_billable
    let now ← run none .utc_now
    .forEach subs (bill_subscription now) : SubscriptionM Unit).tryCatch fun _ => pure ()

end Subscriptions

end FrixelConnect
