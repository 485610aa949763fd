import FrixelConnect.System

/-!
# Accounts of a tenant

The functions that create an account or change its contacts look for the email and
the phone among the users of the tenant, and then write. The unique constraints of
both columns range over all tenants.

## Implementation notes

`generate_voucher_code(5)` gives the `codes` in turn, and the loop that draws a wallet
reference has no result when none of them is free. `dict(row)` is the row.
-/

namespace FrixelConnect

open Interleaving

structure RegisterRequest where
  email : String
  phone : String
  password : String
  role : Role := .customer
  tenant_id : UUID

structure CreateCustomerRequest where
  email : String
  phone : String
  password : String

structure AdminUserCreate where
  email : String
  phone : String
  password : String
  role : Role
  reseller_id : Option UUID := none

structure UserUpdate where
  email : Option String := none
  phone : Option String := none
  password : Option String := none

/-- The error about a contact that is in use. -/
def Contact.conflict : Contact → Exn
  | .email => .conflict "An account with this email address already exists."
  | .phone => .conflict "An account with this phone number already exists."

/-- The checks of a new email and phone within the tenant. -/
def refuse_existing (email phone : String) (tenant_id : UUID) : M Unit := do
  let existing ← exec (.select_user_by_contact email phone tenant_id)
  match existing with
  | none => pure ()
  | some existing =>
      if existing.email = email then throw Contact.email.conflict
      else throw Contact.phone.conflict

/-- A new account; `generate` gives its wallet reference. -/
def create_account (email phone password : String) (role : Role) (reseller_id : Option UUID)
    (tenant_id : UUID) (generate : M (Option String)) : M User := do
  refuse_existing email phone tenant_id
  let hashed ← exec (.hash_password password)
  let wallet_ref ← generate
  exec (.insert_user email phone hashed role reseller_id tenant_id wallet_ref)

def draw_wallet_ref : List String → M (Option String)
  | [] => throw (.lost "no further code is drawn")
  | code :: codes => do
      let wallet_ref := "WS" ++ code
      let taken ← exec (.count_wallet_reference wallet_ref)
      if 0 < taken then draw_wallet_ref codes else return some wallet_ref

def register_user (data : RegisterRequest) (codes : List String) : M User :=
  create_account data.email data.phone data.password data.role none data.tenant_id
    (if data.role = .reseller then draw_wallet_ref codes else pure none)

def create_customer (tenant_id : UUID) (data : CreateCustomerRequest)
    (reseller_id : Option UUID) : M User :=
  create_account data.email data.phone data.password .customer reseller_id tenant_id (pure none)

def admin_create_user (tenant_id : UUID) (data : AdminUserCreate) : M User :=
  create_account data.email data.phone data.password data.role data.reseller_id tenant_id
    (pure none)

def get_my_profile (user_id tenant_id : UUID) : M User := do
  let row ← exec (.select_contact user_id tenant_id)
  match row with
  | none => throw (.notFound "User" (str user_id))
  | some row => return row

/-- The value that is written: the one of the request, if it is new. -/
def Contact.wanted (c : Contact) (value : Option String) (user : User) : Option String :=
  value.filter fun s => s != c.of user

/-- Write a contact that differs from the one of `user`. -/
def change_contact (c : Contact) (value : Option String) (user : User)
    (user_id tenant_id : UUID) : M Unit :=
  match c.wanted value user with
  | none => pure ()
  | some value => do
      let existing ← exec (.select_other_user c value tenant_id user_id)
      if existing.isSome then
        throw c.conflict
      exec (.set_contact c value user_id tenant_id)

def change_password (password : Option String) (user_id tenant_id : UUID) : M Unit :=
  match password with
  | none => pure ()
  | some password => do
      let hashed ← exec (.hash_password password)
      exec (.set_hashed_password hashed user_id tenant_id)

def update_my_profile (user_id tenant_id : UUID) (data : UserUpdate) : M User := do
  let user ← get_my_profile user_id tenant_id
  change_password data.password user_id tenant_id
  change_contact .phone data.phone user user_id tenant_id
  change_contact .email data.email user user_id tenant_id
  get_my_profile user_id tenant_id

/-- A call in a tenant. -/
inductive AccountCall where
  | register_user (email phone password : String) (role : Role)
  | create_customer (data : CreateCustomerRequest) (reseller_id : Option UUID)
  | admin_create_user (data : AdminUserCreate)
  | update_my_profile (user_id : UUID) (data : UserUpdate)
  | get_or_create_guest_customer (phone : String)

/-- What a call returns. -/
inductive AccountReply where
  | user (row : User)
  | id (id : UUID)
  deriving DecidableEq

namespace AccountCall

/-- The function that is called. -/
def program (tenant_id : UUID) (codes : List String) : AccountCall → M AccountReply
  | .register_user email phone password role => do
      let user ← FrixelConnect.register_user { email, phone, password, role, tenant_id } codes
      return .user user
  | .create_customer data reseller_id => do
      let user ← FrixelConnect.create_customer tenant_id data reseller_id
      return .user user
  | .admin_create_user data => do
      let user ← FrixelConnect.admin_create_user tenant_id data
      return .user user
  | .update_my_profile user_id data => do
      let user ← FrixelConnect.update_my_profile user_id tenant_id data
      return .user user
  | .get_or_create_guest_customer phone => do
      let id ← FrixelConnect.get_or_create_guest_customer tenant_id phone
      return .id id

end AccountCall

/-- The processes of the application, with the calls about accounts. -/
inductive AccountSpawn where
  | base (w : Spawn)
  | call (c : AccountCall) (tenant_id : UUID) (codes : List String)

def AccountSpawn.start (w : AccountSpawn) (d : Store) : Option (Store × M Unit) :=
  match w with
  | .base w => FrixelConnect.start w d
  | .call c tenant_id codes => some (d, discard (c.program tenant_id codes))

def accountSystem : System Stmt Stmt.Res Frame Exn Store Env UUID Unit AccountSpawn :=
  { machine with start := AccountSpawn.start }

abbrev AccountRules := Rules Stmt Exn Store Env AccountSpawn

end FrixelConnect
