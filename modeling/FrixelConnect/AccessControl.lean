import FrixelConnect.AuditTrail
import FrixelConnect.Interleaving.Traces
import FrixelConnect.PhoneLogin
import FrixelConnect.RefreshTokens
import FrixelConnect.UuidText

/-!
# Access tokens and the requests that they admit

A login, the exchange of a refresh token and a registration give an access token for an account of
a tenant. A super admin gets one of another kind after both factors, and with it tokens that act
as the admin of a tenant. The dependencies of the routes decode the token of a request and check
its role and its tenant.

## Implementation notes

The texts of tokens are answers of the environment, and the store keeps a history of the payloads
that were signed under them: a text is decoded as a payload that was signed under it, since nobody
else has the key. FastAPI calls a dependency once for each request. The transaction of a tenant's
registration is one statement. The limit of logins per minute is left out, and so are the rows
that the logins of super admins add to the audit log.
-/

namespace FrixelConnect

def Role.value : Role → String
  | .admin => "admin"
  | .reseller => "reseller"
  | .customer => "customer"

namespace AccessControl

open Calendar Interleaving Python

/-- The claims of a token; `iat` and `exp` count seconds. -/
structure Payload where
  sub : Option String := none
  role : Option String := none
  tenant_id : Option String := none
  reseller_id : Option String := none
  impersonation : Bool := false
  impersonated_by : Option String := none
  iat : ℤ
  exp : ℤ
  deriving DecidableEq

/-- A token that the server has signed. -/
structure Signed where
  text : String
  payload : Payload
  deriving DecidableEq

/-- Why `jwt.decode` refuses a token. -/
inductive JwtError where
  | expired
  | invalid
  deriving DecidableEq

/-- `calendar.timegm(t.utctimetuple())`. -/
def timegm (t : Timestamptz) : ℤ := t / second

/-- A number with zeros in front. -/
def padded (width : ℕ) (n : ℤ) : String :=
  let digits := (toString n.toNat).toList
  String.ofList (List.replicate (width - digits.length) '0' ++ digits)

/-- `t.isoformat()` of a time in UTC. -/
def isoformat (t : Timestamptz) : String :=
  let date := dateOfDays (t / day)
  padded 4 date.year ++ "-" ++ padded 2 date.month ++ "-" ++ padded 2 date.day ++ "T" ++
    padded 2 (t % day / hour) ++ ":" ++ padded 2 (t % hour / minute) ++ ":" ++
    padded 2 (t % minute / second) ++
    (if t % second = 0 then "" else "." ++ padded 6 (t % second)) ++ "+00:00"

example : isoformat (20000 * day + 1500000) = "2024-10-04T00:00:01.500000+00:00" := by
  decide +kernel

/-- The tables, and the tokens that were signed. -/
structure AccessStore extends Registry where
  super_admins : List SuperAdmin := []
  super_admin_audit_log : List AuditEntry := []
  refresh_tokens : List RefreshToken := []
  detected : List UUID := []
  reused : List String := []
  drawn : List UUID := []
  pre_auth_tokens : List PreAuthToken := []
  redis : List Counter := []
  compared : List Comparison := []
  enrolled : List Enrolment := []
  signed : List Signed := []

namespace AccessStore

variable (d : AccessStore)

/-- What the statements of the sessions read and write. -/
def session : TokenStore where
  users := d.users
  tenants := d.tenants
  refresh_tokens := d.refresh_tokens
  detected := d.detected
  reused := d.reused
  drawn := d.drawn

def setSession (x : TokenStore) : AccessStore :=
  { d with
    refresh_tokens := x.refresh_tokens, detected := x.detected, reused := x.reused
    drawn := x.drawn }

/-- What the statements of the super admins' logins read and write. -/
def admin : AdminStore where
  super_admins := d.super_admins
  pre_auth_tokens := d.pre_auth_tokens
  redis := d.redis
  compared := d.compared
  enrolled := d.enrolled

def setAdmin (x : AdminStore) : AccessStore :=
  { d with
    super_admins := x.super_admins, pre_auth_tokens := x.pre_auth_tokens, redis := x.redis
    compared := x.compared, enrolled := x.enrolled }

theorem unnamed (_ : UUID) : '\x00' ∉ "".toList := by simp

/-- What the statements about the audit log read and write. -/
def audit : AuditTrail.AuditStore where
  toStore := d.toStore
  super_admins := d.super_admins
  super_admin_audit_log := d.super_admin_audit_log
  business_name_text := unnamed

end AccessStore

/-- What the environment contributes to one statement, and to the second part of a transaction. -/
structure AccessEnv extends Env where
  accepted : Bool := false
  next : Env := {}

def AccessEnv.admin (v : AccessEnv) : AdminEnv where
  now := v.now
  uuid := v.uuid
  pick := v.pick
  text := v.text
  accepted := v.accepted

inductive AccessStmt where
  | registry (s : RegistrationStmt)
  | create_tenant (data : TenantRegisterRequest) (hashed : String)
  | session (s : TokenStmt)
  | admin (s : AdminStmt)
  | select_tenant_name (tenant_id : UUID)
  | select_admin (tenant_id : UUID)
  | insert_audit_log (super_admin_id : UUID) (action : String) (target_type : Option String)
      (target_id : Option UUID) (metadata : List (String × Json)) (ip_address : String)
  | utc_now
  | jwt_encode (payload : Payload)
  | jwt_decode (token : String)

namespace AccessStmt

/-- A statement of the rest of the application. -/
@[match_pattern] abbrev app (s : Stmt) : AccessStmt := .registry (.app s)

/-- The type of a statement's answer. -/
abbrev Res : AccessStmt → Type
  | .registry s => s.Res
  | .create_tenant .. => Registered
  | .session s => s.Res
  | .admin s => s.Res
  | .select_tenant_name _ => Option (String × TenantStatus)
  | .select_admin _ => Option UUID
  | .insert_audit_log .. => Unit
  | .utc_now => Timestamptz
  | .jwt_encode _ => String
  | .jwt_decode _ => Except JwtError Payload

/-- The statement runs on the database connection. -/
def inTx : AccessStmt → Bool
  | .registry s => s.inTx
  | .session s => s.inTx
  | .admin s => s.inTx
  | .utc_now => false
  | .jwt_encode _ => false
  | .jwt_decode _ => false
  | _ => true

end AccessStmt

/-- `jwt.decode` with the token that was found under the text. -/
def jwt_claims (now : Timestamptz) : Option Signed → Except JwtError Payload
  | none => .error .invalid
  | some t => if t.payload.exp < timegm now then .error .expired else .ok t.payload

/-- What a statement answers and the store after it, or what it raises. -/
def AccessStmt.eval (v : AccessEnv) (d : AccessStore) :
    (s : AccessStmt) → Except Exn (s.Res × AccessStore)
  | .registry s => (s.eval v.toEnv d.toRegistry).map fun r => (r.1, { d with toRegistry := r.2 })
  | .create_tenant data hashed => do
      let (row, x) ← (RegistrationStmt.insert_tenant data.business_name data.owner_email
        data.owner_phone data.subscription_tier (TIER_MAX_CUSTOMERS data.subscription_tier)).eval
        v.toEnv d.toRegistry
      let (user, x) ← (RegistrationStmt.insert_admin data.owner_email data.owner_phone hashed
        row.1.id).eval v.next x
      pure ({ tenant := row.1, profile := row.2, user }, { d with toRegistry := x })
  | .session s => (s.eval v.toEnv d.session).map fun r => (r.1, d.setSession r.2)
  | .admin s => (s.eval v.admin d.admin).map fun r => (r.1, d.setAdmin r.2)
  | .select_tenant_name tenant_id =>
      pure ((fetchrow v.pick (fun t => t.id == tenant_id) d.tenants).map fun t =>
        (((d.profiles.find? fun r => r.tenant_id == t.id).map (·.business_name)).getD "",
          t.status), d)
  | .select_admin tenant_id =>
      pure ((fetchrow v.pick (fun u => u.tenant_id == tenant_id && u.role == .admin) d.users).map
        (·.id), d)
  | .insert_audit_log super_admin_id action target_type target_id metadata ip_address =>
      ((AuditTrail.AuditStmt.insert_audit_log super_admin_id action target_type target_id metadata
        ip_address).eval v.toEnv d.audit).map fun r =>
          ((), { d with super_admin_audit_log := r.2.super_admin_audit_log })
  | .utc_now => pure (v.now, d)
  | .jwt_encode payload =>
      pure (v.text, { d with signed := d.signed ++ [{ text := v.text, payload }] })
  | .jwt_decode token =>
      pure (jwt_claims v.now (fetchrow v.pick (fun t => t.text == token) d.signed), d)

/-- A statement that raises has no effect. -/
def accessMachine : Machine AccessStmt AccessStmt.Res Exn AccessStore AccessEnv UUID where
  exec s v d := settle (s.eval v d) d
  inTx := AccessStmt.inTx
  locks _ := []
  aborted := .inFailedTransaction

abbrev AccessM := Prog AccessStmt AccessStmt.Res Unit Exn

/-- One statement of a program. -/
abbrev ask (s : AccessStmt) : AccessM s.Res := Prog.exec s

/-! ## Tokens -/

def JWT_ACCESS_TOKEN_EXPIRE_MINUTES : ℤ := 30

/-- The claims of an account's token. -/
def account_payload (user_id role tenant_id : String) (reseller_id : Option String)
    (now : Timestamptz) : Payload where
  sub := some user_id
  role := some role
  tenant_id := some tenant_id
  reseller_id := reseller_id
  iat := timegm now
  exp := timegm (now + JWT_ACCESS_TOKEN_EXPIRE_MINUTES * minute)

def create_access_token (user_id role tenant_id : String) (reseller_id : Option String) :
    AccessM String := do
  let now ← ask .utc_now
  ask (.jwt_encode (account_payload user_id role tenant_id reseller_id now))

/-- The claims of a super admin's token. -/
def super_admin_payload (super_admin_id : String) (now : Timestamptz) : Payload where
  sub := some super_admin_id
  role := some "super_admin"
  iat := timegm now
  exp := timegm (now + 15 * minute)

def create_super_admin_access_token (super_admin_id : String) : AccessM String := do
  let now ← ask .utc_now
  ask (.jwt_encode (super_admin_payload super_admin_id now))

/-- The claims of a token with which a super admin acts as the admin of a tenant. -/
def impersonation_payload (admin_id tenant_id super_admin_id : UUID) (duration_minutes : ℤ)
    (now : Timestamptz) : Payload where
  sub := some (str admin_id)
  role := some "admin"
  tenant_id := some (str tenant_id)
  impersonation := true
  impersonated_by := some (str super_admin_id)
  iat := timegm now
  exp := timegm (now + duration_minutes * minute)

/-- A function of the rest of the application. -/
def onDatabase {α : Type} (p : M α) : AccessM α := p.expand (fun s => ask (.app s)) fun _ => ()

/-- A function of the refresh tokens. -/
def onSessions {α : Type} (p : TokenM α) : AccessM α := p.expand (fun s => ask (.session s)) id

/-- A statement of the super admins' logins. -/
def on_admin : (s : AdminStmt) → AccessM s.Res
  | .create_super_admin_access_token id => create_super_admin_access_token (str id)
  | s => ask (.admin s)

/-- A function of the super admins' logins. -/
def onAdmins {α : Type} (p : AdminM α) : AccessM α := p.expand on_admin id

/-! ## Dependencies -/

/-- The subject, the role, and all claims. -/
def _decode_token (token : String) : AccessM (String × String × Payload) := do
  let decoded ← ask (.jwt_decode token)
  match decoded with
  | .error .expired => throw (.unauthorised "Token has expired. Please log in again.")
  | .error .invalid => throw (.unauthorised "Could not validate credentials.")
  | .ok payload =>
      match payload.sub, payload.role with
      | none, _ => throw (.unauthorised "Token is missing subject claim.")
      | some _, none => throw (.unauthorised "Token is missing role claim.")
      | some sub, some role => return (sub, role, payload)

/-- The user of a request. -/
structure CurrentUser where
  user_id : String
  role : String
  tenant_id : Option String
  impersonated_by : Option String
  reseller_id : Option String
  deriving DecidableEq

/-- `UUID(text)`. -/
@[irreducible] def readUUID (text : String) : Except Exn UUID :=
  match UUID.ofText text with
  | some id => .ok id
  | none => .error (.valueError "badly formed hexadecimal UUID string")

def _log_impersonation_call (super_admin_id tenant_id : UUID) (client_ip : String) : AccessM Unit :=
  (ask (.insert_audit_log super_admin_id "impersonation.api_call" (some "tenant") (some tenant_id)
    [("tenant_id", .str (str tenant_id))] client_ip)).tryCatch fun _ => pure ()

/-- The row of the audit log for a request with an impersonation token. -/
def log_impersonation (payload : Payload) (client_ip : String) : AccessM Unit :=
  if payload.impersonation then
    match payload.impersonated_by, payload.tenant_id with
    | some impersonated_by_str, some tenant_id_str =>
        if impersonated_by_str ≠ "" ∧ tenant_id_str ≠ "" then
          Prog.tryCatch (do
            let super_admin_id ← Prog.ofExcept (readUUID impersonated_by_str)
            let tenant_id ← Prog.ofExcept (readUUID tenant_id_str)
            _log_impersonation_call super_admin_id tenant_id client_ip) fun _ => pure ()
        else pure ()
    | _, _ => pure ()
  else pure ()

def get_current_user (token client_ip : String) : AccessM CurrentUser := do
  let (sub, role, payload) ← _decode_token token
  log_impersonation payload client_ip
  return {
    user_id := sub, role, tenant_id := payload.tenant_id
    impersonated_by := payload.impersonated_by, reseller_id := payload.reseller_id }

@[irreducible] def get_current_tenant_id (current_user : CurrentUser) : Except Exn String :=
  match current_user.tenant_id with
  | none =>
      if current_user.role = "super_admin" then
        .error (.forbidden ("Super admin tokens cannot access tenant endpoints directly. " ++
          "Use an impersonation token scoped to a specific tenant."))
      else .error (.unauthorised "Token missing tenant context.")
  | some tenant_id =>
      match UUID.ofText tenant_id with
      | none => .error (.unauthorised "Token contains an invalid tenant identifier.")
      | some _ => .ok tenant_id

/-- What the row of a tenant says about its requests. -/
def tenant_active : Option Tenant → Except Exn Unit
  | none => .error (.unauthorised "Tenant account not found.")
  | some row =>
      match row.status with
      | .suspended => .error (.forbidden ("Your Frixel Connect account has been suspended. " ++
          "Please contact Frixel Connect support to resolve your outstanding balance."))
      | .cancelled => .error (.forbidden ("Your Frixel Connect account has been cancelled. " ++
          "Please contact Frixel Connect support to reinstate your account."))
      | .active => .ok ()

def _assert_tenant_active (tenant_id : String) : AccessM Unit := do
  let id ← Prog.ofExcept (readUUID tenant_id)
  let row ← ask (.app (.select_tenant id))
  Prog.ofExcept (tenant_active row)

/-- `str` of a tuple of texts. -/
def tuple (texts : List String) : String :=
  "(" ++ String.intercalate ", " (texts.map fun s => "'" ++ s ++ "'") ++
    (if texts.length = 1 then ",)" else ")")

def require_role (allowed_roles : List String) (token client_ip : String) :
    AccessM CurrentUser := do
  let current_user ← get_current_user token client_ip
  let tenant_id ← Prog.ofExcept (get_current_tenant_id current_user)
  _assert_tenant_active tenant_id
  if current_user.role ∈ allowed_roles then return current_user
  else throw (.forbidden ("Required role: " ++ tuple allowed_roles ++ ". Your role: " ++
    current_user.role))

structure CurrentSuperAdmin where
  super_admin_id : String
  role : String := "super_admin"
  deriving DecidableEq

def get_current_super_admin (token : String) : AccessM CurrentSuperAdmin := do
  let (sub, role, _) ← _decode_token token
  if role ≠ "super_admin" then
    throw (.forbidden ("This endpoint requires a super admin token. " ++
      "Super admin tokens are issued only at /super-admin/auth/totp/verify."))
  else return { super_admin_id := sub }

/-! ## Routes -/

structure TokenResponse where
  access_token : String
  refresh_token : String
  token_type : String := "bearer"
  role : Role
  user_id : UUID
  tenant_id : UUID
  deriving DecidableEq

/-- The tokens of an account. -/
def issue_tokens (id : UUID) (role : Role) (tenant_id : UUID) (reseller_id : Option UUID)
    (refresh_token : String) : AccessM TokenResponse := do
  let token ← create_access_token (str id) role.value (str tenant_id) (reseller_id.map str)
  return { access_token := token, refresh_token, role, user_id := id, tenant_id }

/-- The tenant that the token of a request names. -/
def tenantOf (current_user : CurrentUser) : Except Exn UUID :=
  match current_user.tenant_id with
  | none => .error (.fault .typeError)
  | some tenant_id => readUUID tenant_id

def register (data : RegisterRequest) (codes : List String) (token client_ip : String) :
    AccessM TokenResponse := do
  let current_user ← require_role ["admin"] token client_ip
  let tenant_id ← Prog.ofExcept (tenantOf current_user)
  let user ← onDatabase (register_user { data with tenant_id } codes)
  let refresh_token ← onSessions (generate_refresh_token user.id)
  issue_tokens user.id user.role user.tenant_id user.reseller_id refresh_token

def login (verify_password : String → String → Except Exn Bool) (email password : String) :
    AccessM TokenResponse := do
  let (user, _) ← onDatabase (authenticate_user verify_password email password)
  let refresh_token ← onSessions (generate_refresh_token user.id)
  issue_tokens user.id user.role user.tenant_id user.reseller_id refresh_token

def refresh (refresh_token : String) : AccessM TokenResponse := do
  let (user, new_refresh_token) ← onSessions (rotate_refresh_token refresh_token)
  issue_tokens user.id user.role user.tenant_id user.reseller_id new_refresh_token

/-- Raise if a row exists. -/
def refuse (existing : Option UUID) (detail : String) : AccessM Unit :=
  if existing.isSome then throw (.conflict detail) else pure ()

def register_tenant (data : TenantRegisterRequest) : AccessM Registered := do
  let existing_tenant ← ask (.registry (.select_tenant_by_email data.owner_email))
  refuse existing_tenant
    ("A tenant account with email '" ++ data.owner_email ++ "' already exists.")
  let existing_user ← ask (.registry (.select_user_by_email data.owner_email))
  refuse existing_user ("A user account with email '" ++ data.owner_email ++ "' already exists.")
  let existing_phone ← ask (.registry (.select_tenant_by_phone data.owner_phone))
  refuse existing_phone ("A tenant account with phone '" ++ data.owner_phone ++ "' already exists.")
  let hashed ← ask (.registry (.hash_password data.password))
  ask (.create_tenant data hashed)

structure TenantRegisterResponse where
  tenant : Tenant
  access_token : String
  token_type : String := "bearer"
  user_id : UUID

def signup (data : TenantRegisterRequest) : AccessM TenantRegisterResponse := do
  let result ← register_tenant data
  let token ← create_access_token (str result.user.id) result.user.role.value
    (str result.tenant.id) none
  return { tenant := result.tenant, access_token := token, user_id := result.user.id }

structure CreateImpersonationRequest where
  duration_minutes : ℤ := 30
  ge : 5 ≤ duration_minutes := by decide
  le : duration_minutes ≤ 480 := by decide

structure ImpersonationToken where
  impersonation_token : String
  expires_at : String
  tenant_name : String
  deriving DecidableEq

def create_impersonation_token (super_admin_id tenant_id : UUID) (duration_minutes : ℤ)
    (client_ip : String) : AccessM ImpersonationToken := do
  let tenant_row ← ask (.select_tenant_name tenant_id)
  match tenant_row with
  | none => throw (.notFound "Tenant" (str tenant_id))
  | some (business_name, status) =>
      let now ← ask .utc_now
      let expires_at := now + duration_minutes * minute
      let admin_row ← ask (.select_admin tenant_id)
      match admin_row with
      | none => throw (.notFound "Admin user for tenant" (str tenant_id))
      | some admin_id =>
          let impersonation_token ← ask (.jwt_encode
            (impersonation_payload admin_id tenant_id super_admin_id duration_minutes now))
          ask (.insert_audit_log super_admin_id "impersonation.start" (some "tenant")
            (some tenant_id)
            [("tenant_name", .str business_name), ("tenant_status", .str status.value),
              ("duration_minutes", .int duration_minutes),
              ("expires_at", .str (isoformat expires_at))] client_ip)
          return {
            impersonation_token, expires_at := isoformat expires_at
            tenant_name := business_name }

def impersonate_tenant (tenant_id : UUID) (data : CreateImpersonationRequest)
    (token client_ip : String) : AccessM ImpersonationToken := do
  let current_sa ← get_current_super_admin token
  let super_admin_id ← Prog.ofExcept (readUUID current_sa.super_admin_id)
  create_impersonation_token super_admin_id tenant_id data.duration_minutes client_ip

/-- The requests; `request` is one of a route for the roles, and `super_admin_request` one of a
route for super admins. -/
inductive AccessCall where
  | request (allowed_roles : List String) (token client_ip : String)
  | super_admin_request (token : String)
  | register (data : RegisterRequest) (codes : List String) (token client_ip : String)
  | login (email password : String)
  | refresh (refresh_token : String)
  | signup (data : TenantRegisterRequest)
  | super_admin_login (email password : String)
  | setup_totp (pre_auth_token : String)
  | verify_totp (pre_auth_token totp_code : String)
  | impersonate_tenant (tenant_id : UUID) (data : CreateImpersonationRequest)
      (token client_ip : String)

/-- How a request has ended: a route has been entered, or tokens have been given out. -/
inductive AccessAnswer where
  | admitted (token : String) (allowed_roles : List String) (client_ip : String)
      (current_user : CurrentUser)
  | authorised (token : String) (current_sa : CurrentSuperAdmin)
  | issued
  deriving DecidableEq

def AccessCall.program (verify_password : String → String → Except Exn Bool) :
    AccessCall → AccessM AccessAnswer
  | .request allowed_roles token client_ip => do
      let current_user ← require_role allowed_roles token client_ip
      return .admitted token allowed_roles client_ip current_user
  | .super_admin_request token => do
      let current_sa ← get_current_super_admin token
      return .authorised token current_sa
  | .register data codes token client_ip =>
      AccessControl.register data codes token client_ip >>= fun _ => pure .issued
  | .login email password =>
      AccessControl.login verify_password email password >>= fun _ => pure .issued
  | .refresh refresh_token => AccessControl.refresh refresh_token >>= fun _ => pure .issued
  | .signup data => AccessControl.signup data >>= fun _ => pure .issued
  | .super_admin_login email password =>
      onAdmins (SuperAdmins.authenticate_password email password) >>= fun _ => pure .issued
  | .setup_totp pre_auth_token =>
      onAdmins (SuperAdmins.setup_totp pre_auth_token) >>= fun _ => pure .issued
  | .verify_totp pre_auth_token totp_code =>
      onAdmins (SuperAdmins.verify_totp pre_auth_token totp_code) >>= fun _ => pure .issued
  | .impersonate_tenant tenant_id data token client_ip =>
      AccessControl.impersonate_tenant tenant_id data token client_ip >>= fun _ => pure .issued

def accessSystem (verify_password : String → String → Except Exn Bool) :
    System AccessStmt AccessStmt.Res Unit Exn AccessStore AccessEnv UUID AccessAnswer AccessCall :=
  { accessMachine with start := fun w d => some (d, w.program verify_password) }

abbrev AccessState := State AccessStmt AccessStmt.Res Unit Exn AccessStore AccessEnv AccessAnswer
abbrev AccessRules := Rules AccessStmt Exn AccessStore AccessEnv AccessCall
abbrev AccessLabel := Label Exn AccessStore AccessEnv AccessCall

theorem accessMachine_restores : accessMachine.Restores := .of_settle _ fun _ _ _ => rfl

end AccessControl

end FrixelConnect
