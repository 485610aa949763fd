import FrixelConnect.Daraja
import FrixelConnect.Python.Sha256

/-!
# The login of super admins

A super admin logs in in two steps. The password gives a pre-auth token of five minutes;
the token and a code of the authenticator app give an access token. The first login also
sets up the secret of the app. Wrong codes are counted in Redis.

## Implementation notes

None of the endpoints opens a transaction. What the third-party libraries compute is an
answer of the environment: the check of a password and of a code, the drawn tokens and
secrets, their encryption and decryption, the QR code and the access token. The store
keeps two histories that no statement reads, the codes that were compared and the
admins that were enrolled. For these histories the comparison carries the row and the
attempts that its call has read, and the enrolment carries the secret of the accepted code.
-/

namespace FrixelConnect

open Calendar Interleaving Python

structure SuperAdmin where
  id : UUID
  email : String
  hashed_password : String
  full_name : String
  totp_secret : Option String := none
  totp_verified_at : Option Timestamptz := none
  is_active : Bool := true
  last_login_at : Option Timestamptz := none
  deriving DecidableEq

structure PreAuthToken where
  id : UUID
  super_admin_id : UUID
  token_hash : String
  expires_at : Timestamptz
  used_at : Option Timestamptz := none
  deriving DecidableEq

/-- What `_validate_pre_auth_token` selects. -/
structure PreAuthRow where
  id : UUID
  super_admin_id : UUID
  expires_at : Timestamptz
  used_at : Option Timestamptz
  email : String
  full_name : String
  totp_secret : Option String
  totp_verified_at : Option Timestamptz
  is_active : Bool
  deriving DecidableEq

/-- A counter in Redis. -/
structure Counter where
  key : String
  value : ℕ
  expires_at : Option Timestamptz := none
  deriving DecidableEq

/-- A code that was compared under a token: whether it was right, and whether the token was unused,
not expired and not locked by three wrong codes at that moment. -/
structure Comparison where
  token_hash : String
  accepted : Bool
  current : Bool
  deriving DecidableEq

/-- An admin whose `totp_verified_at` became non-null: the stored secret, and the one of the code
that was accepted. -/
structure Enrolment where
  super_admin_id : UUID
  stored : Option String
  checked : String
  deriving DecidableEq

structure AdminStore where
  super_admins : List SuperAdmin := []
  pre_auth_tokens : List PreAuthToken := []
  redis : List Counter := []
  compared : List Comparison := []
  enrolled : List Enrolment := []
  deriving DecidableEq

/-- What the environment contributes to one statement. -/
structure AdminEnv where
  now : Timestamptz := 0
  uuid : UUID := 0
  pick : ℕ := 0
  text : String := ""
  accepted : Bool := false

/-- `lock_token` and `consume_token` are the same UPDATE at different places of the code. -/
inductive AdminStmt where
  | select_super_admin (email : String)
  | verify_password (password hashed_password : String)
  | token_urlsafe
  | insert_pre_auth_token (super_admin_id : UUID) (token_hash : String)
  | log_action (super_admin_id : UUID) (action reason : String)
  | select_pre_auth_token (token_hash : String)
  | utc_now
  | redis_get (key : String)
  | redis_incr (key : String)
  | redis_expire (key : String) (seconds : ℤ)
  | redis_delete (key : String)
  | lock_token (id : UUID)
  | consume_token (id : UUID)
  | decrypt_totp_secret (encrypted_secret : String)
  | verify_totp_code (row : PreAuthRow) (token_hash : String) (attempts : ℕ) (secret code : String)
  | generate_totp_secret
  | encrypt_totp_secret (raw_secret : String)
  | update_totp_secret (id : UUID) (totp_secret : String) (totp_verified_at : Option Timestamptz)
  | generate_qr_code (secret email : String)
  | set_totp_verified (id : UUID) (now : Timestamptz) (checked : String)
  | set_last_login (id : UUID) (now : Timestamptz)
  | create_super_admin_access_token (id : UUID)

namespace AdminStmt

abbrev Res : AdminStmt → Type
  | .select_super_admin _ => Option SuperAdmin
  | .verify_password .. => Bool
  | .token_urlsafe => String
  | .select_pre_auth_token _ => Option PreAuthRow
  | .utc_now => Timestamptz
  | .redis_get _ => Option ℕ
  | .redis_incr _ => ℕ
  | .decrypt_totp_secret _ => String
  | .verify_totp_code .. => Bool
  | .generate_totp_secret => String
  | .encrypt_totp_secret _ => String
  | .generate_qr_code .. => String
  | .create_super_admin_access_token _ => String
  | _ => Unit

/-- The statement runs on the database connection. -/
def inTx : AdminStmt → Bool
  | .select_super_admin _ => true
  | .insert_pre_auth_token .. => true
  | .log_action .. => true
  | .select_pre_auth_token _ => true
  | .lock_token _ => true
  | .consume_token _ => true
  | .update_totp_secret .. => true
  | .set_totp_verified .. => true
  | .set_last_login .. => true
  | _ => false

end AdminStmt

namespace AdminStore

variable (d : AdminStore)

/-- The tokens with their admins. -/
def joined : List (String × PreAuthRow) :=
  d.pre_auth_tokens.flatMap fun t =>
    (d.super_admins.filter fun a => a.id == t.super_admin_id).map fun a =>
      (t.token_hash, {
        id := t.id, super_admin_id := t.super_admin_id, expires_at := t.expires_at
        used_at := t.used_at, email := a.email, full_name := a.full_name
        totp_secret := a.totp_secret, totp_verified_at := a.totp_verified_at
        is_active := a.is_active })

/-- `UPDATE super_admin_pre_auth_tokens SET used_at = NOW() WHERE id = $1`. -/
def use (id : UUID) (now : Timestamptz) : AdminStore :=
  { d with pre_auth_tokens :=
      updateRows (fun t => t.id == id) (fun t => { t with used_at := some now }) d.pre_auth_tokens }

def updateAdmins (id : UUID) (f : SuperAdmin → SuperAdmin) : AdminStore :=
  { d with super_admins := updateRows (fun a => a.id == id) f d.super_admins }

/-- The value of a counter that has not expired. -/
def counter (key : String) (now : Timestamptz) : Option ℕ :=
  (d.redis.find? fun c => c.key == key && c.expires_at.all (now < ·)).map (·.value)

/-- The wrong codes that were compared under a token. -/
def wrongs (token_hash : String) : ℕ :=
  d.compared.countP fun c => c.token_hash == token_hash && !c.accepted

/-- The token is unused, not expired and not locked by three wrong codes. -/
def current (id : UUID) (token_hash : String) (now : Timestamptz) : Bool :=
  (d.pre_auth_tokens.any fun t => t.id == id && t.used_at.isNone && decide (now ≤ t.expires_at)) &&
    decide (d.wrongs token_hash < 3)

end AdminStore

/-- What a statement answers and the store after it, or what it raises. -/
def AdminStmt.eval (v : AdminEnv) (d : AdminStore) :
    (s : AdminStmt) → Except Exn (s.Res × AdminStore)
  | .select_super_admin email =>
      pure (fetchrow v.pick (fun a => a.email == email) d.super_admins, d)
  | .verify_password _ _ => pure (v.accepted, d)
  | .token_urlsafe => pure (v.text, d)
  | .insert_pre_auth_token super_admin_id token_hash => do
      check (d.pre_auth_tokens.all fun t => t.id != v.uuid) (.uniqueViolation .primary_key)
      check (d.pre_auth_tokens.all fun t => t.token_hash != token_hash)
        (.uniqueViolation .pre_auth_tokens_token_hash)
      check (d.super_admins.any fun a => a.id == super_admin_id)
        (.database "super_admin_pre_auth_tokens_super_admin_id_fkey")
      let row : PreAuthToken := {
        id := v.uuid, super_admin_id, token_hash, expires_at := v.now + 5 * minute }
      pure ((), { d with pre_auth_tokens := d.pre_auth_tokens ++ [row] })
  | .log_action _ _ _ => pure ((), d)
  | .select_pre_auth_token token_hash =>
      pure ((fetchrow v.pick (fun r => r.1 == token_hash) d.joined).map (·.2), d)
  | .utc_now => pure (v.now, d)
  | .redis_get key => pure (d.counter key v.now, d)
  | .redis_incr key =>
      match d.counter key v.now with
      | some value => pure (value + 1, { d with
          redis := updateRows (fun c => c.key == key) (fun c => { c with value := value + 1 })
            d.redis })
      | none => pure (1, { d with
          redis := { key, value := 1 } :: d.redis.filter fun c => c.key != key })
  | .redis_expire key seconds => pure ((), { d with
      redis := updateRows (fun c => c.key == key)
        (fun c => { c with expires_at := some (v.now + seconds * second) }) d.redis })
  | .redis_delete key => pure ((), { d with redis := d.redis.filter fun c => c.key != key })
  | .lock_token id => pure ((), d.use id v.now)
  | .consume_token id => pure ((), d.use id v.now)
  | .decrypt_totp_secret _ => pure (v.text, d)
  | .verify_totp_code row token_hash _ _ _ =>
      let comparison : Comparison := {
        token_hash, accepted := v.accepted, current := d.current row.id token_hash v.now }
      pure (v.accepted, { d with compared := d.compared ++ [comparison] })
  | .generate_totp_secret => pure (v.text, d)
  | .encrypt_totp_secret _ => pure (v.text, d)
  | .update_totp_secret id totp_secret _ =>
      pure ((), d.updateAdmins id fun a => { a with totp_secret := some totp_secret })
  | .generate_qr_code _ _ => pure (v.text, d)
  | .set_totp_verified id now checked =>
      let enrolled := (d.super_admins.filter fun a => a.id == id && a.totp_verified_at.isNone).map
        fun a => { super_admin_id := a.id, stored := a.totp_secret, checked }
      pure ((), { d.updateAdmins id fun a =>
        { a with totp_verified_at := some now, last_login_at := some now } with
          enrolled := d.enrolled ++ enrolled })
  | .set_last_login id now =>
      pure ((), d.updateAdmins id fun a => { a with last_login_at := some now })
  | .create_super_admin_access_token _ => pure (v.text, d)

/-- A statement that raises leaves the store as it was. -/
def AdminStmt.exec (s : AdminStmt) (v : AdminEnv) (d : AdminStore) :
    Except Exn s.Res × AdminStore :=
  match s.eval v d with
  | .ok r => (.ok r.1, r.2)
  | .error e => (.error e, d)

def adminMachine : Machine AdminStmt AdminStmt.Res Exn AdminStore AdminEnv UUID where
  exec := AdminStmt.exec
  inTx := AdminStmt.inTx
  locks _ := []
  aborted := .inFailedTransaction

/-- Programs of the login endpoints. -/
abbrev AdminM := Prog AdminStmt AdminStmt.Res Unit Exn

namespace SuperAdmins

/-- One statement of a program. -/
abbrev run (s : AdminStmt) : AdminM s.Res := Prog.exec s

def DUMMY_HASH : String := "$2b$12$KIXy0z5h5l5z5z5z5z5z5e1234567890123456789012345678901234"

structure PreAuthResponse where
  pre_auth_token : String
  totp_setup_required : Bool

def authenticate_password (email password : String) : AdminM PreAuthResponse := do
  let row ← run (.select_super_admin email)
  let stored_hash := match row with
    | some row => row.hashed_password
    | none => DUMMY_HASH
  let password_ok ← run (.verify_password password stored_hash)
  match row with
  | none => throw (.unauthorised "Invalid email or password.")
  | some row =>
      if !password_ok then
        throw (.unauthorised "Invalid email or password.")
      else if !row.is_active then
        throw (.unauthorised "Invalid email or password.")
      else
        let totp_setup_required := row.totp_verified_at.isNone
        let raw_token ← run .token_urlsafe
        let token_hash := sha256 raw_token
        run (.insert_pre_auth_token row.id token_hash)
        run (.log_action row.id "auth.password_ok" "")
        return { pre_auth_token := raw_token, totp_setup_required }

/-- The UPDATE that a caller of `validate_pre_auth_token` can ask for. -/
def consume_if (consume : Bool) (id : UUID) : AdminM Unit :=
  if consume then run (.consume_token id) else pure ()

def validate_pre_auth_token (raw_token : String) (consume : Bool) : AdminM PreAuthRow := do
  let token_hash := sha256 raw_token
  let row ← run (.select_pre_auth_token token_hash)
  match row with
  | none => throw (.unauthorised "Invalid or expired pre-auth token.")
  | some row =>
      if row.used_at.isSome then
        throw (.unauthorised "Session expired. Please log in again.")
      else
        let now ← run .utc_now
        if row.expires_at < now then
          throw (.unauthorised "Session expired. Please log in again.")
        else if !row.is_active then
          throw (.unauthorised "Invalid or expired pre-auth token.")
        else
          consume_if consume row.id
          return row

structure SetupResponse where
  qr_code_base64 : String
  secret_preview : String

def setup_totp (pre_auth_token : String) : AdminM SetupResponse := do
  let row ← validate_pre_auth_token pre_auth_token false
  if row.totp_secret.isSome && row.totp_verified_at.isSome then
    throw (.conflict ("TOTP is already configured for this account. " ++
      "If you need to reset it, contact Fred directly."))
  else
    let raw_secret ← run .generate_totp_secret
    let encrypted_secret ← run (.encrypt_totp_secret raw_secret)
    run (.update_totp_secret row.super_admin_id encrypted_secret row.totp_verified_at)
    let qr_code_base64 ← run (.generate_qr_code raw_secret row.email)
    return { qr_code_base64, secret_preview := front 4 raw_secret }

structure TokenResponse where
  access_token : String
  token_type : String := "bearer"
  expires_in : ℕ := 900
  super_admin_id : String
  full_name : String

/-- The token is marked used, and the failure is logged. -/
def lock (row : PreAuthRow) (reason : String) : AdminM TokenResponse := do
  run (.lock_token row.id)
  run (.log_action row.super_admin_id "auth.totp_failed" reason)
  throw (.unauthorised "Session expired. Please log in again.")

/-- The first wrong code starts the five minutes of the counter. -/
def expire_first (redis_key : String) (new_attempts : ℕ) : AdminM Unit :=
  if new_attempts = 1 then run (.redis_expire redis_key 300) else pure ()

/-- The branch of a wrong code. -/
def reject (row : PreAuthRow) (redis_key : String) : AdminM TokenResponse := do
  let new_attempts ← run (.redis_incr redis_key)
  expire_first redis_key new_attempts
  if 3 ≤ new_attempts then
    lock row "pre_auth_token locked due to 3 failed TOTP attempts"
  else
    run (.log_action row.super_admin_id "auth.totp_failed" "Invalid TOTP code")
    throw (.unauthorised "Invalid TOTP code. Please try again.")

/-- The first right code completes the setup of the account. -/
def record_login (row : PreAuthRow) (totp_secret : String) (now : Timestamptz) : AdminM Unit :=
  match row.totp_verified_at with
  | none => run (.set_totp_verified row.super_admin_id now totp_secret)
  | some _ => run (.set_last_login row.super_admin_id now)

/-- The branch of a right code. -/
def accept (row : PreAuthRow) (redis_key totp_secret : String) : AdminM TokenResponse := do
  run (.consume_token row.id)
  run (.redis_delete redis_key)
  let now ← run .utc_now
  record_login row totp_secret now
  run (.log_action row.super_admin_id "auth.login_success" "")
  let access_token ← run (.create_super_admin_access_token row.super_admin_id)
  return { access_token, super_admin_id := str row.super_admin_id, full_name := row.full_name }

/-- The code is compared with the secret of the row. -/
def compare_code (row : PreAuthRow) (token_hash redis_key : String) (attempts : ℕ)
    (totp_code : String) : AdminM TokenResponse :=
  match row.totp_secret with
  | none => throw (.unauthorised "TOTP is not configured. Please complete TOTP setup first.")
  | some totp_secret => do
      let raw_secret ← (run (.decrypt_totp_secret totp_secret)).tryCatch fun _ =>
        throw (.exception "TOTP secret decryption failed. Contact the system administrator.")
      let accepted ← run (.verify_totp_code row token_hash attempts raw_secret totp_code)
      if accepted then accept row redis_key totp_secret else reject row redis_key

def verify_totp (pre_auth_token totp_code : String) : AdminM TokenResponse := do
  let row ← validate_pre_auth_token pre_auth_token false
  let token_hash := sha256 pre_auth_token
  let redis_key := "totp_attempts:" ++ token_hash
  let attempts_val ← run (.redis_get redis_key)
  if 3 ≤ attempts_val.getD 0 then
    lock row "pre_auth_token locked due to too many failed TOTP attempts"
  else
    compare_code row token_hash redis_key (attempts_val.getD 0) totp_code

/-- The calls that may run. -/
inductive AdminCall where
  | login (email password : String)
  | setup (pre_auth_token : String)
  | verify (pre_auth_token totp_code : String)

/-- How a call has ended. -/
inductive AdminAnswer where
  | pre_authenticated (response : PreAuthResponse)
  | prepared (response : SetupResponse)
  | issued (pre_auth_token : String) (response : TokenResponse)

def AdminCall.program : AdminCall → AdminM AdminAnswer
  | .login email password =>
      authenticate_password email password >>= fun r => pure (.pre_authenticated r)
  | .setup pre_auth_token => setup_totp pre_auth_token >>= fun r => pure (.prepared r)
  | .verify pre_auth_token totp_code =>
      verify_totp pre_auth_token totp_code >>= fun r => pure (.issued pre_auth_token r)

def adminSystem : System AdminStmt AdminStmt.Res Unit Exn AdminStore AdminEnv UUID AdminAnswer
    AdminCall :=
  { adminMachine with start := fun w d => some (d, w.program) }

abbrev AdminState := State AdminStmt AdminStmt.Res Unit Exn AdminStore AdminEnv AdminAnswer
abbrev AdminRules := Rules AdminStmt Exn AdminStore AdminEnv AdminCall
abbrev AdminLabel := Label Exn AdminStore AdminEnv AdminCall

end SuperAdmins

namespace AdminStmt

variable {s : AdminStmt} {v : AdminEnv} {d d' : AdminStore} {a : s.Res}

theorem exec_eq_settle (s : AdminStmt) (v : AdminEnv) (d : AdminStore) :
    s.exec v d = settle (s.eval v d) d := by
  rw [exec]
  cases s.eval v d with
  | ok r => rfl
  | error e => rfl

theorem exec_cases (s : AdminStmt) (v : AdminEnv) (d : AdminStore) :
    (∃ a d', s.eval v d = .ok (a, d') ∧ s.exec v d = (.ok a, d')) ∨
      ∃ e, s.eval v d = .error e ∧ s.exec v d = (.error e, d) := by
  rw [exec_eq_settle]
  exact settle_cases (s.eval v d) d

theorem exec_eq_ok : s.exec v d = (.ok a, d') ↔ s.eval v d = .ok (a, d') := by
  rw [exec_eq_settle, settle_eq_ok]

/-- An INSERT adds one token, whose id and hash are new. -/
theorem eval_insert_pre_auth_token {super_admin_id : UUID} {token_hash : String} {a : Unit}
    (h : (insert_pre_auth_token super_admin_id token_hash).eval v d = .ok (a, d')) :
    ∃ row : PreAuthToken, d' = { d with pre_auth_tokens := d.pre_auth_tokens ++ [row] } ∧
      (∀ t ∈ d.pre_auth_tokens, t.id ≠ row.id) ∧
      ∀ t ∈ d.pre_auth_tokens, t.token_hash ≠ row.token_hash := by
  simp only [eval, Except.bind_eq_ok, check_eq_ok, List.all_eq_true, bne_iff_ne] at h
  obtain ⟨-, hid, -, hhash, -, -, hd'⟩ := h
  cases hd'
  exact ⟨_, rfl, hid, hhash⟩

/-- The row that a look-up finds, with its admin. -/
theorem eval_select_pre_auth_token {token_hash : String} {row : PreAuthRow}
    (h : (select_pre_auth_token token_hash).eval v d = .ok (some row, d')) :
    (∃ t ∈ d.pre_auth_tokens, t.id = row.id ∧ t.token_hash = token_hash) ∧
      ∃ a ∈ d.super_admins, a.id = row.super_admin_id ∧ a.totp_secret = row.totp_secret ∧
        a.totp_verified_at = row.totp_verified_at := by
  obtain ⟨⟨hash, row'⟩, hfound, rfl⟩ := Option.map_eq_some_iff.mp (congrArg Prod.fst (Except.ok.inj h))
  obtain ⟨hmem, hhash⟩ := fetchrow_eq_some hfound
  obtain ⟨t, ht, hmem⟩ := List.mem_flatMap.mp hmem
  obtain ⟨a, ha, hrow⟩ := List.mem_map.mp hmem
  cases hrow
  obtain ⟨ha, hid⟩ := List.mem_filter.mp ha
  exact ⟨⟨t, ht, rfl, beq_iff_eq.mp hhash⟩, a, ha, beq_iff_eq.mp hid, rfl, rfl⟩

end AdminStmt

theorem adminMachine_restores : adminMachine.Restores := .of_settle _ AdminStmt.exec_eq_settle

end FrixelConnect
