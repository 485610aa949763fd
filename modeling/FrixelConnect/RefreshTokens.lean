import FrixelConnect.Statements
import FrixelConnect.Python.Sha256

/-!
# Refresh tokens

A login starts a family of refresh tokens. Exchanging a token revokes it and issues
the next one of its family; presenting a revoked token revokes the whole family.

## Implementation notes

Every statement takes effect at once, since none of the endpoints opens a
transaction. The store keeps three histories that no statement reads: the
families in which a reuse was detected, the hashes of the tokens that were
presented after they had been revoked, and the family ids that were drawn.
-/

namespace FrixelConnect

open Calendar Python Interleaving

structure RefreshToken where
  id : UUID
  user_id : UUID
  token_hash : String
  family_id : UUID
  expires_at : Timestamptz
  revoked : Bool := false
  deriving DecidableEq

/-- The tables that the endpoints of the sessions read and write. -/
structure TokenStore where
  users : List User := []
  tenants : List Tenant := []
  refresh_tokens : List RefreshToken := []
  detected : List UUID := []
  reused : List String := []
  drawn : List UUID := []

inductive TokenStmt where
  | select_refresh_token (token_hash : String)
  | revoke_family (family_id : UUID)
  | revoke_token (id : UUID)
  | insert_refresh_token (user_id : UUID) (token_hash : String) (family_id : UUID)
      (expires_at : Timestamptz)
  | token_urlsafe
  | uuid4
  | utc_now

namespace TokenStmt

abbrev Res : TokenStmt → Type
  | .select_refresh_token _ => Option (RefreshToken × User × Tenant)
  | .token_urlsafe => String
  | .uuid4 => UUID
  | .utc_now => Timestamptz
  | _ => Unit

/-- The statement runs on the database connection. -/
def inTx : TokenStmt → Bool
  | .token_urlsafe => false
  | .uuid4 => false
  | .utc_now => false
  | _ => true

end TokenStmt

namespace TokenStore

/-- `UPDATE refresh_tokens SET revoked = TRUE` for the rows that satisfy `p`. -/
def revoke (d : TokenStore) (p : RefreshToken → Bool) : TokenStore :=
  { d with refresh_tokens := updateRows p (fun r => { r with revoked := true }) d.refresh_tokens }

/-- The tokens with their users and tenants. -/
def joined (d : TokenStore) : List (RefreshToken × User × Tenant) :=
  d.refresh_tokens.flatMap fun r => (d.users.filter fun u => u.id == r.user_id).flatMap fun u =>
    (d.tenants.filter fun t => t.id == u.tenant_id).map fun t => (r, u, t)

end TokenStore

/-- What a statement answers and the store after it, or what it raises. -/
def TokenStmt.eval (v : Env) (d : TokenStore) :
    (s : TokenStmt) → Except Exn (s.Res × TokenStore)
  | .select_refresh_token token_hash =>
      let found := fetchrow v.pick (fun r => r.1.token_hash == token_hash) d.joined
      pure (found, if found.any fun r => r.1.revoked then
        { d with reused := d.reused ++ [token_hash] } else d)
  | .revoke_family family_id =>
      pure ((), { d.revoke fun r => r.family_id == family_id with
        detected := d.detected ++ [family_id] })
  | .revoke_token id => pure ((), d.revoke fun r => r.id == id)
  | .insert_refresh_token user_id token_hash family_id expires_at => do
      check (d.refresh_tokens.all fun r => r.id != v.uuid) (.uniqueViolation .primary_key)
      check (d.refresh_tokens.all fun r => r.token_hash != token_hash)
        (.uniqueViolation .refresh_tokens_token_hash)
      check (d.users.any fun u => u.id == user_id) (.database "refresh_tokens_user_id_fkey")
      let row : RefreshToken := { id := v.uuid, user_id, token_hash, family_id, expires_at }
      pure ((), { d with refresh_tokens := d.refresh_tokens ++ [row] })
  | .token_urlsafe => pure (v.text, d)
  | .uuid4 => pure (v.uuid, { d with drawn := d.drawn ++ [v.uuid] })
  | .utc_now => pure (v.now, d)

/-- A statement that raises leaves the store as it was. -/
def TokenStmt.exec (s : TokenStmt) (v : Env) (d : TokenStore) : Except Exn s.Res × TokenStore :=
  match s.eval v d with
  | .ok r => (.ok r.1, r.2)
  | .error e => (.error e, d)

def tokenMachine : Machine TokenStmt TokenStmt.Res Exn TokenStore Env UUID where
  exec := TokenStmt.exec
  inTx := TokenStmt.inTx
  locks _ := []
  aborted := .inFailedTransaction

/-- Programs of the session endpoints. -/
abbrev TokenM := Prog TokenStmt TokenStmt.Res Unit Exn

/-- One statement of a program. -/
abbrev perform (s : TokenStmt) : TokenM s.Res := Prog.exec s

/-- The user that a rotation returns. -/
structure UserDict where
  id : UUID
  email : String
  phone : String
  role : Role
  reseller_id : Option UUID
  tenant_id : UUID
  deriving DecidableEq

def generate_refresh_token (user_id : UUID) : TokenM String := do
  let token ← perform .token_urlsafe
  let token_hash := sha256 token
  let family_id ← perform .uuid4
  let now ← perform .utc_now
  let expires_at := now + 30 * day
  perform (.insert_refresh_token user_id token_hash family_id expires_at)
  return token

/-- The part of a rotation that issues the next token. -/
def issue_next (rt : RefreshToken) (u : User) : TokenM (UserDict × String) := do
  perform (.revoke_token rt.id)
  let new_token ← perform .token_urlsafe
  let new_token_hash := sha256 new_token
  let now ← perform .utc_now
  let new_expires_at := now + 30 * day
  perform (.insert_refresh_token rt.user_id new_token_hash rt.family_id new_expires_at)
  let user_dict : UserDict := {
    id := rt.user_id, email := u.email, phone := u.phone, role := u.role
    reseller_id := u.reseller_id, tenant_id := u.tenant_id }
  return (user_dict, new_token)

def rotate_refresh_token (old_token : String) : TokenM (UserDict × String) := do
  let token_hash := sha256 old_token
  let rt ← perform (.select_refresh_token token_hash)
  match rt with
  | none => throw (.unauthorised "Invalid refresh token.")
  | some (rt, u, t) =>
      let now ← perform .utc_now
      if rt.expires_at < now then
        throw (.unauthorised "Refresh token expired.")
      else if rt.revoked then
        perform (.revoke_family rt.family_id)
        throw (.unauthorised
          "Token reuse detected. All sessions revoked. Please log in again.")
      else if t.status = .suspended then
        throw (.forbidden
          "Your Frixel Connect account has been suspended due to an unpaid invoice.")
      else if t.status = .cancelled then
        throw (.forbidden "Your Frixel Connect account has been cancelled.")
      else if !u.is_active then
        throw (.unauthorised "This account has been deactivated. Contact support.")
      else issue_next rt u

namespace TokenStmt

variable {s : TokenStmt} {v : Env} {d d' : TokenStore} {a : s.Res}

theorem exec_eq_settle (s : TokenStmt) (v : Env) (d : TokenStore) :
    s.exec v d = settle (s.eval v d) d := by
  rw [exec]
  cases s.eval v d with
  | ok r => rfl
  | error e => rfl

theorem exec_cases (s : TokenStmt) (v : Env) (d : TokenStore) :
    (∃ a d', s.eval v d = .ok (a, d') ∧ s.exec v d = (.ok a, d')) ∨
      ∃ e, s.eval v d = .error e ∧ s.exec v d = (.error e, d) := by
  rw [exec_eq_settle]
  exact settle_cases (s.eval v d) d

theorem exec_eq_ok : s.exec v d = (.ok a, d') ↔ s.eval v d = .ok (a, d') := by
  rw [exec_eq_settle, settle_eq_ok]

/-- An INSERT adds one row, whose id and hash are new. -/
theorem eval_insert_refresh_token {user_id family_id : UUID} {token_hash : String}
    {expires_at : Timestamptz} {a : Unit}
    (h : (insert_refresh_token user_id token_hash family_id expires_at).eval v d = .ok (a, d')) :
    ∃ row : RefreshToken, d' = { d with refresh_tokens := d.refresh_tokens ++ [row] } ∧
      row.token_hash = token_hash ∧ row.family_id = family_id ∧ row.revoked = false ∧
      (∀ r ∈ d.refresh_tokens, r.id ≠ row.id) ∧
      (∀ r ∈ d.refresh_tokens, r.token_hash ≠ token_hash) ∧ row.user_id = user_id := by
  simp only [eval, Except.bind_eq_ok, check_eq_ok, List.all_eq_true, bne_iff_ne] at h
  obtain ⟨-, hid, -, hhash, -, -, hd'⟩ := h
  cases hd'
  exact ⟨_, rfl, rfl, rfl, rfl, hid, hhash, rfl⟩

/-- The row that a look-up finds, with its user. -/
theorem eval_select_refresh_token {token_hash : String} {rt : RefreshToken} {u : User} {t : Tenant}
    (h : (select_refresh_token token_hash).eval v d = .ok (some (rt, u, t), d')) :
    (rt ∈ d.refresh_tokens ∧ rt.token_hash = token_hash) ∧ u ∈ d.users ∧ u.id = rt.user_id := by
  have hfound := congrArg Prod.fst (Except.ok.inj h)
  obtain ⟨hmem, hhash⟩ := fetchrow_eq_some hfound
  obtain ⟨r, hr, hmem⟩ := List.mem_flatMap.mp hmem
  obtain ⟨w, hw, hmem⟩ := List.mem_flatMap.mp hmem
  obtain ⟨x, -, hx⟩ := List.mem_map.mp hmem
  cases hx
  obtain ⟨hw, hid⟩ := List.mem_filter.mp hw
  exact ⟨⟨hr, beq_iff_eq.mp hhash⟩, hw, beq_iff_eq.mp hid⟩

/-- A look-up records the token when the row that it finds is revoked, and changes nothing else. -/
theorem eval_select_store {token_hash : String} {found : Option (RefreshToken × User × Tenant)}
    (h : (select_refresh_token token_hash).eval v d = .ok (found, d')) :
    d' = if found.any fun r => r.1.revoked then { d with reused := d.reused ++ [token_hash] }
      else d := by
  simp only [eval, pure, Except.pure, Except.ok.injEq, Prod.mk.injEq] at h
  obtain ⟨rfl, rfl⟩ := h
  rfl

end TokenStmt

theorem tokenMachine_restores : tokenMachine.Restores := .of_settle _ TokenStmt.exec_eq_settle

/-- The calls that may run. -/
inductive TokenCall where
  | generate (user_id : UUID)
  | rotate (old_token : String)

/-- How a call has ended. -/
inductive TokenAnswer where
  | issued (token : String)
  | exchanged (old_token : String) (user : UserDict) (new_token : String)

/-- The program of a call. -/
def TokenCall.prog : TokenCall → TokenM TokenAnswer
  | .generate user_id => generate_refresh_token user_id >>= fun token => pure (.issued token)
  | .rotate old_token => rotate_refresh_token old_token >>= fun r =>
      pure (.exchanged old_token r.1 r.2)

def tokenSystem : System TokenStmt TokenStmt.Res Unit Exn TokenStore Env UUID TokenAnswer
    TokenCall :=
  { tokenMachine with start := fun w d => some (d, w.prog) }

abbrev TokenState := State TokenStmt TokenStmt.Res Unit Exn TokenStore Env TokenAnswer
abbrev TokenRules := Rules TokenStmt Exn TokenStore Env TokenCall

end FrixelConnect
