import FrixelConnect.RefreshTokens
import Mathlib.Data.List.AList

/-!
# Sessions in the browser

The tabs of a browser share the tokens in `localStorage`. A tab whose request is answered with 401
takes the refresh token, exchanges it at the server and stores the outcome.

## Implementation notes

Every access to `localStorage` is a statement of its own. A tab reads and sets `isRefreshing` in
one statement, since the script runs without interruption there. A request for a refresh is a
message that one process of the server accepts; its answer may never arrive. A tab that is closed
takes no further step, and a page that is loaded again is a new tab. The store keeps two histories
that no statement reads: the refresh tokens that were taken for a refresh, and those whose refresh
has ended.
-/

namespace FrixelConnect

open Python Interleaving

/-- The claims of an access token. -/
structure AccessToken where
  sub : UUID
  role : Role
  tenant_id : UUID
  reseller_id : Option UUID
  deriving DecidableEq

structure TokenResponse where
  access_token : AccessToken
  refresh_token : String
  token_type : String := "bearer"
  role : Role
  user_id : UUID
  tenant_id : UUID
  deriving DecidableEq

inductive StorageKey where
  | token (tenantId : UUID)
  | refresh (tenantId : UUID)
  | active_tenant
  deriving DecidableEq

/-- What is stored under a key. -/
abbrev StorageKey.Value : StorageKey → Type
  | .token _ => AccessToken
  | .refresh _ => String
  | .active_tenant => UUID

/-- The server, the browser and the messages between them. -/
structure SessionStore where
  server : TokenStore := {}
  localStorage : AList StorageKey.Value := ∅
  impersonating : List ℕ := []
  isRefreshing : List ℕ := []
  requests : List String := []
  accepted : List ℕ := []
  responses : AList (fun _ : ℕ => Except Exn TokenResponse) := ∅
  taken : List String := []
  ended : List String := []

inductive SessionStmt where
  | server (s : TokenStmt)
  | select_user (user_id : UUID)
  | impersonation (tab : ℕ)
  | end_impersonation (tab : ℕ)
  | begin_refresh (tab : ℕ)
  | end_refresh (tab : ℕ)
  | getItem (key : StorageKey)
  | setItem (key : StorageKey) (value : key.Value)
  | removeItem (key : StorageKey)
  | keys
  | post (refresh_token : String)
  | receive (request : ℕ)
  | accept (request : ℕ)
  | respond (request : ℕ) (response : Except Exn TokenResponse)
  | ended (refresh_token : String)

namespace SessionStmt

abbrev Res : SessionStmt → Type
  | .server s => s.Res
  | .select_user _ => User
  | .impersonation _ => Bool
  | .begin_refresh _ => Bool
  | .getItem key => Option key.Value
  | .keys => List StorageKey
  | .post _ => ℕ
  | .receive _ => TokenResponse
  | .accept _ => String
  | _ => Unit

/-- The statement runs on the database connection. -/
def inTx : SessionStmt → Bool
  | .server s => s.inTx
  | .select_user _ => true
  | _ => false

end SessionStmt

/-- The refresh token that a read takes out of the storage. -/
def SessionStore.takes (d : SessionStore) : StorageKey → List String
  | .refresh tenantId => (d.localStorage.lookup (.refresh tenantId)).toList
  | _ => []

/-- What a statement answers and the store after it, or what it raises. -/
def SessionStmt.eval (v : Env) (d : SessionStore) :
    (s : SessionStmt) → Except Exn (s.Res × SessionStore)
  | .server s => (s.eval v d.server).map fun r => (r.1, { d with server := r.2 })
  | .select_user user_id =>
      match d.server.users.find? fun u => u.id == user_id with
      | some u => pure (u, d)
      | none => throw (.unauthorised "Incorrect credentials.")
  | .impersonation tab => pure (d.impersonating.contains tab, d)
  | .end_impersonation tab =>
      pure ((), { d with impersonating := d.impersonating.filter fun t => t != tab })
  | .begin_refresh tab =>
      pure (d.isRefreshing.contains tab, { d with isRefreshing := tab :: d.isRefreshing })
  | .end_refresh tab =>
      pure ((), { d with isRefreshing := d.isRefreshing.filter fun t => t != tab })
  | .getItem key =>
      pure (d.localStorage.lookup key, { d with taken := d.taken ++ d.takes key })
  | .setItem key value => pure ((), { d with localStorage := d.localStorage.insert key value })
  | .removeItem key => pure ((), { d with localStorage := d.localStorage.erase key })
  | .keys => pure (d.localStorage.keys, d)
  | .post refresh_token =>
      pure (d.requests.length, { d with requests := d.requests ++ [refresh_token] })
  | .receive request =>
      match d.responses.lookup request with
      | some (.ok response) => pure (response, { d with responses := d.responses.erase request })
      | some (.error e) => throw e
      | none => throw (.lost "Network Error")
  | .accept request =>
      match d.requests[request]? with
      | some refresh_token =>
          if request ∈ d.accepted then throw (.lost "")
          else pure (refresh_token, { d with accepted := request :: d.accepted })
      | none => throw (.lost "")
  | .respond request response =>
      pure ((), { d with responses := d.responses.insert request response })
  | .ended refresh_token => pure ((), { d with ended := refresh_token :: d.ended })

/-- A statement that raises leaves the store as it was. -/
def SessionStmt.exec (s : SessionStmt) (v : Env) (d : SessionStore) :
    Except Exn s.Res × SessionStore :=
  match s.eval v d with
  | .ok r => (.ok r.1, r.2)
  | .error e => (.error e, d)

def sessionMachine : Machine SessionStmt SessionStmt.Res Exn SessionStore Env UUID where
  exec := SessionStmt.exec
  inTx := SessionStmt.inTx
  locks _ := []
  aborted := .inFailedTransaction

abbrev SessionM := Prog SessionStmt SessionStmt.Res Unit Exn

/-- One statement of a program. -/
abbrev act (s : SessionStmt) : SessionM s.Res := Prog.exec s

/-- A program of the server. -/
abbrev onServer {α : Type} (p : TokenM α) : SessionM α := Prog.embed SessionStmt.server p

/-! ## The server -/

def create_access_token (user_id : UUID) (role : Role) (tenant_id : UUID)
    (reseller_id : Option UUID) : AccessToken :=
  { sub := user_id, role, tenant_id, reseller_id }

def refresh (refresh_token : String) : SessionM TokenResponse := do
  let (user, new_refresh_token) ← onServer (rotate_refresh_token refresh_token)
  let token := create_access_token user.id user.role user.tenant_id user.reseller_id
  return {
    access_token := token, refresh_token := new_refresh_token
    role := user.role, user_id := user.id, tenant_id := user.tenant_id }

/-- The server accepts a request and answers it. -/
def serve (request : ℕ) : SessionM Unit := do
  let refresh_token ← act (.accept request)
  (refresh refresh_token).handle fun response => act (.respond request response)

/-- The login of a user whose password was accepted. -/
def issue (user_id : UUID) : SessionM TokenResponse := do
  let user ← act (.select_user user_id)
  let refresh_token ← onServer (generate_refresh_token user.id)
  let token := create_access_token user.id user.role user.tenant_id user.reseller_id
  return {
    access_token := token, refresh_token
    role := user.role, user_id := user.id, tenant_id := user.tenant_id }

/-! ## The browser -/

def saveToken (token : AccessToken) (tenantId : UUID) : SessionM Unit := do
  act (.setItem (.token tenantId) token)
  act (.setItem .active_tenant tenantId)

def saveRefreshToken (token : String) (tenantId : UUID) : SessionM Unit :=
  act (.setItem (.refresh tenantId) token)

def getRefreshToken : SessionM (Option String) := do
  let tenantId ← act (.getItem .active_tenant)
  match tenantId with
  | none => return none
  | some tenantId => act (.getItem (.refresh tenantId))

def clearToken : SessionM Unit := do
  let tenantId ← act (.getItem .active_tenant)
  match tenantId with
  | some tenantId => do
      act (.removeItem (.token tenantId))
      act (.removeItem (.refresh tenantId))
      act (.removeItem .active_tenant)
  | none => act (.removeItem .active_tenant)

def clearRefreshToken : SessionM Unit := do
  let tenantId ← act (.getItem .active_tenant)
  match tenantId with
  | some tenantId => act (.removeItem (.refresh tenantId))
  | none => return ()

namespace StorageKey

def isToken : StorageKey → Bool
  | .token _ => true
  | _ => false

def isRefresh : StorageKey → Bool
  | .refresh _ => true
  | _ => false

end StorageKey

def clearAllTenantTokens : SessionM Unit := do
  let keys ← act .keys
  Prog.forEach (keys.filter (·.isToken)) fun k => act (.removeItem k)
  let keys ← act .keys
  Prog.forEach (keys.filter (·.isRefresh)) fun k => act (.removeItem k)
  act (.removeItem .active_tenant)

/-- What the response interceptor does with a request that was answered with an error. -/
inductive Handled where
  | rejected
  | waiting
  | retried
  deriving DecidableEq

/-- The exchange of a refresh token by a tab. -/
def exchange (tab : ℕ) (refreshToken : String) : SessionM Handled := do
  let request ← act (.post refreshToken)
  let response ← act (.receive request)
  let tenantId := response.access_token.tenant_id
  saveToken response.access_token tenantId
  saveRefreshToken response.refresh_token tenantId
  act (.end_refresh tab)
  return .retried

/-- The exchange of a refresh token failed. -/
def abandon (tab : ℕ) : SessionM Handled := do
  act (.end_refresh tab)
  clearAllTenantTokens
  act (.removeItem .active_tenant)
  return .rejected

def interceptor (tab status : ℕ) (retry : Bool) : SessionM Handled := do
  if status = 429 then return .rejected
  else
    let impersonation ← act (.impersonation tab)
    if impersonation then
      if status = 401 then
        act (.end_impersonation tab)
        return .rejected
      else return .rejected
    else if status = 401 ∧ retry = false then
      let isRefreshing ← act (.begin_refresh tab)
      if isRefreshing then return .waiting
      else
        let refreshToken ← getRefreshToken
        match refreshToken with
        | none => do
            clearToken
            clearRefreshToken
            return .rejected
        | some refreshToken => do
            let handled ← (exchange tab refreshToken).tryCatch fun _ => abandon tab
            act (.ended refreshToken)
            return handled
    else return .rejected

/-- A user logs in. -/
def login (user_id : UUID) : SessionM Unit := do
  let response ← issue user_id
  saveToken response.access_token response.access_token.tenant_id
  saveRefreshToken response.refresh_token response.access_token.tenant_id

def logout : SessionM Unit := do
  clearAllTenantTokens
  clearRefreshToken

/-- The calls that may run. -/
inductive SessionCall where
  | response (tab status : ℕ) (retry : Bool)
  | serve (request : ℕ)
  | login (user_id : UUID)
  | logout

/-- The program of a call. -/
def SessionCall.prog : SessionCall → SessionM Unit
  | .response tab status retry => interceptor tab status retry >>= fun _ => pure ()
  | .serve request => FrixelConnect.serve request
  | .login user_id => FrixelConnect.login user_id
  | .logout => FrixelConnect.logout

def sessionSystem : System SessionStmt SessionStmt.Res Unit Exn SessionStore Env UUID Unit
    SessionCall :=
  { sessionMachine with start := fun w d => some (d, w.prog) }

abbrev SessionState := State SessionStmt SessionStmt.Res Unit Exn SessionStore Env Unit
abbrev SessionRules := Rules SessionStmt Exn SessionStore Env SessionCall

namespace SessionStmt

variable {s : SessionStmt} {v : Env} {d d' : SessionStore} {a : s.Res}

theorem exec_eq_settle (s : SessionStmt) (v : Env) (d : SessionStore) :
    s.exec v d = settle (s.eval v d) d := by
  rw [exec]
  cases s.eval v d with
  | ok r => rfl
  | error e => rfl

theorem exec_eq_ok : s.exec v d = (.ok a, d') ↔ s.eval v d = .ok (a, d') := by
  rw [exec_eq_settle, settle_eq_ok]

/-- A statement of the server changes the server only. -/
theorem eval_server {s : TokenStmt} {a : s.Res}
    (h : (server s).eval v d = .ok (a, d')) :
    ∃ x, s.eval v d.server = .ok (a, x) ∧ d' = { d with server := x } := by
  rw [eval] at h
  cases hs : s.eval v d.server with
  | ok r =>
      rw [hs] at h
      cases h
      exact ⟨r.2, rfl, rfl⟩
  | error e =>
      rw [hs] at h
      cases h

end SessionStmt

theorem sessionMachine_restores : sessionMachine.Restores := .of_settle _ SessionStmt.exec_eq_settle

end FrixelConnect
