import FrixelConnect.Interleaving.EventLoop
import Mathlib.Data.List.AList
import Mathlib.Data.Rat.Defs
import Mathlib.Algebra.Order.Field.Rat

/-!
# One tab of the frontend

The store of tokens, the provider of the user and the interceptors of the API client run in one
tab. A program waits at two places only: for the answer to a refresh, and for a promise that
another refresh settles.

## Implementation notes

The payload of a token is what the browser makes of its base64 text, which is a parameter. A field
that is missing is `none`; its text is `"undefined"`. The fields of the configuration of a request
are its own, so that a program passes the configuration on. The promises keep every call of
`resolve` and `reject`, of which the first counts. The refresh tokens whose refresh has failed and
those that the server would accept are kept as well; no program reads them. Assigning to
`window.location.href` only notes the target; the page is loaded in a move of its own. The cache
of queries is left out.
-/

namespace FrixelConnect

namespace Frontend

open Interleaving

/-! ## The tab -/

structure DecodedToken where
  sub : String
  role : String
  tenant_id : Option String
  exp : Option ℚ
  deriving DecidableEq

structure AuthUser where
  user_id : String
  role : String
  tenant_id : Option String
  deriving DecidableEq

/-- What a rejected promise carries: `RateLimitedError`, an error of axios with the status of the
response if there is one, or a `TypeError`. -/
inductive JsError where
  | rateLimited
  | axios (status : Option ℕ)
  | typeError
  deriving DecidableEq

/-- The configuration of a request. -/
structure Config where
  request : ℕ
  _retry : Bool := false
  authorization : Option String := none
  deriving DecidableEq

/-- The fields of the data of a refresh response. -/
structure RefreshData where
  access_token : Option String
  refresh_token : Option String
  deriving DecidableEq

/-- What survives the load of a page. Times are in milliseconds. -/
structure Browser where
  localStorage : AList (fun _ : String => String) := ∅
  impersonation : Option String := none
  pathname : String := "/"
  href : Option String := none
  now : ℤ := 0

/-- The browser, and the variables of the modules of the page. -/
structure Page extends Browser where
  isRefreshing : Bool := false
  failedQueue : List ℕ := []
  promises : ℕ := 0
  settled : List (ℕ × Except JsError (Option String)) := []
  inFlight : List Config := []
  authorization : Option String := none
  user : Option AuthUser := none
  isLoading : Bool := true
  failedRefreshes : List String := []
  accepted : String → Bool := fun _ => false

inductive FrontStmt where
  | getItem (key : String)
  | setItem (key value : String)
  | removeItem (key : String)
  | keys
  | getImpersonation
  | removeImpersonation
  | pathname
  | setHref (href : String)
  | dateNow
  | isRefreshing
  | setRefreshing (value : Bool)
  | enqueue
  | failedQueue
  | clearQueue
  | settle (promise : ℕ) (outcome : Except JsError (Option String))
  | setAuthorization (value : String)
  | send (config : Config)
  | setUser (user : Option AuthUser)
  | setIsLoading (value : Bool)
  | refreshFailed (refreshToken : String)
  | postRefresh (refreshToken : String)
  | promise (id : ℕ)

namespace FrontStmt

/-- The type of a statement's answer. -/
abbrev Res : FrontStmt → Type
  | .getItem _ => Option String
  | .keys => List String
  | .getImpersonation => Option String
  | .pathname => String
  | .dateNow => ℤ
  | .isRefreshing => Bool
  | .enqueue => ℕ
  | .failedQueue => List ℕ
  | .postRefresh _ => Option RefreshData
  | .promise _ => Option String
  | _ => Unit

/-- What a statement answers at once and the page after it. -/
def run (d : Page) : (s : FrontStmt) → Option (s.Res × Page)
  | .getItem key => some (d.localStorage.lookup key, d)
  | .setItem key value => some ((), { d with localStorage := d.localStorage.insert key value })
  | .removeItem key => some ((), { d with localStorage := d.localStorage.erase key })
  | .keys => some (d.localStorage.keys, d)
  | .getImpersonation => some (d.impersonation, d)
  | .removeImpersonation => some ((), { d with impersonation := none })
  | .pathname => some (d.pathname, d)
  | .setHref href => some ((), { d with href := some href })
  | .dateNow => some (d.now, d)
  | .isRefreshing => some (d.isRefreshing, d)
  | .setRefreshing value => some ((), { d with isRefreshing := value })
  | .enqueue => some (d.promises, { d with
      promises := d.promises + 1, failedQueue := d.failedQueue ++ [d.promises] })
  | .failedQueue => some (d.failedQueue, d)
  | .clearQueue => some ((), { d with failedQueue := [] })
  | .settle prom outcome => some ((), { d with settled := d.settled ++ [(prom, outcome)] })
  | .setAuthorization value => some ((), { d with authorization := some value })
  | .send config => some ((), { d with inFlight := d.inFlight ++ [config] })
  | .setUser user => some ((), { d with user })
  | .setIsLoading value => some ((), { d with isLoading := value })
  | .refreshFailed refreshToken =>
      some ((), { d with failedRefreshes := refreshToken :: d.failedRefreshes })
  | .postRefresh _ => none
  | .promise _ => none

def sync (s : FrontStmt) (d : Page) : Option (Except JsError s.Res × Page) :=
  (s.run d).map fun r => (.ok r.1, r.2)

/-- A refresh ends as the environment says; a promise as it was settled first. -/
def settled (s : FrontStmt) (v : Except JsError (Option RefreshData)) (d : Page) :
    Option (Except JsError s.Res × Page) :=
  match s with
  | .postRefresh _ => some (v, d)
  | .promise id => (d.settled.lookup id).map fun outcome => (outcome, d)
  | _ => none

end FrontStmt

abbrev FrontM := Prog FrontStmt FrontStmt.Res Unit JsError

/-- One statement of a program. -/
abbrev exec (s : FrontStmt) : FrontM s.Res := Prog.exec s

/-! ## The store of tokens -/

def TOKEN_KEY (tenantId : String) : String := "Frixel Connect_token_" ++ tenantId
def REFRESH_KEY (tenantId : String) : String := "Frixel Connect_refresh_" ++ tenantId
def ACTIVE_TENANT_KEY : String := "Frixel Connect_active_tenant"

/-- A text that counts as true. -/
def truthy (value : Option String) : Option String := value.filter (· ≠ "")

/-- A value within a template string, or as the value of an item. -/
def text (value : Option String) : String := value.getD "undefined"

def saveToken (token tenantId : String) : FrontM Unit := do
  exec (.setItem (TOKEN_KEY tenantId) token)
  exec (.setItem ACTIVE_TENANT_KEY tenantId)

def getToken : FrontM (Option String) := do
  let tenantId ← exec (.getItem ACTIVE_TENANT_KEY)
  match truthy tenantId with
  | none => return none
  | some tenantId => exec (.getItem (TOKEN_KEY tenantId))

def clearToken : FrontM Unit := do
  let tenantId ← exec (.getItem ACTIVE_TENANT_KEY)
  match truthy tenantId with
  | some tenantId => do
      exec (.removeItem (TOKEN_KEY tenantId))
      exec (.removeItem (REFRESH_KEY tenantId))
      exec (.removeItem ACTIVE_TENANT_KEY)
  | none => exec (.removeItem ACTIVE_TENANT_KEY)

/-- `key.startsWith(start)`. -/
def startsWith (start key : String) : Bool := start.toList.isPrefixOf key.toList

def clearAllTenantTokens : FrontM Unit := do
  let keys ← exec .keys
  Prog.forEach (keys.filter (startsWith "Frixel Connect_token_")) fun k => exec (.removeItem k)
  let keys ← exec .keys
  Prog.forEach (keys.filter (startsWith "Frixel Connect_refresh_")) fun k => exec (.removeItem k)
  exec (.removeItem ACTIVE_TENANT_KEY)

def saveRefreshToken (token tenantId : String) : FrontM Unit :=
  exec (.setItem (REFRESH_KEY tenantId) token)

def getRefreshToken : FrontM (Option String) := do
  let tenantId ← exec (.getItem ACTIVE_TENANT_KEY)
  match truthy tenantId with
  | none => return none
  | some tenantId => exec (.getItem (REFRESH_KEY tenantId))

def clearRefreshToken : FrontM Unit := do
  let tenantId ← exec (.getItem ACTIVE_TENANT_KEY)
  match truthy tenantId with
  | some tenantId => exec (.removeItem (REFRESH_KEY tenantId))
  | none => return ()

section Tokens

variable (jsonPayload : String → Option DecodedToken)

def decodeToken (token : String) : Option DecodedToken :=
  match (token.toList.splitOn '.')[1]? with
  | none => none
  | some [] => none
  | some base64Url => jsonPayload (String.ofList
      (base64Url.map fun c => if c = '-' then '+' else if c = '_' then '/' else c))

/-- A comparison with `undefined` is false. -/
def isTokenExpired (token : String) (now : ℤ) : Bool :=
  match decodeToken jsonPayload token with
  | none => true
  | some decoded => decoded.exp.any fun exp => decide (exp < (now : ℚ) / 1000)

/-- `decoded?.tenant_id`, where it counts as true. -/
def tenantOf (decoded : Option DecodedToken) : Option String :=
  truthy (decoded.bind (·.tenant_id))

/-! ## The interceptors -/

def getRequestToken : FrontM (Option String) := do
  let impersonationToken ← exec .getImpersonation
  match truthy impersonationToken with
  | some impersonationToken => return some impersonationToken
  | none =>
      let token ← getToken
      let now ← exec .dateNow
      match token with
      | none => return none
      | some token =>
          if token ≠ "" ∧ isTokenExpired jsonPayload token now then return none
          else return some token

/-- `api(config)`, with the request interceptor. -/
def api (config : Config) : FrontM Unit := do
  let token ← getRequestToken jsonPayload
  match truthy token with
  | some token => exec (.send { config with authorization := some ("Bearer " ++ token) })
  | none => exec (.send config)

def processQueue (outcome : Except JsError (Option String)) : FrontM Unit := do
  let failedQueue ← exec .failedQueue
  Prog.forEach failedQueue fun prom => exec (.settle prom outcome)
  exec .clearQueue

/-- The page goes to `/login` unless it is there. -/
def toLogin : FrontM Unit := do
  let pathname ← exec .pathname
  if pathname ≠ "/login" then exec (.setHref "/login") else return ()

/-- A request that waits for a refresh is sent again with its token. -/
def waitForToken (originalRequest : Config) (prom : ℕ) : FrontM Unit := do
  let token ← exec (.promise prom)
  api jsonPayload { originalRequest with authorization := some ("Bearer " ++ token.getD "null") }

/-- The rest of the block that exchanges the refresh token, with the data of the response. -/
def onRefreshed (originalRequest : Config) (data : Option RefreshData) : FrontM Unit := do
  match data with
  | none => throw .typeError
  | some data =>
      let decoded := data.access_token.bind (decodeToken jsonPayload)
      match tenantOf decoded with
      | some tenantId =>
          saveToken (text data.access_token) tenantId
          saveRefreshToken (text data.refresh_token) tenantId
      | none => pure ()
      exec (.setAuthorization ("Bearer " ++ text data.access_token))
      processQueue (.ok data.access_token)
      exec (.setRefreshing false)
      api jsonPayload { originalRequest with
        authorization := some ("Bearer " ++ text data.access_token) }

/-- The handler of the block. -/
def onRefreshError (refreshToken : String) (refreshError : JsError) : FrontM Unit := do
  exec (.refreshFailed refreshToken)
  processQueue (.error refreshError)
  exec (.setRefreshing false)
  clearAllTenantTokens
  exec (.removeItem ACTIVE_TENANT_KEY)
  toLogin
  throw refreshError

/-- The block that exchanges the refresh token. -/
def refreshTokens (originalRequest : Config) (refreshToken : String) : FrontM Unit :=
  (do
    let data ← exec (.postRefresh refreshToken)
    onRefreshed jsonPayload originalRequest data : FrontM Unit).tryCatch
    (onRefreshError refreshToken)

/-- The response interceptor of a request that failed. -/
def onError (originalRequest : Config) (status : Option ℕ) : FrontM Unit := do
  if status = some 429 then throw .rateLimited
  else
    let impersonationToken ← exec .getImpersonation
    if (truthy impersonationToken).isSome then
      if status = some 401 then do
        exec .removeImpersonation
        toLogin
      else pure ()
      throw (.axios status)
    else if status = some 401 ∧ originalRequest._retry = false then
      let isRefreshing ← exec .isRefreshing
      if isRefreshing then
        let prom ← exec .enqueue
        waitForToken jsonPayload originalRequest prom
      else
        let originalRequest := { originalRequest with _retry := true }
        exec (.setRefreshing true)
        let refreshToken ← getRefreshToken
        match truthy refreshToken with
        | none =>
            clearToken
            clearRefreshToken
            toLogin
            throw (.axios status)
        | some refreshToken => refreshTokens jsonPayload originalRequest refreshToken
    else throw (.axios status)

/-! ## The provider of the user -/

def initAuth : FrontM Unit := do
  let token ← getToken
  let now ← exec .dateNow
  match truthy token with
  | some token =>
      if isTokenExpired jsonPayload token now = false then
        match decodeToken jsonPayload token with
        | some decoded =>
            match truthy decoded.tenant_id with
            | some tenantId =>
                exec (.setUser (some
                  { user_id := decoded.sub, role := decoded.role, tenant_id := some tenantId }))
            | none => pure ()
        | none => pure ()
      else
        clearToken
        clearRefreshToken
        exec (.setUser none)
  | none => exec (.setUser none)
  exec (.setIsLoading false)

def login (accessToken refreshToken : String) : FrontM Unit := do
  match decodeToken jsonPayload accessToken with
  | some decoded =>
      match truthy decoded.tenant_id with
      | some tenantId =>
          saveToken accessToken tenantId
          saveRefreshToken refreshToken tenantId
          exec (.setUser (some
            { user_id := decoded.sub, role := decoded.role, tenant_id := some tenantId }))
      | none => pure ()
  | none => pure ()

def logout : FrontM Unit := do
  clearAllTenantTokens
  clearRefreshToken
  exec (.setUser none)
  exec (.setHref "/login")

/-! ## What happens in a tab -/

/-- A request is made, or answered; the user logs in or out, or visits another part of the page;
time passes. -/
inductive Event where
  | call (request : ℕ)
  | succeeds (i : ℕ)
  | fails (i : ℕ) (status : Option ℕ)
  | login (accessToken refreshToken : String)
  | logout
  | visit (pathname : String)
  | tick (now : ℤ)

def Event.start (e : Event) (d : Page) : Option (Page × FrontM Unit) :=
  match e with
  | .call request => some (d, api jsonPayload { request })
  | .succeeds i => d.inFlight[i]?.map fun _ =>
      ({ d with inFlight := d.inFlight.eraseIdx i }, pure ())
  | .fails i status => d.inFlight[i]?.map fun config =>
      ({ d with inFlight := d.inFlight.eraseIdx i }, onError jsonPayload config status)
  | .login accessToken refreshToken =>
      some (d, Frontend.login jsonPayload accessToken refreshToken)
  | .logout => some (d, Frontend.logout)
  | .visit pathname => some ({ d with pathname }, pure ())
  | .tick now => some ({ d with now }, pure ())

end Tokens

end Frontend

end FrixelConnect
