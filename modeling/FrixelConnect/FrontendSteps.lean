import FrixelConnect.Frontend

/-!
# What the programs of the frontend do

The handlers of events run to their end, or to a statement that they wait for: the response
interceptor waits for a refresh or for the promise of another one. One lemma says where each
program stops, and what it has done to the page until then.
-/

namespace FrixelConnect

namespace Frontend

open Interleaving

/-- Run a program of the frontend to its end or to a statement that it waits for. -/
abbrev go {α : Type} (p : FrontM α) (d : Page) : FrontM α × Page := advance FrontStmt.sync p d

namespace Page

variable (d : Page)

/-- The tenant whose tokens are in use. -/
def activeTenant : Option String := truthy (d.localStorage.lookup ACTIVE_TENANT_KEY)

/-- The refresh token that is stored for a tenant. -/
def refreshToken (tenantId : String) : Option String := d.localStorage.lookup (REFRESH_KEY tenantId)

/-- The refresh token of the tenant whose tokens are in use, as `getRefreshToken` gives it. -/
def currentRefreshToken : Option String := d.activeTenant.bind d.refreshToken

/-- The page with another storage. -/
def withStorage (l : AList fun _ : String => String) : Page := { d with localStorage := l }

/-- The access token of that tenant, as `getToken` gives it. -/
def currentToken : Option String :=
  d.activeTenant.bind fun tenantId => d.localStorage.lookup (TOKEN_KEY tenantId)

end Page

variable {d : Page} {α : Type}

/-- A statement that is answered at once. -/
theorem go_exec {s : FrontStmt} {k : s.Res → FrontM α} {r : s.Res × Page} (h : s.run d = some r) :
    go (exec s >>= k) d = go (k r.1) r.2 :=
  advance_exec_bind (by rw [FrontStmt.sync, h]; rfl)

theorem go_bind {p : FrontM α} {β : Type} {k : α → FrontM β} {a : α} {d' : Page}
    (h : go p d = (.ret (.ok a), d')) : go (p >>= k) d = go (k a) d' := advance_bind h

theorem go_last {s : FrontStmt} {r : s.Res × Page} (h : s.run d = some r) :
    go (exec s) d = (.ret (.ok r.1), r.2) := by
  rw [go, exec, Prog.exec, advance, FrontStmt.sync, h]
  rfl

/-! ## The store of tokens -/

theorem go_getToken : go getToken d = (.ret (.ok d.currentToken), d) := by
  rw [getToken, go_exec rfl, Page.currentToken, Page.activeTenant]
  split
  · next h => rw [h]; rfl
  · next h => rw [h]; rfl

theorem go_getRefreshToken : go getRefreshToken d = (.ret (.ok d.currentRefreshToken), d) := by
  rw [getRefreshToken, go_exec rfl, Page.currentRefreshToken, Page.activeTenant]
  split
  · next h => rw [h]; rfl
  · next h => rw [h]; rfl

theorem go_saveToken (token tenantId : String) : go (saveToken token tenantId) d =
    (.ret (.ok ()), d.withStorage
      ((d.localStorage.insert (TOKEN_KEY tenantId) token).insert ACTIVE_TENANT_KEY tenantId)) := by
  rw [saveToken, go_exec rfl, go_last rfl]
  rfl

theorem go_saveRefreshToken (token tenantId : String) : go (saveRefreshToken token tenantId) d =
    (.ret (.ok ()), d.withStorage (d.localStorage.insert (REFRESH_KEY tenantId) token)) := by
  rw [saveRefreshToken, go_last rfl]
  rfl

/-- The storage without the tokens of the tenant that was in use. -/
def Page.cleared (d : Page) : AList (fun _ : String => String) :=
  match d.activeTenant with
  | some tenantId => ((d.localStorage.erase (TOKEN_KEY tenantId)).erase
      (REFRESH_KEY tenantId)).erase ACTIVE_TENANT_KEY
  | none => d.localStorage.erase ACTIVE_TENANT_KEY

theorem go_clearToken : go clearToken d = (.ret (.ok ()), d.withStorage d.cleared) := by
  rw [clearToken, go_exec rfl, Page.cleared, Page.activeTenant]
  split
  · next h => rw [h, go_exec rfl, go_exec rfl, go_last rfl]; rfl
  · next h => rw [h, go_last rfl]; rfl

/-- After the tokens are cleared there is no tenant in use. -/
theorem activeTenant_cleared : (d.withStorage d.cleared).activeTenant = none := by
  have h : d.cleared.lookup ACTIVE_TENANT_KEY = none := by
    rw [Page.cleared]
    split <;> exact AList.lookup_erase _ _
  rw [Page.activeTenant, Page.withStorage, h]
  rfl

theorem go_clearRefreshToken (h : d.activeTenant = none) :
    go clearRefreshToken d = (.ret (.ok ()), d) := by
  rw [Page.activeTenant] at h
  rw [clearRefreshToken, go_exec rfl, h]
  rfl

theorem lookup_foldl_erase (keys : List String) (l : AList fun _ : String => String) (k : String) :
    (keys.foldl (fun l k => l.erase k) l).lookup k = if k ∈ keys then none else l.lookup k := by
  induction keys generalizing l with
  | nil => simp
  | cons k' rest ih =>
      rw [List.foldl_cons, ih]
      by_cases h : k = k'
      · subst h
        simp [AList.lookup_erase]
      · simp [h, AList.lookup_erase_ne h]

/-- The removal of all keys that satisfy `p`. -/
def erased (p : String → Bool) (l : AList fun _ : String => String) :
    AList fun _ : String => String := (l.keys.filter p).foldl (fun l k => l.erase k) l

theorem lookup_erased (p : String → Bool) (l : AList fun _ : String => String) (k : String) :
    (erased p l).lookup k = if p k then none else l.lookup k := by
  rw [erased, lookup_foldl_erase]
  by_cases hk : k ∈ l.keys
  · simp [hk]
  · have hnone : l.lookup k = none := AList.lookup_eq_none.mpr hk
    simp [hnone]

theorem go_removeKeys (keys : List String) :
    go (Prog.forEach keys fun k => exec (.removeItem k)) d =
      (.ret (.ok ()), d.withStorage (keys.foldl (fun l k => l.erase k) d.localStorage)) := by
  rw [go, advance_forEach (f := fun d k => d.withStorage (d.localStorage.erase k))
    fun k d => go_last (s := .removeItem k) rfl]
  congr 1
  induction keys generalizing d with
  | nil => rfl
  | cons k rest ih => exact ih

/-- The storage without the tokens of all tenants. -/
def Page.emptied (d : Page) : AList (fun _ : String => String) :=
  (erased (startsWith "Frixel Connect_refresh_")
    (erased (startsWith "Frixel Connect_token_") d.localStorage)).erase ACTIVE_TENANT_KEY

theorem go_clearAllTenantTokens :
    go clearAllTenantTokens d = (.ret (.ok ()), d.withStorage d.emptied) := by
  rw [clearAllTenantTokens, go_exec rfl, go, advance_bind (go_removeKeys _)]
  change go _ _ = _
  rw [go_exec rfl, go, advance_bind (go_removeKeys _)]
  change go _ _ = _
  rw [go_last rfl]
  rfl

/-! ## The other helpers -/

/-- The variables of the refresh. -/
def Page.queue (d : Page) :
    Bool × List ℕ × ℕ × List (ℕ × Except JsError (Option String)) :=
  (d.isRefreshing, d.failedQueue, d.promises, d.settled)

/-- The storage, and what is remembered of the refreshes. -/
def Page.session (d : Page) :
    AList (fun _ : String => String) × List String × (String → Bool) :=
  (d.localStorage, d.failedRefreshes, d.accepted)

/-- The statement is answered at once, and changes neither the storage nor the variables of the
refresh. -/
def Quiet : FrontStmt → Prop
  | .setItem .. => False
  | .removeItem _ => False
  | .setRefreshing _ => False
  | .enqueue => False
  | .clearQueue => False
  | .settle .. => False
  | .refreshFailed _ => False
  | .postRefresh _ => False
  | .promise _ => False
  | _ => True

/-- A program of such statements ends. -/
theorem go_quiet {p : FrontM α} (hp : p.All Quiet) (d : Page) :
    ∃ r d', go p d = (.ret r, d') ∧ d'.queue = d.queue ∧ d'.session = d.session := by
  have hstatement (s : FrontStmt) (hs : Quiet s) (d : Page) : ∃ r d', FrontStmt.sync s d =
      some (r, d') ∧ (d'.queue, d'.session) = (d.queue, d.session) := by
    cases s <;> first | exact hs.elim | exact ⟨_, _, rfl, rfl⟩
  obtain ⟨r, d', h, heq⟩ := advance_keeps hstatement hp d
  exact ⟨r, d', h, congrArg Prod.fst heq, congrArg Prod.snd heq⟩

section Tokens

variable {jsonPayload : String → Option DecodedToken}

theorem quiet_exec {s : FrontStmt} (h : Quiet s) : (exec s).All Quiet := (Prog.all_exec s).mpr h

theorem quiet_getToken : getToken.All Quiet := by
  refine Prog.All.bind (quiet_exec trivial) fun tenantId => ?_
  split
  · trivial
  · exact quiet_exec trivial

theorem quiet_toLogin : toLogin.All Quiet := by
  refine Prog.All.bind (quiet_exec trivial) fun pathname => ?_
  split
  · exact quiet_exec trivial
  · trivial

theorem quiet_getRequestToken : (getRequestToken jsonPayload).All Quiet := by
  refine Prog.All.bind (quiet_exec trivial) fun impersonationToken => ?_
  split
  · trivial
  · refine Prog.All.bind quiet_getToken fun token => ?_
    refine Prog.All.bind (quiet_exec trivial) fun now => ?_
    split
    · trivial
    · split <;> trivial

variable (jsonPayload) in
/-- A request is sent without an exception. -/
theorem go_api (config : Config) : ∃ d', go (api jsonPayload config) d = (.ret (.ok ()), d') ∧
    d'.queue = d.queue ∧ d'.session = d.session := by
  have htoken : ∃ token, go (getRequestToken jsonPayload) d = (.ret (.ok token), d) := by
    rw [getRequestToken, go_exec rfl]
    split
    · exact ⟨_, rfl⟩
    · rw [go_bind go_getToken, go_exec rfl]
      split
      · exact ⟨_, rfl⟩
      · split <;> exact ⟨_, rfl⟩
  obtain ⟨token, htoken⟩ := htoken
  rw [api, go_bind htoken]
  split <;> exact ⟨_, go_last rfl, rfl, rfl⟩

/-- The promises that wait are settled, and the queue is empty. -/
theorem go_processQueue (outcome : Except JsError (Option String)) :
    go (processQueue outcome) d = (.ret (.ok ()), { d with
      failedQueue := []
      settled := d.settled ++ d.failedQueue.map fun prom => (prom, outcome) }) := by
  have hsettle (queue : List ℕ) (d : Page) :
      queue.foldl (fun d prom => { d with settled := d.settled ++ [(prom, outcome)] }) d =
        { d with settled := d.settled ++ queue.map fun prom => (prom, outcome) } := by
    induction queue generalizing d with
    | nil => simp
    | cons prom rest ih =>
        rw [List.foldl_cons, ih]
        simp
  rw [processQueue, go_exec rfl, go,
    advance_bind (advance_forEach (fun prom d => go_last (s := .settle prom outcome) rfl) _ d)]
  change go _ _ = _
  rw [go_last rfl, hsettle]

/-- The page goes to `/login`, and its programs go on. -/
theorem go_toLogin : ∃ d', go toLogin d = (.ret (.ok ()), d') ∧ d'.queue = d.queue ∧
    d'.session = d.session := by
  rw [toLogin, go_exec rfl]
  split
  · exact ⟨_, go_last rfl, rfl, rfl⟩
  · exact ⟨d, rfl, rfl, rfl⟩

/-! ## The response interceptor -/

/-- The failure of the request calls for a refresh. -/
def Page.NeedsRefresh (d : Page) (config : Config) (status : Option ℕ) : Prop :=
  status = some 401 ∧ config._retry = false ∧ truthy d.impersonation = none

variable {config : Config} {status : Option ℕ}

variable (jsonPayload) in
/-- Any other failure is passed on. -/
theorem onError_other (h : ¬ d.NeedsRefresh config status) : ∃ r d',
    go (onError jsonPayload config status) d = (.ret r, d') ∧ d'.queue = d.queue ∧
      d'.session = d.session := by
  rw [onError]
  by_cases hlimited : status = some 429
  · rw [if_pos hlimited]
    exact ⟨_, d, rfl, rfl, rfl⟩
  · rw [if_neg hlimited, go_exec rfl]
    cases himpersonation : truthy d.impersonation with
    | some token =>
        simp only [Option.isSome_some, if_true]
        refine go_quiet ?_ d
        split
        · exact Prog.All.bind (quiet_exec trivial) fun _ =>
            Prog.All.bind quiet_toLogin fun _ => trivial
        · trivial
    | none =>
        have hother : ¬ (status = some 401 ∧ config._retry = false) :=
          fun hand => h ⟨hand.1, hand.2, himpersonation⟩
        simp only [Option.isSome_none, Bool.false_eq_true, if_false, if_neg hother]
        exact ⟨_, d, rfl, rfl, rfl⟩

/-- The interceptor up to the question whether a refresh is going on. -/
theorem onError_needs (h : d.NeedsRefresh config status) :
    go (onError jsonPayload config status) d = go (if d.isRefreshing then (do
        let prom ← exec .enqueue
        waitForToken jsonPayload config prom)
      else (do
        exec (.setRefreshing true)
        let refreshToken ← getRefreshToken
        match truthy refreshToken with
        | none =>
            clearToken
            clearRefreshToken
            toLogin
            throw (.axios status)
        | some refreshToken =>
            refreshTokens jsonPayload { config with _retry := true } refreshToken)) d := by
  obtain ⟨rfl, hretry, himpersonation⟩ := h
  rw [onError, if_neg (by decide), go_exec rfl]
  simp only [himpersonation, Option.isSome_none, Bool.false_eq_true, if_false, hretry, and_self,
    if_true]
  exact go_exec (s := .isRefreshing) (r := (d.isRefreshing, d)) rfl

variable (jsonPayload) in
/-- A request waits for the refresh that is going on. -/
theorem onError_waits (h : d.NeedsRefresh config status) (hrefreshing : d.isRefreshing = true) :
    go (onError jsonPayload config status) d =
      (waitForToken jsonPayload config d.promises, { d with
        promises := d.promises + 1, failedQueue := d.failedQueue ++ [d.promises] }) := by
  rw [onError_needs h, if_pos hrefreshing, go_exec rfl]
  exact advance_wait rfl

variable (jsonPayload) in
/-- The refresh token is sent to the server. -/
theorem onError_refreshes {refreshToken : String} (h : d.NeedsRefresh config status)
    (hrefreshing : d.isRefreshing = false)
    (htoken : truthy d.currentRefreshToken = some refreshToken) :
    go (onError jsonPayload config status) d =
      (refreshTokens jsonPayload { config with _retry := true } refreshToken,
        { d with isRefreshing := true }) := by
  rw [onError_needs h, if_neg (by simp [hrefreshing]), go_exec rfl, go_bind go_getRefreshToken]
  change go (match truthy d.currentRefreshToken with | none => _ | some _ => _) _ = _
  rw [htoken]
  exact advance_wait rfl

variable (jsonPayload) in
/-- There is no refresh token to send. -/
theorem onError_lost (h : d.NeedsRefresh config status) (hrefreshing : d.isRefreshing = false)
    (htoken : truthy d.currentRefreshToken = none) : ∃ d',
    go (onError jsonPayload config status) d = (.ret (.error (.axios status)), d') ∧
      d'.queue = (true, d.failedQueue, d.promises, d.settled) ∧
      d'.session = (d.cleared, d.failedRefreshes, d.accepted) := by
  let d₁ : Page := { d with isRefreshing := true }
  have hcleared : go clearToken d₁ = (.ret (.ok ()), d₁.withStorage d.cleared) := go_clearToken
  have hnone : (d₁.withStorage d.cleared).activeTenant = none := activeTenant_cleared
  obtain ⟨d', hlogin, hqueue, hsession⟩ := go_toLogin (d := d₁.withStorage d.cleared)
  refine ⟨d', ?_, hqueue, hsession⟩
  rw [onError_needs h, if_neg (by simp [hrefreshing]), go_exec rfl, go_bind go_getRefreshToken]
  change go (match truthy d.currentRefreshToken with | none => _ | some _ => _) d₁ = _
  rw [htoken]
  dsimp only
  rw [go_bind hcleared, go_bind (go_clearRefreshToken hnone), go_bind hlogin]
  rfl

/-! ## The answer to a refresh -/

/-- The storage after a refresh that has answered with the data. -/
def Page.rotated (jsonPayload : String → Option DecodedToken) (d : Page) (data : RefreshData) :
    AList (fun _ : String => String) :=
  match tenantOf (data.access_token.bind (decodeToken jsonPayload)) with
  | some tenantId => ((d.localStorage.insert (TOKEN_KEY tenantId) (text data.access_token)).insert
      ACTIVE_TENANT_KEY tenantId).insert (REFRESH_KEY tenantId) (text data.refresh_token)
  | none => d.localStorage

/-- The promises that waited for the refresh, with its outcome. -/
def Page.released (d : Page) (outcome : Except JsError (Option String)) :
    List (ℕ × Except JsError (Option String)) :=
  d.settled ++ d.failedQueue.map fun prom => (prom, outcome)

variable (jsonPayload) in
/-- The response has data. -/
theorem go_onRefreshed (config : Config) (data : RefreshData) : ∃ d',
    go (onRefreshed jsonPayload config (some data)) d = (.ret (.ok ()), d') ∧
      d'.queue = (false, [], d.promises, d.released (.ok data.access_token)) ∧
      d'.session = (d.rotated jsonPayload data, d.failedRefreshes, d.accepted) := by
  let header := "Bearer " ++ text data.access_token
  have hrest (d₁ : Page) : ∃ d', go (do
      exec (.setAuthorization header)
      processQueue (.ok data.access_token)
      exec (.setRefreshing false)
      api jsonPayload { config with authorization := some header }) d₁ = (.ret (.ok ()), d') ∧
      d'.queue = (false, [], d₁.promises, d₁.released (.ok data.access_token)) ∧
      d'.session = d₁.session := by
    rw [go_exec rfl, go_bind (go_processQueue _), go_exec rfl]
    exact go_api jsonPayload _
  rw [onRefreshed, Page.rotated]
  cases htenant : tenantOf (data.access_token.bind (decodeToken jsonPayload)) with
  | some tenantId =>
      dsimp only
      rw [go_bind (go_saveToken _ _), go_bind (go_saveRefreshToken _ _)]
      exact hrest _
  | none =>
      dsimp only
      exact hrest d

/-- The refresh has failed, or its response has no data. -/
theorem go_onRefreshError (refreshToken : String) (e : JsError) : ∃ d',
    go (onRefreshError refreshToken e) d = (.ret (.error e), d') ∧
      d'.queue = (false, [], d.promises, d.released (.error e)) ∧
      d'.session = (d.emptied.erase ACTIVE_TENANT_KEY, refreshToken :: d.failedRefreshes,
        d.accepted) := by
  have hrest (d₁ : Page) : ∃ d', go (do
      toLogin
      throw e : FrontM Unit) d₁ = (.ret (.error e), d') ∧ d'.queue = d₁.queue ∧
      d'.session = d₁.session := by
    obtain ⟨d', hlogin, hqueue, hsession⟩ := go_toLogin (d := d₁)
    exact ⟨d', by rw [go_bind hlogin]; rfl, hqueue, hsession⟩
  rw [onRefreshError, go_exec rfl, go_bind (go_processQueue _), go_exec rfl,
    go_bind go_clearAllTenantTokens, go_exec rfl]
  exact hrest _

/-! ## The provider of the user -/

/-- The storage after a login. -/
def Page.loggedIn (jsonPayload : String → Option DecodedToken) (d : Page)
    (accessToken refreshToken : String) : AList (fun _ : String => String) :=
  match tenantOf (decodeToken jsonPayload accessToken) with
  | some tenantId => ((d.localStorage.insert (TOKEN_KEY tenantId) accessToken).insert
      ACTIVE_TENANT_KEY tenantId).insert (REFRESH_KEY tenantId) refreshToken
  | none => d.localStorage

variable (jsonPayload) in
theorem go_login (accessToken refreshToken : String) : ∃ d',
    go (login jsonPayload accessToken refreshToken) d = (.ret (.ok ()), d') ∧
      d'.queue = d.queue ∧ d'.session =
        (d.loggedIn jsonPayload accessToken refreshToken, d.failedRefreshes, d.accepted) := by
  rw [login, Page.loggedIn, tenantOf]
  cases decodeToken jsonPayload accessToken with
  | none => exact ⟨d, rfl, rfl, rfl⟩
  | some decoded =>
      dsimp only [Option.bind_some]
      cases truthy decoded.tenant_id with
      | none => exact ⟨d, rfl, rfl, rfl⟩
      | some tenantId =>
          dsimp only
          rw [go_bind (go_saveToken _ _), go_bind (go_saveRefreshToken _ _)]
          exact ⟨_, go_last rfl, rfl, rfl⟩

theorem go_logout : ∃ d', go logout d = (.ret (.ok ()), d') ∧ d'.queue = d.queue ∧
    d'.session = (d.emptied, d.failedRefreshes, d.accepted) := by
  have hnone : (d.withStorage d.emptied).activeTenant = none := by
    have h : d.emptied.lookup ACTIVE_TENANT_KEY = none := AList.lookup_erase _ _
    rw [Page.activeTenant, Page.withStorage, h]
    rfl
  rw [logout, go_bind go_clearAllTenantTokens, go_bind (go_clearRefreshToken hnone), go_exec rfl]
  exact ⟨_, go_last rfl, rfl, rfl⟩

/-- The access token of the tenant in use has expired. -/
def Page.Expired (jsonPayload : String → Option DecodedToken) (d : Page) : Prop :=
  ∃ token, truthy d.currentToken = some token ∧ isTokenExpired jsonPayload token d.now = true

/-- An access token that has expired is cleared at the start of a page. -/
theorem go_initAuth_expired (h : d.Expired jsonPayload) : ∃ d',
    go (initAuth jsonPayload) d = (.ret (.ok ()), d') ∧
      d'.session = (d.cleared, d.failedRefreshes, d.accepted) := by
  obtain ⟨token, htoken, hexpired⟩ := h
  rw [initAuth, go_bind go_getToken, go_exec rfl, htoken]
  dsimp only
  rw [if_neg (by simp [hexpired]), go_bind go_clearToken,
    go_bind (go_clearRefreshToken activeTenant_cleared), go_exec rfl]
  exact ⟨_, go_last rfl, rfl⟩

/-- Otherwise the storage stays as it is. -/
theorem go_initAuth (h : ¬ d.Expired jsonPayload) : ∃ r d',
    go (initAuth jsonPayload) d = (.ret r, d') ∧ d'.session = d.session := by
  have hquiet {p : FrontM Unit} (hp : p.All Quiet) : ∃ r d',
      go p d = (.ret r, d') ∧ d'.session = d.session := by
    obtain ⟨r, d', hgo, -, hsession⟩ := go_quiet hp d
    exact ⟨r, d', hgo, hsession⟩
  rw [initAuth, go_bind go_getToken, go_exec rfl]
  cases htoken : truthy d.currentToken with
  | none =>
      apply hquiet
      exact Prog.All.bind (quiet_exec trivial) fun _ => quiet_exec trivial
  | some token =>
      have hfresh : isTokenExpired jsonPayload token d.now = false :=
        Bool.eq_false_iff.mpr fun hexpired => h ⟨token, htoken, hexpired⟩
      dsimp only
      rw [if_pos hfresh]
      apply hquiet
      split
      · split
        · exact Prog.All.bind (quiet_exec trivial) fun _ => quiet_exec trivial
        · exact quiet_exec trivial
      · exact quiet_exec trivial

/-! ## Tasks -/

variable (jsonPayload) in
/-- What a task still has to do. -/
inductive Suspended : FrontM Unit → Prop
  | ended (r : Except JsError Unit) : Suspended (.ret r)
  | refreshing (config : Config) (refreshToken : String) :
      Suspended (refreshTokens jsonPayload config refreshToken)
  | waiting (config : Config) (prom : ℕ) : Suspended (waitForToken jsonPayload config prom)

/-- The answer to a refresh has data. -/
def dataOf : Except JsError (Option RefreshData) → Option RefreshData
  | .ok data => data
  | .error _ => none

/-- What the answer to a refresh does to the page. -/
inductive Answered (jsonPayload : String → Option DecodedToken) (refreshToken : String)
    (d d' : Page) : Option RefreshData → Prop
  | rotated {data : RefreshData}
      (queue : d'.queue = (false, [], d.promises, d.released (.ok data.access_token)))
      (session : d'.session = (d.rotated jsonPayload data, d.failedRefreshes, d.accepted)) :
      Answered jsonPayload refreshToken d d' (some data)
  | failed {e : JsError} (queue : d'.queue = (false, [], d.promises, d.released (.error e)))
      (session : d'.session = (d.emptied.erase ACTIVE_TENANT_KEY, refreshToken :: d.failedRefreshes,
        d.accepted)) :
      Answered jsonPayload refreshToken d d' none

/-- Either way the refresh is over, and the promises that waited have its outcome. -/
theorem Answered.queue_eq {refreshToken : String} {d d' : Page} {data : Option RefreshData}
    (h : Answered jsonPayload refreshToken d d' data) :
    ∃ outcome, d'.queue = (false, [], d.promises, d.released outcome) := by
  cases h with
  | rotated hqueue _ => exact ⟨_, hqueue⟩
  | failed hqueue _ => exact ⟨_, hqueue⟩

/-- The program after the answer to a refresh. -/
theorem go_answered {refreshToken : String} {k : Except JsError (Option RefreshData) → FrontM Unit}
    (hk : refreshTokens jsonPayload config refreshToken = .stmt (.postRefresh refreshToken) k)
    (v : Except JsError (Option RefreshData)) (d : Page) : ∃ r d', go (k v) d = (.ret r, d') ∧
      Answered jsonPayload refreshToken d d' (dataOf v) := by
  cases hk
  cases v with
  | error e =>
      obtain ⟨d', h, hqueue, hsession⟩ := go_onRefreshError (d := d) refreshToken e
      exact ⟨_, d', h, .failed hqueue hsession⟩
  | ok data =>
      cases data with
      | none =>
          obtain ⟨d', h, hqueue, hsession⟩ := go_onRefreshError (d := d) refreshToken .typeError
          exact ⟨_, d', h, .failed hqueue hsession⟩
      | some data =>
          obtain ⟨d', h, hqueue, hsession⟩ :=
            go_onRefreshed (d := d) jsonPayload config data
          exact ⟨_, d', advance_tryCatch_ok h, .rotated hqueue hsession⟩

/-- The program after the promise of another refresh. -/
theorem go_released {prom : ℕ} {k : Except JsError (Option String) → FrontM Unit}
    (hk : waitForToken jsonPayload config prom = .stmt (.promise prom) k)
    (v : Except JsError (Option String)) (d : Page) : ∃ r d', go (k v) d = (.ret r, d') ∧
      d'.queue = d.queue ∧ d'.session = d.session := by
  cases hk
  cases v with
  | error e => exact ⟨_, d, rfl, rfl, rfl⟩
  | ok token =>
      obtain ⟨d', h, hqueue, hsession⟩ := go_api (d := d) jsonPayload
        { config with authorization := some ("Bearer " ++ token.getD "null") }
      exact ⟨_, d', h, hqueue, hsession⟩

/-- The response interceptor ends, or waits for a refresh or for a promise. -/
theorem suspended_onError :
    Suspended jsonPayload (go (onError jsonPayload config status) d).1 := by
  by_cases hneeds : d.NeedsRefresh config status
  · cases hrefreshing : d.isRefreshing with
    | true =>
        rw [onError_waits jsonPayload hneeds hrefreshing]
        exact .waiting _ _
    | false =>
        cases htoken : truthy d.currentRefreshToken with
        | none =>
            obtain ⟨d', h, -⟩ := onError_lost jsonPayload hneeds hrefreshing htoken
            rw [h]
            exact .ended _
        | some refreshToken =>
            rw [onError_refreshes jsonPayload hneeds hrefreshing htoken]
            exact .refreshing _ _
  · obtain ⟨r, d', h, -⟩ := onError_other jsonPayload hneeds
    rw [h]
    exact .ended r

/-- The handler of every event ends or waits there. -/
theorem suspended_start {e : Event} {d' : Page} {p : FrontM Unit}
    (h : e.start jsonPayload d = some (d', p)) : Suspended jsonPayload (go p d').1 := by
  have hends {r : Except JsError Unit} {d'' : Page} (hgo : go p d' = (.ret r, d'')) :
      Suspended jsonPayload (go p d').1 := by
    rw [hgo]
    exact .ended r
  cases e with
  | call request =>
      cases h
      obtain ⟨d', hgo, -⟩ := go_api (d := d) jsonPayload { request }
      exact hends hgo
  | succeeds i =>
      obtain ⟨config, -, heq⟩ := Option.map_eq_some_iff.mp h
      cases heq
      exact hends rfl
  | fails i status =>
      obtain ⟨config, -, heq⟩ := Option.map_eq_some_iff.mp h
      cases heq
      exact suspended_onError
  | login accessToken refreshToken =>
      cases h
      obtain ⟨d', hgo, -⟩ := go_login (d := d) jsonPayload accessToken refreshToken
      exact hends hgo
  | logout =>
      cases h
      obtain ⟨d', hgo, -⟩ := go_logout (d := d)
      exact hends hgo
  | visit pathname =>
      cases h
      exact hends rfl
  | tick now =>
      cases h
      exact hends rfl

/-- The refresh token whose answer the task waits for. -/
def posted : FrontM Unit → Option String
  | .stmt (.postRefresh refreshToken) _ => some refreshToken
  | _ => none

abbrev FrontState := LoopState FrontStmt FrontStmt.Res Unit JsError Page Unit

/-- The refresh token whose answer task `i` waits for. -/
def awaited (s : FrontState) (i : ℕ) : Option String := s.tasks[i]?.bind posted

variable (jsonPayload) in
/-- What an answer does to the tasks: nothing, or one of them goes on to its end. -/
inductive Resumed (i : ℕ) (v : Except JsError (Option RefreshData)) (s s' : FrontState) : Prop
  | idle (task : awaited s i = none) (same : s' = s)
  | answered {config : Config} {refreshToken : String} {r : Except JsError Unit}
      (task : s.tasks[i]? = some (refreshTokens jsonPayload config refreshToken))
      (tasks : s'.tasks = s.tasks.set i (.ret r))
      (store : Answered jsonPayload refreshToken s.store s'.store (dataOf v))
  | released {config : Config} {prom : ℕ} {r : Except JsError Unit}
      (task : s.tasks[i]? = some (waitForToken jsonPayload config prom))
      (tasks : s'.tasks = s.tasks.set i (.ret r))
      (queue : s'.store.queue = s.store.queue) (session : s'.store.session = s.store.session)

section Loop

variable {W : Type} {s s' : FrontState} {i : ℕ} {v : Except JsError (Option RefreshData)}
  {Y : Script FrontStmt FrontStmt.Res Unit JsError Page (Except JsError (Option RefreshData)) W
    Unit}

/-- The tasks wait for a refresh or for a promise. -/
theorem resumed_step (hsync : Y.sync = FrontStmt.sync) (hsettle : Y.settle = FrontStmt.settled)
    (hs : ∀ p ∈ s.tasks, Suspended jsonPayload p) (i : ℕ)
    (v : Except JsError (Option RefreshData)) :
    Resumed jsonPayload i v s (Y.step (.resume i v) s) := by
  cases hi : s.tasks[i]? with
  | none => exact .idle (by rw [awaited, hi]; rfl) (step_resume_absent hi)
  | some p =>
      cases hs p (List.mem_of_getElem? hi) with
      | ended r => exact .idle (by rw [awaited, hi]; rfl) (step_resume_ret hi)
      | refreshing config refreshToken =>
          obtain ⟨k, hk⟩ : ∃ k, refreshTokens jsonPayload config refreshToken =
              .stmt (.postRefresh refreshToken) k := ⟨_, rfl⟩
          obtain ⟨r, d', hgo, hanswered⟩ := go_answered hk v s.store
          have hstep : Y.step (.resume i v) s =
              { store := d', tasks := s.tasks.set i (.ret r) } := by
            rw [step_resume (hk ▸ hi) (by rw [hsettle]; rfl), hsync,
              show advance FrontStmt.sync (k v) s.store = _ from hgo]
          exact .answered hi (by rw [hstep]) (by rw [hstep]; exact hanswered)
      | waiting config prom =>
          obtain ⟨k, hk⟩ : ∃ k, waitForToken jsonPayload config prom = .stmt (.promise prom) k :=
            ⟨_, rfl⟩
          cases hsettled : s.store.settled.lookup prom with
          | none =>
              refine .idle (by rw [awaited, hi, hk]; rfl) (step_resume_none (hk ▸ hi) ?_)
              rw [hsettle, FrontStmt.settled, hsettled]
              rfl
          | some outcome =>
              obtain ⟨r, d', hgo, hqueue, hsession⟩ := go_released hk outcome s.store
              have hstep : Y.step (.resume i v) s =
                  { store := d', tasks := s.tasks.set i (.ret r) } := by
                rw [step_resume (hk ▸ hi) (by rw [hsettle, FrontStmt.settled, hsettled]; rfl),
                  hsync, show advance FrontStmt.sync (k outcome) s.store = _ from hgo]
              exact .released hi (by rw [hstep]) (by rw [hstep]; exact hqueue)
                (by rw [hstep]; exact hsession)

/-- A task that goes on ends. -/
theorem Resumed.suspended (h : Resumed jsonPayload i v s s')
    (hs : ∀ p ∈ s.tasks, Suspended jsonPayload p) : ∀ p ∈ s'.tasks, Suspended jsonPayload p := by
  have hset {r : Except JsError Unit} (htasks : s'.tasks = s.tasks.set i (.ret r)) :
      ∀ p ∈ s'.tasks, Suspended jsonPayload p := by
    intro p hp
    rw [htasks] at hp
    rcases List.mem_or_eq_of_mem_set hp with hp | rfl
    · exact hs p hp
    · exact .ended r
  cases h with
  | idle _ same =>
      rw [same]
      exact hs
  | answered _ tasks _ => exact hset tasks
  | released _ tasks _ _ => exact hset tasks

/-- All tasks wait there, after any move. -/
theorem suspended_step (hsync : Y.sync = FrontStmt.sync) (hsettle : Y.settle = FrontStmt.settled)
    (hstart : ∀ w d d' p, Y.start w d = some (d', p) → Suspended jsonPayload (go p d').1)
    (m : LoopMove (Except JsError (Option RefreshData)) W)
    (hs : ∀ p ∈ s.tasks, Suspended jsonPayload p) :
    ∀ p ∈ (Y.step m s).tasks, Suspended jsonPayload p := by
  cases m with
  | resume i v => exact (resumed_step hsync hsettle hs i v).suspended hs
  | start w =>
      cases h : Y.start w s.store with
      | none =>
          rw [step_start_none h]
          exact hs
      | some r =>
          have hnew : Suspended jsonPayload (advance Y.sync r.2 r.1).1 := by
            rw [hsync]
            exact hstart w _ _ _ h
          intro p hp
          cases hw : Y.unloads w with
          | true =>
              rw [step_start_unloads h hw] at hp
              rw [List.mem_singleton.mp hp]
              exact hnew
          | false =>
              rw [step_start h hw] at hp
              rcases List.mem_append.mp hp with hp | hp
              · exact hs p hp
              · rw [List.mem_singleton.mp hp]
                exact hnew

end Loop

end Tokens

end Frontend

end FrixelConnect
