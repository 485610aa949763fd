import FrixelConnect.FrontendSteps

/-!
# The stored refresh tokens

The start of a page, a login, the response interceptor and a logout all write to the storage of
tokens. A refresh token that the server would accept is lost where one of them clears or
overwrites it on a notion of its own: the page starts with an access token that has expired, a
login or a refresh brings another token of the same tenant, or a refresh fails that was not made
with this token.
-/

namespace FrixelConnect

namespace Frontend

open Interleaving

section Session

variable (jsonPayload : String → Option DecodedToken)

/-- What happens in a tab: a page is loaded, and the server changes which tokens it accepts. -/
inductive TabEvent where
  | tab (e : Event)
  | load (pathname : String)
  | server (accepted : String → Bool)

abbrev TabMove := LoopMove (Except JsError (Option RefreshData)) TabEvent

/-- The page after it was loaded. -/
def Page.loaded (d : Page) (pathname : String) : Page :=
  { toBrowser := { d.toBrowser with pathname, href := none }
    failedRefreshes := d.failedRefreshes
    accepted := d.accepted }

def tab : Script FrontStmt FrontStmt.Res Unit JsError Page
    (Except JsError (Option RefreshData)) TabEvent Unit where
  sync := FrontStmt.sync
  settle := FrontStmt.settled
  start
    | .tab e, d => e.start jsonPayload d
    | .load pathname, d => some (d.loaded pathname, initAuth jsonPayload)
    | .server accepted, d => some ({ d with accepted }, pure ())
  unloads
    | .load _ => true
    | _ => false

/-- The refresh token is stored for the tenant, the server would accept it, and no refresh with it
has failed. -/
structure Page.Live (d : Page) (tenantId refreshToken : String) : Prop where
  stored : d.refreshToken tenantId = some refreshToken
  accepted : d.accepted refreshToken = true
  unspoiled : refreshToken ∉ d.failedRefreshes

/-- The move answers a refresh with the token, and the answer has data. -/
def Rotates (m : TabMove) (s : FrontState) (refreshToken : String) : Prop :=
  match m with
  | .resume i v => awaited s i = some refreshToken ∧ (dataOf v).isSome
  | _ => False

/-- A stored refresh token that the server would accept is removed or replaced only by a logout,
by its own rotation, or after a refresh with it has failed; and the load of a page leaves the one
in use as it is. -/
structure Kept (m : TabMove) (s : FrontState) : Prop where
  stored : ∀ tenantId refreshToken, s.store.Live tenantId refreshToken →
    ((tab jsonPayload).step m s).store.refreshToken tenantId = some refreshToken ∨
      m = .start (.tab .logout) ∨ Rotates m s refreshToken ∨
      refreshToken ∈ ((tab jsonPayload).step m s).store.failedRefreshes
  usable : ∀ pathname, m = .start (.load pathname) → ∀ tenantId refreshToken,
    s.store.activeTenant = some tenantId → s.store.Live tenantId refreshToken →
      ((tab jsonPayload).step m s).store.currentRefreshToken = some refreshToken

/-- What each move must not meet. -/
def Spares (m : TabMove) (s : FrontState) : Prop :=
  match m with
  | .start (.load _) => s.store.Expired jsonPayload → ∀ tenantId refreshToken,
      s.store.activeTenant = some tenantId → ¬ s.store.Live tenantId refreshToken
  | .start (.tab (.login accessToken refreshToken)) => ∀ tenantId old,
      tenantOf (decodeToken jsonPayload accessToken) = some tenantId →
      s.store.Live tenantId old → old = refreshToken
  | .start (.tab (.fails i status)) => ∀ config, s.store.inFlight[i]? = some config →
      s.store.NeedsRefresh config status → s.store.isRefreshing = false → ∀ tenantId,
      s.store.activeTenant = some tenantId → ¬ s.store.Live tenantId ""
  | .resume i v => ∀ refreshToken, awaited s i = some refreshToken →
      match dataOf v with
      | some data => ∀ tenantId old,
          tenantOf (data.access_token.bind (decodeToken jsonPayload)) = some tenantId →
          s.store.Live tenantId old → old = refreshToken ∨ old = text data.refresh_token
      | none => ∀ tenantId old, s.store.Live tenantId old → old = refreshToken
  | _ => True

/-! ## Keys of the storage -/

/-- A text starts with its first part. -/
theorem startsWith_append (start rest : String) : startsWith start (start ++ rest) = true := by
  rw [startsWith, String.toList_append, List.isPrefixOf_iff_prefix]
  exact List.prefix_append _ _

/-- How a text starts is decided by a part of it that is long enough. -/
theorem startsWith_append_left {start first : String} (rest : String)
    (h : start.toList.length ≤ first.toList.length) :
    startsWith start (first ++ rest) = startsWith start first := by
  rw [startsWith, startsWith, String.toList_append, Bool.eq_iff_iff, List.isPrefixOf_iff_prefix,
    List.isPrefixOf_iff_prefix]
  constructor
  · intro hprefix
    exact List.prefix_of_prefix_length_le hprefix (List.prefix_append _ _) h
  · intro hprefix
    exact hprefix.trans (List.prefix_append _ _)

theorem startsWith_REFRESH_KEY (tenantId : String) :
    startsWith "Frixel Connect_refresh_" (REFRESH_KEY tenantId) = true := startsWith_append _ _

theorem REFRESH_KEY_inj {tenantId tenantId' : String} :
    REFRESH_KEY tenantId = REFRESH_KEY tenantId' ↔ tenantId = tenantId' :=
  String.append_right_inj _

theorem REFRESH_KEY_ne_TOKEN_KEY (tenantId tenantId' : String) :
    REFRESH_KEY tenantId ≠ TOKEN_KEY tenantId' := by
  intro h
  have hrefresh : startsWith "Frixel Connect_t" (REFRESH_KEY tenantId) = false :=
    (startsWith_append_left tenantId (by decide)).trans (by decide)
  have htoken : startsWith "Frixel Connect_t" (TOKEN_KEY tenantId') = true :=
    (startsWith_append_left tenantId' (by decide)).trans (by decide)
  rw [h, htoken] at hrefresh
  exact absurd hrefresh (by decide)

theorem REFRESH_KEY_ne_ACTIVE_TENANT_KEY (tenantId : String) :
    REFRESH_KEY tenantId ≠ ACTIVE_TENANT_KEY := by
  intro h
  have hrefresh := startsWith_REFRESH_KEY tenantId
  rw [h] at hrefresh
  exact absurd hrefresh (by decide)

/-! ## What a move does to the stored refresh tokens -/

variable {jsonPayload} {d : Page} {m : TabMove} {s : FrontState} {tenantId refreshToken : String}

/-- The tokens of the tenant in use are gone. -/
theorem lookup_cleared (d : Page) (tenantId : String) : d.cleared.lookup (REFRESH_KEY tenantId) =
    if d.activeTenant = some tenantId then none else d.refreshToken tenantId := by
  rw [Page.cleared, Page.refreshToken]
  cases hactive : d.activeTenant with
  | none => exact AList.lookup_erase_ne (REFRESH_KEY_ne_ACTIVE_TENANT_KEY tenantId)
  | some active =>
      dsimp only
      rw [AList.lookup_erase_ne (REFRESH_KEY_ne_ACTIVE_TENANT_KEY tenantId)]
      by_cases h : active = tenantId
      · rw [if_pos (congrArg some h), h]
        exact AList.lookup_erase _ _
      · rw [if_neg fun heq => h (Option.some.inj heq),
          AList.lookup_erase_ne fun heq => h (REFRESH_KEY_inj.mp heq).symm,
          AList.lookup_erase_ne (REFRESH_KEY_ne_TOKEN_KEY _ _)]

/-- The tokens of one tenant are overwritten. -/
theorem lookup_saved (l : AList fun _ : String => String) (tenant token new tenantId : String) :
    (((l.insert (TOKEN_KEY tenant) token).insert ACTIVE_TENANT_KEY tenant).insert
      (REFRESH_KEY tenant) new).lookup (REFRESH_KEY tenantId) =
        if tenant = tenantId then some new else l.lookup (REFRESH_KEY tenantId) := by
  by_cases h : tenant = tenantId
  · rw [if_pos h, h, AList.lookup_insert]
  · rw [if_neg h, AList.lookup_insert_ne fun heq => h (REFRESH_KEY_inj.mp heq).symm,
      AList.lookup_insert_ne (REFRESH_KEY_ne_ACTIVE_TENANT_KEY tenantId),
      AList.lookup_insert_ne (REFRESH_KEY_ne_TOKEN_KEY _ _)]

/-- The tokens of all tenants are gone. -/
theorem lookup_emptied (d : Page) (tenantId : String) :
    d.emptied.lookup (REFRESH_KEY tenantId) = none := by
  rw [Page.emptied, AList.lookup_erase_ne (REFRESH_KEY_ne_ACTIVE_TENANT_KEY tenantId),
    lookup_erased, startsWith_REFRESH_KEY, if_pos rfl]

theorem session_eq_iff {l : AList fun _ : String => String} {failed : List String}
    {accepted : String → Bool} : d.session = (l, failed, accepted) ↔
      d.localStorage = l ∧ d.failedRefreshes = failed ∧ d.accepted = accepted := by
  simp only [Page.session, Prod.mk.injEq]

theorem suspended_tab {w : TabEvent} {d' : Page} {p : FrontM Unit}
    (h : (tab jsonPayload).start w d = some (d', p)) : Suspended jsonPayload (go p d').1 := by
  cases w with
  | tab e => exact suspended_start h
  | load pathname =>
      cases h
      by_cases hexpired : (d.loaded pathname).Expired jsonPayload
      · obtain ⟨d', hgo, -⟩ := go_initAuth_expired hexpired
        rw [hgo]
        exact .ended _
      · obtain ⟨r, d', hgo, -⟩ := go_initAuth hexpired
        rw [hgo]
        exact .ended r
  | server accepted =>
      cases h
      exact .ended _

theorem currentRefreshToken_of_active (h : d.activeTenant = some tenantId) :
    d.currentRefreshToken = d.refreshToken tenantId := by
  rw [Page.currentRefreshToken, h, Option.bind_some]

/-- A move that leaves the storage as it is. -/
theorem kept_of_same (h : ((tab jsonPayload).step m s).store.localStorage = s.store.localStorage) :
    Kept jsonPayload m s where
  stored tenantId refreshToken hlive := by
    left
    rw [Page.refreshToken, h]
    exact hlive.stored
  usable pathname _ tenantId refreshToken hactive hlive := by
    have hactive' : ((tab jsonPayload).step m s).store.activeTenant = some tenantId := by
      rw [Page.activeTenant, h]
      exact hactive
    rw [currentRefreshToken_of_active hactive', Page.refreshToken, h]
    exact hlive.stored

variable (jsonPayload) in
/-- A move that writes `new` over the refresh tokens of some tenants. -/
theorem kept_iff (hit : String → Prop) [DecidablePred hit] (new : Option String)
    (excused : String → Prop) (hload : ∀ pathname, m ≠ .start (.load pathname))
    (hstorage : ∀ tenantId, ((tab jsonPayload).step m s).store.refreshToken tenantId =
      if hit tenantId then new else s.store.refreshToken tenantId)
    (hexcused : ∀ old, old ∉ s.store.failedRefreshes → ((m = .start (.tab .logout) ∨
      Rotates m s old ∨ old ∈ ((tab jsonPayload).step m s).store.failedRefreshes) ↔ excused old)) :
    Kept jsonPayload m s ↔ ∀ tenantId old, hit tenantId → s.store.Live tenantId old →
      new = some old ∨ excused old := by
  constructor
  · intro h tenantId old hhit hlive
    rcases h.stored tenantId old hlive with hkept | hloss
    · rw [hstorage, if_pos hhit] at hkept
      exact .inl hkept
    · exact .inr ((hexcused old hlive.unspoiled).mp hloss)
  · intro h
    refine ⟨fun tenantId old hlive => ?_, fun pathname hm => absurd hm (hload pathname)⟩
    by_cases hhit : hit tenantId
    · rcases h tenantId old hhit hlive with hnew | hloss
      · left
        rw [hstorage, if_pos hhit, hnew]
      · exact .inr ((hexcused old hlive.unspoiled).mpr hloss)
    · left
      rw [hstorage, if_neg hhit]
      exact hlive.stored

/-- The handler of another event than a logout excuses no loss, where no refresh fails. -/
theorem excused_start {w : TabEvent} (hw : w ≠ .tab .logout) {failed : List String}
    (hfailed : failed = s.store.failedRefreshes) (old : String)
    (hold : old ∉ s.store.failedRefreshes) : ((LoopMove.start w : TabMove) = .start (.tab .logout) ∨
      Rotates (.start w) s old ∨ old ∈ failed) ↔ False := by
  refine iff_false_intro ?_
  rintro (h | h | h)
  · exact hw (LoopMove.start.inj h)
  · exact h
  · exact hold (hfailed ▸ h)

/-! ## Each kind of move -/

/-- The load of a page. -/
theorem kept_load (pathname : String) :
    Kept jsonPayload (.start (.load pathname)) s ↔
      Spares jsonPayload (.start (.load pathname)) s := by
  have hstep : (tab jsonPayload).step (.start (.load pathname)) s =
      { store := (go (initAuth jsonPayload) (s.store.loaded pathname)).2
        tasks := [(go (initAuth jsonPayload) (s.store.loaded pathname)).1] } :=
    step_start_unloads rfl rfl
  by_cases hexpired : s.store.Expired jsonPayload
  · obtain ⟨d', hgo, hsession⟩ := go_initAuth_expired (d := s.store.loaded pathname) hexpired
    obtain ⟨hstorage, -, -⟩ := session_eq_iff.mp hsession
    have hstep' : ((tab jsonPayload).step (.start (.load pathname)) s).store.localStorage =
        s.store.cleared := by
      rw [hstep, hgo]
      exact hstorage
    constructor
    · intro h _ tenantId refreshToken hactive hlive
      have husable := h.usable pathname rfl tenantId refreshToken hactive hlive
      have hnone : (s.store.withStorage s.store.cleared).activeTenant = none :=
        activeTenant_cleared
      rw [Page.currentRefreshToken, Page.activeTenant, hstep'] at husable
      rw [Page.activeTenant] at hnone
      rw [show truthy (s.store.cleared.lookup ACTIVE_TENANT_KEY) = none from hnone] at husable
      exact absurd husable (by simp)
    · intro h
      have hspared := h hexpired
      refine ⟨fun tenantId refreshToken hlive => ?_, fun _ _ tenantId refreshToken hactive hlive =>
        absurd hlive (hspared tenantId refreshToken hactive)⟩
      left
      rw [Page.refreshToken, hstep', lookup_cleared,
        if_neg fun hactive => hspared tenantId refreshToken hactive hlive]
      exact hlive.stored
  · obtain ⟨r, d', hgo, hsession⟩ := go_initAuth (d := s.store.loaded pathname) hexpired
    refine iff_of_true (kept_of_same ?_) fun h => absurd h hexpired
    rw [hstep, hgo]
    exact congrArg Prod.fst hsession

theorem step_tab {e : Event} {d' : Page} {p : FrontM Unit}
    (h : e.start jsonPayload s.store = some (d', p)) :
    (tab jsonPayload).step (.start (.tab e)) s =
      { store := (go p d').2, tasks := s.tasks ++ [(go p d').1] } := step_start h rfl

/-- The handler of an event that leaves the storage as it is. -/
theorem kept_tab {e : Event} {d' d'' : Page} {p q : FrontM Unit}
    (h : e.start jsonPayload s.store = some (d', p)) (hgo : go p d' = (q, d''))
    (hsession : d''.session = s.store.session) : Kept jsonPayload (.start (.tab e)) s := by
  refine kept_of_same ?_
  rw [step_tab h, hgo]
  exact congrArg Prod.fst hsession

theorem kept_login (accessToken refreshToken : String) :
    Kept jsonPayload (.start (.tab (.login accessToken refreshToken))) s ↔
      Spares jsonPayload (.start (.tab (.login accessToken refreshToken))) s := by
  obtain ⟨d', hgo, -, hsession⟩ :=
    go_login (d := s.store) jsonPayload accessToken refreshToken
  obtain ⟨hstorage, hfailed, -⟩ := session_eq_iff.mp hsession
  have hstep : ((tab jsonPayload).step (.start (.tab (.login accessToken refreshToken))) s).store =
      d' := by
    rw [step_tab rfl, hgo]
  have hkept := kept_iff (s := s) (m := .start (.tab (.login accessToken refreshToken))) jsonPayload
    (fun tenantId => tenantOf (decodeToken jsonPayload accessToken) = some tenantId)
    (some refreshToken) (fun _ => False) (fun _ h => by cases h) (fun tenantId => ?_)
    (excused_start (by simp) (hstep ▸ hfailed))
  · rw [hkept]
    refine forall₂_congr fun tenantId old => ?_
    simp only [or_false, Option.some.injEq, eq_comm]
  · rw [hstep, Page.refreshToken, hstorage, Page.loggedIn]
    cases tenantOf (decodeToken jsonPayload accessToken) with
    | none => rfl
    | some tenant =>
        simp only [Option.some.injEq]
        exact lookup_saved _ _ _ _ _

/-- There is no refresh token to send, and the tokens of the tenant in use are cleared. -/
theorem kept_lost {e : Event} {config : Config} {status : Option ℕ} {d' : Page}
    (hstart : e.start jsonPayload s.store = some (d', onError jsonPayload config status))
    (hlogout : e ≠ .logout) (hsame : d'.session = s.store.session)
    (hneeds : d'.NeedsRefresh config status) (hrefreshing : d'.isRefreshing = false)
    (htoken : truthy d'.currentRefreshToken = none) :
    Kept jsonPayload (.start (.tab e)) s ↔ ∀ tenantId, s.store.activeTenant = some tenantId →
      ¬ s.store.Live tenantId "" := by
  obtain ⟨hstorage, hfailed, -⟩ := session_eq_iff.mp hsame
  obtain ⟨d'', hgo, -, hsession⟩ := onError_lost jsonPayload hneeds hrefreshing htoken
  obtain ⟨hstorage', hfailed', -⟩ := session_eq_iff.mp hsession
  have hstep : ((tab jsonPayload).step (.start (.tab e)) s).store = d'' := by
    rw [step_tab hstart, hgo]
  have hkept := kept_iff (s := s) (m := .start (.tab e)) jsonPayload
    (fun tenantId => s.store.activeTenant = some tenantId) none (fun _ => False)
    (fun _ h => by cases h) (fun tenantId => ?_)
    (excused_start (fun h => hlogout (TabEvent.tab.inj h)) (hstep ▸ hfailed'.trans hfailed))
  · rw [hkept]
    constructor
    · intro h tenantId hactive hlive
      rcases h tenantId "" hactive hlive with hnew | hloss
      · cases hnew
      · exact hloss
    · intro h tenantId old hactive hlive
      have hactive' : d'.activeTenant = some tenantId := by
        rw [Page.activeTenant, hstorage]
        exact hactive
      have hstored : d'.refreshToken tenantId = some old := by
        rw [Page.refreshToken, hstorage]
        exact hlive.stored
      rw [currentRefreshToken_of_active hactive', hstored] at htoken
      have hempty : old = "" := by
        by_contra hne
        rw [truthy, Option.filter_some_pos (by simpa using hne)] at htoken
        cases htoken
      exact absurd (hempty ▸ hlive) (h tenantId hactive)
  · have hcleared : d'.cleared = s.store.cleared := by
      rw [Page.cleared, Page.cleared, Page.activeTenant, Page.activeTenant, hstorage]
    rw [hstep, Page.refreshToken, hstorage', hcleared, lookup_cleared]

theorem kept_fails (i : ℕ) (status : Option ℕ) :
    Kept jsonPayload (.start (.tab (.fails i status))) s ↔
      Spares jsonPayload (.start (.tab (.fails i status))) s := by
  cases hconfig : s.store.inFlight[i]? with
  | none =>
      have hstart : (tab jsonPayload).start (.tab (.fails i status)) s.store = none :=
        Option.map_eq_none_iff.mpr hconfig
      refine iff_of_true (kept_of_same ?_) fun config hsome => ?_
      · rw [step_start_none hstart]
      · cases hconfig.symm.trans hsome
  | some config =>
      let d : Page := { s.store with inFlight := s.store.inFlight.eraseIdx i }
      have hstart : (Event.fails i status).start jsonPayload s.store =
          some (d, onError jsonPayload config status) := by
        rw [Event.start, hconfig]
        rfl
      have hcondition : Spares jsonPayload (.start (.tab (.fails i status))) s ↔
          (s.store.NeedsRefresh config status → s.store.isRefreshing = false → ∀ tenantId,
            s.store.activeTenant = some tenantId → ¬ s.store.Live tenantId "") := by
        simp only [Spares, hconfig, Option.some.injEq, forall_eq']
      rw [hcondition]
      by_cases hneeds : d.NeedsRefresh config status
      · cases hrefreshing : d.isRefreshing with
        | true =>
            refine iff_of_true (kept_tab hstart (onError_waits jsonPayload hneeds hrefreshing) rfl) ?_
            intro _ hidle
            exact absurd hidle (by decide)
        | false =>
            cases htoken : truthy d.currentRefreshToken with
            | none =>
                refine (kept_lost hstart (by simp) rfl hneeds hrefreshing htoken).trans ?_
                exact ⟨fun h _ _ => h, fun h => h hneeds rfl⟩
            | some refreshToken =>
                have hgo := onError_refreshes jsonPayload hneeds hrefreshing htoken
                refine iff_of_true (kept_tab hstart hgo rfl) ?_
                intro _ _ tenantId hactive hlive
                rw [show d.currentRefreshToken = some "" from
                  (currentRefreshToken_of_active hactive).trans hlive.stored] at htoken
                cases htoken
      · obtain ⟨r, d', hgo, -, hsession⟩ := onError_other jsonPayload hneeds
        exact iff_of_true (kept_tab hstart hgo hsession) fun h => absurd h hneeds

/-- The answer to a refresh, or to a promise. -/
theorem kept_resume {i : ℕ} {v : Except JsError (Option RefreshData)}
    (h : Resumed jsonPayload i v s ((tab jsonPayload).step (.resume i v) s)) :
    Kept jsonPayload (.resume i v) s ↔ Spares jsonPayload (.resume i v) s := by
  have hvacuous (hawaited : awaited s i = none) : Spares jsonPayload (.resume i v) s := by
    intro refreshToken hsome
    cases hawaited.symm.trans hsome
  cases h with
  | idle task same => exact iff_of_true (kept_of_same (by rw [same])) (hvacuous task)
  | released task tasks queue session =>
      refine iff_of_true (kept_of_same (congrArg Prod.fst session)) (hvacuous ?_)
      rw [awaited, task]
      rfl
  | @answered config refreshToken r task tasks store =>
      have hawaited : awaited s i = some refreshToken := by
        rw [awaited, task]
        rfl
      have hrotates (old : String) : Rotates (.resume i v) s old ↔
          refreshToken = old ∧ (dataOf v).isSome := by
        rw [Rotates, hawaited, Option.some.injEq]
      rw [Spares]
      simp only [hawaited, Option.some.injEq, forall_eq']
      generalize hdata : dataOf v = data at store hrotates
      cases store with
      | @rotated data queue session =>
          obtain ⟨hstorage, hfailed, -⟩ := session_eq_iff.mp session
          have hkept := kept_iff (s := s) (m := .resume i v) jsonPayload (fun tenantId =>
              tenantOf (data.access_token.bind (decodeToken jsonPayload)) = some tenantId)
            (some (text data.refresh_token)) (fun old => old = refreshToken)
            (fun _ h => by cases h) (fun tenantId => ?_) (fun old hold => ?_)
          · rw [hkept]
            refine forall₂_congr fun tenantId old => ?_
            rw [Option.some.injEq, eq_comm (b := old), or_comm]
          · rw [Page.refreshToken, hstorage, Page.rotated]
            cases tenantOf (data.access_token.bind (decodeToken jsonPayload)) with
            | none => rfl
            | some tenant =>
                simp only [Option.some.injEq]
                exact lookup_saved _ _ _ _ _
          · rw [hrotates, hfailed]
            simp [hold, eq_comm]
      | failed queue session =>
          obtain ⟨hstorage, hfailed, -⟩ := session_eq_iff.mp session
          have hkept := kept_iff (s := s) (m := .resume i v) jsonPayload (fun _ => True) none
            (fun old => old = refreshToken)
            (fun _ h => by cases h) (fun tenantId => ?_) (fun old hold => ?_)
          · rw [hkept]
            simp
          · rw [Page.refreshToken, hstorage,
              AList.lookup_erase_ne (REFRESH_KEY_ne_ACTIVE_TENANT_KEY tenantId), lookup_emptied,
              if_pos trivial]
          · rw [hrotates, hfailed]
            simp [hold]

/-- Every move keeps the stored refresh tokens exactly when it meets its condition. -/
theorem kept_iff_spares (hs : ∀ p ∈ s.tasks, Suspended jsonPayload p) (m : TabMove) :
    Kept jsonPayload m s ↔ Spares jsonPayload m s := by
  cases m with
  | resume i v => exact kept_resume (resumed_step rfl rfl hs i v)
  | start w =>
      cases w with
      | load pathname => exact kept_load pathname
      | server accepted => exact iff_of_true (kept_of_same rfl) trivial
      | tab e =>
          cases e with
          | call request =>
              obtain ⟨d', hgo, -, hsession⟩ := go_api (d := s.store) jsonPayload { request }
              exact iff_of_true (kept_tab rfl hgo hsession) trivial
          | succeeds i =>
              refine iff_of_true (kept_of_same ?_) trivial
              cases hstart : (tab jsonPayload).start (.tab (.succeeds i)) s.store with
              | none => rw [step_start_none hstart]
              | some r =>
                  obtain ⟨config, -, heq⟩ := Option.map_eq_some_iff.mp hstart
                  rw [step_start hstart rfl, ← heq]
                  rfl
          | fails i status => exact kept_fails i status
          | login accessToken refreshToken => exact kept_login accessToken refreshToken
          | logout =>
              refine iff_of_true ⟨fun _ _ _ => .inr (.inl rfl), fun _ h => ?_⟩ trivial
              cases h
          | visit pathname => exact iff_of_true (kept_tab rfl rfl rfl) trivial
          | tick now => exact iff_of_true (kept_tab rfl rfl rfl) trivial

/-- The stored refresh tokens that the server would accept are kept along a sequence of moves
exactly when no page starts with an expired access token of a tenant that has one, no login and no
refresh brings another one of the same tenant, and none but the token itself is stored when a
refresh fails. -/
theorem stored_session_kept_iff (jsonPayload : String → Option DecodedToken) (d : Page)
    (moves : List TabMove) :
    Along (tab jsonPayload).step (Kept jsonPayload) moves { store := d } ↔
      Along (tab jsonPayload).step (Spares jsonPayload) moves { store := d } := by
  refine Along.congr_of (I := fun s => ∀ p ∈ s.tasks, Suspended jsonPayload p) ?_ (by simp) ?_
  · intro m s hs
    exact suspended_step rfl rfl (fun _ _ _ _ => suspended_tab) m hs
  · intro m s hs
    exact kept_iff_spares hs m

/-- A token of a tenant that expires one second after the epoch. -/
def shortLived : String → Option DecodedToken := fun _ =>
  some { sub := "user", role := "admin", tenant_id := some "tenant", exp := some 1 }

/-- A login, and the load of a page after the access token has expired. -/
def loadsLater : List TabMove :=
  [.start (.server fun _ => true), .start (.tab (.login "header.payload.signature" "refresh")),
    .start (.tab (.tick 2000)), .start (.load "/")]

/-- The load of the page removes the refresh token. -/
theorem not_stored_session_kept :
    ¬ ∀ (jsonPayload : String → Option DecodedToken) (d : Page) (moves : List TabMove),
      Along (tab jsonPayload).step (Kept jsonPayload) moves { store := d } := by
  intro h
  obtain ⟨-, -, -, hload, -⟩ := h shortLived {} loadsLater
  have husable := hload.usable "/" rfl "tenant" "refresh" (by decide +kernel)
    ⟨by decide +kernel, rfl, by decide +kernel⟩
  exact absurd husable (by decide +kernel)

end Session

end Frontend

end FrixelConnect
