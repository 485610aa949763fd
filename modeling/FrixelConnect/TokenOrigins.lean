import FrixelConnect.AccessSpecs

/-!
# Where the tokens of admitted requests come from

The store knows the credentials that the server has issued. Each has its origin in the run: a
process issued it, and what was presented to that process was issued before. So a request is
admitted only with a token that goes back to a password, or to the registration of the account,
and a super admin's token to a password and a code.
-/

namespace FrixelConnect

namespace AccessControl

open Calendar Interleaving Python

/-! ## The credentials of the store -/

theorem map_updateRows {α β : Type} {f : α → β} {rows : List α} {p : α → Bool} {g : α → α}
    (hg : ∀ r, f (g r) = f r) : (updateRows p g rows).map f = rows.map f := by
  rw [updateRows, List.map_map]
  apply List.map_congr_left
  intro r _
  dsimp only [Function.comp_apply]
  split
  · exact hg r
  · rfl

/-- The credential that a statement adds. -/
def added : AccessStmt → Option Credential
  | .jwt_encode payload => some (.access payload)
  | .session (.insert_refresh_token user_id token_hash _ _) => some (.refresh token_hash user_id)
  | .admin (.insert_pre_auth_token super_admin_id token_hash) =>
      some (.pre_auth token_hash super_admin_id)
  | _ => none

section Credentials

variable {v : AccessEnv} {d d' : AccessStore} {c : Credential}

theorem revoke_rows {x : TokenStore} {p : RefreshToken → Bool} :
    (x.revoke p).refresh_tokens.map (fun r => Credential.refresh r.token_hash r.user_id) =
      x.refresh_tokens.map fun r => Credential.refresh r.token_hash r.user_id :=
  map_updateRows fun _ => rfl

theorem use_rows {x : AdminStore} {id : UUID} {now : Timestamptz} :
    (x.use id now).pre_auth_tokens.map
        (fun t => Credential.pre_auth t.token_hash t.super_admin_id) =
      x.pre_auth_tokens.map fun t => Credential.pre_auth t.token_hash t.super_admin_id :=
  map_updateRows fun _ => rfl

theorem session_rows {s : TokenStmt} {a : s.Res} {v : Env} {x x' : TokenStore}
    (h : s.eval v x = .ok (a, x')) :
    x'.refresh_tokens.map (fun r => Credential.refresh r.token_hash r.user_id) =
      x.refresh_tokens.map (fun r => Credential.refresh r.token_hash r.user_id) ++
        (added (.session s)).toList := by
  cases s with
  | insert_refresh_token user_id token_hash family_id expires_at =>
      obtain ⟨row, rfl, hhash, -, -, -, -, huser⟩ := TokenStmt.eval_insert_refresh_token h
      rw [List.map_append, List.map_singleton, hhash, huser]
      rfl
  | revoke_family family_id =>
      cases h
      exact revoke_rows.trans (List.append_nil _).symm
  | revoke_token id =>
      cases h
      exact revoke_rows.trans (List.append_nil _).symm
  | select_refresh_token token_hash =>
      rw [TokenStmt.eval_select_store h]
      split <;> simp [added]
  | token_urlsafe => cases h; simp [added]
  | uuid4 => cases h; simp [added]
  | utc_now => cases h; simp [added]

theorem admin_rows {s : AdminStmt} {a : s.Res} {v : AdminEnv} {x x' : AdminStore}
    (h : s.eval v x = .ok (a, x')) :
    x'.pre_auth_tokens.map (fun t => Credential.pre_auth t.token_hash t.super_admin_id) =
      x.pre_auth_tokens.map (fun t => Credential.pre_auth t.token_hash t.super_admin_id) ++
        (added (.admin s)).toList := by
  cases s with
  | insert_pre_auth_token id token_hash =>
      simp only [AdminStmt.eval, Except.bind_eq_ok] at h
      obtain ⟨-, -, -, -, -, -, h⟩ := h
      cases h
      simp [added]
  | lock_token id =>
      cases h
      exact use_rows.trans (List.append_nil _).symm
  | consume_token id =>
      cases h
      exact use_rows.trans (List.append_nil _).symm
  | redis_incr key =>
      rw [AdminStmt.eval] at h
      split at h <;> cases h <;> simp [added]
  | _ => cases h; simp [added, AdminStore.updateAdmins]

theorem map_eq_ok {α β : Type} {x : Except Exn α} {f : α → β} {b : β} :
    x.map f = .ok b ↔ ∃ a, x = .ok a ∧ f a = b := by
  cases x with
  | ok a => simp [Except.map]
  | error e => simp [Except.map]

/-- A statement adds its credential and keeps the others. -/
theorem credentials_eval {q : AccessStmt} {a : q.Res} (h : q.eval v d = .ok (a, d')) :
    c ∈ d'.credentials ↔ c ∈ d.credentials ∨ added q = some c := by
  have hsame {d' : AccessStore} (hadded : added q = none)
      (hd' : d'.credentials = d.credentials) :
      c ∈ d'.credentials ↔ c ∈ d.credentials ∨ added q = some c := by
    simp [hd', hadded]
  cases q with
  | registry s =>
      obtain ⟨r, -, hd'⟩ := map_eq_ok.mp h
      cases hd'
      exact hsame rfl rfl
  | create_tenant data hashed =>
      simp only [AccessStmt.eval, Except.bind_eq_ok] at h
      obtain ⟨_, -, _, -, hd'⟩ := h
      cases hd'
      exact hsame rfl rfl
  | session s =>
      obtain ⟨r, hr, hd'⟩ := map_eq_ok.mp h
      cases hd'
      simp only [AccessStore.credentials, AccessStore.setSession, session_rows hr,
        AccessStore.session, List.mem_append, Option.mem_toList]
      tauto
  | admin s =>
      obtain ⟨r, hr, hd'⟩ := map_eq_ok.mp h
      cases hd'
      simp only [AccessStore.credentials, AccessStore.setAdmin, admin_rows hr,
        AccessStore.admin, List.mem_append, Option.mem_toList]
      tauto
  | insert_audit_log id action target_type target_id metadata ip =>
      obtain ⟨r, -, hd'⟩ := map_eq_ok.mp h
      cases hd'
      exact hsame rfl rfl
  | jwt_encode payload =>
      cases h
      simp only [AccessStore.credentials, List.map_append, List.map_singleton, List.mem_append,
        List.mem_singleton, added, Option.some.injEq]
      tauto
  | select_tenant_name id =>
      cases h
      exact hsame rfl rfl
  | select_admin id =>
      cases h
      exact hsame rfl rfl
  | utc_now =>
      cases h
      exact hsame rfl rfl
  | jwt_decode token =>
      cases h
      exact hsame rfl rfl

end Credentials

/-- The rest of the system changes the tables, but it gives out and takes away no credential, and
it leaves the rows about the requests of super admins in tenants alone. -/
def others : AccessRules where
  edit d d' := (∀ c, c ∈ d'.credentials ↔ c ∈ d.credentials) ∧
    ∀ r, r.action = "impersonation.api_call" →
      (r ∈ d'.super_admin_audit_log ↔ r ∈ d.super_admin_audit_log)

section Runs

variable {verify_password : String → String → Except Exn Bool} {d₀ : AccessStore}
  {s s' t : AccessState} {i : ℕ}

/-- The results in a run from a store. -/
abbrev had (verify_password : String → String → Except Exn Bool) (d₀ : AccessStore)
    (s : AccessState) : ℕ → Results :=
  Had (accessSystem verify_password) others { store := d₀ } s

theorem keeps_credentials {c : Credential}
    (hr : Reaches (accessSystem verify_password) others { store := d₀ } s)
    (hr' : Reaches (accessSystem verify_password) others s s') (hc : c ∈ s.store.credentials) :
    c ∈ s'.store.credentials := by
  have hrule : DirectRule (accessSystem verify_password) others
      (Justified verify_password fun _ _ => True) (fun _ => True)
      fun d d' => ∀ c ∈ d.credentials, c ∈ d'.credentials :=
    { leads.direct with
      refl := fun _ _ h => h
      trans := fun _ _ _ h h' c hc => h' c (h c hc)
      edit := fun d d' h _ => ⟨trivial, fun c hc => (h.1 c).mpr hc⟩
      stmt := fun q v a d d' _ _ _ hx => ⟨trivial, fun c hc =>
        (credentials_eval (settle_eq_ok.mp hx)).mpr (.inl hc)⟩ }
  exact (hrule.reaches hr' (leads.direct.procs hr (by simp)) trivial).2.1 c hc

/-- A statement that has been answered has run. -/
theorem performed_eval {q : AccessStmt} {a : q.Res} {c : Choice Exn AccessEnv} {d : AccessStore}
    (h : Performed (accessSystem verify_password) others { store := d₀ } s i q (.ok a) c t d) :
    ∃ v, c = .run v ∧ q.eval v t.store = .ok (a, d) := by
  cases c with
  | fail e => cases h.result
  | run v => exact ⟨v, rfl, settle_eq_ok.mp h.result⟩

/-- A token is decoded when it was signed and has not expired. -/
theorem decode_eval {v : AccessEnv} {d d' : AccessStore} {token : String} {payload : Payload}
    (h : (AccessStmt.jwt_decode token).eval v d = .ok (.ok payload, d')) :
    (∃ x ∈ d.signed, x.text = token ∧ x.payload = payload) ∧ timegm v.now ≤ payload.exp := by
  have hclaims := congrArg Prod.fst (Except.ok.inj h)
  dsimp only at hclaims
  cases hfound : fetchrow v.pick (fun x => x.text == token) d.signed with
  | none =>
      rw [hfound] at hclaims
      cases hclaims
  | some x =>
      rw [hfound, jwt_claims] at hclaims
      split at hclaims
      · cases hclaims
      · rename_i hexp
        cases hclaims
        obtain ⟨hmem, htext⟩ := fetchrow_eq_some hfound
        exact ⟨⟨x, hmem, beq_iff_eq.mp htext, rfl⟩, not_lt.mp hexp⟩

theorem decoded_credential {token : String} {payload : Payload}
    (h : had verify_password d₀ s i (.jwt_decode token) (.ok (.ok payload))) :
    .access payload ∈ s.store.credentials := by
  obtain ⟨c, t, d, hp⟩ := h
  obtain ⟨v, -, heval⟩ := performed_eval hp
  obtain ⟨⟨x, hx, -, rfl⟩, -⟩ := decode_eval heval
  refine keeps_credentials hp.before hp.reaches ?_
  simp only [AccessStore.credentials, List.mem_append, List.mem_map]
  exact .inl (.inl ⟨x, hx, rfl⟩)

theorem selected_refresh {token_hash : String} {rt : RefreshToken} {u : User} {tenant : Tenant}
    (h : had verify_password d₀ s i (.session (.select_refresh_token token_hash))
      (.ok (some (rt, u, tenant)))) :
    .refresh token_hash rt.user_id ∈ s.store.credentials := by
  obtain ⟨c, t, d, hp⟩ := h
  obtain ⟨v, -, heval⟩ := performed_eval hp
  rw [AccessStmt.eval] at heval
  obtain ⟨⟨a, x⟩, hr, hd⟩ := map_eq_ok.mp heval
  cases hd
  obtain ⟨⟨hmem, hhash⟩, -⟩ := TokenStmt.eval_select_refresh_token hr
  refine keeps_credentials hp.before hp.reaches ?_
  simp only [AccessStore.credentials, List.mem_append, List.mem_map]
  exact .inl (.inr ⟨rt, hmem, by rw [hhash]⟩)

theorem selected_pre_auth {token_hash : String} {row : PreAuthRow}
    (h : had verify_password d₀ s i (.admin (.select_pre_auth_token token_hash))
      (.ok (some row))) :
    .pre_auth token_hash row.super_admin_id ∈ s.store.credentials := by
  obtain ⟨c, t, d, hp⟩ := h
  obtain ⟨v, -, heval⟩ := performed_eval hp
  rw [AccessStmt.eval] at heval
  obtain ⟨⟨a, x⟩, hr, hd⟩ := map_eq_ok.mp heval
  cases hd
  have hfound := congrArg Prod.fst (Except.ok.inj hr)
  obtain ⟨⟨hash, row⟩, hrow, rfl⟩ := Option.map_eq_some_iff.mp hfound
  obtain ⟨hmem, hhash⟩ := fetchrow_eq_some hrow
  simp only [AdminStore.joined, List.mem_flatMap, List.mem_map] at hmem
  obtain ⟨x, hx, w, -, heq⟩ := hmem
  cases heq
  have hhash : x.token_hash = token_hash := beq_iff_eq.mp hhash
  refine keeps_credentials hp.before hp.reaches ?_
  simp only [AccessStore.credentials, List.mem_append, List.mem_map]
  exact .inr ⟨x, hx, by rw [hhash]⟩

/-- What was presented to a process is known to the store. -/
theorem presented {used c : Credential}
    (h : Issues verify_password (had verify_password d₀ s i) (some used) c) :
    used ∈ s.store.credentials := by
  have hest {a : Account}
      (hused : Establishes verify_password (had verify_password d₀ s i) (some used) a) :
      used ∈ s.store.credentials := by
    cases hused with
    | begins hbegins =>
        cases hbegins with
        | register hadmits _ => exact decoded_credential hadmits.decoded
    | refresh hrt _ _ _ _ _ => exact selected_refresh hrt
  cases h with
  | access h _ => exact hest h
  | refresh h => exact hest h
  | super_admin h _ _ _ _ => exact selected_pre_auth h
  | impersonation h _ _ _ _ _ _ => exact decoded_credential h

theorem Admits.mono {B B' : Results} {token : String} {allowed_roles : List String}
    {payload : Payload} {tenant_id : UUID} (h : Admits B token allowed_roles payload tenant_id)
    (hB : ∀ q r, B q r → B' q r) : Admits B' token allowed_roles payload tenant_id := by
  obtain ⟨row, hrow, hactive⟩ := h.active
  exact ⟨hB _ _ h.decoded, h.role, h.tenant, row, hB _ _ hrow, hactive⟩

theorem Begins.mono {B B' : Results} {used : Option Credential} {a : Account}
    (h : Begins verify_password B used a) (hB : ∀ q r, B q r → B' q r) :
    Begins verify_password B' used a := by
  cases h with
  | password hu hok hactive => exact .password (hB _ _ hu) hok hactive
  | signup h => exact .signup (hB _ _ h)
  | register hadmits hu => exact .register (hadmits.mono hB) (hB _ _ hu)

theorem Establishes.mono {B B' : Results} {used : Option Credential} {a : Account}
    (h : Establishes verify_password B used a) (hB : ∀ q r, B q r → B' q r) :
    Establishes verify_password B' used a := by
  cases h with
  | begins h => exact .begins (h.mono hB)
  | refresh hrt hnow hexp hrevoked hstatus hactive =>
      exact .refresh (hB _ _ hrt) (hB _ _ hnow) hexp hrevoked hstatus hactive

theorem Issues.mono {B B' : Results} {used : Option Credential} {c : Credential}
    (h : Issues verify_password B used c) (hB : ∀ q r, B q r → B' q r) :
    Issues verify_password B' used c := by
  cases h with
  | access h hnow => exact .access (h.mono hB) (hB _ _ hnow)
  | refresh h => exact .refresh (h.mono hB)
  | pre_auth hrow hok hactive => exact .pre_auth (hB _ _ hrow) (hB _ _ hok) hactive
  | super_admin hrow hused hactive hcode hnow =>
      exact .super_admin (hB _ _ hrow) hused hactive (hB _ _ hcode) (hB _ _ hnow)
  | impersonation hdecoded hrole hsub hid hle hadmin hnow =>
      exact .impersonation (hB _ _ hdecoded) hrole hsub hid hle (hB _ _ hadmin) (hB _ _ hnow)

theorem Origin.mono {had had' : ℕ → Results} {c : Credential}
    (h : Origin verify_password had c) (hhad : ∀ i q r, had i q r → had' i q r) :
    Origin verify_password had' c := by
  induction h with
  | first h => exact .first (h.mono (hhad _))
  | next h _ ih => exact .next (h.mono (hhad _)) ih

/-- What a process adds, it issues. -/
theorem Justified.issues {B : Results} {q : AccessStmt} {c : Credential}
    (h : Justified verify_password B q) (hadded : added q = some c) :
    ∃ used, Issues verify_password B used c := by
  cases q with
  | jwt_encode payload =>
      cases hadded
      exact h
  | session s =>
      cases s with
      | insert_refresh_token user_id token_hash family_id expires_at =>
          cases hadded
          exact h
      | _ => cases hadded
  | admin s =>
      cases s with
      | insert_pre_auth_token id token_hash =>
          cases hadded
          exact h
      | _ => cases hadded
  | _ => cases hadded

/-- Every credential that the store knows has its origin in the run. -/
theorem credential_origin (h₀ : d₀.credentials = [])
    (hs : Reaches (accessSystem verify_password) others { store := d₀ } s) :
    ∀ c, c ∈ s.store.credentials → Origin verify_password (had verify_password d₀ s) c := by
  refine leads.provenance (fun d c => c ∈ d.credentials)
    (fun t c => Origin verify_password (had verify_password d₀ t) c) rfl
    (by simp [h₀]) (fun d d' c h hc => (h.1 c).mp hc)
    (fun t t' c hr h => h.mono fun i q r hq => hq.later hr) ?_ hs
  intro t i q v a d ht hjust hx horigin c hc hnew
  have hadded := ((credentials_eval (settle_eq_ok.mp hx)).mp hc).resolve_left hnew
  obtain ⟨used, hissues⟩ := hjust.issues hadded
  cases used with
  | none => exact .first hissues
  | some used => exact .next hissues (horigin used (presented hissues))

/-! ## Who has signed in -/

/-- The user has logged in with the password, has registered a tenant, or was created by an
admin. -/
def Introduced (verify_password : String → String → Except Exn Bool) (had : ℕ → Results)
    (user_id : UUID) : Prop :=
  ∃ i used a, Begins verify_password (had i) used a ∧ a.id = user_id

/-- The password of the super admin was accepted. -/
def FirstFactor (had : ℕ → Results) (super_admin_id : UUID) : Prop :=
  ∃ i email password row, had i (.admin (.select_super_admin email)) (.ok (some row)) ∧
    had i (.admin (.verify_password password row.hashed_password)) (.ok true) ∧
    row.is_active = true ∧ row.id = super_admin_id

/-- The password and then a code of the super admin were accepted, the code by a process that has
read this time. -/
structure BothFactors (had : ℕ → Results) (super_admin_id : UUID) (now : Timestamptz) : Prop where
  password : FirstFactor had super_admin_id
  code : ∃ i, Verified (had i) super_admin_id ∧ had i .utc_now (.ok now)

/-- For whom a token was signed, and when. -/
inductive Source (verify_password : String → String → Except Exn Bool) (had : ℕ → Results) :
    Payload → Prop
  | account {i : ℕ} {a : Account} {now : Timestamptz} : Introduced verify_password had a.id →
      had i .utc_now (.ok now) → Source verify_password had (a.payload now)
  | super_admin {id : UUID} {now : Timestamptz} : BothFactors had id now →
      Source verify_password had (super_admin_payload (str id) now)
  | impersonation {i : ℕ} {admin_id tenant_id super_admin_id : UUID} {duration_minutes : ℤ}
      {now signed_in : Timestamptz} : BothFactors had super_admin_id signed_in →
      had i .utc_now (.ok now) → duration_minutes ≤ 480 →
      Source verify_password had
        (impersonation_payload admin_id tenant_id super_admin_id duration_minutes now)

/-- What the origin of a credential tells. -/
def Known (verify_password : String → String → Except Exn Bool) (had : ℕ → Results) :
    Credential → Prop
  | .access payload => Source verify_password had payload
  | .refresh _ user_id => Introduced verify_password had user_id
  | .pre_auth _ super_admin_id => FirstFactor had super_admin_id

theorem value_ne_super_admin (r : Role) : r.value ≠ "super_admin" := by
  cases r <;> decide

/-- The token of a super admin. -/
theorem Source.super_admin_payload {had : ℕ → Results} {payload : Payload}
    (h : Source verify_password had payload) (hrole : payload.role = some "super_admin") :
    ∃ id now, BothFactors had id now ∧
      payload = AccessControl.super_admin_payload (str id) now := by
  cases h with
  | @account i a now _ _ => exact absurd (Option.some.inj hrole) (value_ne_super_admin a.role)
  | super_admin h => exact ⟨_, _, h, rfl⟩
  | impersonation _ _ _ => exact absurd (Option.some.inj hrole) (by decide)

theorem Origin.known {had : ℕ → Results} {c : Credential}
    (h : Origin verify_password had c) : Known verify_password had c := by
  have hest {i : ℕ} {used : Option Credential} {a : Account}
      (hused : ∀ c ∈ used, Known verify_password had c)
      (hest : Establishes verify_password (had i) used a) :
      Introduced verify_password had a.id := by
    cases hest with
    | begins hbegins => exact ⟨i, used, a, hbegins, rfl⟩
    | refresh _ _ _ _ _ _ => exact hused _ rfl
  have hissues {i : ℕ} {used : Option Credential} {c : Credential}
      (hused : ∀ c ∈ used, Known verify_password had c)
      (hissues : Issues verify_password (had i) used c) : Known verify_password had c := by
    cases hissues with
    | access h hnow => exact .account (hest hused h) hnow
    | refresh h => exact hest hused h
    | pre_auth hrow hok hactive => exact ⟨i, _, _, _, hrow, hok, hactive, rfl⟩
    | super_admin hrow hunused hactive hcode hnow =>
        exact .super_admin
          ⟨hused _ rfl, i, ⟨_, _, _, _, _, hrow, hunused, hactive, hcode, rfl⟩, hnow⟩
    | impersonation hdecoded hrole hsub hid hle hadmin hnow =>
        obtain ⟨id, signed_in, hboth, rfl⟩ := (hused _ rfl).super_admin_payload hrole
        cases hsub
        rw [UUID.ofText_str] at hid
        cases hid
        exact .impersonation hboth hnow hle
  induction h with
  | first h => exact hissues (fun c hc => by cases hc) h
  | next h _ ih => exact hissues (fun c hc => by cases hc; exact ih) h

/-! ## The requests -/

/-- The token was decoded before it expired. -/
def DecodedInTime (verify_password : String → String → Except Exn Bool) (d₀ : AccessStore)
    (s : AccessState) (i : ℕ) (token : String) (payload : Payload) : Prop :=
  ∃ t v d, Performed (accessSystem verify_password) others { store := d₀ } s i (.jwt_decode token)
    (.ok (.ok payload)) (.run v) t d ∧ timegm v.now ≤ payload.exp

/-- The tenant was active when the request asked for it. -/
def WasActive (verify_password : String → String → Except Exn Bool) (d₀ : AccessStore)
    (s : AccessState) (i : ℕ) (tenant_id : UUID) : Prop :=
  ∃ t v d row, Performed (accessSystem verify_password) others { store := d₀ } s i
    (.app (.select_tenant tenant_id)) (.ok (some row)) (.run v) t d ∧ row ∈ t.store.tenants ∧
    row.id = tenant_id ∧ row.status = .active

theorem decoded_in_time {token : String} {payload : Payload}
    (h : had verify_password d₀ s i (.jwt_decode token) (.ok (.ok payload))) :
    DecodedInTime verify_password d₀ s i token payload := by
  obtain ⟨c, t, d, hp⟩ := h
  obtain ⟨v, rfl, heval⟩ := performed_eval hp
  exact ⟨t, v, d, hp, (decode_eval heval).2⟩

theorem was_active {tenant_id : UUID} {row : Tenant}
    (h : had verify_password d₀ s i (.app (.select_tenant tenant_id)) (.ok (some row)))
    (hactive : row.status = .active) : WasActive verify_password d₀ s i tenant_id := by
  obtain ⟨c, t, d, hp⟩ := h
  obtain ⟨v, rfl, heval⟩ := performed_eval hp
  have hfound : fetchrow v.pick (fun r => r.id == tenant_id) t.store.tenants = some row :=
    congrArg Prod.fst (Except.ok.inj heval)
  obtain ⟨hmem, hid⟩ := fetchrow_eq_some hfound
  exact ⟨t, v, d, row, hp, hmem, beq_iff_eq.mp hid, hactive⟩

/-- What stands behind an admitted request. -/
structure Admission (verify_password : String → String → Except Exn Bool) (d₀ : AccessStore)
    (s : AccessState) (i : ℕ) (token : String) (allowed_roles : List String)
    (current_user : CurrentUser) (payload : Payload) (tenant_id : UUID) (r : Role) : Prop where
  user : current_user = userOf payload
  role : payload.role = some r.value
  allowed : r.value ∈ allowed_roles
  tenant : payload.tenant_id = some (str tenant_id)
  decoded : DecodedInTime verify_password d₀ s i token payload
  active : WasActive verify_password d₀ s i tenant_id
  source : Source verify_password (had verify_password d₀ s) payload
  origin : Origin verify_password (had verify_password d₀ s) (.access payload)

/-- Whatever the rest of the system does to accounts and tenants, a request that enters a route of
a tenant has a token of an account whose user has logged in or was registered, or of a super
admin who acts in the tenant and has given both factors. The token has not expired, its role is
allowed, and its tenant is active. -/
theorem tenant_requests (h₀ : d₀.credentials = [])
    (hs : Reaches (accessSystem verify_password) others { store := d₀ } s)
    {token client_ip : String} {allowed_roles : List String} {current_user : CurrentUser}
    (hvalue : s.value i = some (.admitted token allowed_roles client_ip current_user)) :
    ∃ payload tenant_id role,
      Admission verify_password d₀ s i token allowed_roles current_user payload tenant_id role := by
  obtain ⟨payload, tenant_id, hadmits, huser, -⟩ := leads.value rfl hs hvalue
  obtain ⟨row, hrow, hactive⟩ := hadmits.active
  obtain ⟨text, htext, hread⟩ := hadmits.tenant
  obtain ⟨value, hallowed, hrole⟩ := hadmits.role
  have horigin := credential_origin h₀ hs _ (decoded_credential hadmits.decoded)
  have hsource : Source verify_password (had verify_password d₀ s) payload := horigin.known
  have hin {id : UUID} (role : Role) (hid : payload.tenant_id = some (str id))
      (hpayload : payload.role = some role.value) : ∃ payload tenant_id role,
      Admission verify_password d₀ s i token allowed_roles current_user payload tenant_id
        role := by
    cases hid.symm.trans htext
    cases (UUID.ofText_str id).symm.trans hread
    cases hpayload.symm.trans hrole
    exact ⟨payload, tenant_id, role, huser, hrole, hallowed, hid, decoded_in_time hadmits.decoded,
      was_active hrow hactive, hsource, horigin⟩
  cases hsource with
  | @account _ a _ _ _ => exact hin a.role rfl rfl
  | super_admin _ => cases htext
  | impersonation _ _ _ => exact hin .admin rfl rfl

/-- A request that enters a route of super admins has a token that was signed at most fifteen
minutes before for a super admin whose password and code were accepted. -/
theorem super_admin_requests (h₀ : d₀.credentials = [])
    (hs : Reaches (accessSystem verify_password) others { store := d₀ } s)
    {token : String} {current_sa : CurrentSuperAdmin}
    (hvalue : s.value i = some (.authorised token current_sa)) :
    ∃ id now, current_sa.super_admin_id = str id ∧
      DecodedInTime verify_password d₀ s i token (super_admin_payload (str id) now) ∧
      BothFactors (had verify_password d₀ s) id now := by
  obtain ⟨payload, hdecoded, hrole, hsub⟩ := leads.value rfl hs hvalue
  have hsource : Source verify_password (had verify_password d₀ s) payload :=
    (credential_origin h₀ hs _ (decoded_credential hdecoded)).known
  obtain ⟨id, now, hboth, rfl⟩ := hsource.super_admin_payload hrole
  exact ⟨id, now, (Option.some.inj hsub).symm, decoded_in_time hdecoded, hboth⟩

end Runs

/-- A tenant with its admin, and a super admin with a secret. -/
def office : AccessStore where
  tenants := [{ id := 1, owner_phone := "254700000001", next_billing_date := 0 }]
  profiles := [{ tenant_id := 1, business_name := "Fast Net", owner_email := "a@example.com" }]
  users := [PhoneLogin.owner]
  super_admins := [
    { id := 9, email := "fred@frixel.co.ke", hashed_password := "$2b$12$", full_name := "Fred"
      totp_secret := some "gAAAA", totp_verified_at := some 0 }]

/-- Moves of one process that all go through. -/
def moves (i n : ℕ) (text : String) (id : UUID) : List AccessLabel :=
  List.replicate n (.step i (.run { text, uuid := id, accepted := true }))

/-- The admin of the tenant logs in and makes a request. The super admin logs in with both factors,
makes a request, and acts as the admin of the tenant in another one. -/
def workday : List AccessLabel :=
  .spawn (.login "a@example.com" "password") :: moves 0 7 "admin" 2 ++
  .spawn (.request ["admin", "reseller"] "admin" "0.0.0.0") :: moves 1 2 "" 3 ++
  .spawn (.super_admin_login "fred@frixel.co.ke" "password") :: moves 2 5 "pre-auth" 4 ++
  .spawn (.verify_totp "pre-auth" "123456") :: moves 3 12 "super" 5 ++
  .spawn (.super_admin_request "super") :: moves 4 1 "" 6 ++
  .spawn (.impersonate_tenant 1 {} "super" "0.0.0.0") :: moves 5 6 "acting" 7 ++
  .spawn (.request ["admin"] "acting" "0.0.0.0") :: moves 6 3 "" 8

/-- The user of a request of the tenant's admin. -/
def adminUser (impersonated_by : Option String) : CurrentUser where
  user_id := "00000000-0000-0000-0000-000000000001"
  role := "admin"
  tenant_id := some "00000000-0000-0000-0000-000000000001"
  impersonated_by := impersonated_by
  reseller_id := none

section Decidable

variable (s : AccessStmt) (c : Choice Exn AccessEnv) (w : AccessCall) (d d' : AccessStore)

instance : Decidable (others.stmt s c d) := .isTrue trivial

instance : Decidable (others.spawn w d) := .isTrue trivial

noncomputable instance : Decidable (others.edit d d') := Classical.propDecidable _

end Decidable

theorem workday_reached : ∃ s,
    Reaches (accessSystem PhoneLogin.samePassword) others { store := office } s ∧
      s.value 1 = some (.admitted "admin" ["admin", "reseller"] "0.0.0.0" (adminUser none)) ∧
      s.value 4 = some (.authorised "super"
        { super_admin_id := "00000000-0000-0000-0000-000000000009" }) ∧
      s.value 6 = some (.admitted "acting" ["admin"] "0.0.0.0"
        (adminUser (some "00000000-0000-0000-0000-000000000009"))) := by
  obtain ⟨s, hs, hview⟩ := Reaches.of_moves_state
    (Y := accessSystem PhoneLogin.samePassword) (ρ := others) { store := office } workday
    (fun s => (s.value 1, s.value 4, s.value 6))
    (some (.admitted "admin" ["admin", "reseller"] "0.0.0.0" (adminUser none)),
      some (.authorised "super" { super_admin_id := "00000000-0000-0000-0000-000000000009" }),
      some (.admitted "acting" ["admin"] "0.0.0.0"
        (adminUser (some "00000000-0000-0000-0000-000000000009"))))
    (by decide +kernel) (by decide +kernel)
  simp only [Prod.mk.injEq] at hview
  exact ⟨s, hs, hview⟩

/-- The request of the admin, and that of the super admin in the tenant. -/
theorem tenant_requests_workday : ∃ s payload payload' tenant_id tenant_id' role role',
    Admission PhoneLogin.samePassword office s 1 "admin" ["admin", "reseller"] (adminUser none)
        payload tenant_id role ∧
      Admission PhoneLogin.samePassword office s 6 "acting" ["admin"]
        (adminUser (some "00000000-0000-0000-0000-000000000009")) payload' tenant_id' role' := by
  obtain ⟨s, hs, hadmin, -, hacting⟩ := workday_reached
  obtain ⟨payload, tenant_id, role, h⟩ := tenant_requests rfl hs hadmin
  obtain ⟨payload', tenant_id', role', h'⟩ := tenant_requests rfl hs hacting
  exact ⟨s, payload, payload', tenant_id, tenant_id', role, role', h, h'⟩

/-- The request of the super admin. -/
theorem super_admin_requests_workday : ∃ s id now,
    "00000000-0000-0000-0000-000000000009" = str id ∧
      DecodedInTime PhoneLogin.samePassword office s 4 "super" (super_admin_payload (str id) now) ∧
      BothFactors (had PhoneLogin.samePassword office s) id now := by
  obtain ⟨s, hs, -, hsuper, -⟩ := workday_reached
  obtain ⟨id, now, h⟩ := super_admin_requests rfl hs hsuper
  exact ⟨s, id, now, h⟩

end AccessControl

end FrixelConnect
