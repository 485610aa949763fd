import FrixelConnect.AccessControl

/-!
# What the server has seen before it issues a credential

Every token that the server gives out follows from results of the same process: of a login, of a
registration, of the exchange of another credential, or of an admitted request.
-/

namespace FrixelConnect

namespace AccessControl

open Calendar Interleaving Python

/-- What a caller presents to the server. -/
inductive Credential where
  | access (payload : Payload)
  | refresh (token_hash : String) (user_id : UUID)
  | pre_auth (token_hash : String) (super_admin_id : UUID)
  deriving DecidableEq

/-- The credentials that the store knows. -/
def AccessStore.credentials (d : AccessStore) : List Credential :=
  d.signed.map (fun t => .access t.payload) ++
    d.refresh_tokens.map (fun r => .refresh r.token_hash r.user_id) ++
    d.pre_auth_tokens.map fun t => .pre_auth t.token_hash t.super_admin_id

/-- Which results the statements of a process have had. -/
abbrev Results := (q : AccessStmt) → Except Exn q.Res → Prop

/-- The request with the token passed the checks of a route for the roles, in the tenant. -/
structure Admits (B : Results) (token : String) (allowed_roles : List String) (payload : Payload)
    (tenant_id : UUID) : Prop where
  decoded : B (.jwt_decode token) (.ok (.ok payload))
  role : ∃ role ∈ allowed_roles, payload.role = some role
  tenant : ∃ text, payload.tenant_id = some text ∧ UUID.ofText text = some tenant_id
  active : ∃ row, B (.app (.select_tenant tenant_id)) (.ok (some row)) ∧ row.status = .active

/-- An account, with the columns that a token names. -/
structure Account where
  id : UUID
  role : Role
  tenant_id : UUID
  reseller_id : Option UUID
  deriving DecidableEq

def Account.payload (a : Account) (now : Timestamptz) : Payload :=
  account_payload (str a.id) a.role.value (str a.tenant_id) (a.reseller_id.map str) now

section Issues

variable (verify_password : String → String → Except Exn Bool) (B : Results)

/-- How a process comes to know that it deals with the account without a refresh token: by the
password, since it has registered the tenant with it, or since it has created the account for an
admin of the tenant. -/
inductive Begins : Option Credential → Account → Prop
  | password {email password : String} {u : User} :
      B (.app (.select_account (login_variants email))) (.ok (some (u, .active))) →
      verify_password password u.hashed_password = .ok true → u.is_active = true →
      Begins none ⟨u.id, u.role, u.tenant_id, u.reseller_id⟩
  | signup {data : TenantRegisterRequest} {hashed : String} {x : Registered} :
      B (.create_tenant data hashed) (.ok x) →
      Begins none ⟨x.user.id, x.user.role, x.tenant.id, none⟩
  | register {token email phone hashed : String} {admin : Payload} {tenant_id : UUID} {role : Role}
      {wallet_ref : Option String} {u : User} :
      Admits B token ["admin"] admin tenant_id →
      B (.app (.insert_user email phone hashed role none tenant_id wallet_ref)) (.ok u) →
      Begins (some (.access admin)) ⟨u.id, u.role, u.tenant_id, u.reseller_id⟩

/-- How a process comes to know that it deals with the account, and which credential was
presented to it. -/
inductive Establishes : Option Credential → Account → Prop
  | begins {used : Option Credential} {a : Account} : Begins verify_password B used a →
      Establishes used a
  | refresh {token : String} {rt : RefreshToken} {u : User} {t : Tenant} {now : Timestamptz} :
      B (.session (.select_refresh_token (sha256 token))) (.ok (some (rt, u, t))) →
      B (.session .utc_now) (.ok now) → now ≤ rt.expires_at → rt.revoked = false →
      t.status = .active → u.is_active = true →
      Establishes (some (.refresh (sha256 token) rt.user_id))
        ⟨rt.user_id, u.role, u.tenant_id, u.reseller_id⟩

/-- Which credential the process gives out, and which one was presented to it. -/
inductive Issues : Option Credential → Credential → Prop
  | access {used : Option Credential} {a : Account} {now : Timestamptz} :
      Establishes verify_password B used a → B .utc_now (.ok now) →
      Issues used (.access (a.payload now))
  | refresh {used : Option Credential} {a : Account} {token_hash : String} :
      Establishes verify_password B used a → Issues used (.refresh token_hash a.id)
  | pre_auth {email password token_hash : String} {row : SuperAdmin} :
      B (.admin (.select_super_admin email)) (.ok (some row)) →
      B (.admin (.verify_password password row.hashed_password)) (.ok true) →
      row.is_active = true → Issues none (.pre_auth token_hash row.id)
  | super_admin {token secret code : String} {row : PreAuthRow} {attempts : ℕ}
      {now : Timestamptz} :
      B (.admin (.select_pre_auth_token (sha256 token))) (.ok (some row)) →
      row.used_at = none → row.is_active = true →
      B (.admin (.verify_totp_code row (sha256 token) attempts secret code)) (.ok true) →
      B .utc_now (.ok now) →
      Issues (some (.pre_auth (sha256 token) row.super_admin_id))
        (.access (super_admin_payload (str row.super_admin_id) now))
  | impersonation {token sub : String} {sa : Payload} {super_admin_id tenant_id admin_id : UUID}
      {duration_minutes : ℤ} {now : Timestamptz} :
      B (.jwt_decode token) (.ok (.ok sa)) → sa.role = some "super_admin" → sa.sub = some sub →
      UUID.ofText sub = some super_admin_id → duration_minutes ≤ 480 →
      B (.select_admin tenant_id) (.ok (some admin_id)) → B .utc_now (.ok now) →
      Issues (some (.access sa))
        (.access (impersonation_payload admin_id tenant_id super_admin_id duration_minutes now))

end Issues

/-- The credential was issued by a process of the run, and so was the one that was presented to
that process, and so on back to a process to which none was presented. -/
inductive Origin (verify_password : String → String → Except Exn Bool) (had : ℕ → Results) :
    Credential → Prop
  | first {i : ℕ} {c : Credential} : Issues verify_password (had i) none c →
      Origin verify_password had c
  | next {i : ℕ} {c c' : Credential} : Issues verify_password (had i) (some c) c' →
      Origin verify_password had c → Origin verify_password had c'

/-! ## The statements that issue credentials -/

/-- The token belongs to a super admin who acts as the admin of the tenant. -/
def Impersonates (B : Results) (super_admin_id : UUID) (tenant_id : Option UUID) : Prop :=
  ∃ token payload by_text tenant_text, B (.jwt_decode token) (.ok (.ok payload)) ∧
    payload.impersonation = true ∧ payload.impersonated_by = some by_text ∧
    payload.tenant_id = some tenant_text ∧ UUID.ofText by_text = some super_admin_id ∧
    UUID.ofText tenant_text = tenant_id ∧ tenant_id.isSome

/-- What a process has seen before one of these statements. -/
def Justified (verify_password : String → String → Except Exn Bool) (B : Results) :
    AccessStmt → Prop
  | .jwt_encode payload => ∃ used, Issues verify_password B used (.access payload)
  | .session (.insert_refresh_token user_id token_hash _ _) =>
      ∃ used, Issues verify_password B used (.refresh token_hash user_id)
  | .admin (.insert_pre_auth_token super_admin_id token_hash) =>
      ∃ used, Issues verify_password B used (.pre_auth token_hash super_admin_id)
  | .insert_audit_log super_admin_id action _ target_id _ _ =>
      action = "impersonation.api_call" → Impersonates B super_admin_id target_id
  | _ => True

section Led

variable {verify_password : String → String → Except Exn Bool} {B : Results}

section Functions

variable {α : Type} {Q : α → Prop}

/-- The statements of the rest of the application issue no credential. -/
theorem onDatabase_led {p : M α}
    (hp : p.Led (fun s r => B (.app s) r) (fun _ => True) (Prog.OkIn Q)) :
    (onDatabase p).Led B (Justified verify_password B) (Prog.OkIn Q) :=
  hp.expand fun _ _ => ⟨trivial, fun _ hr => hr⟩

theorem onSessions_led {p : TokenM α}
    (hp : p.Led (fun s r => B (.session s) r)
      (fun s => Justified verify_password B (.session s)) (Prog.OkIn Q)) :
    (onSessions p).Led B (Justified verify_password B) (Prog.OkIn Q) :=
  hp.expand fun _ hs => ⟨hs, fun _ hr => hr⟩

end Functions

theorem authenticate_led {email password : String} :
    (authenticate_user verify_password email password).Led (fun s r => B (.app s) r)
      (fun _ => True) (Prog.OkIn fun r =>
        Begins verify_password B none ⟨r.1.id, r.1.role, r.1.tenant_id, r.1.reseller_id⟩) := by
  refine Prog.led_then trivial fun user huser => ?_
  refine (Prog.led_ofExcept fun password_ok hok => hok).bind fun password_ok hok => ?_
  refine Prog.led_ofExcept fun r hr => ?_
  obtain ⟨u, status⟩ := r
  obtain ⟨rfl, rfl, hactive, rfl⟩ := PhoneLogin.admit_user_eq_ok.mp hr
  exact .password huser hok hactive

theorem draw_wallet_ref_led {φ : Stmt → Prop} {B : (s : Stmt) → Except Exn s.Res → Prop}
    (hφ : ∀ w, φ (.count_wallet_reference w)) (codes : List String) :
    (draw_wallet_ref codes).Led B φ (Prog.OkIn fun _ => True) := by
  induction codes with
  | nil => trivial
  | cons code codes ih =>
      refine Prog.led_then (hφ _) fun taken _ => ?_
      split
      · exact ih
      · trivial

theorem register_user_led {data : RegisterRequest} {codes : List String}
    {B : (s : Stmt) → Except Exn s.Res → Prop} :
    (register_user data codes).Led B (fun _ => True) (Prog.OkIn fun u => ∃ hashed wallet_ref,
      B (.insert_user data.email data.phone hashed data.role none data.tenant_id wallet_ref)
        (.ok u)) := by
  have hrefuse : (refuse_existing data.email data.phone data.tenant_id).Led B (fun _ => True)
      (Prog.OkIn fun _ => True) := by
    refine Prog.led_then trivial fun existing _ => ?_
    split
    · trivial
    · split <;> trivial
  refine hrefuse.bind fun _ _ => Prog.led_then trivial fun hashed _ => ?_
  have hgenerate : (if data.role = .reseller then draw_wallet_ref codes else pure none).Led B
      (fun _ => True) (Prog.OkIn fun _ => True) := by
    split
    · exact draw_wallet_ref_led (fun _ => trivial) codes
    · trivial
  refine hgenerate.bind fun wallet_ref _ => ?_
  exact Prog.led_exec (s := Stmt.insert_user data.email data.phone hashed data.role none
    data.tenant_id wallet_ref) trivial fun u hu => ⟨hashed, wallet_ref, hu⟩

theorem generate_refresh_token_led {used : Option Credential} {id tenant_id : UUID} {role : Role}
    {reseller_id : Option UUID}
    (h : Establishes verify_password B used ⟨id, role, tenant_id, reseller_id⟩) :
    (generate_refresh_token id).Led (fun s r => B (.session s) r)
      (fun s => Justified verify_password B (.session s)) (Prog.OkIn fun _ => True) := by
  refine Prog.led_then trivial fun token _ => ?_
  refine Prog.led_then trivial fun family_id _ => Prog.led_then trivial fun now _ => ?_
  exact Prog.led_then ⟨used, .refresh h⟩ fun _ _ => trivial

theorem rotate_refresh_token_led {token : String} :
    (rotate_refresh_token token).Led (fun s r => B (.session s) r)
      (fun s => Justified verify_password B (.session s)) (Prog.OkIn fun r => ∃ used,
        Establishes verify_password B used ⟨r.1.id, r.1.role, r.1.tenant_id, r.1.reseller_id⟩) := by
  refine Prog.led_then trivial fun rt hrt => ?_
  cases rt with
  | none => trivial
  | some row =>
      obtain ⟨rt, u, t⟩ := row
      refine Prog.led_then trivial fun now hnow => ?_
      split
      · trivial
      · split
        · exact Prog.led_then trivial fun _ _ => trivial
        · split
          · trivial
          · split
            · trivial
            · split
              · trivial
              · rename_i hexp hrev hsus hcan hact
                have hstatus : t.status = .active := by
                  cases ht : t.status with
                  | active => rfl
                  | suspended => exact absurd ht hsus
                  | cancelled => exact absurd ht hcan
                have hest : Establishes verify_password B (some (.refresh (sha256 token) rt.user_id))
                    ⟨rt.user_id, u.role, u.tenant_id, u.reseller_id⟩ :=
                  .refresh hrt hnow (not_lt.mp hexp) (Bool.eq_false_iff.mpr hrev) hstatus
                    (by simpa using hact)
                refine Prog.led_then trivial fun _ _ => Prog.led_then trivial fun new_token _ => ?_
                refine Prog.led_then trivial fun now _ => ?_
                exact Prog.led_then ⟨_, .refresh hest⟩ fun _ _ => ⟨_, hest⟩

/-! ### Super admins -/

/-- A code of the app was accepted for the admin under a pre-auth token that was not used yet. -/
def Verified (B : Results) (super_admin_id : UUID) : Prop :=
  ∃ token row attempts secret code,
    B (.admin (.select_pre_auth_token (sha256 token))) (.ok (some row)) ∧ row.used_at = none ∧
      row.is_active = true ∧
      B (.admin (.verify_totp_code row (sha256 token) attempts secret code)) (.ok true) ∧
      row.super_admin_id = super_admin_id

theorem Verified.issues {id : UUID} {now : Timestamptz} (h : Verified B id)
    (hnow : B .utc_now (.ok now)) :
    ∃ used, Issues verify_password B used (.access (super_admin_payload (str id) now)) := by
  obtain ⟨token, row, attempts, secret, code, hrow, hused, hactive, hcode, rfl⟩ := h
  exact ⟨_, .super_admin hrow hused hactive hcode hnow⟩

/-- What a login of a super admin has seen before one of its statements. -/
def AdminJustified (verify_password : String → String → Except Exn Bool) (B : Results) :
    AdminStmt → Prop
  | .create_super_admin_access_token id => Verified B id
  | s => Justified verify_password B (.admin s)

/-- The results that it has had. -/
def AdminResults (B : Results) : (s : AdminStmt) → Except Exn s.Res → Prop
  | .create_super_admin_access_token _, _ => True
  | s, r => B (.admin s) r

theorem onAdmins_led {α : Type} {p : AdminM α}
    (hp : p.Led (AdminResults B) (AdminJustified verify_password B) (Prog.OkIn fun _ => True)) :
    (onAdmins p).Led B (Justified verify_password B) (Prog.OkIn fun _ => True) := by
  refine hp.expand fun s hs => ?_
  cases s with
  | create_super_admin_access_token id =>
      have hsigned : (create_super_admin_access_token (str id)).Led B (Justified verify_password B)
          (Prog.OkIn fun _ => True) :=
        Prog.led_then trivial fun now hnow => Prog.led_exec (hs.issues hnow) fun _ _ => trivial
      exact hsigned.mono (fun _ h => h) fun _ _ => trivial
  | _ => exact ⟨hs, fun _ hr => hr⟩

theorem authenticate_password_led {email password : String} :
    (SuperAdmins.authenticate_password email password).Led (AdminResults B)
      (AdminJustified verify_password B) (Prog.OkIn fun _ => True) := by
  refine Prog.led_then trivial fun row hrow => Prog.led_then trivial fun password_ok hok => ?_
  cases row with
  | none => trivial
  | some row =>
      dsimp only
      split
      · trivial
      · split
        · trivial
        · rename_i haccepted hactive
          have haccepted : password_ok = true := by simpa using haccepted
          subst haccepted
          refine Prog.led_then trivial fun raw_token _ => ?_
          refine Prog.led_then ⟨_, .pre_auth hrow hok (by simpa using hactive)⟩ fun _ _ => ?_
          exact Prog.led_then trivial fun _ _ => trivial

theorem validate_pre_auth_token_led {raw_token : String} :
    (SuperAdmins.validate_pre_auth_token raw_token false).Led (AdminResults B)
      (AdminJustified verify_password B) (Prog.OkIn fun row =>
        B (.admin (.select_pre_auth_token (sha256 raw_token))) (.ok (some row)) ∧
          row.used_at = none ∧ row.is_active = true) := by
  refine Prog.led_then trivial fun row hrow => ?_
  cases row with
  | none => trivial
  | some row =>
      dsimp only
      split
      · trivial
      · refine Prog.led_then trivial fun now _ => ?_
        split
        · trivial
        · split
          · trivial
          · rename_i hused _ _ hactive
            exact ⟨hrow, by simpa using hused, by simpa using hactive⟩

theorem setup_totp_led {token : String} :
    (SuperAdmins.setup_totp token).Led (AdminResults B) (AdminJustified verify_password B)
      (Prog.OkIn fun _ => True) := by
  refine validate_pre_auth_token_led.bind fun row _ => ?_
  split
  · trivial
  · refine Prog.led_then trivial fun raw_secret _ => Prog.led_then trivial fun encrypted _ => ?_
    exact Prog.led_then trivial fun _ _ => Prog.led_then trivial fun _ _ => trivial

theorem lock_led {row : PreAuthRow} {reason : String} :
    (SuperAdmins.lock row reason).Led (AdminResults B) (AdminJustified verify_password B)
      (Prog.OkIn fun _ => True) :=
  Prog.led_then trivial fun _ _ => Prog.led_then trivial fun _ _ => trivial

theorem reject_led {row : PreAuthRow} {redis_key : String} :
    (SuperAdmins.reject row redis_key).Led (AdminResults B) (AdminJustified verify_password B)
      (Prog.OkIn fun _ => True) := by
  refine Prog.led_then trivial fun new_attempts _ => ?_
  have hexpire : (SuperAdmins.expire_first redis_key new_attempts).Led (AdminResults B)
      (AdminJustified verify_password B) (Prog.OkIn fun _ => True) := by
    rw [SuperAdmins.expire_first]
    split
    · exact Prog.led_exec trivial fun _ _ => trivial
    · trivial
  refine hexpire.bind fun _ _ => ?_
  split
  · exact lock_led
  · exact Prog.led_then trivial fun _ _ => trivial

theorem accept_led {row : PreAuthRow} {redis_key totp_secret : String}
    (h : Verified B row.super_admin_id) :
    (SuperAdmins.accept row redis_key totp_secret).Led (AdminResults B)
      (AdminJustified verify_password B) (Prog.OkIn fun _ => True) := by
  refine Prog.led_then trivial fun _ _ => Prog.led_then trivial fun _ _ => ?_
  refine Prog.led_then trivial fun now _ => ?_
  have hrecord : (SuperAdmins.record_login row totp_secret now).Led (AdminResults B)
      (AdminJustified verify_password B) (Prog.OkIn fun _ => True) := by
    rw [SuperAdmins.record_login]
    split
    · exact Prog.led_exec trivial fun _ _ => trivial
    · exact Prog.led_exec trivial fun _ _ => trivial
  refine hrecord.bind fun _ _ => Prog.led_then trivial fun _ _ => ?_
  exact Prog.led_then h fun _ _ => trivial

theorem verify_totp_led {token totp_code : String} :
    (SuperAdmins.verify_totp token totp_code).Led (AdminResults B)
      (AdminJustified verify_password B) (Prog.OkIn fun _ => True) := by
  refine validate_pre_auth_token_led.bind fun row hrow => Prog.led_then trivial fun attempts _ => ?_
  obtain ⟨hrow, hused, hactive⟩ := hrow
  split
  · exact lock_led
  · rw [SuperAdmins.compare_code]
    split
    · trivial
    · have hdecrypt : ((SuperAdmins.run (.decrypt_totp_secret ‹String›)).tryCatch fun _ =>
          throw (.exception
            "TOTP secret decryption failed. Contact the system administrator.")).Led
          (AdminResults B) (AdminJustified verify_password B) (Prog.OkIn fun _ => True) :=
        (Prog.led_exec trivial fun _ _ => trivial).tryCatch fun _ => trivial
      refine hdecrypt.bind fun raw_secret _ => Prog.led_then trivial fun accepted haccepted => ?_
      split
      · rename_i htrue
        subst htrue
        exact accept_led ⟨_, row, _, _, _, hrow, hused, hactive, haccepted, rfl⟩
      · exact reject_led

/-! ### Requests -/

theorem decode_token_led {token : String} :
    (_decode_token token).Led B (Justified verify_password B) (Prog.OkIn fun r =>
      B (.jwt_decode token) (.ok (.ok r.2.2)) ∧ r.2.2.sub = some r.1 ∧
        r.2.2.role = some r.2.1) := by
  refine Prog.led_then trivial fun decoded hdecoded => ?_
  split
  · trivial
  · trivial
  · split
    · trivial
    · trivial
    · rename_i hsub hrole
      exact ⟨hdecoded, hsub, hrole⟩

theorem readUUID_eq_ok {text : String} {id : UUID} :
    readUUID text = .ok id ↔ UUID.ofText text = some id := by
  rw [readUUID]
  split
  · rename_i h
    rw [h, Except.ok.injEq, Option.some.injEq]
  · rename_i h
    simp [h]

/-- The row of the audit log that the request with the token of a super admin leaves. -/
def api_call (super_admin_id tenant_id : UUID) (client_ip : String) : AccessStmt :=
  .insert_audit_log super_admin_id "impersonation.api_call" (some "tenant") (some tenant_id)
    [("tenant_id", .str (str tenant_id))] client_ip

/-- If the token is one of a super admin, the process has tried to insert the row. -/
def Logged (B : Results) (payload : Payload) (client_ip : String) : Prop :=
  ∀ by_text tenant_text super_admin_id tenant_id, payload.impersonation = true →
    payload.impersonated_by = some by_text → payload.tenant_id = some tenant_text →
    UUID.ofText by_text = some super_admin_id → UUID.ofText tenant_text = some tenant_id →
    ∃ r, B (api_call super_admin_id tenant_id client_ip) r

theorem ofText_ne_empty {text : String} {id : UUID} (h : UUID.ofText text = some id) :
    text ≠ "" := by
  rintro rfl
  have hnone : UUID.ofText "" = none := by decide
  rw [hnone] at h
  cases h

theorem log_impersonation_led {token client_ip : String} {payload : Payload}
    (h : B (.jwt_decode token) (.ok (.ok payload))) :
    (log_impersonation payload client_ip).Led B (Justified verify_password B)
      (Prog.OkIn fun _ => Logged B payload client_ip) := by
  rw [log_impersonation]
  split
  · rename_i himp
    split
    · rename_i by_text tenant_text hby htenant
      split
      · cases hadmin : readUUID by_text with
        | error e =>
            intro _ _ _ _ _ hby' _ hread
            cases hby.symm.trans hby'
            cases hadmin.symm.trans (readUUID_eq_ok.mpr hread)
        | ok super_admin_id =>
            cases hid : readUUID tenant_text with
            | error e =>
                intro _ _ _ _ _ _ htenant' _ hread
                cases htenant.symm.trans htenant'
                cases hid.symm.trans (readUUID_eq_ok.mpr hread)
            | ok tenant_id =>
                have hadmin := readUUID_eq_ok.mp hadmin
                have hid := readUUID_eq_ok.mp hid
                have hlogged {r} (hr : B (api_call super_admin_id tenant_id client_ip) r) :
                    Logged B payload client_ip := by
                  intro _ _ _ _ _ hby' htenant' hread hread'
                  cases hby.symm.trans hby'
                  cases htenant.symm.trans htenant'
                  cases hadmin.symm.trans hread
                  cases hid.symm.trans hread'
                  exact ⟨r, hr⟩
                have hcall : (_log_impersonation_call super_admin_id tenant_id client_ip).Led B
                    (Justified verify_password B) (fun _ => Logged B payload client_ip) := by
                  refine ⟨fun _ => ⟨token, payload, by_text, tenant_text, h, himp, hby,
                    htenant, hadmin, hid, rfl⟩, fun r hr => ?_⟩
                  cases r with
                  | ok a => exact hlogged hr
                  | error e => exact hlogged hr
                refine hcall.handle fun r hr => ?_
                cases r with
                | ok a => exact hr
                | error e => exact hr
      · rename_i hempty
        intro _ _ _ _ _ hby' htenant' hread hread'
        cases hby.symm.trans hby'
        cases htenant.symm.trans htenant'
        exact absurd ⟨ofText_ne_empty hread, ofText_ne_empty hread'⟩ hempty
    · rename_i hnone
      intro by_text tenant_text _ _ _ hby htenant _ _
      exact absurd htenant (hnone _ _ hby)
  · rename_i himp
    exact fun _ _ _ _ himp' => absurd himp' himp

/-- The dict that `get_current_user` returns. -/
def userOf (payload : Payload) : CurrentUser where
  user_id := payload.sub.getD ""
  role := payload.role.getD ""
  tenant_id := payload.tenant_id
  impersonated_by := payload.impersonated_by
  reseller_id := payload.reseller_id

theorem get_current_user_led {token client_ip : String} :
    (get_current_user token client_ip).Led B (Justified verify_password B)
      (Prog.OkIn fun user => ∃ payload, B (.jwt_decode token) (.ok (.ok payload)) ∧
        payload.role.isSome ∧ user = userOf payload ∧ Logged B payload client_ip) := by
  refine decode_token_led.bind fun r hr => ?_
  obtain ⟨sub, role, payload⟩ := r
  obtain ⟨hdecoded, hsub, hrole⟩ := hr
  change payload.sub = some sub at hsub
  change payload.role = some role at hrole
  refine (log_impersonation_led hdecoded).bind fun _ hlogged => ?_
  exact ⟨payload, hdecoded, by rw [hrole]; rfl, by rw [userOf, hsub, hrole]; rfl, hlogged⟩

theorem get_current_tenant_id_eq_ok {user : CurrentUser} {text : String}
    (h : get_current_tenant_id user = .ok text) :
    user.tenant_id = some text ∧ ∃ id, UUID.ofText text = some id := by
  rw [get_current_tenant_id] at h
  split at h
  · split at h <;> cases h
  · rename_i htenant
    split at h
    · cases h
    · rename_i hid
      cases h
      exact ⟨htenant, _, hid⟩

theorem tenant_active_eq_ok {row : Option Tenant} (h : tenant_active row = .ok ()) :
    ∃ t, row = some t ∧ t.status = .active := by
  cases row with
  | none => cases h
  | some t =>
      refine ⟨t, rfl, ?_⟩
      cases hstatus : t.status with
      | active => rfl
      | suspended =>
          rw [tenant_active, hstatus] at h
          cases h
      | cancelled =>
          rw [tenant_active, hstatus] at h
          cases h

theorem assert_tenant_active_led {text : String} :
    (_assert_tenant_active text).Led B (Justified verify_password B) (Prog.OkIn fun _ =>
      ∀ tenant_id, UUID.ofText text = some tenant_id → ∃ row,
        B (.app (.select_tenant tenant_id)) (.ok (some row)) ∧ row.status = .active) := by
  refine (Prog.led_ofExcept fun id hread => readUUID_eq_ok.mp hread).bind fun id hread => ?_
  refine Prog.led_then trivial fun row hrow => Prog.led_ofExcept fun _ hok tenant_id hid => ?_
  obtain ⟨t, rfl, hactive⟩ := tenant_active_eq_ok hok
  cases hid.symm.trans hread
  exact ⟨t, hrow, hactive⟩

/-- The request was admitted, and its row of the audit log asked for. -/
def Admitted (B : Results) (token : String) (allowed_roles : List String) (client_ip : String)
    (user : CurrentUser) : Prop :=
  ∃ payload tenant_id, Admits B token allowed_roles payload tenant_id ∧ user = userOf payload ∧
    Logged B payload client_ip

theorem require_role_led {allowed_roles : List String} {token client_ip : String} :
    (require_role allowed_roles token client_ip).Led B (Justified verify_password B)
      (Prog.OkIn (Admitted B token allowed_roles client_ip)) := by
  refine get_current_user_led.bind fun user huser => ?_
  refine (Prog.led_ofExcept fun text htext => get_current_tenant_id_eq_ok htext).bind
    fun text htext => assert_tenant_active_led.bind fun _ hactive => ?_
  split
  · rename_i hallowed
    obtain ⟨payload, hdecoded, hrole, rfl, hlogged⟩ := huser
    obtain ⟨htenant, tenant_id, hid⟩ := htext
    obtain ⟨role, hrole⟩ := Option.isSome_iff_exists.mp hrole
    rw [userOf, hrole] at hallowed
    exact ⟨payload, tenant_id, ⟨hdecoded, ⟨role, hallowed, hrole⟩, ⟨text, htenant, hid⟩,
      hactive tenant_id hid⟩, rfl, hlogged⟩
  · trivial

theorem get_current_super_admin_led {token : String} :
    (get_current_super_admin token).Led B (Justified verify_password B)
      (Prog.OkIn fun current_sa => ∃ payload, B (.jwt_decode token) (.ok (.ok payload)) ∧
        payload.role = some "super_admin" ∧ payload.sub = some current_sa.super_admin_id) := by
  refine decode_token_led.bind fun r hr => ?_
  obtain ⟨sub, role, payload⟩ := r
  obtain ⟨hdecoded, hsub, hrole⟩ := hr
  dsimp only
  split
  · trivial
  · rename_i hsuper
    have hsuper : role = "super_admin" := not_not.mp hsuper
    exact ⟨payload, hdecoded, hsuper ▸ hrole, hsub⟩

/-! ### Routes -/

theorem issue_tokens_led {used : Option Credential} {id tenant_id : UUID} {role : Role}
    {reseller_id : Option UUID} {refresh_token : String}
    (h : Establishes verify_password B used ⟨id, role, tenant_id, reseller_id⟩) :
    (issue_tokens id role tenant_id reseller_id refresh_token).Led B
      (Justified verify_password B) (Prog.OkIn fun _ => True) := by
  have hcreate : (create_access_token (str id) role.value (str tenant_id)
      (reseller_id.map str)).Led B (Justified verify_password B) (Prog.OkIn fun _ => True) := by
    refine Prog.led_then trivial fun now hnow => ?_
    have hissues := Issues.access h hnow
    exact Prog.led_exec ⟨used, hissues⟩ fun _ _ => trivial
  exact hcreate.bind fun _ _ => trivial

theorem login_led {email password : String} :
    (login verify_password email password).Led B (Justified verify_password B)
      (Prog.OkIn fun _ => True) := by
  refine (onDatabase_led authenticate_led).bind fun r hr => ?_
  have hest := Establishes.begins hr
  exact (onSessions_led (generate_refresh_token_led hest)).bind fun _ _ => issue_tokens_led hest

theorem refresh_led {token : String} :
    (refresh token).Led B (Justified verify_password B) (Prog.OkIn fun _ => True) := by
  refine (onSessions_led rotate_refresh_token_led).bind fun r hr => ?_
  obtain ⟨used, hest⟩ := hr
  exact issue_tokens_led hest

/-- The tenant of an admitted request. -/
theorem Admitted.tenantOf {token client_ip : String} {allowed_roles : List String}
    {user : CurrentUser} {id : UUID} (h : Admitted B token allowed_roles client_ip user)
    (hid : tenantOf user = .ok id) : ∃ payload, Admits B token allowed_roles payload id := by
  obtain ⟨payload, tenant_id, hadmits, rfl, -⟩ := h
  obtain ⟨text, htext, hread⟩ := hadmits.tenant
  have hid : readUUID text = .ok id := by
    rw [AccessControl.tenantOf, userOf] at hid
    simpa only [htext] using hid
  cases (readUUID_eq_ok.mp hid).symm.trans hread
  exact ⟨payload, hadmits⟩

theorem register_led {data : RegisterRequest} {codes : List String} {token client_ip : String} :
    (register data codes token client_ip).Led B (Justified verify_password B)
      (Prog.OkIn fun _ => True) := by
  refine require_role_led.bind fun user huser => ?_
  refine (Prog.led_ofExcept fun id hid => huser.tenantOf hid).bind fun id hadmits => ?_
  refine (onDatabase_led register_user_led).bind fun u hu => ?_
  have hest : ∃ used, Establishes verify_password B used
      ⟨u.id, u.role, u.tenant_id, u.reseller_id⟩ := by
    obtain ⟨payload, hadmits⟩ := hadmits
    obtain ⟨hashed, wallet_ref, hu⟩ := hu
    exact ⟨_, .begins (.register hadmits hu)⟩
  exact hest.elim fun used hest => (onSessions_led (generate_refresh_token_led hest)).bind
    fun _ _ => issue_tokens_led hest

theorem signup_led {data : TenantRegisterRequest} :
    (signup data).Led B (Justified verify_password B) (Prog.OkIn fun _ => True) := by
  have hrefuse (existing : Option UUID) (detail : String) : (refuse existing detail).Led B
      (Justified verify_password B) (Prog.OkIn fun _ => True) := by
    rw [refuse]
    split <;> trivial
  have hregister : (register_tenant data).Led B (Justified verify_password B)
      (Prog.OkIn fun x => ∃ hashed, B (.create_tenant data hashed) (.ok x)) := by
    refine Prog.led_then trivial fun _ _ => (hrefuse _ _).bind fun _ _ => ?_
    refine Prog.led_then trivial fun _ _ => (hrefuse _ _).bind fun _ _ => ?_
    refine Prog.led_then trivial fun _ _ => (hrefuse _ _).bind fun _ _ => ?_
    refine Prog.led_then trivial fun hashed _ => ?_
    exact Prog.led_exec (s := AccessStmt.create_tenant data hashed) trivial fun x hx => ⟨hashed, hx⟩
  refine hregister.bind fun x hx => ?_
  obtain ⟨hashed, hx⟩ := hx
  have hest : Establishes verify_password B none
      ⟨x.user.id, x.user.role, x.tenant.id, none⟩ := .begins (.signup hx)
  have hcreate : (create_access_token (str x.user.id) x.user.role.value (str x.tenant.id)
      none).Led B (Justified verify_password B) (Prog.OkIn fun _ => True) := by
    refine Prog.led_then trivial fun now hnow => ?_
    have hissues := Issues.access hest hnow
    exact Prog.led_exec ⟨_, hissues⟩ fun _ _ => trivial
  exact hcreate.bind fun _ _ => trivial

theorem impersonate_tenant_led {tenant_id : UUID} {data : CreateImpersonationRequest}
    {token client_ip : String} :
    (impersonate_tenant tenant_id data token client_ip).Led B (Justified verify_password B)
      (Prog.OkIn fun _ => True) := by
  refine get_current_super_admin_led.bind fun current_sa hsa => ?_
  obtain ⟨sa, hdecoded, hrole, hsub⟩ := hsa
  refine (Prog.led_ofExcept fun id hread => readUUID_eq_ok.mp hread).bind fun id hread => ?_
  refine Prog.led_then trivial fun tenant_row _ => ?_
  split
  · trivial
  · refine Prog.led_then trivial fun now hnow => Prog.led_then trivial fun admin_row hadmin => ?_
    split
    · trivial
    · refine Prog.led_then ⟨_, .impersonation hdecoded hrole hsub hread data.le hadmin hnow⟩
        fun _ _ => ?_
      exact Prog.led_then (fun h => absurd h (by decide)) fun _ _ => trivial

/-- What the answer of a request says about what its process has seen. -/
def Answered (B : Results) : AccessAnswer → Prop
  | .admitted token allowed_roles client_ip current_user =>
      Admitted B token allowed_roles client_ip current_user
  | .authorised token current_sa => ∃ payload, B (.jwt_decode token) (.ok (.ok payload)) ∧
      payload.role = some "super_admin" ∧ payload.sub = some current_sa.super_admin_id
  | .issued => True

theorem program_led (w : AccessCall) :
    (w.program verify_password).Led B (Justified verify_password B)
      (Prog.OkIn (Answered B)) := by
  cases w with
  | request allowed_roles token client_ip => exact require_role_led.bind fun _ h => h
  | super_admin_request token => exact get_current_super_admin_led.bind fun _ h => h
  | register data codes token client_ip => exact register_led.bind fun _ _ => trivial
  | login email password => exact login_led.bind fun _ _ => trivial
  | refresh token => exact refresh_led.bind fun _ _ => trivial
  | signup data => exact signup_led.bind fun _ _ => trivial
  | super_admin_login email password =>
      exact (onAdmins_led authenticate_password_led).bind fun _ _ => trivial
  | setup_totp token => exact (onAdmins_led setup_totp_led).bind fun _ _ => trivial
  | verify_totp token code => exact (onAdmins_led verify_totp_led).bind fun _ _ => trivial
  | impersonate_tenant tenant_id data token client_ip =>
      exact impersonate_tenant_led.bind fun _ _ => trivial

theorem leads : Leads (accessSystem verify_password) (Justified verify_password)
    fun B => Prog.OkIn (Answered B) where
  restores := accessMachine_restores
  start w d d' p h := by
    cases h
    exact ⟨rfl, fun _ => program_led w⟩

end Led

end AccessControl

end FrixelConnect
