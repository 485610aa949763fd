import FrixelConnect.TokenOrigins

/-!
# The requests of super admins in tenants

A request with a token that acts as the admin of a tenant leaves a row in the audit log. The row
is inserted before the route is entered, and the request goes on if that fails.
-/

namespace FrixelConnect

namespace AccessControl

open Calendar Interleaving Python

/-- The log has a row about a request. -/
def Records (d : AccessStore) (r : AuditEntry) : Prop :=
  r ∈ d.super_admin_audit_log ∧ r.action = "impersonation.api_call"

section Rows

variable {v : AccessEnv} {d d' : AccessStore}

/-- A row that is inserted has the values of the statement. -/
theorem insert_audit_log_eval {super_admin_id : UUID} {action ip_address : String}
    {target_type : Option String} {target_id : Option UUID} {metadata : List (String × Json)}
    {a : Unit}
    (h : (AccessStmt.insert_audit_log super_admin_id action target_type target_id metadata
      ip_address).eval v d = .ok (a, d')) :
    ∃ row : AuditEntry, d'.super_admin_audit_log = d.super_admin_audit_log ++ [row] ∧
      row.super_admin_id = super_admin_id ∧ row.action = action ∧ row.target_id = target_id ∧
      row.ip_address = some ip_address := by
  rw [AccessStmt.eval] at h
  obtain ⟨r, hr, hd⟩ := map_eq_ok.mp h
  cases hd
  simp only [AuditTrail.AuditStmt.eval, Except.bind_eq_ok] at hr
  obtain ⟨_, -, _, -, _, -, _, -, _, -, hr⟩ := hr
  cases hr
  exact ⟨_, rfl, rfl, rfl, rfl, rfl⟩

/-- The other statements leave the log alone. -/
theorem log_eval {q : AccessStmt} {a : q.Res} (h : q.eval v d = .ok (a, d')) :
    d'.super_admin_audit_log = d.super_admin_audit_log ∨
      ∃ super_admin_id action target_type target_id metadata ip_address,
        q = .insert_audit_log super_admin_id action target_type target_id metadata ip_address := by
  cases q with
  | insert_audit_log super_admin_id action target_type target_id metadata ip_address =>
      exact .inr ⟨_, _, _, _, _, _, rfl⟩
  | create_tenant data hashed =>
      simp only [AccessStmt.eval, Except.bind_eq_ok] at h
      obtain ⟨_, -, _, -, hd'⟩ := h
      cases hd'
      exact .inl rfl
  | registry s =>
      obtain ⟨r, -, hd'⟩ := map_eq_ok.mp h
      cases hd'
      exact .inl rfl
  | session s =>
      obtain ⟨r, -, hd'⟩ := map_eq_ok.mp h
      cases hd'
      exact .inl rfl
  | admin s =>
      obtain ⟨r, -, hd'⟩ := map_eq_ok.mp h
      cases hd'
      exact .inl rfl
  | _ =>
      cases h
      exact .inl rfl

end Rows

section Runs

variable {verify_password : String → String → Except Exn Bool} {d₀ : AccessStore}
  {s s' : AccessState} {i : ℕ}

/-- A row stays in the log. -/
theorem keeps_records {r : AuditEntry}
    (hr : Reaches (accessSystem verify_password) others { store := d₀ } s)
    (hr' : Reaches (accessSystem verify_password) others s s') (h : Records s.store r) :
    Records s'.store r := by
  have hrule : DirectRule (accessSystem verify_password) others
      (Justified verify_password fun _ _ => True) (fun _ => True)
      fun d d' => ∀ r, Records d r → Records d' r :=
    { leads.direct with
      refl := fun _ _ h => h
      trans := fun _ _ _ h h' r hr => h' r (h r hr)
      edit := fun d d' h _ => ⟨trivial, fun r hr => ⟨(h.2 r hr.2).mpr hr.1, hr.2⟩⟩
      stmt := by
        refine fun q v a d d' _ _ _ hx => ⟨trivial, fun r hr => ⟨?_, hr.2⟩⟩
        have heval := settle_eq_ok.mp hx
        rcases log_eval heval with hsame | ⟨_, _, _, _, _, _, rfl⟩
        · rw [hsame]
          exact hr.1
        · obtain ⟨row, hlog, -⟩ := insert_audit_log_eval heval
          rw [hlog]
          exact List.mem_append_left _ hr.1 }
  exact (hrule.reaches hr' (leads.direct.procs hr (by simp)) trivial).2.1 r h

theorem Impersonates.mono {B B' : Results} {super_admin_id : UUID} {tenant_id : Option UUID}
    (h : Impersonates B super_admin_id tenant_id) (hB : ∀ q r, B q r → B' q r) :
    Impersonates B' super_admin_id tenant_id := by
  obtain ⟨token, payload, by_text, tenant_text, hdecoded, h⟩ := h
  exact ⟨token, payload, by_text, tenant_text, hB _ _ hdecoded, h⟩

/-- Every row is inserted by the process of a request with a token of the super admin. -/
theorem record_origin (hlog : ∀ r, ¬ Records d₀ r)
    (hs : Reaches (accessSystem verify_password) others { store := d₀ } s) :
    ∀ r, Records s.store r →
      ∃ i, Impersonates (had verify_password d₀ s i) r.super_admin_id r.target_id := by
  refine leads.provenance Records (fun t r =>
      ∃ i, Impersonates (had verify_password d₀ t i) r.super_admin_id r.target_id) rfl hlog
    (fun d d' r h hr => ⟨(h.2 r hr.2).mp hr.1, hr.2⟩) ?_ ?_ hs
  · rintro t t' r hr ⟨i, h⟩
    exact ⟨i, h.mono fun q r hq => hq.later hr⟩
  · intro t i q v a d ht hjust hx _ r hr hnew
    have heval := settle_eq_ok.mp hx
    rcases log_eval heval with hsame | ⟨_, _, _, _, _, _, rfl⟩
    · exact absurd ⟨hsame ▸ hr.1, hr.2⟩ hnew
    · obtain ⟨row, hlog, hid, haction, htarget, -⟩ := insert_audit_log_eval heval
      rw [Records, hlog] at hr
      rcases List.mem_append.mp hr.1 with hold | hmem
      · exact absurd ⟨hold, hr.2⟩ hnew
      · cases List.mem_singleton.mp hmem
        rw [hid, htarget]
        exact ⟨i, hjust (haction.symm.trans hr.2)⟩

/-- The token of a super admin who acts as the admin of a tenant. -/
theorem Source.impersonation_payload {had : ℕ → Results} {payload : Payload} {by_text : String}
    (h : Source verify_password had payload) (hby : payload.impersonated_by = some by_text) :
    ∃ admin_id tenant_id super_admin_id duration_minutes now signed_in,
      BothFactors had super_admin_id signed_in ∧ payload =
        AccessControl.impersonation_payload admin_id tenant_id super_admin_id duration_minutes
          now := by
  cases h with
  | account _ _ => cases hby
  | super_admin _ => cases hby
  | impersonation h _ _ => exact ⟨_, _, _, _, _, _, h, rfl⟩

/-- A row stands for a request with a token that the super admin was given, after both factors, to
act in the tenant, and an admitted request with such a token has a row unless its INSERT failed. -/
theorem impersonation_trail (h₀ : d₀.credentials = []) (hlog : ∀ r, ¬ Records d₀ r)
    (hs : Reaches (accessSystem verify_password) others { store := d₀ } s) :
    (∀ r, Records s.store r → ∃ i token admin_id tenant_id duration_minutes now signed_in,
      r.target_id = some tenant_id ∧
        DecodedInTime verify_password d₀ s i token
          (impersonation_payload admin_id tenant_id r.super_admin_id duration_minutes now) ∧
        BothFactors (had verify_password d₀ s) r.super_admin_id signed_in) ∧
      ∀ i token allowed_roles client_ip current_user,
        s.value i = some (.admitted token allowed_roles client_ip current_user) →
        current_user.impersonated_by ≠ none → ∃ super_admin_id tenant_id result,
          current_user.impersonated_by = some (str super_admin_id) ∧
            current_user.tenant_id = some (str tenant_id) ∧
            had verify_password d₀ s i (api_call super_admin_id tenant_id client_ip) result ∧
            (result = .ok () → ∃ r, Records s.store r ∧ r.super_admin_id = super_admin_id ∧
              r.target_id = some tenant_id ∧ r.ip_address = some client_ip) := by
  have hknown {i : ℕ} {token : String} {payload : Payload}
      (h : had verify_password d₀ s i (.jwt_decode token) (.ok (.ok payload))) :
      Source verify_password (had verify_password d₀ s) payload :=
    (credential_origin h₀ hs _ (decoded_credential h)).known
  constructor
  · intro r hr
    obtain ⟨i, token, payload, by_text, tenant_text, hdecoded, -, hby, htenant, hid, htarget, -⟩ :=
      record_origin hlog hs r hr
    obtain ⟨admin_id, tenant_id, super_admin_id, duration_minutes, now, signed_in, hboth, rfl⟩ :=
      (hknown hdecoded).impersonation_payload hby
    cases hby
    cases htenant
    cases (UUID.ofText_str _).symm.trans hid
    exact ⟨i, token, admin_id, tenant_id, duration_minutes, now, signed_in,
      htarget.symm.trans (UUID.ofText_str _), decoded_in_time hdecoded, hboth⟩
  · intro i token allowed_roles client_ip current_user hvalue hby
    obtain ⟨payload, _, hadmits, rfl, hlogged⟩ := leads.value rfl hs hvalue
    obtain ⟨by_text, hby⟩ := Option.ne_none_iff_exists'.mp hby
    obtain ⟨admin_id, tenant_id, super_admin_id, duration_minutes, now, signed_in, -, rfl⟩ :=
      (hknown hadmits.decoded).impersonation_payload hby
    obtain ⟨result, hresult⟩ := hlogged _ _ _ _ rfl rfl rfl (UUID.ofText_str _)
      (UUID.ofText_str _)
    refine ⟨super_admin_id, tenant_id, result, rfl, rfl, hresult, ?_⟩
    rintro rfl
    obtain ⟨c, t, d, hp⟩ := hresult
    obtain ⟨v, -, heval⟩ := performed_eval hp
    obtain ⟨row, hrows, hid, haction, htarget, hip⟩ := insert_audit_log_eval heval
    obtain ⟨t', hstep, -, rfl, hrest⟩ := hp.after
    have hrow : Records t'.store row := ⟨by simp [hrows], haction⟩
    exact ⟨row, keeps_records (hp.before.tail hstep) hrest hrow, hid, htarget, hip⟩

end Runs

/-- The row of the super admin who acts as the admin of the tenant. -/
theorem impersonation_trail_workday : ∃ s r, Records s.store r ∧ r.super_admin_id = 9 ∧
    ∃ i token admin_id tenant_id duration_minutes now signed_in, r.target_id = some tenant_id ∧
      DecodedInTime PhoneLogin.samePassword office s i token
        (impersonation_payload admin_id tenant_id r.super_admin_id duration_minutes now) ∧
      BothFactors (had PhoneLogin.samePassword office s) r.super_admin_id signed_in := by
  obtain ⟨s, hs, hview⟩ := Reaches.of_moves
    (Y := accessSystem PhoneLogin.samePassword) (ρ := others) { store := office } workday
    (fun d => d.super_admin_audit_log.map fun r => (r.action, r.super_admin_id))
    [("impersonation.start", 9), ("impersonation.api_call", 9)]
    (by decide +kernel) (by decide +kernel)
  obtain ⟨r, hr, hrow⟩ := List.mem_map.mp (hview ▸ List.mem_cons_of_mem _ List.mem_cons_self :
    ("impersonation.api_call", 9) ∈ s.store.super_admin_audit_log.map
      fun r => (r.action, r.super_admin_id))
  obtain ⟨haction, hid⟩ := Prod.mk.inj hrow
  have hnone : ∀ r, ¬ Records office r := fun r hr => absurd hr.1 List.not_mem_nil
  exact ⟨s, r, ⟨hr, haction⟩, hid, (impersonation_trail rfl hnone hs).1 r ⟨hr, haction⟩⟩

end AccessControl

end FrixelConnect
