import FrixelConnect.Interleaving.Calls
import FrixelConnect.Interleaving.Moves
import FrixelConnect.ManualBilling
import FrixelConnect.SuperAdminPages

/-!
# The audit trail of the super admins

The super admins suspend and reactivate tenants, start the billing of one, and create accounts of
their own kind. Each of these functions writes its change and then, in a statement of its own, a
row of the audit log. The trail is complete as long as nothing fails after the first write of a
call: neither the push to the tenant's phone nor the row itself.

## Implementation notes

The calls come one after the other, and the environment chooses for each of their statements
whether it goes through. `business_name` is a column of `tenants`. A hash of a password is an
answer of the environment. The metadata of a row are texts and numbers under constant keys, which
a JSONB column takes unless a text has a null character or a number is no number. The client's
address is one that the middleware has accepted.
-/

namespace FrixelConnect

namespace AuditTrail

open Calendar Decimals Interleaving Python

/-- The tables of the application and those of the super admins. -/
structure AuditStore extends Store where
  business_name : UUID → String := fun _ => ""
  super_admins : List SuperAdmin := []
  super_admin_audit_log : List AuditEntry := []
  business_name_text : ∀ id, '\x00' ∉ (business_name id).toList := by simp

inductive AuditStmt where
  | app (s : Stmt)
  | select_business_name (tenant_id : UUID)
  | select_super_admin (email : String)
  | insert_super_admin (email hashed_password full_name : String)
  | insert_audit_log (super_admin_id : UUID) (action : String) (target_type : Option String)
      (target_id : Option UUID) (metadata : List (String × Json)) (ip_address : String)

namespace AuditStmt

/-- The type of a statement's answer. A new account comes with its `created_at`. -/
abbrev Res : AuditStmt → Type
  | .app s => s.Res
  | .select_business_name _ => Option String
  | .select_super_admin _ => Option SuperAdmin
  | .insert_super_admin .. => SuperAdmin × Timestamptz
  | .insert_audit_log .. => Unit

/-- The statement runs on the database connection. -/
def inTx : AuditStmt → Bool
  | .app s => s.inTx
  | _ => true

end AuditStmt

/-- The value can be a part of a JSONB column. -/
def storable : Json → Bool
  | .str s => !s.toList.contains '\x00'
  | .float repr => repr != "nan"
  | _ => true

/-- What a statement answers and the store after it, or what it raises. -/
def AuditStmt.eval (v : Env) (d : AuditStore) : (s : AuditStmt) → Except Exn (s.Res × AuditStore)
  | .app s => do
      let (a, d') ← s.eval v d.toStore
      pure (a, { d with toStore := d' })
  | .select_business_name tenant_id =>
      pure ((fetchrow v.pick (fun r => r.id == tenant_id) d.tenants).map fun r =>
        d.business_name r.id, d)
  | .select_super_admin email => do
      let _ ← textParam none (.str email)
      pure (fetchrow v.pick (fun a => a.email == email) d.super_admins, d)
  | .insert_super_admin email hashed_password full_name => do
      let _ ← textParam (some 255) (.str email)
      let _ ← textParam none (.str hashed_password)
      let _ ← textParam (some 100) (.str full_name)
      check (d.super_admins.all fun a => a.id != v.uuid) (.uniqueViolation .primary_key)
      check (d.super_admins.all fun a => a.email != email) (.database "super_admins_email_key")
      let row : SuperAdmin := { id := v.uuid, email, hashed_password, full_name }
      pure ((row, v.now), { d with super_admins := d.super_admins ++ [row] })
  | .insert_audit_log super_admin_id action target_type target_id metadata ip_address => do
      let _ ← textParam (some 100) (.str action)
      let _ ← textParam (some 50) ((target_type.map Json.str).getD .null)
      check (metadata.all fun field => storable field.2) (.database "unsupported Unicode escape")
      check (d.super_admin_audit_log.all fun r => r.id != v.uuid) (.uniqueViolation .primary_key)
      check (d.super_admins.any fun a => a.id == super_admin_id)
        (.database "super_admin_audit_log_super_admin_id_fkey")
      let row : AuditEntry := {
        id := v.uuid, super_admin_id, action, target_type, target_id, metadata := .obj metadata
        ip_address := some ip_address, created_at := v.now }
      pure ((), { d with super_admin_audit_log := d.super_admin_audit_log ++ [row] })

/-- The machine of the calls. A statement that raises has no effect. -/
def auditMachine : Machine AuditStmt AuditStmt.Res Exn AuditStore Env UUID where
  exec s v d := settle (s.eval v d) d
  inTx := AuditStmt.inTx
  locks _ := []
  aborted := .inFailedTransaction

abbrev AuditM := Prog AuditStmt AuditStmt.Res Frame Exn

/-- One statement of a program. -/
abbrev exec (s : AuditStmt) : AuditM s.Res := Prog.exec s

/-- `float(amount)` of an amount that is not negative. -/
def float (amount : Money) : Json :=
  .float (match amount with
    | .nan => "nan"
    | .units n =>
        let cents := n.1.natAbs % 100
        toString (n.1.natAbs / 100) ++ "." ++ if cents % 10 = 0 then toString (cents / 10)
          else toString (cents / 10) ++ toString (cents % 10))

/-! ## The functions -/

/-- The address comes from the context of the request. -/
def _log_action (super_admin_id : UUID) (action target_type : String) (target_id : UUID)
    (metadata : List (String × Json)) (client_ip : String) : AuditM Unit :=
  exec (.insert_audit_log super_admin_id action (some target_type) (some target_id) metadata
    client_ip)

/-- The status of a tenant is set unless the tenant already has it. -/
def change_status (super_admin_id tenant_id : UUID) (status : TenantStatus)
    (detail action : String) (metadata : TenantStatus → List (String × Json))
    (client_ip : String) : AuditM Unit := do
  let row ← exec (.app (.select_tenant tenant_id))
  match row with
  | none => throw (.notFound "Tenant" (str tenant_id))
  | some row =>
      let previous_status := row.status
      if previous_status = status then throw (.conflict detail)
      else
        exec (.app (.set_tenant_status tenant_id status))
        _log_action super_admin_id action "tenant" tenant_id (metadata previous_status) client_ip

def suspend_tenant (super_admin_id tenant_id : UUID) (reason client_ip : String) : AuditM Unit :=
  change_status super_admin_id tenant_id .suspended "This tenant is already suspended."
    "tenant.suspend" (fun previous_status =>
      [("reason", .str reason), ("previous_status", .str previous_status.value)]) client_ip

def reactivate_tenant (super_admin_id tenant_id : UUID) (client_ip : String) : AuditM Unit :=
  change_status super_admin_id tenant_id .active "This tenant is already active."
    "tenant.reactivate" (fun previous_status =>
      [("previous_status", .str previous_status.value)]) client_ip

def trigger_tenant_billing (super_admin_id tenant_id : UUID) (client_ip : String) :
    AuditM PaymentCore := do
  let tenant_row ← exec (.select_business_name tenant_id)
  match tenant_row with
  | none => throw (.notFound "Tenant" (str tenant_id))
  | some business_name =>
      let result ← Prog.embed AuditStmt.app (initiate_platform_billing_payment tenant_id)
      _log_action super_admin_id "tenant.billing_triggered" "tenant" tenant_id
        [("tenant_name", .str business_name), ("payment_id", .str (str result.id)),
          ("amount_kes", float result.amount_kes)] client_ip
      return result

structure CreatedSuperAdmin where
  id : UUID
  email : String
  full_name : String
  created_at : Timestamptz
  message : String
  deriving DecidableEq

def create_super_admin (actor_super_admin_id : UUID) (email full_name password client_ip : String) :
    AuditM CreatedSuperAdmin := do
  let existing ← exec (.select_super_admin email)
  match existing with
  | some _ => throw (.conflict ("A super admin with email '" ++ email ++ "' already exists."))
  | none =>
      let hashed ← exec (.app (.hash_password password))
      let (new_row, created_at) ← exec (.insert_super_admin email hashed full_name)
      _log_action actor_super_admin_id "super_admin.create" "super_admin" new_row.id
        [("email", .str email), ("full_name", .str full_name)] client_ip
      return {
        id := new_row.id, email := new_row.email, full_name := new_row.full_name, created_at
        message := "Super admin '" ++ email ++ "' created. " ++
          "They must log in at /super-admin/auth/login and complete TOTP setup." }

/-! ## Sequences of calls -/

inductive Operation where
  | suspend_tenant (tenant_id : UUID) (reason : String)
  | reactivate_tenant (tenant_id : UUID)
  | trigger_tenant_billing (tenant_id : UUID)
  | create_super_admin (email full_name password : String)

/-- A call of a super admin, and whether each of its statements goes through. -/
structure Call where
  actor : UUID
  operation : Operation
  client_ip : String := "0.0.0.0"
  choices : ℕ → Choice Exn Env

/-- What a row of the audit log says about a change. -/
structure Change where
  super_admin_id : UUID
  action : String
  target_type : Option String
  target_id : Option UUID
  deriving DecidableEq

/-- The change of which a row of the audit log speaks. -/
def named (r : AuditEntry) : Change :=
  { super_admin_id := r.super_admin_id, action := r.action, target_type := r.target_type
    target_id := r.target_id }

/-- The changes of which the audit log speaks. -/
def trail (d : AuditStore) : List Change := d.super_admin_audit_log.map named

/-- The tables that the calls change are the same. -/
def Unchanged (d d' : AuditStore) : Prop :=
  d'.tenants = d.tenants ∧ d'.platform_payments = d.platform_payments ∧
    d'.super_admins = d.super_admins

instance (d d' : AuditStore) : Decidable (Unchanged d d') := instDecidableAnd

namespace Call

variable (c : Call) (d : AuditStore)

def program : AuditM Unit :=
  match c.operation with
  | .suspend_tenant tenant_id reason =>
      AuditTrail.suspend_tenant c.actor tenant_id reason c.client_ip
  | .reactivate_tenant tenant_id => AuditTrail.reactivate_tenant c.actor tenant_id c.client_ip
  | .trigger_tenant_billing tenant_id =>
      AuditTrail.trigger_tenant_billing c.actor tenant_id c.client_ip >>= fun _ => pure ()
  | .create_super_admin email full_name password =>
      AuditTrail.create_super_admin c.actor email full_name password c.client_ip >>=
        fun _ => pure ()

/-- The store after the call. -/
def step : AuditStore := (auditMachine.call c.choices c.program 0 d).2.2

/-- The change of a call that has left the store `d`. Its target is the tenant, or the account
that it has created. -/
def change : Change :=
  match c.operation with
  | .suspend_tenant tenant_id _ =>
      { super_admin_id := c.actor, action := "tenant.suspend", target_type := some "tenant"
        target_id := some tenant_id }
  | .reactivate_tenant tenant_id =>
      { super_admin_id := c.actor, action := "tenant.reactivate", target_type := some "tenant"
        target_id := some tenant_id }
  | .trigger_tenant_billing tenant_id =>
      { super_admin_id := c.actor, action := "tenant.billing_triggered"
        target_type := some "tenant", target_id := some tenant_id }
  | .create_super_admin .. =>
      { super_admin_id := c.actor, action := "super_admin.create"
        target_type := some "super_admin", target_id := d.super_admins.getLast?.map (·.id) }

/-- The changes of the call, which are one at most. -/
def changes : List Change := if Unchanged d (c.step d) then [] else [c.change (c.step d)]

end Call

/-- Every change has one row, and a call without a row changes nothing. -/
structure Complete (calls : List Call) (d : AuditStore) : Prop where
  logged : ∀ made, made <+: calls →
    trail (after Call.step made d) = trail d ++ allChanges Call.step Call.changes made d
  silent : Along Call.step (fun c d =>
    (c.step d).super_admin_audit_log = d.super_admin_audit_log → Unchanged d (c.step d)) calls d

/-! ## What goes through -/

namespace Call

variable (c : Call) (d : AuditStore)

/-- The tenant is found in another status, and its status is written. -/
def ChangesStatus (tenant_id : UUID) (status : TenantStatus) : Prop :=
  ∃ v t, c.choices 0 = .run v ∧ fetchrow v.pick (fun r => r.id == tenant_id) d.tenants = some t ∧
    t.status ≠ status ∧ (c.choices 1).isRun

/-- The tenant is found, and a fee of it is inserted. -/
def InsertsFee (tenant_id : UUID) : Prop :=
  (c.choices 0).isRun ∧ ∃ v t v' fee d', c.choices 1 = .run v ∧
    fetchrow v.pick (fun r => r.id == tenant_id) d.tenants = some t ∧ c.choices 2 = .run v' ∧
    (Stmt.insert_platform_payment tenant_id (.finite (TIER_MONTHLY_FEES t.subscription_tier) 0)
      t.owner_phone .null).eval v' d.toStore = .ok (fee, d')

/-- Daraja accepts the push, and its checkout id is stored. -/
def PushesFee : Prop :=
  ∃ v response checkout_id value, c.choices 3 = .run v ∧
    v.push.response.bind push_result = .ok response ∧
    response.get "CheckoutRequestID" = .ok checkout_id ∧
    textParam (some 100) checkout_id = .ok value ∧ (c.choices 4).isRun

/-- No account has the email, and an account with it is inserted, which gives the store `d'`. -/
def InsertsAdmin (email full_name : String) (d' : AuditStore) : Prop :=
  ∃ v v' v'' row, c.choices 0 = .run v ∧ (∀ a ∈ d.super_admins, a.email ≠ email) ∧
    c.choices 1 = .run v' ∧ c.choices 2 = .run v'' ∧
    (AuditStmt.insert_super_admin email v'.text full_name).eval v'' d = .ok (row, d')

/-- The row of the audit log at position `n` goes through: its id is new, and the actor exists. -/
def Logs (n : ℕ) : Prop :=
  ∃ v, c.choices n = .run v ∧ (∀ r ∈ d.super_admin_audit_log, r.id ≠ v.uuid) ∧
    ∃ a ∈ d.super_admins, a.id = c.actor

/-- Once the first write of the call has gone through, nothing fails. -/
def Finishes : Prop :=
  match c.operation with
  | .suspend_tenant tenant_id reason =>
      c.ChangesStatus d tenant_id .suspended → '\x00' ∉ reason.toList ∧ c.Logs d 2
  | .reactivate_tenant tenant_id => c.ChangesStatus d tenant_id .active → c.Logs d 2
  | .trigger_tenant_billing tenant_id => c.InsertsFee d tenant_id → c.PushesFee ∧ c.Logs d 5
  | .create_super_admin email full_name _ =>
      ∀ d', c.InsertsAdmin d email full_name d' → c.Logs d' 3

end Call

/-! ## The end of a call -/

section Direct

variable {v : Env} {d d' : AuditStore}

theorem direct_run {s : AuditStmt} {a : s.Res} (h : s.eval v d = .ok (a, d')) :
    auditMachine.direct s (.run v) d = (.ok a, d') := settle_eq_ok.mpr h

theorem direct_error {s : AuditStmt} {e : Exn} (h : s.eval v d = .error e) :
    auditMachine.direct s (.run v) d = (.error e, d) := settle_eq_error.mpr h

/-- A statement of the application leaves the tables of the super admins alone. -/
theorem eval_app {s : Stmt} {a : s.Res} {x : Store} (h : s.eval v d.toStore = .ok (a, x)) :
    (AuditStmt.app s).eval v d = .ok (a, { d with toStore := x }) := by
  rw [AuditStmt.eval, h]
  rfl

end Direct

variable {c : Call} {d d' : AuditStore} {n : ℕ} {action target_type : String} {target_id : UUID}
  {metadata : List (String × Json)}

/-- The columns of the log hold the action and the type of its target. -/
structure Fits (action target_type : String) : Prop where
  action : textParam (some 100) (.str action) = .ok (some action)
  target_type : textParam (some 50) (.str target_type) = .ok (some target_type)

/-- The row of the audit log is written when its metadata can be stored. -/
theorem log_written (target_id : UUID) (hfits : Fits action target_type)
    (hstorable : (metadata.all fun field => storable field.2) = true) (h : c.Logs d n) :
    ∃ r, auditMachine.direct (.insert_audit_log c.actor action (some target_type) (some target_id)
        metadata c.client_ip) (c.choices n) d =
        (.ok (), { d with super_admin_audit_log := d.super_admin_audit_log ++ [r] }) ∧
      named r = ⟨c.actor, action, some target_type, some target_id⟩ := by
  obtain ⟨v, hv, hfresh, a, ha, hactor⟩ := h
  let row : AuditEntry := {
    id := v.uuid, super_admin_id := c.actor, action, target_type := some target_type
    target_id := some target_id, metadata := .obj metadata, ip_address := some c.client_ip
    created_at := v.now }
  refine ⟨row, ?_, rfl⟩
  have hid : (d.super_admin_audit_log.all fun r => r.id != v.uuid) = true := by
    simpa using hfresh
  have hadmin : (d.super_admins.any fun a => a.id == c.actor) = true :=
    List.any_eq_true.mpr ⟨a, ha, by simpa using hactor⟩
  rw [hv]
  apply direct_run
  simp only [AuditStmt.eval, Option.map_some, Option.getD_some, hfits.action,
    hfits.target_type, hstorable, hid, hadmin, check, if_true, bind, Except.bind]
  rfl

/-- Otherwise it is not. -/
theorem log_refused (action target_type : String) (target_id : UUID)
    (h : ¬ ((metadata.all fun field => storable field.2) = true ∧ c.Logs d n)) :
    ∃ e, auditMachine.direct (.insert_audit_log c.actor action (some target_type) (some target_id)
      metadata c.client_ip) (c.choices n) d = (.error e, d) := by
  cases hv : c.choices n with
  | fail e => exact ⟨e, rfl⟩
  | run v =>
      rcases settle_cases ((AuditStmt.insert_audit_log c.actor action (some target_type)
        (some target_id) metadata c.client_ip).eval v d) d with ⟨a, d', he, -⟩ | ⟨e, -, hx⟩
      · simp only [AuditStmt.eval, Except.bind_eq_ok, check_eq_ok] at he
        obtain ⟨-, -, -, -, -, hstorable, -, hid, -, hadmin, -⟩ := he
        obtain ⟨a, ha, hactor⟩ := List.any_eq_true.mp hadmin
        refine absurd ⟨hstorable, v, hv, ?_, a, ha, by simpa using hactor⟩ h
        simpa using hid
      · exact ⟨e, hx⟩

/-- How a call ends: without its first write the store is as it was; the first write is a change;
and the row of the log is there when nothing fails after it. -/
structure Outcome (c : Call) (d : AuditStore) (begun finished : Prop) : Prop where
  idle : ¬ begun → c.step d = d
  changed : begun → ¬ Unchanged d (c.step d)
  logged : begun → finished → ∃ r, (c.step d).super_admin_audit_log =
    d.super_admin_audit_log ++ [r] ∧ named r = c.change (c.step d)
  silent : begun → ¬ finished → (c.step d).super_admin_audit_log = d.super_admin_audit_log

/-- The store `d₁` has a change, and no row of the log that `d` has not. -/
structure Written (d d₁ : AuditStore) : Prop where
  changed : ¬ Unchanged d d₁
  log : d₁.super_admin_audit_log = d.super_admin_audit_log

/-- The call has written its change and then its row of the log. -/
def WritesRow (c : Call) (d : AuditStore) : Prop :=
  ∃ d₁ r, Written d d₁ ∧ named r = c.change d₁ ∧
    c.step d = { d₁ with super_admin_audit_log := d₁.super_admin_audit_log ++ [r] }

theorem Outcome.of_ends {begun finished : Prop} (hidle : ¬ begun → c.step d = d)
    (hfinished : begun → finished → WritesRow c d)
    (hstopped : begun → ¬ finished → Written d (c.step d)) : Outcome c d begun finished where
  idle := hidle
  changed h := by
    by_cases hf : finished
    · obtain ⟨d₁, r, hwritten, -, hstep⟩ := hfinished h hf
      rw [hstep]
      exact hwritten.changed
    · exact (hstopped h hf).changed
  logged h hf := by
    obtain ⟨d₁, r, hwritten, hnamed, hstep⟩ := hfinished h hf
    refine ⟨r, ?_, ?_⟩
    · rw [hstep, hwritten.log]
    · rw [hstep, hnamed]
      rfl
  silent h hf := (hstopped h hf).log

/-- The row of the log is what a call has left to write. -/
theorem WritesRow.of_log {d₁ : AuditStore} (hfits : Fits action target_type)
    (hwritten : Written d d₁) (hstorable : (metadata.all fun field => storable field.2) = true)
    (hlogs : c.Logs d₁ n)
    (hchange : c.change d₁ = ⟨c.actor, action, some target_type, some target_id⟩)
    (hstep : c.step d = (auditMachine.direct (.insert_audit_log c.actor action (some target_type)
      (some target_id) metadata c.client_ip) (c.choices n) d₁).2) : WritesRow c d := by
  obtain ⟨r, hr, hnamed⟩ := log_written target_id hfits hstorable hlogs
  exact ⟨d₁, r, hwritten, hnamed.trans hchange.symm, by rw [hstep, hr]⟩

theorem Written.of_log {d₁ : AuditStore} (hwritten : Written d d₁)
    (hnot : ¬ ((metadata.all fun field => storable field.2) = true ∧ c.Logs d₁ n))
    (hstep : c.step d = (auditMachine.direct (.insert_audit_log c.actor action (some target_type)
      (some target_id) metadata c.client_ip) (c.choices n) d₁).2) : Written d (c.step d) := by
  obtain ⟨e, he⟩ := log_refused action target_type target_id hnot
  rwa [hstep, he]

/-- A call keeps the trail when it finishes what it has begun. -/
theorem Outcome.keeps_iff {begun finished : Prop} (h : Outcome c d begun finished) :
    (KeepsTrail Call.step trail Call.changes c d ∧
      ((c.step d).super_admin_audit_log = d.super_admin_audit_log → Unchanged d (c.step d))) ↔
    (begun → finished) := by
  constructor
  · rintro ⟨-, hsilent⟩ hbegun
    by_contra hfinished
    exact h.changed hbegun (hsilent (h.silent hbegun hfinished))
  · intro hfinished
    by_cases hbegun : begun
    · obtain ⟨r, hlog, hr⟩ := h.logged hbegun (hfinished hbegun)
      have hchanges : c.changes d = [c.change (c.step d)] := if_neg (h.changed hbegun)
      constructor
      · rw [KeepsTrail, hchanges, trail, hlog, List.map_append, List.map_singleton, hr]
        rfl
      · intro hsame
        have hlength := congrArg List.length (hlog.symm.trans hsame)
        simp at hlength
    · have hsame : Unchanged d (c.step d) := by
        rw [h.idle hbegun]
        exact ⟨rfl, rfl, rfl⟩
      refine ⟨?_, fun _ => hsame⟩
      rw [KeepsTrail, Call.changes, if_pos hsame, h.idle hbegun, List.append_nil]

/-! ## The status of a tenant -/

section Status

variable {tenant_id : UUID} {status : TenantStatus} {detail : String} {P : Prop}
  {details : TenantStatus → List (String × Json)}

/-- Setting another status is a change. -/
theorem setStatus_ne {t : Tenant} (ht : t ∈ d.tenants) (hid : t.id = tenant_id)
    (hstatus : t.status ≠ status) :
    (d.toStore.updateTenant tenant_id fun r => { r with status }).tenants ≠ d.tenants := by
  intro h
  have hrow : (if t.id == tenant_id then { t with status } else t) = t :=
    List.map_eq_map_iff.mp (h.trans (List.map_id _).symm) t ht
  rw [hid, beq_self_eq_true, if_pos rfl] at hrow
  exact hstatus (congrArg Tenant.status hrow).symm

/-- Without the first write the store is as it was. -/
theorem changeStatus_idle (detail action : String) (details : TenantStatus → List (String × Json))
    (h : ¬ c.ChangesStatus d tenant_id status) :
    (auditMachine.call c.choices
      (change_status c.actor tenant_id status detail action details c.client_ip) 0 d).2.2 = d := by
  rw [change_status]
  cases h₀ : c.choices 0 with
  | fail e => rw [call_exec_bind_error (by rw [h₀]; rfl)]
  | run v =>
      rw [call_exec_bind (by rw [h₀]; exact direct_run (eval_app rfl))]
      cases ht : fetchrow v.pick (fun r => r.id == tenant_id) d.tenants with
      | none => rfl
      | some t =>
          by_cases hstatus : t.status = status
          · simp only [hstatus, if_true]
            rfl
          · simp only [hstatus, if_false]
            cases h₁ : c.choices 1 with
            | fail e => rw [call_exec_bind_error (by rw [h₁]; rfl)]
            | run v' => exact absurd ⟨v, t, h₀, ht, hstatus, by rw [h₁]; rfl⟩ h

/-- After the first write the row of the log is next. -/
theorem changeStatus_begun (detail action : String)
    (details : TenantStatus → List (String × Json)) (h : c.ChangesStatus d tenant_id status) :
    ∃ t ∈ d.tenants, t.id = tenant_id ∧ t.status ≠ status ∧
      auditMachine.call c.choices
        (change_status c.actor tenant_id status detail action details c.client_ip) 0 d =
      auditMachine.call c.choices
        (_log_action c.actor action "tenant" tenant_id (details t.status) c.client_ip) 2
        { d with toStore := d.toStore.updateTenant tenant_id fun r => { r with status } } := by
  obtain ⟨v, t, h₀, ht, hstatus, h₁⟩ := h
  obtain ⟨hmem, hid⟩ := fetchrow_eq_some ht
  refine ⟨t, hmem, by simpa using hid, hstatus, ?_⟩
  rw [change_status, call_exec_bind (by rw [h₀]; exact direct_run (eval_app rfl))]
  simp only [ht, hstatus, if_false]
  cases hv : c.choices 1 with
  | fail e =>
      rw [hv] at h₁
      cases h₁
  | run v' => rw [call_exec_bind (by rw [hv]; exact direct_run (eval_app rfl))]

theorem changeStatus_outcome (hfits : Fits action "tenant")
    (hprogram : c.program =
      change_status c.actor tenant_id status detail action details c.client_ip)
    (hchange : ∀ d', c.change d' = ⟨c.actor, action, some "tenant", some tenant_id⟩)
    (hdetails : ∀ previous, ((details previous).all fun field => storable field.2) = true ↔ P) :
    Outcome c d (c.ChangesStatus d tenant_id status) (P ∧ c.Logs d 2) := by
  let d₁ : AuditStore :=
    { d with toStore := d.toStore.updateTenant tenant_id fun r => { r with status } }
  have hbegun (h : c.ChangesStatus d tenant_id status) : Written d d₁ ∧ ∃ previous,
      c.step d = (auditMachine.direct (.insert_audit_log c.actor action (some "tenant")
        (some tenant_id) (details previous) c.client_ip) (c.choices 2) d₁).2 := by
    obtain ⟨t, ht, hid, hstatus, hcall⟩ := changeStatus_begun detail action details h
    refine ⟨⟨fun hsame => setStatus_ne ht hid hstatus hsame.1, rfl⟩, t.status, ?_⟩
    rw [Call.step, hprogram, hcall, _log_action, call_exec]
  apply Outcome.of_ends
  · intro h
    rw [Call.step, hprogram, changeStatus_idle detail action details h]
  · rintro h ⟨hP, hlogs⟩
    obtain ⟨hwritten, previous, hstep⟩ := hbegun h
    exact .of_log hfits hwritten ((hdetails previous).mpr hP) hlogs (hchange d₁) hstep
  · intro h hnot
    obtain ⟨hwritten, previous, hstep⟩ := hbegun h
    rw [← hdetails previous] at hnot
    exact hwritten.of_log hnot hstep

end Status

/-! ## A new account -/

section Admins

variable {email full_name password : String}

theorem textParam_storable {limit : Option ℕ} {s : String} {o : Option String}
    (h : textParam limit (.str s) = .ok o) : storable (.str s) = true := by
  simp only [textParam, Except.bind_eq_ok, check_eq_ok] at h
  exact h.choose_spec.1

theorem textParam_of_storable {s : String} (h : storable (.str s) = true) :
    textParam none (.str s) = .ok (some s) := by
  have hnul : (!s.toList.contains (Char.ofNat 0)) = true := h
  simp only [textParam, hnul, check, if_true, bind, Except.bind]
  rfl

/-- An account that is inserted is the last one, and its texts can be stored. -/
theorem eval_insert_admin {v : Env} {hashed_password : String} {a : SuperAdmin × Timestamptz}
    (h : (AuditStmt.insert_super_admin email hashed_password full_name).eval v d = .ok (a, d')) :
    d' = { d with super_admins := d.super_admins ++ [a.1] } ∧
      storable (.str email) = true ∧ storable (.str full_name) = true := by
  simp only [AuditStmt.eval, Except.bind_eq_ok, pure, Except.pure, Except.ok.injEq,
    Prod.mk.injEq] at h
  obtain ⟨_, hemail, _, -, _, hname, _, -, _, -, rfl, rfl⟩ := h
  exact ⟨rfl, textParam_storable hemail, textParam_storable hname⟩

/-- The account is looked for. -/
theorem eval_select_admin {v : Env} (h : storable (.str email) = true) :
    (AuditStmt.select_super_admin email).eval v d =
      .ok (fetchrow v.pick (fun a => a.email == email) d.super_admins, d) := by
  rw [AuditStmt.eval, textParam_of_storable h]
  rfl

theorem fetchrow_email {pick : ℕ} :
    fetchrow pick (fun a => a.email == email) d.super_admins = none ↔
      ∀ a ∈ d.super_admins, a.email ≠ email := by
  rw [fetchrow_eq_none]
  simp

/-- After the first write the row of the log is next. -/
theorem createAdmin_begun (password : String) (h : c.InsertsAdmin d email full_name d') :
    ∃ row : SuperAdmin, d' = { d with super_admins := d.super_admins ++ [row] } ∧
      storable (.str email) = true ∧ storable (.str full_name) = true ∧
      (auditMachine.call c.choices
        (create_super_admin c.actor email full_name password c.client_ip >>= fun _ => pure ())
        0 d).2.2 =
      (auditMachine.direct (.insert_audit_log c.actor "super_admin.create" (some "super_admin")
        (some row.id) [("email", .str email), ("full_name", .str full_name)] c.client_ip)
        (c.choices 3) d').2 := by
  obtain ⟨v, v', v'', row, h₀, hnone, h₁, h₂, hinsert⟩ := h
  obtain ⟨hd', hemail, hname⟩ := eval_insert_admin hinsert
  refine ⟨row.1, hd', hemail, hname, ?_⟩
  rw [call_pure, create_super_admin,
    call_exec_bind (by rw [h₀]; exact direct_run (eval_select_admin hemail)),
    fetchrow_email.mpr hnone]
  dsimp only
  rw [call_exec_bind (by rw [h₁]; exact direct_run (eval_app rfl)),
    call_exec_bind (by rw [h₂]; exact direct_run hinsert)]
  rw [call_pure, _log_action, call_exec]

/-- Without the first write the store is as it was. -/
theorem createAdmin_idle (password : String) (h : ¬ ∃ d', c.InsertsAdmin d email full_name d') :
    (auditMachine.call c.choices
      (create_super_admin c.actor email full_name password c.client_ip >>= fun _ => pure ())
      0 d).2.2 = d := by
  rw [call_pure, create_super_admin]
  cases h₀ : c.choices 0 with
  | fail e => rw [call_exec_bind_error (by rw [h₀]; rfl)]
  | run v =>
      cases hselect : (AuditStmt.select_super_admin email).eval v d with
      | error e => rw [call_exec_bind_error (by rw [h₀]; exact direct_error hselect)]
      | ok a =>
          have hemail : storable (.str email) = true := by
            simp only [AuditStmt.eval, Except.bind_eq_ok] at hselect
            exact textParam_storable hselect.choose_spec.1
          rw [call_exec_bind (by rw [h₀]; exact direct_run (eval_select_admin hemail))]
          cases hfound : fetchrow v.pick (fun a => a.email == email) d.super_admins with
          | some a => rfl
          | none =>
              dsimp only
              cases h₁ : c.choices 1 with
              | fail e => rw [call_exec_bind_error (by rw [h₁]; rfl)]
              | run v' =>
                  rw [call_exec_bind (by rw [h₁]; exact direct_run (eval_app rfl))]
                  cases h₂ : c.choices 2 with
                  | fail e => rw [call_exec_bind_error (by rw [h₂]; rfl)]
                  | run v'' =>
                      cases hinsert :
                        (AuditStmt.insert_super_admin email v'.text full_name).eval v'' d with
                      | error e =>
                          rw [call_exec_bind_error (by rw [h₂]; exact direct_error hinsert)]
                      | ok r =>
                          exact absurd ⟨r.2, v, v', v'', r.1, h₀, fetchrow_email.mp hfound, h₁, h₂,
                            hinsert⟩ h

theorem insertsAdmin_unique {d'' : AuditStore} (h : c.InsertsAdmin d email full_name d')
    (h' : c.InsertsAdmin d email full_name d'') : d'' = d' := by
  obtain ⟨_, v, w, _, -, -, h₁, h₂, hinsert⟩ := h
  obtain ⟨_, v', w', _, -, -, h₁', h₂', hinsert'⟩ := h'
  cases h₁.symm.trans h₁'
  cases h₂.symm.trans h₂'
  exact (Prod.mk.inj (Except.ok.inj (hinsert'.symm.trans hinsert))).2

theorem createAdmin_outcome (hop : c.operation = .create_super_admin email full_name password) :
    Outcome c d (∃ d', c.InsertsAdmin d email full_name d')
      (∀ d', c.InsertsAdmin d email full_name d' → c.Logs d' 3) := by
  have hprogram : c.program =
      (create_super_admin c.actor email full_name password c.client_ip >>= fun _ => pure ()) := by
    rw [Call.program, hop]
  have hfits : Fits "super_admin.create" "super_admin" := ⟨by decide +kernel, by decide +kernel⟩
  have hwritten {row : SuperAdmin} :
      Written d { d with super_admins := d.super_admins ++ [row] } := by
    refine ⟨fun hsame => ?_, rfl⟩
    have hlength := congrArg List.length hsame.2.2
    simp at hlength
  apply Outcome.of_ends
  · intro h
    rw [Call.step, hprogram, createAdmin_idle password h]
  · rintro ⟨d', h⟩ hlogs
    obtain ⟨row, rfl, hemail, hname, hcall⟩ := createAdmin_begun password h
    refine .of_log hfits hwritten (by simp [hemail, hname]) (hlogs _ h) ?_ (hprogram ▸ hcall)
    simp [Call.change, hop]
  · rintro ⟨d', h⟩ hnot
    obtain ⟨row, rfl, hemail, hname, hcall⟩ := createAdmin_begun password h
    refine hwritten.of_log (n := 3) (fun hall => hnot fun d'' h'' => ?_) (hprogram ▸ hcall)
    rw [insertsAdmin_unique h h'']
    exact hall.2

end Admins

/-! ## The fee of a tenant -/

section Fee

variable {tenant_id : UUID} {x x' : Store}

/-- The tables of the application without those of the super admins. -/
theorem call_app {α : Type} (p : M α) :
    auditMachine.call c.choices (Prog.embed AuditStmt.app p) n d =
      ((machine.call c.choices p n d.toStore).1, (machine.call c.choices p n d.toStore).2.1,
        { d with toStore := (machine.call c.choices p n d.toStore).2.2 }) := by
  refine call_embed (M := auditMachine) (f := AuditStmt.app) (N := machine) AuditStore.toStore
    (fun x d => { d with toStore := x }) ?_ (fun _ _ => rfl) (fun _ _ _ => rfl) (fun _ => rfl)
    p n d
  intro s v d
  rcases s.exec_cases v d.toStore with ⟨a, x, he, hx⟩ | ⟨e, he, hx⟩
  · have happ : auditMachine.exec (.app s) v d = (.ok a, { d with toStore := x }) :=
      settle_eq_ok.mpr (eval_app he)
    rw [happ, show machine.exec s v d.toStore = (.ok a, x) from hx]
  · have happ : auditMachine.exec (.app s) v d = (.error e, d) := by
      refine settle_eq_error.mpr ?_
      rw [AuditStmt.eval, he]
      rfl
    rw [happ, show machine.exec s v d.toStore = (.error e, d.toStore) from hx]

/-- What Daraja answers to a push. -/
theorem call_stk_push {v : Env} (phone reference description : String) (amount : ℤ)
    (h : c.choices n = .run v) : ∃ x', x'.platform_payments = x.platform_payments ∧
      machine.call c.choices (stk_push none phone amount reference description) n x =
        (v.push.response.bind push_result, n + 1, x') := by
  let s : Stmt := .post_stk_push none phone amount (front 12 reference) (front 13 description)
  refine ⟨(machine.direct s (.run v) x).2, rfl, ?_⟩
  rw [stk_push, call_exec_bind (a := v.push.response) (by rw [h]; rfl)]
  rfl

theorem call_get {response : Json} {key : String} :
    machine.call c.choices (FrixelConnect.get response key) n x =
      ((response.get key).mapError .fault, n, x) := rfl

/-- The update after the push gives the new row. -/
theorem call_store_checkout {v : Env} {fee : PaymentCore} {checkout_id : Json}
    {value : Option String} (hadded : ManualBilling.Added x fee x')
    (hfresh : ∀ r ∈ x.platform_payments, r.id ≠ fee.id)
    (hvalue : textParam (some 100) checkout_id = .ok value) : ∃ row x'',
    (Stmt.store_checkout .platform_payments checkout_id
      (.row fee.id (some fee.tenant_id))).eval v x' = .ok (some row, x'') ∧
      row.amount_kes = fee.amount_kes := by
  let w : RowFilter := .row fee.id (some fee.tenant_id)
  let x'' := x'.updateCores .platform_payments w.holds (PaymentCore.pushed value v.now)
  obtain ⟨row, hrows, hid, htenant, hamount, -⟩ : ManualBilling.Added x fee x'' :=
    hadded.update hfresh fun _ => ⟨rfl, rfl, rfl, rfl⟩
  have hholds : w.holds row = true := by simp [w, RowFilter.holds, hid, htenant]
  have hfound : fetchrow v.pick w.holds (x''.cores .platform_payments) = some row := by
    change fetchrow v.pick w.holds x''.platform_payments = some row
    rw [hrows]
    refine fetchrow_unique (by simp) hholds fun r hr hr' => ?_
    rcases List.mem_append.mp hr with hr | hr
    · exact absurd (RowFilter.holds_id hr') (hfresh r hr)
    · exact List.mem_singleton.mp hr
  refine ⟨row, x'', ?_, hamount⟩
  simp only [Stmt.eval, hvalue, bind, Except.bind]
  rw [show fetchrow v.pick (RowFilter.row fee.id (some fee.tenant_id)).holds
    ((x'.updateCores .platform_payments (RowFilter.row fee.id (some fee.tenant_id)).holds
      (PaymentCore.pushed value v.now)).cores .platform_payments) = some row from hfound]
  rfl

/-- The push and the update after it give a row when both go through. -/
theorem call_manualPush {t : Tenant} {fee : PaymentCore} (htenant : fee.tenant_id = t.id)
    (hfresh : ∀ r ∈ x.platform_payments, r.id ≠ fee.id) (hadded : ManualBilling.Added x fee x')
    (h : c.PushesFee) : ∃ row x'',
      machine.call c.choices (ManualBilling.manualPush t fee.id) 3 x' = (.ok row, 5, x'') ∧
        row.amount_kes = fee.amount_kes := by
  obtain ⟨v, response, checkout_id, value, h₃, hresponse, hcheckout, hvalue, h₄⟩ := h
  obtain ⟨v', h₄⟩ : ∃ v', c.choices 4 = .run v' := by
    cases hv : c.choices 4 with
    | fail e =>
        rw [hv] at h₄
        cases h₄
    | run v' => exact ⟨v', rfl⟩
  obtain ⟨x₁, hx₁, hpush⟩ := call_stk_push (x := x') t.owner_phone
    ("ZS-" ++ front 8 (str fee.id)) "Frixel Connect Fee" (TIER_MONTHLY_FEES t.subscription_tier) h₃
  have hadded₁ : ManualBilling.Added x fee x₁ := by rwa [ManualBilling.Added, hx₁]
  obtain ⟨row, x₂, hstore, hamount⟩ := call_store_checkout (v := v') hadded₁ hfresh hvalue
  refine ⟨row, x₂, ?_, hamount⟩
  rw [ManualBilling.manualPush, push_block, call_inFrame, call_tryCatch, call_bind, hpush,
    hresponse]
  dsimp only
  rw [call_bind, call_get, hcheckout]
  dsimp only [Except.mapError]
  rw [← htenant, call_exec_bind (by rw [h₄]; exact Stmt.exec_eq_ok.mpr hstore)]
  rfl

/-- Otherwise they raise. -/
theorem call_manualPush_error (t : Tenant) (fee : PaymentCore) (h : ¬ c.PushesFee) :
    ∃ e y, machine.call c.choices (ManualBilling.manualPush t fee.id) 3 x = (.error e, y) := by
  have hhandler (e : Exn) (y : ℕ × Store) : ∃ e' y', machine.call c.choices (do
      FrixelConnect.exec (.fail .platform_payments (.str e.str) (.row fee.id (some t.id)))
      throw (.payment ("Platform billing payment initiation failed: " ++ e.str)) : M PaymentCore)
      y.1 y.2 = (.error e', y') := by
    rw [call_bind, call_exec]
    split <;> exact ⟨_, _, rfl⟩
  rw [ManualBilling.manualPush, push_block, call_inFrame, call_tryCatch]
  cases h₃ : c.choices 3 with
  | fail e =>
      have hpush : machine.call c.choices (stk_push none t.owner_phone
          (TIER_MONTHLY_FEES t.subscription_tier) ("ZS-" ++ front 8 (str fee.id))
          "Frixel Connect Fee") 3 x = (.error e, 4, x) := by
        rw [stk_push, call_exec_bind_error (by rw [h₃]; rfl)]
      rw [call_bind, hpush]
      exact hhandler e (4, x)
  | run v =>
      obtain ⟨x₁, -, hpush⟩ := call_stk_push (x := x) t.owner_phone
        ("ZS-" ++ front 8 (str fee.id)) "Frixel Connect Fee"
        (TIER_MONTHLY_FEES t.subscription_tier) h₃
      rw [call_bind, hpush]
      cases hresponse : v.push.response.bind push_result with
      | error e => exact hhandler e (4, x₁)
      | ok response =>
          dsimp only
          cases hcheckout : response.get "CheckoutRequestID" with
          | error f =>
              rw [call_bind, call_get, hcheckout]
              exact hhandler (.fault f) (4, x₁)
          | ok checkout_id =>
              rw [call_bind, call_get, hcheckout]
              dsimp only [Except.mapError]
              cases h₄ : c.choices 4 with
              | fail e =>
                  rw [call_exec_bind_error (by rw [h₄]; rfl)]
                  exact hhandler e (5, x₁)
              | run v' =>
                  cases hvalue : textParam (some 100) checkout_id with
                  | ok value =>
                      exact absurd ⟨v, response, checkout_id, value, h₃, hresponse, hcheckout,
                        hvalue, by rw [h₄]; rfl⟩ h
                  | error e =>
                      have hstore : (Stmt.store_checkout .platform_payments checkout_id
                          (.row fee.id (some t.id))).eval v' x₁ = .error e := by
                        rw [Stmt.eval, hvalue]
                        rfl
                      rw [call_exec_bind_error (by rw [h₄]; exact Stmt.exec_eq_error.mpr hstore)]
                      exact hhandler e (5, x₁)

/-- An amount that is a number can be stored. -/
theorem storable_float {amount : Money} {y : Decimal} {e : ℤ} {k : ℤ} (hy : y = .finite k e)
    (h : moneyParam y = .ok amount) : storable (float amount) = true := by
  rw [hy, moneyParam_eq_ok] at h
  obtain ⟨-, hb, rfl⟩ := Column.store_finite_eq_some h
  simp only [storable, float, bne_iff_ne]
  intro hnan
  have hdot := congrArg (fun s : String => s.toList.contains '.') hnan
  simp at hdot

/-- The call has inserted a fee and goes on with the push. -/
theorem initiate_begun (h : c.InsertsFee d tenant_id) : ∃ t fee,
    t ∈ d.tenants ∧ t.id = tenant_id ∧ fee.tenant_id = t.id ∧
    (∀ r ∈ d.platform_payments, r.id ≠ fee.id) ∧
    storable (float fee.amount_kes) = true ∧
    machine.call c.choices (initiate_platform_billing_payment tenant_id) 1 d.toStore =
      machine.call c.choices (ManualBilling.manualPush t fee.id) 3
        { d.toStore with platform_payments := d.platform_payments ++ [fee] } := by
  obtain ⟨-, v, t, v', fee, x', h₁, ht, h₂, hinsert⟩ := h
  obtain ⟨rfl, hfresh, htenant, -⟩ := Stmt.eval_insert_platform_payment hinsert
  obtain ⟨hmem, hid⟩ := fetchrow_eq_some ht
  have hid : t.id = tenant_id := by simpa using hid
  have hamount : storable (float fee.amount_kes) = true := by
    simp only [Stmt.eval, Except.bind_eq_ok, pure, Except.pure, Except.ok.injEq,
      Prod.mk.injEq] at hinsert
    obtain ⟨amount, hstored, -, -, -, -, -, -, -, -, -, -, rfl, -⟩ := hinsert
    exact storable_float rfl hstored
  refine ⟨t, fee, hmem, hid, htenant.trans hid.symm, hfresh, hamount, ?_⟩
  rw [initiate_platform_billing_payment, call_exec_bind (by rw [h₁]; exact Stmt.exec_eq_ok.mpr rfl),
    ht]
  dsimp only
  rw [call_exec_bind (by rw [h₂]; exact Stmt.exec_eq_ok.mpr hinsert), ← hid]
  rfl

/-- Without a fee the initiation raises, and the store is as it was. -/
theorem initiate_idle (h₀ : (c.choices 0).isRun) (h : ¬ c.InsertsFee d tenant_id) : ∃ e n',
    machine.call c.choices (initiate_platform_billing_payment tenant_id) 1 d.toStore =
      (.error e, n', d.toStore) := by
  rw [initiate_platform_billing_payment]
  cases h₁ : c.choices 1 with
  | fail e => exact ⟨e, 2, by rw [call_exec_bind_error (by rw [h₁]; rfl)]⟩
  | run v =>
      rw [call_exec_bind (by rw [h₁]; exact Stmt.exec_eq_ok.mpr rfl)]
      cases ht : fetchrow v.pick (fun r => r.id == tenant_id) d.tenants with
      | none => exact ⟨_, _, rfl⟩
      | some t =>
          dsimp only
          cases h₂ : c.choices 2 with
          | fail e => exact ⟨e, 3, by rw [call_exec_bind_error (by rw [h₂]; rfl)]⟩
          | run v' =>
              cases hinsert : (Stmt.insert_platform_payment tenant_id
                  (.finite (TIER_MONTHLY_FEES t.subscription_tier) 0) t.owner_phone .null).eval v'
                  d.toStore with
              | error e =>
                  exact ⟨e, 3, by
                    rw [call_exec_bind_error (by rw [h₂]; exact Stmt.exec_eq_error.mpr hinsert)]⟩
              | ok r => exact absurd ⟨h₀, v, t, v', r.1, r.2, h₁, ht, h₂, hinsert⟩ h

/-- A new fee is a change. -/
theorem written_of_added {fee : PaymentCore} (h : ManualBilling.Added d.toStore fee x) :
    Written d { d with toStore := x } := by
  refine ⟨fun hsame => ?_, rfl⟩
  obtain ⟨row, hrows, -⟩ := h
  have hlength := congrArg List.length (hrows.symm.trans hsame.2.1)
  simp at hlength

theorem storable_id (id : UUID) : storable (.str (str id)) = true := by
  simp only [storable, str, String.toList_ofList, Bool.not_eq_true', List.contains_eq_mem,
    decide_eq_false_iff_not]
  intro hnul
  rcases UUID.mem_str hnul with h | h
  · cases h
  · revert h
    decide

theorem storable_business_name (id : UUID) : storable (.str (d.business_name id)) = true := by
  simpa [storable] using d.business_name_text id

/-- Without the first write the store is as it was. -/
theorem billing_idle (h : ¬ c.InsertsFee d tenant_id) :
    (auditMachine.call c.choices (trigger_tenant_billing c.actor tenant_id c.client_ip)
      0 d).2.2 = d := by
  rw [trigger_tenant_billing]
  cases h₀ : c.choices 0 with
  | fail e => rw [call_exec_bind_error (by rw [h₀]; rfl)]
  | run v =>
      rw [call_exec_bind (by rw [h₀]; exact direct_run rfl)]
      split
      · rfl
      · obtain ⟨e, n', hcall⟩ := initiate_idle (by rw [h₀]; rfl) h
        rw [call_bind, call_app, hcall]

/-- After the first write the push is next, and after the push the row of the log. -/
theorem billing_begun (h : c.InsertsFee d tenant_id) :
    (c.PushesFee → ∃ d₁ metadata, Written d d₁ ∧ d₁.super_admins = d.super_admins ∧
      (metadata.all fun field => storable field.2) = true ∧
      (auditMachine.call c.choices (trigger_tenant_billing c.actor tenant_id c.client_ip)
        0 d).2.2 = (auditMachine.direct (.insert_audit_log c.actor "tenant.billing_triggered"
          (some "tenant") (some tenant_id) metadata c.client_ip) (c.choices 5) d₁).2) ∧
    (¬ c.PushesFee → Written d (auditMachine.call c.choices
      (trigger_tenant_billing c.actor tenant_id c.client_ip) 0 d).2.2) := by
  obtain ⟨t, fee, hmem, hid, htenant, hfresh, hamount, hcall⟩ := initiate_begun h
  let x : Store := { d.toStore with platform_payments := d.platform_payments ++ [fee] }
  have hnew : ManualBilling.Added d.toStore fee x := ⟨fee, rfl, rfl, rfl, rfl, rfl⟩
  have hadded : ManualBilling.Added d.toStore fee
      (machine.call c.choices (ManualBilling.manualPush t fee.id) 3 x).2.2 :=
    call_keeps (fun s hs choice y hy => hy.direct hs hfresh choice)
      (htenant ▸ ManualBilling.push_block_framed.all) hnew
  obtain ⟨v, h₀⟩ : ∃ v, c.choices 0 = .run v := by
    cases h₀ : c.choices 0 with
    | fail e =>
        have hrun := h.1
        rw [h₀] at hrun
        cases hrun
    | run v => exact ⟨v, rfl⟩
  obtain ⟨name, hname, hselect⟩ : ∃ name, storable (.str name) = true ∧
      (AuditStmt.select_business_name tenant_id).eval v d = .ok (some name, d) := by
    cases hfound : fetchrow v.pick (fun r => r.id == tenant_id) d.tenants with
    | none => exact absurd (by simpa using hid) (fetchrow_eq_none.mp hfound t hmem)
    | some t' =>
        refine ⟨d.business_name t'.id, storable_business_name _, ?_⟩
        rw [AuditStmt.eval, hfound]
        rfl
  rw [trigger_tenant_billing, call_exec_bind (by rw [h₀]; exact direct_run hselect)]
  dsimp only
  rw [call_bind, call_app, hcall]
  constructor
  · intro hpush
    obtain ⟨row, x'', hrow, hamount'⟩ := call_manualPush htenant hfresh hnew hpush
    rw [hrow] at hadded
    refine ⟨{ d with toStore := x'' }, [("tenant_name", .str name),
      ("payment_id", .str (str row.id)), ("amount_kes", float row.amount_kes)],
      written_of_added hadded, rfl, ?_, ?_⟩
    · simp [hname, storable_id, hamount', hamount]
    · rw [hrow]
      dsimp only
      rw [call_pure, _log_action, call_exec]
  · intro hpush
    obtain ⟨e, y, hraised⟩ := call_manualPush_error (x := x) t fee hpush
    rw [hraised] at hadded ⊢
    exact written_of_added hadded

theorem billing_outcome (hop : c.operation = .trigger_tenant_billing tenant_id) :
    Outcome c d (c.InsertsFee d tenant_id) (c.PushesFee ∧ c.Logs d 5) := by
  have hprogram : c.program =
      (trigger_tenant_billing c.actor tenant_id c.client_ip >>= fun _ => pure ()) := by
    rw [Call.program, hop]
  have hstep : c.step d = (auditMachine.call c.choices
      (trigger_tenant_billing c.actor tenant_id c.client_ip) 0 d).2.2 := by
    rw [Call.step, hprogram, call_pure]
  have hfits : Fits "tenant.billing_triggered" "tenant" := ⟨by decide +kernel, by decide +kernel⟩
  apply Outcome.of_ends
  · intro h
    rw [hstep, billing_idle h]
  · rintro h ⟨hpush, hlogs⟩
    obtain ⟨d₁, metadata, hwritten, hadmins, hstorable, hcall⟩ := (billing_begun h).1 hpush
    refine .of_log hfits hwritten hstorable ?_ (by rw [Call.change, hop]) (hstep.trans hcall)
    rwa [Call.Logs, hadmins, hwritten.log]
  · intro h hnot
    by_cases hpush : c.PushesFee
    · obtain ⟨d₁, metadata, hwritten, hadmins, hstorable, hcall⟩ := (billing_begun h).1 hpush
      refine hwritten.of_log (n := 5) (fun hall => hnot ⟨hpush, ?_⟩) (hstep.trans hcall)
      have hlogs := hall.2
      rwa [Call.Logs, hadmins, hwritten.log] at hlogs
    · rw [hstep]
      exact (billing_begun h).2 hpush

end Fee

/-! ## The trail -/

theorem storable_value (status : TenantStatus) : storable (.str status.value) = true := by
  cases status <;> decide +kernel

/-- A call keeps the trail exactly when it finishes what it has begun. -/
theorem keeps_iff : (KeepsTrail Call.step trail Call.changes c d ∧
      ((c.step d).super_admin_audit_log = d.super_admin_audit_log → Unchanged d (c.step d))) ↔
    c.Finishes d := by
  cases hop : c.operation with
  | suspend_tenant tenant_id reason =>
      have hfits : Fits "tenant.suspend" "tenant" := ⟨by decide +kernel, by decide +kernel⟩
      have hprogram : c.program = suspend_tenant c.actor tenant_id reason c.client_ip := by
        rw [Call.program, hop]
      have houtcome : Outcome c d (c.ChangesStatus d tenant_id .suspended)
          ('\x00' ∉ reason.toList ∧ c.Logs d 2) := by
        refine changeStatus_outcome hfits hprogram (fun _ => by rw [Call.change, hop]) ?_
        intro previous
        have hreason : storable (.str reason) = true ↔ '\x00' ∉ reason.toList := by
          simp [storable]
        simp [storable_value, hreason]
      rw [houtcome.keeps_iff, Call.Finishes, hop]
  | reactivate_tenant tenant_id =>
      have hfits : Fits "tenant.reactivate" "tenant" := ⟨by decide +kernel, by decide +kernel⟩
      have hprogram : c.program = reactivate_tenant c.actor tenant_id c.client_ip := by
        rw [Call.program, hop]
      have houtcome : Outcome c d (c.ChangesStatus d tenant_id .active) (True ∧ c.Logs d 2) := by
        refine changeStatus_outcome hfits hprogram (fun _ => by rw [Call.change, hop]) ?_
        intro previous
        simp [storable_value]
      rw [houtcome.keeps_iff, Call.Finishes, hop, true_and]
  | trigger_tenant_billing tenant_id =>
      rw [(billing_outcome hop).keeps_iff, Call.Finishes, hop]
  | create_super_admin email full_name password =>
      rw [(createAdmin_outcome hop).keeps_iff, Call.Finishes, hop]
      exact ⟨fun h d' hd' => h ⟨d', hd'⟩ d' hd', fun h _ => h⟩

/-- The trail of a sequence of calls is complete exactly when in every call of it nothing fails
after the first write. -/
theorem audit_trail_complete_iff (calls : List Call) (d : AuditStore) :
    Complete calls d ↔ Along Call.step Call.Finishes calls d := by
  rw [← Along.congr fun c d => keeps_iff, along_and, ← trail_iff]
  exact ⟨fun h => ⟨h.logged, h.silent⟩, fun h => ⟨h.1, h.2⟩⟩

/-- A tenant and a super admin. -/
def portal : AuditStore where
  tenants := [{ id := 1, owner_phone := "254700000001", next_billing_date := 0 }]
  super_admins := [
    { id := 9, email := "fred@frixel.co.ke", hashed_password := "$2b$12$", full_name := "Fred" }]

/-- The reason of a suspension has a null character, which no JSONB column can hold. -/
def suspension : Call where
  actor := 9
  operation := .suspend_tenant 1 "spam\x00"
  choices _ := .run {}

/-- The tenant is suspended although the row of the audit log cannot be written. -/
theorem not_audit_trail_complete : ¬ ∀ (calls : List Call) (d : AuditStore), Complete calls d := by
  intro h
  have hlog : (suspension.step portal).super_admin_audit_log = [] :=
    List.length_eq_zero_iff.mp (by decide +kernel)
  have hsame : Unchanged portal (suspension.step portal) := (h [suspension] portal).silent.1 hlog
  revert hsame
  decide +kernel

end AuditTrail

end FrixelConnect
