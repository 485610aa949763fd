import FrixelConnect.Users
import FrixelConnect.Effects
import FrixelConnect.Specs.Footprint
import FrixelConnect.Interleaving.Contributions

/-!
# The registration of tenants

A registration looks for the email among the tenants and among the users, and for the phone
among the tenants, each by a statement of its own. A transaction then inserts the tenant and its
admin. Whether a user has the phone is only found out by the second insert.

## Implementation notes

A row of `tenants` is kept in two parts: the columns that the rest of the application reads, and
its business name and email. A unique index is a key that the insert of a row locks, since
PostgreSQL lets an insert wait for an open transaction that has inserted the same value.
-/

namespace FrixelConnect

open Calendar Python Interleaving

structure TenantRegisterRequest where
  business_name : String
  owner_email : String
  owner_phone : String
  password : String
  subscription_tier : SubscriptionTier := .starter

/-- Default subscription tier limits. -/
def TIER_MAX_CUSTOMERS : SubscriptionTier → ℕ
  | .starter => 50
  | .growth => 500
  | .scale => 5000
  | .enterprise => 999999

/-- The columns of `tenants` that are not those of `Tenant`. -/
structure TenantProfile where
  tenant_id : UUID
  business_name : String
  owner_email : String
  deriving DecidableEq

/-- The store with the other columns of `tenants`. -/
structure Registry extends Store where
  profiles : List TenantProfile := []
  deriving DecidableEq

/-- A tenant and its first admin. -/
structure Registered where
  tenant : Tenant
  profile : TenantProfile
  user : User
  deriving DecidableEq

/-- The statements of a registration, and those of the rest of the application. -/
inductive RegistrationStmt where
  | app (s : Stmt)
  | select_tenant_by_email (owner_email : String)
  | select_user_by_email (email : String)
  | select_tenant_by_phone (owner_phone : String)
  | hash_password (password : String)
  | insert_tenant (business_name owner_email owner_phone : String)
      (subscription_tier : SubscriptionTier) (max_customers : ℕ)
  | insert_admin (email phone hashed_password : String) (tenant_id : UUID)

/-- What a statement waits for: a row of `users`, or a value in a unique index. -/
inductive RegistrationKey where
  | user (id : UUID)
  | unique (c : Constraint) (value : String)
  deriving DecidableEq

/-- The values that the statement writes to the unique indexes of contacts. -/
def Stmt.contacts : Stmt → List RegistrationKey
  | .insert_guest email phone .. =>
      [.unique .users_email_unique email, .unique .users_phone_unique phone]
  | .insert_user email phone .. =>
      [.unique .users_email_unique email, .unique .users_phone_unique phone]
  | .set_contact c value .. => [.unique c.unique value]
  | _ => []

namespace RegistrationStmt

abbrev Res : RegistrationStmt → Type
  | .app s => s.Res
  | .select_tenant_by_email _ => Option UUID
  | .select_user_by_email _ => Option UUID
  | .select_tenant_by_phone _ => Option UUID
  | .hash_password _ => String
  | .insert_tenant .. => Tenant × TenantProfile
  | .insert_admin .. => User

/-- The statement runs on the database connection. -/
def inTx : RegistrationStmt → Bool
  | .app s => s.inTx
  | .hash_password _ => false
  | _ => true

def locks : RegistrationStmt → List RegistrationKey
  | .app s => s.locks.map .user ++ s.contacts
  | .insert_tenant _ owner_email owner_phone _ _ =>
      [.unique .tenants_owner_email_unique owner_email,
        .unique .tenants_owner_phone_unique owner_phone]
  | .insert_admin email phone _ _ =>
      [.unique .users_email_unique email, .unique .users_phone_unique phone]
  | _ => []

/-- What a statement answers and the registry after it, or what it raises. -/
def eval (v : Env) (d : Registry) : (s : RegistrationStmt) → Except Exn (s.Res × Registry)
  | .app s => (s.eval v d.toStore).map fun r => (r.1, { d with toStore := r.2 })
  | .select_tenant_by_email owner_email => do
      let _ ← textParam none (.str owner_email)
      pure ((fetchrow v.pick (fun r => r.owner_email == owner_email) d.profiles).map
        (·.tenant_id), d)
  | .select_user_by_email email => do
      let _ ← textParam none (.str email)
      pure ((fetchrow v.pick (fun r => r.email == email) d.users).map (·.id), d)
  | .select_tenant_by_phone owner_phone => do
      let _ ← textParam none (.str owner_phone)
      pure ((fetchrow v.pick (fun r => r.owner_phone == owner_phone) d.tenants).map (·.id), d)
  | .hash_password _ => pure (v.text, d)
  | .insert_tenant business_name owner_email owner_phone subscription_tier max_customers => do
      let _ ← textParam (some 200) (.str business_name)
      let _ ← textParam (some 255) (.str owner_email)
      let _ ← textParam (some 20) (.str owner_phone)
      check (d.tenants.all fun r => r.id != v.uuid) (.uniqueViolation .primary_key)
      check (d.profiles.all fun r => r.owner_email != owner_email)
        (.uniqueViolation .tenants_owner_email_unique)
      check (d.tenants.all fun r => r.owner_phone != owner_phone)
        (.uniqueViolation .tenants_owner_phone_unique)
      let tenant : Tenant := {
        id := v.uuid, owner_phone, subscription_tier, max_customers
        next_billing_date := plusMonth v.now }
      let profile : TenantProfile := { tenant_id := v.uuid, business_name, owner_email }
      pure ((tenant, profile),
        { d with tenants := d.tenants ++ [tenant], profiles := d.profiles ++ [profile] })
  | .insert_admin email phone hashed_password tenant_id =>
      ((Stmt.insert_user email phone hashed_password .admin none tenant_id none).eval v
        d.toStore).map fun r => (r.1, { d with toStore := r.2 })

/-- A statement that raises leaves the registry as it was. -/
def exec (s : RegistrationStmt) (v : Env) (d : Registry) : Except Exn s.Res × Registry :=
  match s.eval v d with
  | .ok r => (.ok r.1, r.2)
  | .error e => (.error e, d)

end RegistrationStmt

abbrev RegistrationM := Prog RegistrationStmt RegistrationStmt.Res Frame Exn

def registrationMachine :
    Machine RegistrationStmt RegistrationStmt.Res Exn Registry Env RegistrationKey where
  exec := RegistrationStmt.exec
  inTx := RegistrationStmt.inTx
  locks := RegistrationStmt.locks
  aborted := .inFailedTransaction

/-- Raise if a row exists. -/
def refuse (existing : Option UUID) (detail : String) : RegistrationM Unit :=
  if existing.isSome then throw (.conflict detail) else pure ()

/-- The transaction of a registration. -/
def create_tenant (data : TenantRegisterRequest) (hashed : String) : RegistrationM Registered := do
  let tenant_row : Tenant × TenantProfile ← Prog.exec (RegistrationStmt.insert_tenant
    data.business_name data.owner_email data.owner_phone data.subscription_tier
    (TIER_MAX_CUSTOMERS data.subscription_tier))
  let user_row ← Prog.exec (.insert_admin data.owner_email data.owner_phone hashed
    tenant_row.1.id)
  return { tenant := tenant_row.1, profile := tenant_row.2, user := user_row }

def register_tenant (data : TenantRegisterRequest) : RegistrationM Registered := do
  let existing_tenant ← Prog.exec (.select_tenant_by_email data.owner_email)
  refuse existing_tenant
    ("A tenant account with email '" ++ data.owner_email ++ "' already exists.")
  let existing_user ← Prog.exec (.select_user_by_email data.owner_email)
  refuse existing_user ("A user account with email '" ++ data.owner_email ++ "' already exists.")
  let existing_phone ← Prog.exec (.select_tenant_by_phone data.owner_phone)
  refuse existing_phone ("A tenant account with phone '" ++ data.owner_phone ++ "' already exists.")
  let hashed ← Prog.exec (.hash_password data.password)
  (create_tenant data hashed).transaction

/-- Registrations, and the processes of the application with the calls about accounts. -/
inductive RegistrationSpawn where
  | app (w : AccountSpawn)
  | register (data : TenantRegisterRequest)

def RegistrationSpawn.start (w : RegistrationSpawn) (d : Registry) :
    Option (Registry × RegistrationM (Option Registered)) :=
  match w with
  | .app w => (w.start d.toStore).map fun r =>
      ({ d with toStore := r.1 }, do
        Prog.embed RegistrationStmt.app r.2
        return none)
  | .register data => some (d, do
      let result ← register_tenant data
      return some result)

def registrationSystem : System RegistrationStmt RegistrationStmt.Res Frame Exn Registry Env
    RegistrationKey (Option Registered) RegistrationSpawn :=
  { registrationMachine with start := RegistrationSpawn.start }

abbrev RegistrationState :=
  State RegistrationStmt RegistrationStmt.Res Frame Exn Registry Env (Option Registered)

abbrev RegistrationRules := Rules RegistrationStmt Exn Registry Env RegistrationSpawn

abbrev RegistrationLabel := Label Exn Registry Env RegistrationSpawn

namespace TenantRegistration

/-- The rows of a registration. -/
def rows (data : TenantRegisterRequest) (tenant_id user_id : UUID) (hashed : String)
    (now : Timestamptz) : Registered where
  tenant := {
    id := tenant_id, owner_phone := data.owner_phone, subscription_tier := data.subscription_tier
    max_customers := TIER_MAX_CUSTOMERS data.subscription_tier
    next_billing_date := plusMonth now }
  profile := { tenant_id, business_name := data.business_name, owner_email := data.owner_email }
  user := {
    id := user_id, email := data.owner_email, phone := data.owner_phone
    hashed_password := hashed, role := .admin, tenant_id }

/-- The registration adds a tenant and an admin of it, both with its email and phone. -/
def Creates (data : TenantRegisterRequest) (x : Registered) (d d' : Registry) : Prop :=
  ∃ tenant_id user_id hashed now, x = rows data tenant_id user_id hashed now ∧
    (∀ t ∈ d.tenants, t.id ≠ tenant_id) ∧ (∀ u ∈ d.users, u.id ≠ user_id) ∧
    d' = { d with
      tenants := d.tenants ++ [x.tenant]
      profiles := d.profiles ++ [x.profile]
      users := d.users ++ [x.user] }

/-- A registration that returns has created its rows and changed nothing else; one that raises
raises a conflict and has changed nothing. -/
def AllOrNothing (data : TenantRegisterRequest) (r : Except Exn (Option Registered))
    (cs : List (Registry × Registry)) : Prop :=
  match r with
  | .ok x => ∃ result, x = some result ∧ Once (Creates data result) cs
  | .error e => (∃ detail, e = .conflict detail) ∧ Silent cs

/-- Every registration that starts in a reachable state and comes to its end in a run of any
processes by the rules is all or nothing. -/
def EveryCall (ρ : RegistrationRules) : Prop :=
  ∀ (d : Registry) (s t u : RegistrationState) (data : TenantRegisterRequest)
    (ls : List RegistrationLabel) l r, Reaches registrationSystem {} { store := d } s →
    s.step registrationSystem (.spawn (.register data)) = some t →
    AllowedRun registrationSystem ρ t ls → t.run registrationSystem ls = some u →
    u.procs[s.procs.length]? = some ⟨l, .ret r⟩ →
    AllOrNothing data r (t.contributions registrationSystem s.procs.length ls)

/-- The statements of registrations are answered, with ids that no row has. -/
def answers : RegistrationStmt → Choice Exn Env → Registry → Bool
  | .app _, _, _ => true
  | .insert_tenant .., .run v, d => d.tenants.all fun r => r.id != v.uuid
  | .insert_admin .., .run v, d => d.users.all fun r => r.id != v.uuid
  | _, .run _, _ => true
  | _, .fail _, _ => false

/-- No row has the id of a tenant that the transaction has inserted. -/
def drawn : RegistrationStmt → Registry → Bool
  | .insert_admin _ _ _ tenant_id, d => d.tenants.all fun r => r.id != tenant_id
  | _, _ => true

/-- The database answers what it can, and no commit fails. -/
def answered : RegistrationRules where
  stmt s c d := answers s c d = true
  inner s c d := answers s c d && drawn s d
  lossy := false

/-- The text can be sent, and fits its column. -/
def fits (limit : Option ℕ) (text : String) : Bool := (textParam limit (.str text)).isOk

/-- The text that a check looks for can be sent. -/
def readable : RegistrationStmt → Bool
  | .select_tenant_by_email owner_email => fits none owner_email
  | .select_user_by_email email => fits none email
  | .select_tenant_by_phone owner_phone => fits none owner_phone
  | _ => true

/-- The values fit their columns, and no row of the table has the email or the phone. -/
def free : RegistrationStmt → Registry → Bool
  | .insert_tenant business_name owner_email owner_phone _ _, d =>
      fits (some 200) business_name && fits (some 255) owner_email && fits (some 20) owner_phone &&
        (d.profiles.all fun r => r.owner_email != owner_email) &&
        d.tenants.all fun r => r.owner_phone != owner_phone
  | .insert_admin email phone _ _, d =>
      (d.users.all fun r => r.email != email) && d.users.all fun r => r.phone != phone
  | _, _ => true

/-- Moreover, the inserts of registrations meet no row with their email or phone. -/
def clear : RegistrationRules where
  stmt s c d := answers s c d = true ∧ readable s = true
  inner s c d := answers s c d && drawn s d && free s d
  lossy := false

/-- No row has the value. -/
def Absent : RegistrationKey → Registry → Prop
  | .unique .users_email_unique value, d => ∀ u ∈ d.users, Contact.email.of u ≠ value
  | .unique .users_phone_unique value, d => ∀ u ∈ d.users, Contact.phone.of u ≠ value
  | .unique .tenants_owner_email_unique value, d => ∀ r ∈ d.profiles, r.owner_email ≠ value
  | .unique .tenants_owner_phone_unique value, d => ∀ t ∈ d.tenants, t.owner_phone ≠ value
  | _, _ => True

section Keys

variable {v : Env} {d d' : Store} {s : Stmt} {a : s.Res}

/-- A statement that does not lock a contact gives it to no user. -/
theorem users_absent (h : s.eval v d = .ok (a, d')) (c : Contact) {value : String}
    (hk : RegistrationKey.unique c.unique value ∉ s.contacts)
    (habsent : ∀ u ∈ d.users, c.of u ≠ value) : ∀ u ∈ d'.users, c.of u ≠ value := by
  have happend {users : List User} {row : User} (hu : users = d.users ++ [row])
      (hrow : c.of row ≠ value) : ∀ u ∈ users, c.of u ≠ value := by
    rw [hu]
    intro u hmem
    rcases List.mem_append.mp hmem with hmem | hmem
    · exact habsent u hmem
    · rw [List.mem_singleton.mp hmem]
      exact hrow
  have hupdate {p : User → Bool} {f : User → User}
      (hf : ∀ u, c.of (f u) = c.of u ∨ c.of (f u) ≠ value) :
      ∀ u ∈ updateRows p f d.users, c.of u ≠ value := by
    intro u hu
    obtain ⟨u₀, hu₀, rfl⟩ := mem_updateRows.mp hu
    split
    · rcases hf u₀ with hsame | hne
      · rw [hsame]
        exact habsent u₀ hu₀
      · exact hne
    · exact habsent u₀ hu₀
  cases Stmt.onUsers h with
  | insert_guest email phone hashed_password tenant_id =>
      refine happend rfl fun heq => hk ?_
      cases c <;> simp_all [Contact.of, Contact.unique, Stmt.contacts]
  | insert_user email phone hashed_password role reseller_id tenant_id wallet_reference =>
      refine happend rfl fun heq => hk ?_
      cases c <;> simp_all [Contact.of, Contact.unique, Stmt.contacts]
  | set_hashed_password hashed_password id tenant_id =>
      exact hupdate fun u => .inl (by cases c <;> rfl)
  | set_contact c' value' id tenant_id =>
      refine hupdate fun u => ?_
      by_cases hc : c' = c
      · subst hc
        refine .inr fun heq => hk ?_
        have hvalue : value' = value := by
          rw [← heq]
          cases c' <;> rfl
        rw [hvalue]
        exact List.mem_singleton_self _
      · left
        cases c <;> cases c' <;> first | rfl | exact absurd rfl hc
  | other hsame => rwa [hsame]

/-- No statement of the rest of the application changes the phone of a tenant. -/
theorem tenants_absent (h : s.eval v d = .ok (a, d')) {value : String}
    (habsent : ∀ t ∈ d.tenants, t.owner_phone ≠ value) :
    ∀ t ∈ d'.tenants, t.owner_phone ≠ value := by
  have hupdate {p : Tenant → Bool} {f : Tenant → Tenant}
      (hf : ∀ t, (f t).owner_phone = t.owner_phone) :
      ∀ t ∈ updateRows p f d.tenants, t.owner_phone ≠ value := by
    intro t ht
    obtain ⟨t₀, ht₀, rfl⟩ := mem_updateRows.mp ht
    split
    · rw [hf]
      exact habsent t₀ ht₀
    · exact habsent t₀ ht₀
  cases Stmt.onTenants h with
  | extend_tenant id => exact hupdate fun _ => rfl
  | suspend_tenant id => exact hupdate fun _ => rfl
  | set_tenant_status id status => exact hupdate fun _ => rfl
  | other hsame => rwa [hsame]

end Keys

theorem exec_eq_settle (s : RegistrationStmt) (v : Env) (d : Registry) :
    s.exec v d = settle (s.eval v d) d := by
  rw [RegistrationStmt.exec]
  cases s.eval v d with
  | ok r => rfl
  | error e => rfl

theorem exec_eq_ok {s : RegistrationStmt} {v : Env} {d d' : Registry} {a : s.Res} :
    s.exec v d = (.ok a, d') ↔ s.eval v d = .ok (a, d') := by
  rw [exec_eq_settle, settle_eq_ok]

theorem restores : registrationMachine.Restores := .of_settle _ exec_eq_settle

theorem absent_app {s : Stmt} {v : Env} {a : s.Res} {d : Registry} {d' : Store}
    {k : RegistrationKey} (h : s.eval v d.toStore = .ok (a, d')) (hk : k ∉ s.contacts)
    (habsent : Absent k d) : Absent k { d with toStore := d' } := by
  cases k with
  | user id => trivial
  | unique c value =>
      cases c with
      | users_email_unique => exact users_absent h .email hk habsent
      | users_phone_unique => exact users_absent h .phone hk habsent
      | tenants_owner_email_unique => exact habsent
      | tenants_owner_phone_unique => exact tenants_absent h habsent
      | _ => trivial

/-- What the rest of the application leaves alone. -/
theorem Absent.same {d : Registry} {d' : Store} {k : RegistrationKey} (h : Absent k d)
    (husers : d'.users = d.users) (htenants : d'.tenants = d.tenants) :
    Absent k { d with toStore := d' } := by
  cases k with
  | user id => trivial
  | unique c value =>
      cases c with
      | users_email_unique => simpa only [Absent, husers] using h
      | users_phone_unique => simpa only [Absent, husers] using h
      | tenants_owner_email_unique => exact h
      | tenants_owner_phone_unique => simpa only [Absent, htenants] using h
      | _ => trivial

theorem map_eq_ok {s : Stmt} {x : Except Exn (s.Res × Store)} {a : s.Res} {d d' : Registry}
    (h : (x.map fun r => (r.1, { d with toStore := r.2 })) = .ok (a, d')) :
    ∃ d₁, x = .ok (a, d₁) ∧ d' = { d with toStore := d₁ } := by
  cases x with
  | error e => cases h
  | ok r =>
      obtain ⟨b, d₁⟩ := r
      cases h
      exact ⟨d₁, rfl, rfl⟩

/-- A value that a statement does not lock stays absent. -/
theorem absent_exec {s : RegistrationStmt} {v : Env} {a : s.Res} {d d' : Registry}
    {k : RegistrationKey} (h : s.eval v d = .ok (a, d')) (hk : k ∉ s.locks) (habsent : Absent k d) :
    Absent k d' := by
  cases s with
  | app s =>
      obtain ⟨d₁, hs, rfl⟩ := map_eq_ok h
      exact absent_app hs (fun hmem => hk (List.mem_append_right _ hmem)) habsent
  | insert_admin email phone hashed_password tenant_id =>
      obtain ⟨d₁, hs, rfl⟩ := map_eq_ok h
      exact absent_app hs hk habsent
  | insert_tenant business_name owner_email owner_phone subscription_tier max_customers =>
      simp only [RegistrationStmt.eval, Except.bind_eq_ok, check_eq_ok] at h
      obtain ⟨_, -, _, -, _, -, _, -, _, -, _, -, hrow⟩ := h
      cases hrow
      simp only [RegistrationStmt.locks, List.mem_cons, List.not_mem_nil, or_false, not_or] at hk
      cases k with
      | user id => trivial
      | unique c value =>
          cases c with
          | tenants_owner_email_unique =>
              intro r hr
              rcases List.mem_append.mp hr with hr | hr
              · exact habsent r hr
              · rw [List.mem_singleton.mp hr]
                exact fun heq => hk.1 (congrArg _ heq.symm)
          | tenants_owner_phone_unique =>
              intro r hr
              rcases List.mem_append.mp hr with hr | hr
              · exact habsent r hr
              · rw [List.mem_singleton.mp hr]
                exact fun heq => hk.2 (congrArg _ heq.symm)
          | users_email_unique => exact habsent
          | users_phone_unique => exact habsent
          | _ => trivial
  | hash_password password =>
      cases h
      exact habsent
  | _ =>
      simp only [RegistrationStmt.eval, Except.bind_eq_ok, pure, Except.pure, Except.ok.injEq,
        Prod.mk.injEq] at h
      obtain ⟨_, -, -, rfl⟩ := h
      exact habsent

theorem guarded : Guarded registrationSystem clear Absent where
  restores := restores
  start w d d' p k hs habsent := by
    cases w with
    | register data =>
        cases hs
        exact habsent
    | app w =>
        obtain ⟨⟨d₁, q⟩, hstart, heq⟩ := Option.map_eq_some_iff.mp hs
        cases heq
        have hsame : d₁.Same d.toStore .users ∧ d₁.Same d.toStore .tenants := by
          cases w with
          | base w =>
              exact ⟨Spawn.aside_start hstart (by simp), Spawn.aside_start hstart (by simp)⟩
          | call c tenant_id codes =>
              cases hstart
              exact ⟨.refl _ _, .refl _ _⟩
        obtain ⟨husers, htenants⟩ := hsame
        exact habsent.same husers htenants
  edit d d' k he := he.elim
  exec s v a d d' k hx hk habsent := absent_exec (exec_eq_ok.mp hx) hk habsent

theorem textParam_of_fits {limit : Option ℕ} {text : String} (h : fits limit text = true) :
    textParam limit (.str text) = .ok (some text) := by
  rw [fits] at h
  cases hx : textParam limit (.str text) with
  | error e =>
      rw [hx] at h
      cases h
  | ok o =>
      have htext := textParam_eq_ok hx
      cases o with
      | none => cases htext
      | some s =>
          cases htext
          rfl

section Inserts

variable {data : TenantRegisterRequest} {v : Env} {d : Registry}

/-- The insert of the tenant. -/
abbrev tenantInsert (data : TenantRegisterRequest) : RegistrationStmt :=
  .insert_tenant data.business_name data.owner_email data.owner_phone data.subscription_tier
    (TIER_MAX_CUSTOMERS data.subscription_tier)

/-- The registry with a new tenant. -/
def withTenant (x : Registered) (d : Registry) : Registry :=
  { d with tenants := d.tenants ++ [x.tenant], profiles := d.profiles ++ [x.profile] }

/-- The registry with a new user. -/
def withUser (x : Registered) (d : Registry) : Registry := { d with users := d.users ++ [x.user] }

/-- The values of the tenant fit their columns. -/
structure Fits (data : TenantRegisterRequest) : Prop where
  business_name : fits (some 200) data.business_name = true
  email : fits (some 255) data.owner_email = true
  phone : fits (some 20) data.owner_phone = true

theorem tenantInsert_ok (hfits : Fits data) (hid : ∀ t ∈ d.tenants, t.id ≠ v.uuid)
    (habsent : ∀ k ∈ (tenantInsert data).locks, Absent k d) (user_id : UUID) (hashed : String) :
    (tenantInsert data).eval v d = .ok
      (((rows data v.uuid user_id hashed v.now).tenant,
        (rows data v.uuid user_id hashed v.now).profile),
        withTenant (rows data v.uuid user_id hashed v.now) d) := by
  have hemail : ∀ r ∈ d.profiles, r.owner_email ≠ data.owner_email :=
    habsent _ List.mem_cons_self
  have hphone : ∀ t ∈ d.tenants, t.owner_phone ≠ data.owner_phone :=
    habsent _ (List.mem_cons_of_mem _ List.mem_cons_self)
  have hid : (d.tenants.all fun r => r.id != v.uuid) = true := by simpa using hid
  have hemail : (d.profiles.all fun r => r.owner_email != data.owner_email) = true := by
    simpa using hemail
  have hphone : (d.tenants.all fun r => r.owner_phone != data.owner_phone) = true := by
    simpa using hphone
  simp only [RegistrationStmt.eval, textParam_of_fits hfits.business_name,
    textParam_of_fits hfits.email, textParam_of_fits hfits.phone, hid, hemail, hphone, check,
    if_true]
  rfl

theorem adminInsert_ok (hfits : Fits data) {tenant_id : UUID} {hashed : String}
    (htenant : ∃ t ∈ d.tenants, t.id = tenant_id) (hid : ∀ u ∈ d.users, u.id ≠ v.uuid)
    (habsent : ∀ k ∈ (RegistrationStmt.insert_admin data.owner_email data.owner_phone hashed
      tenant_id).locks, Absent k d) (now : Timestamptz) :
    (RegistrationStmt.insert_admin data.owner_email data.owner_phone hashed tenant_id).eval v d =
      .ok ((rows data tenant_id v.uuid hashed now).user,
        withUser (rows data tenant_id v.uuid hashed now) d) := by
  have hemail : ∀ u ∈ d.users, u.email ≠ data.owner_email := habsent _ List.mem_cons_self
  have hphone : ∀ u ∈ d.users, u.phone ≠ data.owner_phone :=
    habsent _ (List.mem_cons_of_mem _ List.mem_cons_self)
  have hid : (d.users.all fun r => r.id != v.uuid) = true := by simpa using hid
  have hemail : (d.users.all fun r => r.email != data.owner_email) = true := by simpa using hemail
  have hphone : (d.users.all fun r => r.phone != data.owner_phone) = true := by simpa using hphone
  have htenant : d.hasTenant tenant_id = true := by simpa [Store.hasTenant] using htenant
  simp only [RegistrationStmt.eval, Stmt.eval, textParam_of_fits hfits.email,
    textParam_of_fits hfits.phone, hid, hemail, hphone, htenant, check, if_true, Option.all_none]
  rfl

end Inserts

section Runs

variable {data : TenantRegisterRequest} {α : Type} {l : Local RegistrationStmt Frame Env}
  {d : Registry}

/-- Every run of the program by the rules, among any other processes, ends with `Q`. -/
abbrev Runs (Q : Except Exn α → List (Registry × Registry) → Prop) (p : RegistrationM α)
    (l : Local RegistrationStmt Frame Env) (d : Registry) : Prop :=
  Contributes registrationMachine clear Absent (fun r cs _ _ => Q r cs) p l d

/-- What a registration has done. -/
def Ended (data : TenantRegisterRequest) (r : Except Exn Registered)
    (cs : List (Registry × Registry)) : Prop :=
  match r with
  | .ok x => Once (Creates data x) cs
  | .error e => (∃ detail, e = .conflict detail) ∧ Silent cs

theorem ended_stutters : Stutters fun r cs (_ : Local RegistrationStmt Frame Env)
    (_ : Registry) => Ended data r cs := by
  intro r cs l d d₁ h
  cases r with
  | ok x => exact h.cons d₁
  | error e => exact ⟨h.1, h.2.cons d₁⟩

/-- The statements before the transaction. -/
def Before : RegistrationStmt → Prop
  | .app _ => False
  | .insert_tenant .. => False
  | .insert_admin .. => False
  | _ => True

theorem Before.answered {s : RegistrationStmt} {c : Choice Exn Env} (hs : Before s)
    (h : answers s c d = true) : ∃ v, c = .run v := by
  cases c with
  | run v => exact ⟨v, rfl⟩
  | fail e =>
      cases s with
      | app s => exact hs.elim
      | _ => cases h

/-- Such a statement leaves the registry alone, and answers if its text can be sent. -/
theorem Before.eval {s : RegistrationStmt} (hs : Before s) (v : Env) (d : Registry) :
    (s.exec v d).2 = d ∧ (readable s = true → ∃ a, s.eval v d = .ok (a, d)) := by
  have hread {text : String} {a : s.Res}
      (h : s.eval v d = (textParam none (.str text) >>= fun _ => pure (a, d)))
      (hreadable : readable s = fits none text) :
      (s.exec v d).2 = d ∧ (readable s = true → ∃ a, s.eval v d = .ok (a, d)) := by
    constructor
    · rw [RegistrationStmt.exec, h]
      cases textParam none (.str text) <;> rfl
    · intro hfits
      rw [h, textParam_of_fits (hreadable ▸ hfits)]
      exact ⟨a, rfl⟩
  cases s with
  | app s => exact hs.elim
  | insert_tenant _ _ _ _ _ => exact hs.elim
  | insert_admin _ _ _ _ => exact hs.elim
  | hash_password password => exact ⟨rfl, fun _ => ⟨v.text, rfl⟩⟩
  | _ => exact hread rfl rfl

/-- A statement before the transaction, and what follows its answer. -/
theorem runs_read {s : RegistrationStmt} {f : s.Res → RegistrationM Registered}
    (hl : l.txn = .none) (hs : Before s) (h : ∀ a d, Runs (Ended data) (f a) l d) :
    Runs (Ended data) (Prog.exec s >>= f) l d := by
  apply contributes_read_bind ended_stutters hl fun v d => (hs.eval v d).1
  · rintro d₁ e ⟨ha, -⟩
    obtain ⟨v, hv⟩ := hs.answered ha
    cases hv
  · rintro d₁ v ⟨-, hreadable⟩
    obtain ⟨a, ha⟩ := (hs.eval v d₁).2 hreadable
    have hx : registrationMachine.exec s v d₁ = (.ok a, d₁) := exec_eq_ok.mpr ha
    rw [hx]
    exact h a d₁

theorem runs_refuse {existing : Option UUID} {detail : String}
    {f : Unit → RegistrationM Registered} (h : Runs (Ended data) (f ()) l d) :
    Runs (Ended data) (refuse existing detail >>= f) l d := by
  cases existing with
  | none => exact h
  | some id => exact ⟨⟨detail, rfl⟩, fun _ hx => by cases hx⟩

/-- The first insert runs where the values are free. -/
theorem free_tenant {c : Choice Exn Env}
    (h : clear.inner (tenantInsert data) c d = true) : ∃ v, c = .run v ∧ Fits data ∧
      (∀ t ∈ d.tenants, t.id ≠ v.uuid) ∧ ∀ k ∈ (tenantInsert data).locks, Absent k d := by
  cases c with
  | fail e => cases h
  | run v =>
      simp only [clear, answers, drawn, free, Bool.and_eq_true, List.all_eq_true, bne_iff_ne] at h
      obtain ⟨⟨hid, -⟩, ⟨⟨⟨hname, hemail⟩, hphone⟩, hemails⟩, hphones⟩ := h
      refine ⟨v, rfl, ⟨hname, hemail, hphone⟩, hid, fun k hk => ?_⟩
      simp only [RegistrationStmt.locks, List.mem_cons, List.not_mem_nil, or_false] at hk
      rcases hk with rfl | rfl
      · exact hemails
      · exact hphones

/-- The second insert runs where the values are free. -/
theorem free_admin {c : Choice Exn Env} {email phone hashed : String} {tenant_id : UUID}
    (h : clear.inner (.insert_admin email phone hashed tenant_id) c d = true) : ∃ v, c = .run v ∧
      (∀ t ∈ d.tenants, t.id ≠ tenant_id) ∧ (∀ u ∈ d.users, u.id ≠ v.uuid) ∧
      ∀ k ∈ (RegistrationStmt.insert_admin email phone hashed tenant_id).locks, Absent k d := by
  cases c with
  | fail e => cases h
  | run v =>
      simp only [clear, answers, drawn, free, Bool.and_eq_true, List.all_eq_true, bne_iff_ne] at h
      obtain ⟨⟨hid, htenant⟩, hemails, hphones⟩ := h
      refine ⟨v, rfl, htenant, hid, fun k hk => ?_⟩
      simp only [RegistrationStmt.locks, List.mem_cons, List.not_mem_nil, or_false] at hk
      rcases hk with rfl | rfl
      · exact hemails
      · exact hphones

/-- The second insert after the first one. -/
theorem admin_after_tenant {v v' : Env} {hashed : String} (hfits : Fits data)
    (hid : ∀ u ∈ d.users, u.id ≠ v'.uuid)
    (habsent : ∀ k ∈ (RegistrationStmt.insert_admin data.owner_email data.owner_phone hashed
      v.uuid).locks, Absent k d) (user_id : UUID) :
    registrationMachine.exec (.insert_admin data.owner_email data.owner_phone hashed v.uuid) v'
      (withTenant (rows data v.uuid user_id hashed v.now) d) =
      (.ok (rows data v.uuid v'.uuid hashed v.now).user,
        withUser (rows data v.uuid v'.uuid hashed v.now)
          (withTenant (rows data v.uuid user_id hashed v.now) d)) := by
  apply exec_eq_ok.mpr
  apply adminInsert_ok hfits
  · exact ⟨(rows data v.uuid user_id hashed v.now).tenant,
      List.mem_append_right _ (List.mem_singleton_self _), rfl⟩
  · exact hid
  · intro k hk
    have habsent := habsent k hk
    simp only [RegistrationStmt.locks, List.mem_cons, List.not_mem_nil, or_false] at hk
    rcases hk with rfl | rfl
    · exact habsent
    · exact habsent

/-- The two inserts on a store on which their values are free. -/
theorem replay_both {v v' : Env} {hashed : String} (hfits : Fits data)
    (hid : ∀ t ∈ d.tenants, t.id ≠ v.uuid) (hid' : ∀ u ∈ d.users, u.id ≠ v'.uuid)
    (htenant : ∀ k ∈ (tenantInsert data).locks, Absent k d)
    (hadmin : ∀ k ∈ (RegistrationStmt.insert_admin data.owner_email data.owner_phone hashed
      v.uuid).locks, Absent k d) :
    registrationMachine.replay [(tenantInsert data, v), (.insert_admin data.owner_email
      data.owner_phone hashed v.uuid, v')] d =
      some (withUser (rows data v.uuid v'.uuid hashed v.now)
        (withTenant (rows data v.uuid v'.uuid hashed v.now) d)) := by
  have hfirst : registrationMachine.exec (tenantInsert data) v d = (.ok _, _) :=
    exec_eq_ok.mpr (tenantInsert_ok hfits hid htenant v'.uuid hashed)
  simp only [Machine.replay, hfirst, admin_after_tenant hfits hid' hadmin]

/-- The commit of both inserts, on a store that has kept their values free. -/
theorem commits_both {v v' : Env} {hashed : String} (hfits : Fits data)
    (hlog : l.txn = .active [(tenantInsert data, v), (.insert_admin data.owner_email
      data.owner_phone hashed v.uuid, v')])
    (habsent : ∀ k ∈ registrationMachine.held l, Absent k d) :
    Commits registrationMachine clear Absent (fun r cs _ _ => Ended data r cs)
      (.ok (rows data v.uuid v'.uuid hashed v.now)) [] l d := by
  refine ⟨_, _, rfl, hlog, (fun _ h => by cases h), fun d₁ c hkept hallow => ?_⟩
  cases c with
  | fail e => simp [Rules.allowsCtl, hlog, clear] at hallow
  | run w =>
      have hfree : ∀ k ∈ registrationMachine.held l, Absent k d₁ :=
        fun k hk => hkept k hk (habsent k hk)
      rw [Machine.held, hlog] at hfree
      simp only [Rules.allowsCtl, hlog, Rules.allowsLog, clear, answers, List.all_eq_true,
        bne_iff_ne] at hallow
      obtain ⟨⟨hid, -⟩, ⟨hid', -⟩, -⟩ := hallow
      have htenant : ∀ k ∈ (tenantInsert data).locks, Absent k d₁ :=
        fun k hk => hfree k (List.mem_append_left _ hk)
      have hadmin : ∀ k ∈ (RegistrationStmt.insert_admin data.owner_email data.owner_phone hashed
          v.uuid).locks, Absent k d₁ :=
        fun k hk => hfree k (List.mem_append_right _ (List.mem_append_left _ hk))
      have hfirst : registrationMachine.exec (tenantInsert data) v d₁ = (.ok _, _) :=
        exec_eq_ok.mpr (tenantInsert_ok hfits hid htenant v'.uuid hashed)
      rw [hfirst] at hid'
      refine ⟨w, _, rfl, replay_both hfits hid hid' htenant hadmin, ?_⟩
      exact ⟨[], _, _, [], rfl, (fun _ h => by cases h), (fun _ h => by cases h),
        v.uuid, v'.uuid, hashed, v.now, rfl, hid, hid', rfl⟩

/-- The transaction creates both rows. -/
theorem runs_transaction (hashed : String) :
    Runs (Ended data) (create_tenant data hashed).transaction l d := by
  refine contributes_transaction ended_stutters fun d₁ => ?_
  refine contributes_logged_bind commits_stutters rfl rfl fun d₂ c _ hinner => ?_
  obtain ⟨v, rfl, hfits, hid, habsent⟩ := free_tenant hinner
  have hfirst (d : Registry) (hid : ∀ t ∈ d.tenants, t.id ≠ v.uuid)
      (habsent : ∀ k ∈ (tenantInsert data).locks, Absent k d) :
      registrationMachine.exec (tenantInsert data) v d = (.ok _, _) :=
    exec_eq_ok.mpr (tenantInsert_ok hfits hid habsent 0 hashed)
  refine ⟨v, d₂, _, rfl, rfl, congrArg Prod.fst (hfirst d₂ hid habsent), ?_⟩
  refine contributes_logged_bind commits_stutters rfl rfl fun d₃ c hkept hinner => ?_
  obtain ⟨v', rfl, htenant, hid', habsent'⟩ := free_admin hinner
  have hheld : ∀ k ∈ (tenantInsert data).locks, Absent k d₃ :=
    fun k hk => hkept k (List.mem_append_left _ hk) (habsent k hk)
  have hview : registrationMachine.replay [(tenantInsert data, v)] d₃ =
      some (withTenant (rows data v.uuid 0 hashed v.now) d₃) := by
    simp only [Machine.replay, hfirst d₃ htenant hheld]
  have hsecond := admin_after_tenant hfits hid' habsent' 0
  refine ⟨v', _, _, rfl, hview, congrArg Prod.fst hsecond, ?_⟩
  apply commits_both hfits rfl
  intro k hk
  simp only [Machine.held, List.nil_append, List.cons_append, List.flatMap_cons, List.flatMap_nil,
    List.append_nil, List.mem_append] at hk
  rcases hk with hk | hk
  · exact hheld k hk
  · exact habsent' k hk

/-- Every end of a registration is all or nothing. -/
theorem runs_register_tenant (hl : l.txn = .none) :
    Runs (Ended data) (register_tenant data) l d := by
  refine runs_read hl trivial fun existing_tenant d => ?_
  apply runs_refuse
  refine runs_read hl trivial fun existing_user d => ?_
  apply runs_refuse
  refine runs_read hl trivial fun existing_phone d => ?_
  apply runs_refuse
  refine runs_read hl trivial fun hashed d => ?_
  exact runs_transaction hashed

end Runs

/-- Every registration is all or nothing in every run in which its inserts meet no row with its
email or phone. -/
theorem registrations_all_or_nothing {d : Registry} {s t u : RegistrationState}
    {data : TenantRegisterRequest} {ls : List RegistrationLabel}
    {l : Local RegistrationStmt Frame Env} {r : Except Exn (Option Registered)}
    (hs : Reaches registrationSystem {} { store := d } s)
    (hspawn : s.step registrationSystem (.spawn (.register data)) = some t)
    (hall : AllowedRun registrationSystem clear t ls)
    (hrun : t.run registrationSystem ls = some u)
    (hend : u.procs[s.procs.length]? = some ⟨l, .ret r⟩) :
    AllOrNothing data r (t.contributions registrationSystem s.procs.length ls) := by
  cases hspawn
  have hcall : Runs (AllOrNothing data) (do
      let result ← register_tenant data
      return some result) {} d := by
    refine Contributes.handle ((runs_register_tenant rfl).mono fun r cs l d h => ?_)
    cases r with
    | ok x =>
        change AllOrNothing data (.ok (some x)) (cs ++ [])
        rw [List.append_nil]
        exact ⟨x, rfl, h⟩
    | error e =>
        change AllOrNothing data (.error e) (cs ++ [])
        rw [List.append_nil]
        exact h
  obtain ⟨d', h⟩ := Contributes.run (p := ⟨{}, do
      let result ← register_tenant data
      return some result⟩) (Q := fun r cs _ _ => AllOrNothing data r cs) guarded
    (hs.exclusive.append _) List.getElem?_concat_length (fun _ hk => by cases hk) hcall hall hrun
    hend
  exact h

section Decidable

variable (s : RegistrationStmt) (c : Choice Exn Env) (w : RegistrationSpawn) (d d' : Registry)

instance : Decidable (({} : RegistrationRules).stmt s c d) := .isTrue trivial

instance : Decidable (({} : RegistrationRules).spawn w d) := .isTrue trivial

instance : Decidable (({} : RegistrationRules).edit d d') := .isFalse not_false

instance : Decidable (answered.stmt s c d) := inferInstanceAs (Decidable (answers s c d = true))

instance : Decidable (answered.spawn w d) := .isTrue trivial

instance : Decidable (answered.edit d d') := .isFalse not_false

instance : Decidable (clear.stmt s c d) :=
  inferInstanceAs (Decidable (answers s c d = true ∧ readable s = true))

instance : Decidable (clear.spawn w d) := .isTrue trivial

instance : Decidable (clear.edit d d') := .isFalse not_false

end Decidable

/-- What a process has ended with. -/
def ending (p : Proc RegistrationStmt RegistrationStmt.Res Frame Exn Env (Option Registered)) :
    Option (Except Exn (Option Registered)) :=
  match p.prog with
  | .ret r => some r
  | _ => none

theorem ending_eq_some
    {p : Proc RegistrationStmt RegistrationStmt.Res Frame Exn Env (Option Registered)}
    {r : Except Exn (Option Registered)} (h : ending p = some r) : p = ⟨p.loc, .ret r⟩ := by
  obtain ⟨l, prog⟩ := p
  cases prog with
  | ret r' =>
      cases h
      rfl
  | ctl ct k => cases h
  | stmt s k => cases h

/-- A tenant registers, and its admin creates a customer. -/
def aCustomer : List RegistrationLabel :=
  .spawn (.register {
    business_name := "Fast Net", owner_email := "a@example.com", owner_phone := "254700000001"
    password := "password" }) :: List.replicate 8 (.step 0 (.run { uuid := 1 })) ++
  .spawn (.app (.call (.create_customer {
    email := "c@example.com", phone := "254700000003", password := "password" } none) 1 [])) ::
    List.replicate 3 (.step 1 (.run { uuid := 2 }))

/-- The customer wants to become a tenant. -/
def secondTenant : TenantRegisterRequest where
  business_name := "Second Net"
  owner_email := "b@example.com"
  owner_phone := "254700000003"
  password := "password"

/-- A tenant with a phone that nobody has. -/
def thirdTenant : TenantRegisterRequest := { secondTenant with owner_phone := "254700000004" }

/-- The steps of the second registration. -/
def secondCall : List RegistrationLabel := List.replicate 8 (.step 2 (.run { uuid := 3 }))

/-- The run of a registration after the customer has been created. -/
theorem secondRun {ρ : RegistrationRules} {data : TenantRegisterRequest}
    {r : Except Exn (Option Registered)}
    (hallowed : AllowedRun registrationSystem ρ { store := {} }
      (aCustomer ++ .spawn (.register data) :: secondCall))
    (hrun : (State.run registrationSystem { store := {} }
      (aCustomer ++ .spawn (.register data) :: secondCall)).map
        (fun u => (u.procs[2]?).bind ending) = some (some r)) :
    ∃ s t u l, Reaches registrationSystem {} { store := {} } s ∧
      s.step registrationSystem (.spawn (.register data)) = some t ∧
      AllowedRun registrationSystem ρ t secondCall ∧
      t.run registrationSystem secondCall = some u ∧
      u.procs[s.procs.length]? = some ⟨l, .ret r⟩ := by
  obtain ⟨u, hu, hend⟩ := Option.map_eq_some_iff.mp hrun
  obtain ⟨s, hs, hlength⟩ := Option.map_eq_some_iff.mp (show
    (State.run registrationSystem { store := {} } aCustomer).map (·.procs.length) = some 2 by
      decide +kernel)
  have hreached : Reaches registrationSystem {} { store := {} } s :=
    .of_run (by decide +kernel) hs
  rw [State.run_append, hs, Option.bind_some, State.run] at hu
  obtain ⟨t, ht, hu⟩ := Option.bind_eq_some_iff.mp hu
  obtain ⟨p, hp, hending⟩ := Option.bind_eq_some_iff.mp hend
  rw [ending_eq_some hending, ← hlength] at hp
  exact ⟨s, t, u, p.loc, hreached, ht, (hallowed.append hs).2.2 t ht, hu, hp⟩

/-- The registration of the third tenant creates its rows. -/
theorem registrations_all_or_nothing_third : ∃ s t,
    Reaches registrationSystem {} { store := {} } s ∧
    s.step registrationSystem (.spawn (.register thirdTenant)) = some t ∧
    AllOrNothing thirdTenant (.ok (some (rows thirdTenant 3 3 "" 0)))
      (t.contributions registrationSystem s.procs.length secondCall) := by
  obtain ⟨s, t, u, l, hs, ht, hall, hu, hend⟩ := @secondRun clear thirdTenant
    (.ok (some (rows thirdTenant 3 3 "" 0))) (by decide +kernel) (by decide +kernel)
  exact ⟨s, t, hs, ht, registrations_all_or_nothing hs ht hall hu hend⟩

/-- A customer who registers a tenant with the same phone gets a unique violation. -/
theorem not_registrations_all_or_nothing : ¬ EveryCall answered := by
  intro h
  obtain ⟨s, t, u, l, hs, ht, hall, hu, hend⟩ := @secondRun answered secondTenant
    (.error (.uniqueViolation .users_phone_unique)) (by decide +kernel) (by decide +kernel)
  obtain ⟨detail, hdetail⟩ := (h {} s t u secondTenant secondCall l _ hs ht hall hu hend).1
  cases hdetail

end TenantRegistration

end FrixelConnect
