import FrixelConnect.TenantRegistration

/-!
# The administration of users

An admin changes any columns of a user of the tenant. The email and the phone are looked for
among the other users of the tenant, and one statement then writes all columns of the request.

## Implementation notes

A field of the request is left out, `null`, or given. A comparison with `NULL` finds no row, so
no query is made for it. Every key of the request has a column, hence the `SET` clause is empty
only for an empty request.
-/

namespace FrixelConnect

open Python Interleaving

structure AdminUserUpdate where
  email : Option (Option String) := none
  phone : Option (Option String) := none
  password : Option (Option String) := none
  role : Option (Option Role) := none
  reseller_id : Option (Option UUID) := none
  is_active : Option (Option Bool) := none
  deriving DecidableEq

/-- The columns of the `SET` clause. -/
structure UserChanges where
  email : Option (Option String) := none
  phone : Option (Option String) := none
  hashed_password : Option String := none
  role : Option (Option Role) := none
  reseller_id : Option (Option UUID) := none
  is_active : Option (Option Bool) := none
  deriving DecidableEq

namespace UserChanges

variable (c : UserChanges)

/-- No column that must have a value is set to `NULL`. -/
def complete : Bool :=
  c.email != some none && c.phone != some none && c.role != some none && c.is_active != some none

def set (u : User) : User :=
  { u with
    email := c.email.join.getD u.email
    phone := c.phone.join.getD u.phone
    hashed_password := c.hashed_password.getD u.hashed_password
    role := c.role.join.getD u.role
    reseller_id := c.reseller_id.getD u.reseller_id
    is_active := c.is_active.join.getD u.is_active }

/-- The values for the unique indexes. -/
def contacts : List RegistrationKey :=
  c.email.join.toList.map (.unique .users_email_unique) ++
    c.phone.join.toList.map (.unique .users_phone_unique)

end UserChanges

/-- The statements of the application, and the update of an admin. -/
inductive DirectoryStmt where
  | base (s : RegistrationStmt)
  | update_user (changes : UserChanges) (user_id tenant_id : UUID)

namespace DirectoryStmt

abbrev Res : DirectoryStmt → Type
  | .base s => s.Res
  | .update_user .. => Option User

def inTx : DirectoryStmt → Bool
  | .base s => s.inTx
  | .update_user .. => true

def locks : DirectoryStmt → List RegistrationKey
  | .base s => s.locks
  | .update_user changes user_id _ => .user user_id :: changes.contacts

/-- What a statement answers and the registry after it, or what it raises. -/
def eval (v : Env) (d : Registry) : (s : DirectoryStmt) → Except Exn (s.Res × Registry)
  | .base s => s.eval v d
  | .update_user changes user_id tenant_id => do
      let p (r : User) : Bool := r.id == user_id && r.tenant_id == tenant_id
      let _ ← textParam (some 255) ((changes.email.join.map Json.str).getD .null)
      let _ ← textParam (some 20) ((changes.phone.join.map Json.str).getD .null)
      check (!d.users.any p || changes.complete)
        (.database "null value violates not-null constraint")
      check (!d.users.any p || changes.email.join.all fun email =>
        d.users.all fun r => p r || r.email != email) (.uniqueViolation .users_email_unique)
      check (!d.users.any p || changes.phone.join.all fun phone =>
        d.users.all fun r => p r || r.phone != phone) (.uniqueViolation .users_phone_unique)
      check (!d.users.any p || changes.reseller_id.join.all d.hasUser)
        (.database "users_reseller_id_fkey")
      let users := updateRows p changes.set d.users
      pure (fetchrow v.pick p users, { d with users })

/-- A statement that raises leaves the registry as it was. -/
def exec (s : DirectoryStmt) (v : Env) (d : Registry) : Except Exn s.Res × Registry :=
  match s.eval v d with
  | .ok r => (.ok r.1, r.2)
  | .error e => (.error e, d)

end DirectoryStmt

abbrev DirectoryM := Prog DirectoryStmt DirectoryStmt.Res Frame Exn

def directoryMachine :
    Machine DirectoryStmt DirectoryStmt.Res Exn Registry Env RegistrationKey where
  exec := DirectoryStmt.exec
  inTx := DirectoryStmt.inTx
  locks := DirectoryStmt.locks
  aborted := .inFailedTransaction

/-- A statement of the application. -/
def execApp (s : Stmt) : DirectoryM s.Res :=
  Prog.exec (DirectoryStmt.base (.app s))

/-- The hash of the password of the request. -/
def hash_new_password : Option (Option String) → DirectoryM (Option String)
  | none => pure none
  | some none => throw (.exception "'NoneType' object has no attribute 'encode'")
  | some (some password) => do
      let hashed ← execApp (.hash_password password)
      return some hashed

/-- Refuse a contact that another user of the tenant has. -/
def refuse_taken (c : Contact) (value : Option (Option String)) (current : User)
    (user_id tenant_id : UUID) (detail : String) : DirectoryM Unit :=
  match c.wanted value.join current with
  | none => pure ()
  | some value => do
      let existing ← execApp (.select_other_user c value tenant_id user_id)
      if existing.isSome then
        throw (.conflict detail)

/-- `dict(row)`. -/
def dictRow : Option User → DirectoryM User
  | some row => pure row
  | none => throw (.fault .typeError)

def admin_update_user (tenant_id user_id : UUID) (data : AdminUserUpdate) : DirectoryM User := do
  let current ← execApp (.select_contact user_id tenant_id)
  match current with
  | none => throw (.notFound "User" (str user_id))
  | some current => do
      let hashed_password ← hash_new_password data.password
      refuse_taken .email data.email current user_id tenant_id "Email already in use."
      refuse_taken .phone data.phone current user_id tenant_id "Phone already in use."
      if data = {} then
        let row ← execApp (.select_contact user_id tenant_id)
        dictRow row
      else
        let changes : UserChanges := {
          email := data.email, phone := data.phone, hashed_password, role := data.role
          reseller_id := data.reseller_id, is_active := data.is_active }
        let row ← Prog.exec (DirectoryStmt.update_user changes user_id tenant_id)
        dictRow row

/-- The processes of the application with registrations, and the updates of admins. -/
inductive DirectorySpawn where
  | base (w : RegistrationSpawn)
  | admin_update_user (tenant_id user_id : UUID) (data : AdminUserUpdate)

def DirectorySpawn.start (w : DirectorySpawn) (d : Registry) :
    Option (Registry × DirectoryM Unit) :=
  match w with
  | .base w => (w.start d).map fun r =>
      (r.1, do
        let _ : Option Registered ← Prog.embed DirectoryStmt.base r.2
        return ())
  | .admin_update_user tenant_id user_id data => some (d, do
      let _ ← FrixelConnect.admin_update_user tenant_id user_id data
      return ())

def directorySystem : System DirectoryStmt DirectoryStmt.Res Frame Exn Registry Env
    RegistrationKey Unit DirectorySpawn :=
  { directoryMachine with start := DirectorySpawn.start }

abbrev DirectoryState :=
  State DirectoryStmt DirectoryStmt.Res Frame Exn Registry Env Unit

abbrev DirectoryRules := Rules DirectoryStmt Exn Registry Env DirectorySpawn

abbrev DirectoryLabel := Label Exn Registry Env DirectorySpawn

namespace DirectoryStmt

section Effects

variable {v : Env} {d d' : Registry}

theorem exec_eq_settle (s : DirectoryStmt) (v : Env) (d : Registry) :
    s.exec v d = settle (s.eval v d) d := by
  rw [exec]
  cases s.eval v d with
  | ok r => rfl
  | error e => rfl

theorem exec_eq_ok {s : DirectoryStmt} {a : s.Res} :
    s.exec v d = (.ok a, d') ↔ s.eval v d = .ok (a, d') := by
  rw [exec_eq_settle, settle_eq_ok]

theorem restores : directoryMachine.Restores := .of_settle _ exec_eq_settle

/-- The phone that the statement writes, and the rows that it writes it to. -/
def phone : DirectoryStmt → Option (String × (User → Bool))
  | .base (.app (.insert_guest _ phone ..)) => some (phone, fun _ => false)
  | .base (.app (.insert_user _ phone ..)) => some (phone, fun _ => false)
  | .base (.app (.set_contact .phone value id tenant_id)) =>
      some (value, fun r => r.id == id && r.tenant_id == tenant_id)
  | .base (.insert_admin _ phone ..) => some (phone, fun _ => false)
  | .update_user changes user_id tenant_id => changes.phone.join.map fun phone =>
      (phone, fun r => r.id == user_id && r.tenant_id == tenant_id)
  | _ => none

/-- What a statement that writes the phone does to the users. -/
inductive UsersStep (written : Option (String × (User → Bool))) (users : List User) :
    List User → Prop
  | insert (row : User) (hid : ∀ u ∈ users, u.id ≠ row.id)
      (hphone : written = some (row.phone, fun _ => false)) :
      UsersStep written users (users ++ [row])
  | update (p : User → Bool) (f : User → User) (hid : ∀ u, (f u).id = u.id)
      (hone : ∀ u w, p u = true → p w = true → u.id = w.id)
      (hphone : (∀ u, (f u).phone = u.phone) ∨
        ∃ value, written = some (value, p) ∧ ∀ u, (f u).phone = value) :
      UsersStep written users (updateRows p f users)
  | same : UsersStep written users users

theorem own_id {id tenant_id : UUID} (u w : User)
    (hu : (u.id == id && u.tenant_id == tenant_id) = true)
    (hw : (w.id == id && w.tenant_id == tenant_id) = true) : u.id = w.id := by
  simp only [Bool.and_eq_true, beq_iff_eq] at hu hw
  rw [hu.1, hw.1]

theorem usersStep_app {s : Stmt} {a : s.Res} {d d' : Store} (h : s.eval v d = .ok (a, d')) :
    UsersStep (phone (.base (.app s))) d.users d'.users := by
  cases Stmt.onUsers h with
  | insert_guest email phone hashed_password tenant_id hid => exact .insert _ hid rfl
  | insert_user email phone hashed_password role reseller_id tenant_id wallet_reference hid =>
      exact .insert _ hid rfl
  | set_hashed_password hashed_password id tenant_id =>
      exact .update _ _ (fun _ => rfl) own_id (.inl fun _ => rfl)
  | set_contact c value id tenant_id =>
      cases c with
      | email => exact .update _ _ (fun _ => rfl) own_id (.inl fun _ => rfl)
      | phone => exact .update _ _ (fun _ => rfl) own_id (.inr ⟨value, rfl, fun _ => rfl⟩)
  | other hsame =>
      rw [hsame]
      exact .same

theorem usersStep {s : DirectoryStmt} {a : s.Res} (h : s.eval v d = .ok (a, d')) :
    UsersStep s.phone d.users d'.users := by
  cases s with
  | base s =>
      cases s with
      | app s =>
          obtain ⟨d₁, hs, rfl⟩ := TenantRegistration.map_eq_ok h
          exact usersStep_app hs
      | insert_admin email phone hashed_password tenant_id =>
          obtain ⟨d₁, hs, rfl⟩ := TenantRegistration.map_eq_ok h
          exact usersStep_app hs
      | insert_tenant business_name owner_email owner_phone subscription_tier max_customers =>
          simp only [eval, RegistrationStmt.eval, Except.bind_eq_ok, check_eq_ok] at h
          obtain ⟨_, -, _, -, _, -, _, -, _, -, _, -, hrow⟩ := h
          cases hrow
          exact .same
      | hash_password password =>
          cases h
          exact .same
      | _ =>
          simp only [eval, RegistrationStmt.eval, Except.bind_eq_ok, pure, Except.pure,
            Except.ok.injEq, Prod.mk.injEq] at h
          obtain ⟨_, -, -, rfl⟩ := h
          exact .same
  | update_user changes user_id tenant_id =>
      simp only [eval, Except.bind_eq_ok, check_eq_ok] at h
      obtain ⟨_, -, _, -, _, -, _, -, _, -, _, -, hrow⟩ := h
      cases hrow
      refine .update _ _ (fun _ => rfl) own_id ?_
      cases hphone : changes.phone.join with
      | none => exact .inl fun u => by simp [UserChanges.set, hphone]
      | some value =>
          exact .inr ⟨value, by simp [phone, hphone], fun u => by simp [UserChanges.set, hphone]⟩

theorem tenants_app {s : Stmt} {a : s.Res} {d d' : Store} (h : s.eval v d = .ok (a, d'))
    (hids : (d.tenants.map (·.id)).Nodup) : (d'.tenants.map (·.id)).Nodup := by
  cases Stmt.onTenants h with
  | extend_tenant id => exact nodup_updateRows _ (fun _ => rfl) hids
  | suspend_tenant id => exact nodup_updateRows _ (fun _ => rfl) hids
  | set_tenant_status id status => exact nodup_updateRows _ (fun _ => rfl) hids
  | other hsame => rwa [hsame]

theorem tenants_nodup {s : DirectoryStmt} {a : s.Res} (h : s.eval v d = .ok (a, d'))
    (hids : (d.tenants.map (·.id)).Nodup) : (d'.tenants.map (·.id)).Nodup := by
  cases s with
  | base s =>
      cases s with
      | app s =>
          obtain ⟨d₁, hs, rfl⟩ := TenantRegistration.map_eq_ok h
          exact tenants_app hs hids
      | insert_admin email phone hashed_password tenant_id =>
          obtain ⟨d₁, hs, rfl⟩ := TenantRegistration.map_eq_ok h
          exact tenants_app hs hids
      | insert_tenant business_name owner_email owner_phone subscription_tier max_customers =>
          simp only [eval, RegistrationStmt.eval, Except.bind_eq_ok, check_eq_ok] at h
          obtain ⟨_, -, _, -, _, -, _, hid, _, -, _, -, hrow⟩ := h
          cases hrow
          simp only [List.all_eq_true, bne_iff_ne] at hid
          exact nodup_map_concat _ hids hid
      | hash_password password =>
          cases h
          exact hids
      | _ =>
          simp only [eval, RegistrationStmt.eval, Except.bind_eq_ok, pure, Except.pure,
            Except.ok.injEq, Prod.mk.injEq] at h
          obtain ⟨_, -, -, rfl⟩ := h
          exact hids
  | update_user changes user_id tenant_id =>
      simp only [eval, Except.bind_eq_ok, check_eq_ok] at h
      obtain ⟨_, -, _, -, _, -, _, -, _, -, _, -, hrow⟩ := h
      cases hrow
      exact hids

end Effects

end DirectoryStmt

/-- The primary keys of tenants and users. -/
structure Registry.Keyed (d : Registry) : Prop where
  tenants : (d.tenants.map (·.id)).Nodup
  users : (d.users.map (·.id)).Nodup

theorem DirectoryStmt.UsersStep.nodup {written : Option (String × (User → Bool))}
    {users users' : List User} (h : UsersStep written users users')
    (hids : (users.map (·.id)).Nodup) : (users'.map (·.id)).Nodup := by
  cases h with
  | insert row hid _ => exact nodup_map_concat _ hids hid
  | update p f hid _ _ => exact nodup_updateRows _ hid hids
  | same => exact hids

/-- No process starts with a change of the tenants or the users. -/
theorem DirectorySpawn.start_same {w : DirectorySpawn} {d d' : Registry} {p : DirectoryM Unit}
    (h : w.start d = some (d', p)) : d'.tenants = d.tenants ∧ d'.users = d.users := by
  cases w with
  | base w =>
      obtain ⟨⟨d₁, q⟩, hstart, heq⟩ := Option.map_eq_some_iff.mp h
      cases heq
      cases w with
      | app w =>
          obtain ⟨⟨d₂, q⟩, happ, heq⟩ := Option.map_eq_some_iff.mp hstart
          cases heq
          cases w with
          | base w =>
              exact ⟨Spawn.aside_start happ (T := .tenants) (by simp),
                Spawn.aside_start happ (T := .users) (by simp)⟩
          | call c tenant_id codes =>
              cases happ
              exact ⟨rfl, rfl⟩
      | register data =>
          cases hstart
          exact ⟨rfl, rfl⟩
  | admin_update_user tenant_id user_id data =>
      cases h
      exact ⟨rfl, rfl⟩

/-- The keys stay distinct, and so does whatever else the statements keep. -/
theorem keyed_rule {ρ : DirectoryRules} {I : List User → Prop}
    (hedit : ∀ d d', ¬ ρ.edit d d')
    (hstmt : ∀ (s : DirectoryStmt) (v : Env) (d : Registry) users, ρ.stmt s (.run v) d → d.Keyed →
      DirectoryStmt.UsersStep s.phone d.users users → I d.users → I users) :
    StoreRule directorySystem ρ (fun _ => True) fun d => d.Keyed ∧ I d.users where
  restores := DirectoryStmt.restores
  start w d d' p _ hd hs := by
    obtain ⟨htenants, husers⟩ := DirectorySpawn.start_same hs
    exact ⟨⟨⟨by rw [htenants]; exact hd.1.tenants, by rw [husers]; exact hd.1.users⟩,
      by rw [husers]; exact hd.2⟩, p.all_true⟩
  edit d d' he := (hedit d d' he).elim
  stmt s v d a d' _ hr hd hx := by
    have he := DirectoryStmt.exec_eq_ok.mp hx
    have husers := DirectoryStmt.usersStep he
    exact ⟨⟨DirectoryStmt.tenants_nodup he hd.1.tenants, husers.nodup hd.1.users⟩,
      hstmt s v d d'.users hr hd.1 husers hd.2⟩

end FrixelConnect
