import FrixelConnect.Users
import FrixelConnect.Effects
import FrixelConnect.Interleaving.StoreRule
import FrixelConnect.Specs.Outcome

/-!
# Calls of one tenant and the rows of the others

A call about an account does for its tenant what it would do if the tenant were alone
in the database, up to generated ids, exactly when the contacts that it writes fit
their columns and nobody holds them. The checks of the calls look at their own tenant
only, so that a row of another tenant makes the database refuse the write.
-/

namespace FrixelConnect

open Interleaving Python

/-- The rows of a tenant. -/
def Store.ofTenant (d : Store) (tenant_id : UUID) : Store where
  tenants := d.tenants.filter fun r => r.id == tenant_id
  users := d.users.filter fun r => r.tenant_id == tenant_id
  packages := d.packages.filter fun r => r.tenant_id == tenant_id
  payments := d.payments.filter fun r => r.tenant_id == tenant_id
  platform_payments := d.platform_payments.filter fun r => r.tenant_id == tenant_id
  vouchers := d.vouchers.filter fun r => r.tenant_id == tenant_id
  radcheck := d.radcheck.filter fun r => r.tenant_id == tenant_id
  radreply := d.radreply.filter fun r => r.tenant_id == tenant_id
  wallet_transactions := d.wallet_transactions.filter fun r => r.tenant_id == tenant_id
  queue := d.queue.filter fun r => r.tenant_id == tenant_id

/-- The exceptions of the application, as opposed to those of the database driver. -/
def Exn.isDomain : Exn → Bool
  | .notFound .. => true
  | .unauthorised _ => true
  | .forbidden _ => true
  | .conflict _ => true
  | .payment _ => true
  | .insufficientBalance _ => true
  | _ => false

/-- An account without what is generated with it, unless its id was known before. -/
def User.blank (known : List UUID) (u : User) : User :=
  if u.id ∈ known then u
  else { u with id := 0, wallet_reference := u.wallet_reference.map fun _ => "" }

def AccountReply.blank (known : List UUID) : AccountReply → AccountReply
  | .user row => .user (row.blank known)
  | .id i => .id (if i ∈ known then i else 0)

/-- An update of the password of a user. -/
def Store.setPassword (d : Store) (hashed_password : String) (id tenant_id : UUID) : Store :=
  let users := updateRows (fun r => r.id == id && r.tenant_id == tenant_id)
    (fun r => { r with hashed_password }) d.users
  { d with users }

/-- An update of a contact of a user. -/
def Store.setContact (d : Store) (c : Contact) (value : String) (id tenant_id : UUID) : Store :=
  let users := updateRows (fun r => r.id == id && r.tenant_id == tenant_id) (c.set value) d.users
  { d with users }

def Store.blank (d : Store) (known : List UUID) : Store :=
  { d with users := d.users.map (User.blank known) }

/-- The statement creates an account, with a generated id. -/
def Stmt.createsUser : Stmt → Bool
  | .insert_guest .. => true
  | .insert_user .. => true
  | _ => false

namespace TenantIsolation

/-- The ids of the accounts of a tenant. -/
def known (tenant_id : UUID) (d : Store) : List UUID := (d.ofTenant tenant_id).users.map (·.id)

/-- What is generated for a new account: its id, and the codes for a wallet reference. -/
structure Draws where
  id : UUID
  codes : List String

section Run

variable (answers : Stmt → Env) (x : Draws)

/-- The environment answers every statement; new accounts get the generated id. -/
def envOf (id : UUID) (s : Stmt) : Env :=
  if s.createsUser then { answers s with uuid := id } else answers s

def fate (id : UUID) : Solo.Fate Stmt Exn Env where
  stmt s := .run (envOf answers id s)
  commit := .run {}

/-- A program that runs alone. -/
def alone {α : Type} (p : M α) (d : Store) : Except Exn α × Store × RunLocal :=
  Solo.outcome machine (fate answers x.id) p d {}

variable (tenant_id : UUID) (call : AccountCall) (d : Store)

/-- The call runs alone in the tenant. -/
def run : Except Exn AccountReply × Store × RunLocal :=
  alone answers x (call.program tenant_id x.codes) d

/-- What the tenant sees of a run: the result and its own rows. -/
def seen (r : Except Exn AccountReply × Store × RunLocal) : Except Exn AccountReply × Store :=
  (r.1.map (AccountReply.blank (known tenant_id d)),
    (r.2.1.ofTenant tenant_id).blank (known tenant_id d))

/-- What the tenant sees of a call. -/
def view : Except Exn AccountReply × Store :=
  seen tenant_id d (run answers x tenant_id call d)

/-- The same call in two stores: it succeeds in both, or ends in both with the same exception of
the application, and leaves the same rows of the tenant. -/
structure Isolated (x' : Draws) (d' : Store) : Prop where
  same : view answers x tenant_id call d = view answers x' tenant_id call d'
  domain : ∀ e, (run answers x tenant_id call d).1 = .error e → e.isDomain = true
  unique : ∀ c, (run answers x tenant_id call d).1 ≠ .error (.uniqueViolation c) ∧
    (run answers x' tenant_id call d').1 ≠ .error (.uniqueViolation c)

end Run

/-- A text that can be sent to the database, and one that fits a column as well. -/
def fits (limit : Option ℕ) (s : String) : Bool :=
  !s.toList.contains (Char.ofNat 0) && limit.all fun n => decide (s.length ≤ n)

section Clear

variable (d : Store) (tenant_id : UUID)

/-- No user of any tenant has the contact. -/
def Free (c : Contact) (value : String) : Prop := ∀ u ∈ d.users, c.of u ≠ value

instance (c : Contact) (value : String) : Decidable (Free d c value) :=
  inferInstanceAs (Decidable (∀ u ∈ d.users, _))

/-- The contact fits its column and nobody has it. -/
def Writable (c : Contact) (value : String) : Prop :=
  fits (some c.limit) value = true ∧ Free d c value

/-- The tenant has a user with the email or the phone. -/
def Exists (email phone : String) : Prop :=
  ∃ u ∈ d.users, u.tenant_id = tenant_id ∧ (u.email = email ∨ u.phone = phone)

/-- Another user of the tenant has the contact. -/
def Taken (c : Contact) (value : String) (id : UUID) : Prop :=
  ∃ u ∈ d.users, u.tenant_id = tenant_id ∧ u.id ≠ id ∧ c.of u = value

/-- An account is refused for the tenant's own users, or can be written. -/
def Creatable (email phone : String) (reseller_id : Option UUID) : Prop :=
  fits none email = true ∧ fits none phone = true ∧ (Exists d tenant_id email phone ∨
    Writable d .email email ∧ Writable d .phone phone ∧ reseller_id.all d.hasUser = true)

/-- A change of a contact is refused for the tenant's own users, or can be written. -/
def Changeable (c : Contact) (value : Option String) (user : User) : Prop :=
  ∀ s ∈ c.wanted value user, fits none s = true ∧
    (Taken d tenant_id c s user.id ∨ Writable d c s)

/-- A change of a contact is refused. -/
def Refused (c : Contact) (value : Option String) (user : User) : Prop :=
  ∃ s ∈ c.wanted value user, Taken d tenant_id c s user.id

/-- The email address of a guest. -/
def guestEmail (answers : Stmt → Env) (phone : String) : String :=
  "guest-" ++ phone ++ "-" ++ front 6 (hex (answers .uuid4).uuid) ++ "@guest.example.com"

/-- Nobody holds what the call writes, and it can be stored. -/
def Clear (answers : Stmt → Env) : AccountCall → Prop
  | .register_user email phone _ _ => Creatable d tenant_id email phone none
  | .create_customer data reseller_id => Creatable d tenant_id data.email data.phone reseller_id
  | .admin_create_user data => Creatable d tenant_id data.email data.phone data.reseller_id
  | .update_my_profile user_id data => ∀ user ∈ d.users, user.id = user_id →
      user.tenant_id = tenant_id → Changeable d tenant_id .phone data.phone user ∧
        (¬ Refused d tenant_id .phone data.phone user →
          Changeable d tenant_id .email data.email user)
  | .get_or_create_guest_customer phone =>
      (∃ u ∈ d.users, u.tenant_id = tenant_id ∧ u.phone = phone) ∨
        Writable d .email (guestEmail answers phone) ∧ Writable d .phone phone

end Clear

/-- A store of the schema in which the tenant exists, and draws that are new in it. -/
structure Lawful (tenant_id : UUID) (x : Draws) (d : Store) : Prop where
  ids : (d.users.map (·.id)).Nodup
  tenant : d.hasTenant tenant_id = true
  fresh : ∀ u ∈ d.users, u.id ≠ x.id
  drawn : ∃ code ∈ x.codes, ∀ u ∈ d.users, u.wallet_reference ≠ some ("WS" ++ code)

section Expected

variable (answers : Stmt → Env) (tenant_id : UUID) (t : Store)

/-- The user of the tenant that a new account collides with. -/
def colliding (email phone : String) : Option User :=
  fetchrow (answers (.select_user_by_contact email phone tenant_id)).pick
    (fun r => r.email == email || r.phone == phone) t.users

/-- A new account, from the rows of the tenant only. -/
def expectedAccount (email phone password : String) (role : Role) (reseller_id : Option UUID)
    (wallet : Bool) : Except Exn AccountReply × Store :=
  match colliding answers tenant_id t email phone with
  | some existing =>
      (.error (if existing.email = email then Contact.email.conflict else Contact.phone.conflict), t)
  | none =>
      let row : User := {
        id := 0, email, phone, hashed_password := (answers (.hash_password password)).text, role
        reseller_id, tenant_id, wallet_reference := if wallet then some "" else none }
      (.ok (.user row), { t with users := t.users ++ [row] })

/-- The row of a user of the tenant. -/
def profile (user_id : UUID) : Option User :=
  fetchrow (answers (.select_contact user_id tenant_id)).pick (fun r => r.id == user_id) t.users

/-- The rows after a new password. -/
def withPassword (password : Option String) (user_id : UUID) : Store :=
  match password with
  | none => t
  | some password => t.setPassword (answers (.hash_password password)).text user_id tenant_id

/-- The rows after the change of a contact, unless another user of the tenant has it. -/
def withContact (c : Contact) (value : Option String) (user : User) (user_id : UUID) :
    Option Store :=
  match c.wanted value user with
  | none => some t
  | some s =>
      if t.users.any fun r => c.of r == s && r.id != user_id then none
      else some (t.setContact c s user_id tenant_id)

/-- A new profile, from the rows of the tenant only. -/
def expectedProfile (user_id : UUID) (data : UserUpdate) : Except Exn AccountReply × Store :=
  match profile answers tenant_id t user_id with
  | none => (.error (.notFound "User" (str user_id)), t)
  | some user =>
      let t := withPassword answers tenant_id t data.password user_id
      match withContact tenant_id t .phone data.phone user user_id with
      | none => (.error Contact.phone.conflict, t)
      | some t =>
          match withContact tenant_id t .email data.email user user_id with
          | none => (.error Contact.email.conflict, t)
          | some t =>
              match profile answers tenant_id t user_id with
              | none => (.error (.notFound "User" (str user_id)), t)
              | some user => (.ok (.user user), t)

/-- The user of the tenant with a phone. -/
def holder (phone : String) : Option User :=
  fetchrow (answers (.select_user_by_phone phone tenant_id)).pick (fun r => r.phone == phone)
    t.users

/-- The customer with a phone, from the rows of the tenant only. -/
def expectedGuest (phone : String) : Except Exn AccountReply × Store :=
  match holder answers tenant_id t phone with
  | some user => (.ok (.id user.id), t)
  | none =>
      let password := hex (answers .uuid4).uuid
      let row : User := {
        id := 0, email := guestEmail answers phone, phone
        hashed_password := (answers (.hash_password password)).text, tenant_id }
      (.ok (.id 0), { t with users := t.users ++ [row] })

/-- What a call does for a tenant that is alone in the database. -/
def expected : AccountCall → Except Exn AccountReply × Store
  | .register_user email phone password role =>
      expectedAccount answers tenant_id t email phone password role none (role == .reseller)
  | .create_customer data reseller_id => expectedAccount answers tenant_id t data.email data.phone
      data.password .customer reseller_id false
  | .admin_create_user data => expectedAccount answers tenant_id t data.email data.phone
      data.password data.role data.reseller_id false
  | .update_my_profile user_id data => expectedProfile answers tenant_id t user_id data
  | .get_or_create_guest_customer phone => expectedGuest answers tenant_id t phone

end Expected

section Alone

variable {answers : Stmt → Env} {x : Draws} {d d' : Store} {α β : Type} {e : Exn}

/-- A statement that answers. -/
theorem alone_ok {s : Stmt} {f : s.Res → M α} {a : s.Res}
    (h : s.eval (envOf answers x.id s) d = .ok (a, d')) :
    alone answers x (exec s >>= f) d = alone answers x (f a) d' :=
  Solo.outcome_exec_bind rfl (Stmt.exec_eq_ok.mpr h)

/-- A statement that raises. -/
theorem alone_error {s : Stmt} {f : s.Res → M α}
    (h : s.eval (envOf answers x.id s) d = .error e) :
    alone answers x (exec s >>= f) d = (.error e, d, {}) := by
  apply Solo.outcome_exec_bind_error rfl
  change s.exec (envOf answers x.id s) d = (.error e, d)
  rw [Stmt.exec, h]

/-- The last statement. -/
theorem alone_exec {s : Stmt} {a : s.Res} (h : s.eval (envOf answers x.id s) d = .ok (a, d')) :
    alone answers x (exec s) d = (.ok a, d', {}) :=
  Solo.outcome_exec rfl (Stmt.exec_eq_ok.mpr h)

theorem alone_exec_error {s : Stmt} (h : s.eval (envOf answers x.id s) d = .error e) :
    alone answers x (exec s) d = (.error e, d, {}) := by
  apply Solo.outcome_exec rfl
  change s.exec (envOf answers x.id s) d = (.error e, d)
  rw [Stmt.exec, h]

theorem alone_bind_ok {p : M α} {f : α → M β} {a : α} (h : alone answers x p d = (.ok a, d', {})) :
    alone answers x (p >>= f) d = alone answers x (f a) d' :=
  Solo.outcome_bind_ok h

theorem alone_bind_error {p : M α} {f : α → M β} (h : alone answers x p d = (.error e, d', {})) :
    alone answers x (p >>= f) d = (.error e, d', {}) :=
  Solo.outcome_bind_error h

/-- Two programs that end alike can be continued alike. -/
theorem alone_bind_congr {p q : M α} {f : α → M β} (h : alone answers x p d = alone answers x q d') :
    alone answers x (p >>= f) d = alone answers x (q >>= f) d' := by
  simp only [alone] at h
  simp only [alone, Prog.bind_eq, Prog.bind, Solo.outcome_handle, h]

/-- A reply that is computed from the result. -/
theorem alone_map {p : M α} {g : α → β} : alone answers x (p >>= fun a => pure (g a)) d =
    ((alone answers x p d).1.map g, (alone answers x p d).2) := by
  rw [alone, alone, Prog.bind_eq, Prog.bind, Solo.outcome_handle]
  cases (Solo.outcome machine (fate answers x.id) p d {}).1 with
  | ok a => rfl
  | error e => rfl

end Alone

section Text

variable {limit : Option ℕ} {s : String}

theorem textParam_of_fits (h : fits limit s = true) : textParam limit (.str s) = .ok (some s) := by
  obtain ⟨hnul, hlimit⟩ := (Bool.and_eq_true _ _).mp h
  simp only [textParam, hnul, hlimit, check]
  rfl

theorem textParam_of_not_fits (h : fits limit s = false) :
    ∃ message, textParam limit (.str s) = .error (.database message) := by
  cases hnul : !s.toList.contains (Char.ofNat 0) with
  | false => exact ⟨_, by simp only [textParam, hnul, check]; rfl⟩
  | true =>
      have hlimit : (limit.all fun n => decide (s.length ≤ n)) = false := by
        simpa only [fits, hnul, Bool.true_and] using h
      exact ⟨_, by simp only [textParam, hnul, hlimit, check]; rfl⟩

end Text

section Account

variable {answers : Stmt → Env} {x : Draws} {d : Store} {tenant_id : UUID}
  {email phone password : String} {role : Role} {reseller_id : Option UUID}

theorem eval_select_user_by_contact (he : fits none email = true) (hp : fits none phone = true) :
    (Stmt.select_user_by_contact email phone tenant_id).eval
        (envOf answers x.id (.select_user_by_contact email phone tenant_id)) d =
      .ok (colliding answers tenant_id (d.ofTenant tenant_id) email phone, d) := by
  simp only [Stmt.eval, textParam_of_fits he, textParam_of_fits hp, colliding, fetchrow,
    Store.ofTenant, List.filter_filter]
  rfl

/-- The checks of a new account find a user of the tenant. -/
theorem alone_refuse {α : Type} {f : Unit → M α} {existing : User}
    (he : fits none email = true) (hp : fits none phone = true)
    (h : colliding answers tenant_id (d.ofTenant tenant_id) email phone = some existing) :
    alone answers x (refuse_existing email phone tenant_id >>= f) d =
      (.error (if existing.email = email then Contact.email.conflict
        else Contact.phone.conflict), d, {}) := by
  apply alone_bind_error
  rw [refuse_existing, alone_ok (eval_select_user_by_contact he hp), h]
  by_cases heq : existing.email = email
  · simp only [heq, if_true]
    rfl
  · simp only [heq, if_false]
    rfl

/-- The checks of a new account find nothing. -/
theorem alone_pass {α : Type} {f : Unit → M α} (he : fits none email = true)
    (hp : fits none phone = true)
    (h : colliding answers tenant_id (d.ofTenant tenant_id) email phone = none) :
    alone answers x (refuse_existing email phone tenant_id >>= f) d = alone answers x (f ()) d := by
  apply alone_bind_ok
  rw [refuse_existing, alone_ok (eval_select_user_by_contact he hp), h]
  rfl

/-- A text that cannot be sent. -/
theorem alone_unsendable {α : Type} {f : Unit → M α}
    (h : ¬ (fits none email = true ∧ fits none phone = true)) :
    ∃ message, alone answers x (refuse_existing email phone tenant_id >>= f) d =
      (.error (.database message), d, {}) := by
  have heval : ∃ message, (Stmt.select_user_by_contact email phone tenant_id).eval
      (envOf answers x.id (.select_user_by_contact email phone tenant_id)) d =
        .error (.database message) := by
    cases he : fits none email with
    | false =>
        obtain ⟨message, hm⟩ := textParam_of_not_fits he
        exact ⟨message, by simp only [Stmt.eval, hm]; rfl⟩
    | true =>
        have hp : fits none phone = false := by simpa [he] using h
        obtain ⟨message, hm⟩ := textParam_of_not_fits hp
        exact ⟨message, by simp only [Stmt.eval, textParam_of_fits he, hm]; rfl⟩
  obtain ⟨message, hm⟩ := heval
  exact ⟨message, alone_bind_error (alone_error hm)⟩

variable (answers x) in
/-- The loop ends with the first code that is free. -/
theorem alone_draw {codes : List String}
    (h : ∃ code ∈ codes, ∀ u ∈ d.users, u.wallet_reference ≠ some ("WS" ++ code)) :
    ∃ w, alone answers x (draw_wallet_ref codes) d = (.ok (some w), d, {}) ∧
      ∀ u ∈ d.users, u.wallet_reference ≠ some w := by
  induction codes with
  | nil => simp at h
  | cons code codes ih =>
      have hcount : (Stmt.count_wallet_reference ("WS" ++ code)).eval
          (envOf answers x.id (.count_wallet_reference ("WS" ++ code))) d =
            .ok ((d.users.filter fun r => r.wallet_reference == some ("WS" ++ code)).length, d) :=
        rfl
      rw [draw_wallet_ref, alone_ok hcount]
      by_cases htaken : 0 < (d.users.filter fun r =>
          r.wallet_reference == some ("WS" ++ code)).length
      · simp only [htaken, if_true]
        apply ih
        obtain ⟨code', hmem, hfree⟩ := h
        rcases List.mem_cons.mp hmem with rfl | hmem
        · obtain ⟨u, hu⟩ := List.exists_mem_of_length_pos htaken
          have hu := List.mem_filter.mp hu
          exact absurd (beq_iff_eq.mp hu.2) (hfree u hu.1)
        · exact ⟨code', hmem, hfree⟩
      · simp only [htaken, if_false]
        refine ⟨"WS" ++ code, rfl, fun u hu heq => htaken ?_⟩
        exact List.length_pos_of_mem (List.mem_filter.mpr ⟨hu, beq_iff_eq.mpr heq⟩)

end Account

section Raw

variable {α β : Type} {y : Except Exn α} {limit : Option ℕ} {s : String} {b : Bool} {e : Exn}

/-- What the database raises is no exception of the application. -/
def Raw (y : Except Exn α) : Prop := ∀ e, y = .error e → e.isDomain = false

theorem Raw.bind {f : α → Except Exn β} (hy : Raw y) (hf : ∀ a, Raw (f a)) : Raw (y >>= f) := by
  intro e he
  cases y with
  | ok a => exact hf a e he
  | error e' =>
      cases he
      exact hy _ rfl

theorem raw_pure {a : α} : Raw (pure a : Except Exn α) := fun _ h => by cases h

theorem raw_check (he : e.isDomain = false) : Raw (check b e) := by
  intro e' h
  cases b with
  | true => cases h
  | false =>
      cases h
      exact he

theorem raw_textParam : Raw (textParam limit (.str s)) :=
  (raw_check rfl).bind fun _ => (raw_check rfl).bind fun _ => raw_pure

end Raw

section Insert

variable {v : Env} {d d' : Store} {tenant_id : UUID} {email phone hashed_password : String}
  {role : Role} {reseller_id : Option UUID} {wallet_reference : Option String}

theorem raw_insert_user : Raw ((Stmt.insert_user email phone hashed_password role reseller_id
    tenant_id wallet_reference).eval v d) :=
  raw_textParam.bind fun _ => raw_textParam.bind fun _ => (raw_check rfl).bind fun _ =>
    (raw_check rfl).bind fun _ => (raw_check rfl).bind fun _ => (raw_check rfl).bind fun _ =>
      (raw_check rfl).bind fun _ => (raw_check rfl).bind fun _ => raw_pure

theorem raw_insert_guest :
    Raw ((Stmt.insert_guest email phone hashed_password tenant_id).eval v d) :=
  raw_textParam.bind fun _ => raw_textParam.bind fun _ => (raw_check rfl).bind fun _ =>
    (raw_check rfl).bind fun _ => (raw_check rfl).bind fun _ => (raw_check rfl).bind fun _ =>
      raw_pure

theorem textParam_ok {limit : Option ℕ} {s : String} {o : Option String}
    (h : textParam limit (.str s) = .ok o) : fits limit s = true := by
  cases hf : fits limit s with
  | true => rfl
  | false =>
      obtain ⟨message, hm⟩ := textParam_of_not_fits hf
      rw [hm] at h
      cases h

/-- An account that is inserted could be written. -/
theorem writable_of_insert_user {row : User} (h : (Stmt.insert_user email phone hashed_password role
    reseller_id tenant_id wallet_reference).eval v d = .ok (row, d')) :
    Writable d .email email ∧ Writable d .phone phone ∧ reseller_id.all d.hasUser = true := by
  simp only [Stmt.eval, Except.bind_eq_ok, check_eq_ok] at h
  obtain ⟨_, hemail, _, hphone, _, _, _, he, _, hp, _, _, _, hr, _⟩ := h
  simp only [List.all_eq_true, bne_iff_ne] at he hp
  exact ⟨⟨textParam_ok hemail, he⟩, ⟨textParam_ok hphone, hp⟩, hr⟩

theorem writable_of_insert_guest {row : User}
    (h : (Stmt.insert_guest email phone hashed_password tenant_id).eval v d = .ok (row, d')) :
    Writable d .email email ∧ Writable d .phone phone := by
  simp only [Stmt.eval, Except.bind_eq_ok, check_eq_ok] at h
  obtain ⟨_, hemail, _, hphone, _, _, _, he, _, hp, _⟩ := h
  simp only [List.all_eq_true, bne_iff_ne] at he hp
  exact ⟨⟨textParam_ok hemail, he⟩, ⟨textParam_ok hphone, hp⟩⟩

theorem free_all {c : Contact} {value : String} (h : Free d c value) :
    (d.users.all fun r => c.of r != value) = true :=
  List.all_eq_true.mpr fun u hu => bne_iff_ne.mpr (h u hu)

/-- An account that can be written is inserted. -/
theorem eval_insert_user (he : Writable d .email email) (hp : Writable d .phone phone)
    (hr : reseller_id.all d.hasUser = true) (hid : ∀ u ∈ d.users, u.id ≠ v.uuid)
    (hw : ∀ w, wallet_reference = some w → ∀ u ∈ d.users, u.wallet_reference ≠ some w)
    (ht : d.hasTenant tenant_id = true) :
    (Stmt.insert_user email phone hashed_password role reseller_id tenant_id wallet_reference).eval
        v d =
      .ok ({ id := v.uuid, email, phone, hashed_password, role, reseller_id, tenant_id
             wallet_reference },
        { d with users := d.users ++ [{ id := v.uuid, email, phone, hashed_password, role
                                        reseller_id, tenant_id, wallet_reference }] }) := by
  have hemail : textParam (some 255) (.str email) = .ok (some email) := textParam_of_fits he.1
  have hphone : textParam (some 20) (.str phone) = .ok (some phone) := textParam_of_fits hp.1
  have hid' : (d.users.all fun r => r.id != v.uuid) = true := by simpa using hid
  have hefree : (d.users.all fun r => r.email != email) = true := free_all he.2
  have hpfree : (d.users.all fun r => r.phone != phone) = true := free_all hp.2
  have hwfree : (wallet_reference.all fun w =>
      d.users.all fun r => r.wallet_reference != some w) = true := by
    cases wallet_reference with
    | none => rfl
    | some w => simpa using hw w rfl
  simp only [Stmt.eval, hemail, hphone, hid', hefree, hpfree, hwfree, hr, ht, check, if_true]
  rfl

/-- A guest who can be written is inserted. -/
theorem eval_insert_guest (he : Writable d .email email) (hp : Writable d .phone phone)
    (hid : ∀ u ∈ d.users, u.id ≠ v.uuid) (ht : d.hasTenant tenant_id = true) :
    (Stmt.insert_guest email phone hashed_password tenant_id).eval v d =
      .ok ({ id := v.uuid, email, phone, hashed_password, tenant_id },
        { d with users :=
            d.users ++ [{ id := v.uuid, email, phone, hashed_password, tenant_id }] }) := by
  have hemail : textParam (some 255) (.str email) = .ok (some email) := textParam_of_fits he.1
  have hphone : textParam (some 20) (.str phone) = .ok (some phone) := textParam_of_fits hp.1
  have hid' : (d.users.all fun r => r.id != v.uuid) = true := by simpa using hid
  have hefree : (d.users.all fun r => r.email != email) = true := free_all he.2
  have hpfree : (d.users.all fun r => r.phone != phone) = true := free_all hp.2
  simp only [Stmt.eval, hemail, hphone, hid', hefree, hpfree, ht, check, if_true]
  rfl

end Insert

section Rows

variable {d : Store} {tenant_id : UUID} {row : User}

/-- The id of a new account was not known. -/
theorem Lawful.not_mem_known {x : Draws} (hl : Lawful tenant_id x d) :
    x.id ∉ known tenant_id d := by
  intro h
  simp only [known, Store.ofTenant, List.mem_map, List.mem_filter] at h
  obtain ⟨w, ⟨hw, -⟩, hid⟩ := h
  exact hl.fresh w hw hid

/-- The rows that the tenant had before are not blanked. -/
theorem blank_ofTenant :
    (d.ofTenant tenant_id).blank (known tenant_id d) = d.ofTenant tenant_id := by
  have hrows : (d.ofTenant tenant_id).users.map (User.blank (known tenant_id d)) =
      (d.ofTenant tenant_id).users := by
    conv_rhs => rw [← List.map_id (d.ofTenant tenant_id).users]
    apply List.map_congr_left
    intro u hu
    have hid : u.id ∈ known tenant_id d := List.mem_map_of_mem hu
    rw [User.blank, if_pos hid]
    rfl
  rw [Store.blank, hrows]

/-- A new row of the tenant. -/
theorem ofTenant_insert (ht : row.tenant_id = tenant_id) :
    ({ d with users := d.users ++ [row] } : Store).ofTenant tenant_id =
      { d.ofTenant tenant_id with users := (d.ofTenant tenant_id).users ++ [row] } := by
  simp [Store.ofTenant, ht]

/-- What the tenant sees of a new row. -/
theorem blank_insert (ht : row.tenant_id = tenant_id) :
    (({ d with users := d.users ++ [row] } : Store).ofTenant tenant_id).blank (known tenant_id d) =
      { d.ofTenant tenant_id with
        users := (d.ofTenant tenant_id).users ++ [row.blank (known tenant_id d)] } := by
  have hold : (d.ofTenant tenant_id).users.map (User.blank (known tenant_id d)) =
      (d.ofTenant tenant_id).users := congrArg Store.users blank_ofTenant
  rw [ofTenant_insert ht]
  simp only [Store.blank, List.map_append, List.map_singleton, hold]

end Rows

section Account

variable {answers : Stmt → Env} {x : Draws} {d : Store} {tenant_id : UUID}
  {email phone password : String} {role : Role} {reseller_id : Option UUID}
  {generate : M (Option String)} {wallet : Bool}

/-- The program draws a free wallet reference, or none. -/
def Generates (answers : Stmt → Env) (x : Draws) (d : Store) (generate : M (Option String))
    (wallet : Bool) : Prop :=
  ∃ w, alone answers x generate d = (.ok w, d, {}) ∧ w.isSome = wallet ∧
    ∀ s, w = some s → ∀ u ∈ d.users, u.wallet_reference ≠ some s

/-- Nobody of the tenant has the email or the phone. -/
theorem colliding_eq_none (h : ¬ Exists d tenant_id email phone) :
    colliding answers tenant_id (d.ofTenant tenant_id) email phone = none := by
  refine fetchrow_eq_none.mpr fun r hr hcontact => h ?_
  simp only [Store.ofTenant, List.mem_filter, beq_iff_eq] at hr
  simp only [Bool.or_eq_true, beq_iff_eq] at hcontact
  exact ⟨r, hr.1, hr.2, hcontact⟩

theorem not_exists_of_colliding
    (h : colliding answers tenant_id (d.ofTenant tenant_id) email phone = none) :
    ¬ Exists d tenant_id email phone := by
  rintro ⟨u, hu, ht, hcontact⟩
  refine fetchrow_eq_none.mp h u ?_ ?_
  · simp only [Store.ofTenant, List.mem_filter, beq_iff_eq]
    exact ⟨hu, ht⟩
  · simpa only [Bool.or_eq_true, beq_iff_eq] using hcontact

/-- An account that the tenant may have is created, or refused for its own users. -/
theorem account_clear (hl : Lawful tenant_id x d) (hgen : Generates answers x d generate wallet)
    (hc : Creatable d tenant_id email phone reseller_id) :
    seen tenant_id d (alone answers x (do
      let user ← create_account email phone password role reseller_id tenant_id generate
      return .user user) d) =
    expectedAccount answers tenant_id (d.ofTenant tenant_id) email phone password role reseller_id
      wallet := by
  obtain ⟨he, hp, hc⟩ := hc
  rw [alone_map, expectedAccount, create_account]
  cases hcol : colliding answers tenant_id (d.ofTenant tenant_id) email phone with
  | some existing =>
      rw [alone_refuse he hp hcol]
      simp only [seen, Except.map, blank_ofTenant]
  | none =>
      obtain ⟨hwe, hwp, hr⟩ := hc.resolve_left (not_exists_of_colliding hcol)
      obtain ⟨w, hw, hsome, hfree⟩ := hgen
      rw [alone_pass he hp hcol]
      have hhash : (Stmt.hash_password password).eval
          (envOf answers x.id (.hash_password password)) d =
          .ok ((answers (.hash_password password)).text, d) := rfl
      rw [alone_ok hhash, alone_bind_ok hw]
      rw [alone_exec (eval_insert_user hwe hwp hr hl.fresh hfree hl.tenant)]
      have hnew : (envOf answers x.id (.insert_user email phone
          (answers (.hash_password password)).text role reseller_id tenant_id w)).uuid ∉
            known tenant_id d := hl.not_mem_known
      simp only [seen, Except.map, blank_insert, AccountReply.blank, User.blank, hnew, if_false]
      subst hsome
      cases w <;> rfl

/-- An account that the tenant may not have fails in the database. -/
theorem account_raw (hgen : Generates answers x d generate wallet)
    (hc : ¬ Creatable d tenant_id email phone reseller_id) :
    ∃ e, (alone answers x (do
      let user ← create_account email phone password role reseller_id tenant_id generate
      return AccountReply.user user) d).1 = .error e ∧ e.isDomain = false := by
  rw [alone_map, create_account]
  by_cases hsend : fits none email = true ∧ fits none phone = true
  · obtain ⟨he, hp⟩ := hsend
    have hne : ¬ Exists d tenant_id email phone := fun h => hc ⟨he, hp, .inl h⟩
    obtain ⟨w, hw, -, -⟩ := hgen
    rw [alone_pass he hp (colliding_eq_none hne)]
    have hhash : (Stmt.hash_password password).eval
        (envOf answers x.id (.hash_password password)) d =
        .ok ((answers (.hash_password password)).text, d) := rfl
    rw [alone_ok hhash, alone_bind_ok hw]
    cases hinsert : (Stmt.insert_user email phone (answers (.hash_password password)).text role
        reseller_id tenant_id w).eval (envOf answers x.id _) d with
    | ok r => exact absurd ⟨he, hp, .inr (writable_of_insert_user hinsert)⟩ hc
    | error e =>
        rw [alone_exec_error hinsert]
        exact ⟨e, rfl, raw_insert_user e hinsert⟩
  · obtain ⟨message, hm⟩ := alone_unsendable hsend
    rw [hm]
    exact ⟨_, rfl, rfl⟩

end Account

section Guest

variable {answers : Stmt → Env} {x : Draws} {d : Store} {tenant_id : UUID} {phone : String}

theorem eval_select_user_by_phone : (Stmt.select_user_by_phone phone tenant_id).eval
    (envOf answers x.id (.select_user_by_phone phone tenant_id)) d =
      .ok (holder answers tenant_id (d.ofTenant tenant_id) phone, d) := by
  simp only [Stmt.eval, holder, fetchrow, Store.ofTenant, List.filter_filter]
  rfl

/-- A guest without an account of the tenant. -/
theorem alone_guest (h : holder answers tenant_id (d.ofTenant tenant_id) phone = none) :
    alone answers x (get_or_create_guest_customer tenant_id phone) d =
      alone answers x (do
        let new_user ← exec (.insert_guest (guestEmail answers phone) phone
          (answers (.hash_password (hex (answers .uuid4).uuid))).text tenant_id)
        return new_user.id) d := by
  have huuid : Stmt.uuid4.eval (envOf answers x.id .uuid4) d = .ok ((answers .uuid4).uuid, d) := rfl
  have hhash : (Stmt.hash_password (hex (answers .uuid4).uuid)).eval
      (envOf answers x.id (.hash_password (hex (answers .uuid4).uuid))) d =
      .ok ((answers (.hash_password (hex (answers .uuid4).uuid))).text, d) := rfl
  rw [get_or_create_guest_customer, alone_ok eval_select_user_by_phone, h]
  change alone answers x (exec .uuid4 >>= fun _ => _) d = _
  rw [alone_ok huuid, alone_ok huuid, alone_ok hhash]
  rfl

/-- A guest is found in the tenant, or can be written. -/
theorem guest_clear (hl : Lawful tenant_id x d)
    (hc : Clear d tenant_id answers (.get_or_create_guest_customer phone)) :
    seen tenant_id d (alone answers x (do
      let id ← get_or_create_guest_customer tenant_id phone
      return .id id) d) =
    expectedGuest answers tenant_id (d.ofTenant tenant_id) phone := by
  rw [alone_map, expectedGuest]
  cases hhold : holder answers tenant_id (d.ofTenant tenant_id) phone with
  | some user =>
      have hknown : user.id ∈ known tenant_id d :=
        List.mem_map_of_mem (fetchrow_eq_some hhold).1
      rw [get_or_create_guest_customer, alone_ok eval_select_user_by_phone, hhold]
      change seen tenant_id d (.ok (.id user.id), d, {}) = _
      simp only [seen, Except.map, AccountReply.blank, hknown, if_true, blank_ofTenant]
  | none =>
      have hnone : ¬ ∃ u ∈ d.users, u.tenant_id = tenant_id ∧ u.phone = phone := by
        rintro ⟨u, hu, ht, hp⟩
        refine fetchrow_eq_none.mp hhold u ?_ (beq_iff_eq.mpr hp)
        simp only [Store.ofTenant, List.mem_filter, beq_iff_eq]
        exact ⟨hu, ht⟩
      obtain ⟨hwe, hwp⟩ := hc.resolve_left hnone
      have hnew : (envOf answers x.id (.insert_guest (guestEmail answers phone) phone
          (answers (.hash_password (hex (answers .uuid4).uuid))).text tenant_id)).uuid ∉
            known tenant_id d := hl.not_mem_known
      rw [alone_guest hhold, alone_ok (eval_insert_guest hwe hwp hl.fresh hl.tenant)]
      change seen tenant_id d (.ok (.id (envOf answers x.id _).uuid), _, {}) = _
      simp only [seen, Except.map, blank_insert, AccountReply.blank, User.blank, hnew, if_false]
      rfl

/-- A guest who cannot be written fails in the database. -/
theorem guest_raw (hc : ¬ Clear d tenant_id answers (.get_or_create_guest_customer phone)) :
    ∃ e, (alone answers x (do
      let id ← get_or_create_guest_customer tenant_id phone
      return AccountReply.id id) d).1 = .error e ∧ e.isDomain = false := by
  have hhold : holder answers tenant_id (d.ofTenant tenant_id) phone = none := by
    refine fetchrow_eq_none.mpr fun r hr hp => hc (.inl ?_)
    simp only [Store.ofTenant, List.mem_filter, beq_iff_eq] at hr
    exact ⟨r, hr.1, hr.2, beq_iff_eq.mp hp⟩
  rw [alone_map, alone_guest hhold]
  cases hinsert : (Stmt.insert_guest (guestEmail answers phone) phone
      (answers (.hash_password (hex (answers .uuid4).uuid))).text tenant_id).eval
        (envOf answers x.id _) d with
  | ok r => exact absurd (.inr (writable_of_insert_guest hinsert)) hc
  | error e =>
      rw [alone_error hinsert]
      exact ⟨e, rfl, raw_insert_guest e hinsert⟩

end Guest

section Column

variable {d d' : Store} {tenant_id id : UUID} {c c' : Contact} {value : String}

/-- What the users table says about a contact. -/
def column (c : Contact) (d : Store) : List (UUID × UUID × String) :=
  d.users.map fun u => (u.id, u.tenant_id, c.of u)

theorem mem_column {u : User} (h : u ∈ d.users) : (u.id, u.tenant_id, c.of u) ∈ column c d :=
  List.mem_map_of_mem h

theorem exists_of_mem_column {i t : UUID} {s : String} (h : (i, t, s) ∈ column c d) :
    ∃ u ∈ d.users, u.id = i ∧ u.tenant_id = t ∧ c.of u = s := by
  obtain ⟨u, hu, heq⟩ := List.mem_map.mp h
  simp only [Prod.mk.injEq] at heq
  exact ⟨u, hu, heq⟩

theorem Free.congr (h : column c d' = column c d) (hf : Free d c value) : Free d' c value := by
  intro u hu
  obtain ⟨w, hw, -, -, heq⟩ := exists_of_mem_column (h ▸ mem_column (c := c) hu)
  rw [← heq]
  exact hf w hw

theorem Taken.congr (h : column c d' = column c d) (ht : Taken d tenant_id c value id) :
    Taken d' tenant_id c value id := by
  obtain ⟨u, hu, htenant, hid, hvalue⟩ := ht
  obtain ⟨w, hw, hwid, hwt, hwv⟩ := exists_of_mem_column (h.symm ▸ mem_column (c := c) hu)
  exact ⟨w, hw, hwt.trans htenant, hwid ▸ hid, hwv.trans hvalue⟩

theorem Changeable.congr {v : Option String} {user : User} (h : column c d' = column c d)
    (hc : Changeable d tenant_id c v user) : Changeable d' tenant_id c v user := by
  intro s hs
  obtain ⟨hfits, hor⟩ := hc s hs
  refine ⟨hfits, hor.imp (.congr h) fun hw => ⟨hw.1, hw.2.congr h⟩⟩

theorem Refused.congr {v : Option String} {user : User} (h : column c d' = column c d)
    (hr : Refused d tenant_id c v user) : Refused d' tenant_id c v user := by
  obtain ⟨s, hs, ht⟩ := hr
  exact ⟨s, hs, ht.congr h⟩

/-- The ids of the users and those of the tenant are columns as well. -/
theorem ids_congr (h : column c d' = column c d) : d'.users.map (·.id) = d.users.map (·.id) := by
  have hids := congrArg (List.map Prod.fst) h
  simp only [column, List.map_map] at hids
  exact hids

theorem known_congr (tenant_id : UUID) (h : column c d' = column c d) : known tenant_id d' = known tenant_id d := by
  have hids := congrArg (fun l => (l.filter fun r => r.2.1 == tenant_id).map Prod.fst) h
  simp only [column, List.filter_map, List.map_map] at hids
  exact hids

theorem column_updateRows {p : User → Bool} {f : User → User}
    (hf : ∀ u, (f u).id = u.id ∧ (f u).tenant_id = u.tenant_id ∧ c.of (f u) = c.of u) :
    column c { d with users := updateRows p f d.users } = column c d := by
  simp only [column, updateRows, List.map_map]
  apply List.map_congr_left
  intro u _
  dsimp only [Function.comp_apply]
  split
  · rw [(hf u).1, (hf u).2.1, (hf u).2.2]
  · rfl

theorem column_setPassword {hashed_password : String} :
    column c (d.setPassword hashed_password id tenant_id) = column c d :=
  column_updateRows fun _ => ⟨rfl, rfl, by cases c <;> rfl⟩

/-- The change of a contact leaves the other one alone. -/
theorem column_setContact (hne : c ≠ c') :
    column c (d.setContact c' value id tenant_id) = column c d := by
  refine column_updateRows fun u => ?_
  cases c with
  | email =>
      cases c' with
      | email => exact absurd rfl hne
      | phone => exact ⟨rfl, rfl, rfl⟩
  | phone =>
      cases c' with
      | email => exact ⟨rfl, rfl, rfl⟩
      | phone => exact absurd rfl hne

/-- The rows of a tenant after an update that moves nobody to another tenant. -/
theorem ofTenant_updateRows {p : User → Bool} {f : User → User}
    (hf : ∀ u, (f u).tenant_id = u.tenant_id) :
    ({ d with users := updateRows p f d.users } : Store).ofTenant tenant_id =
      { d.ofTenant tenant_id with users := updateRows p f (d.ofTenant tenant_id).users } := by
  have hrows : (updateRows p f d.users).filter (fun r => r.tenant_id == tenant_id) =
      updateRows p f (d.users.filter fun r => r.tenant_id == tenant_id) := by
    simp only [updateRows, List.filter_map]
    congr 1
    apply List.filter_congr
    intro r _
    dsimp only [Function.comp_apply]
    split
    · rw [hf r]
    · rfl
  simp only [Store.ofTenant, hrows]

theorem ofTenant_setPassword {hashed_password : String} :
    (d.setPassword hashed_password id tenant_id).ofTenant tenant_id =
      (d.ofTenant tenant_id).setPassword hashed_password id tenant_id :=
  ofTenant_updateRows fun _ => rfl

theorem ofTenant_setContact : (d.setContact c value id tenant_id).ofTenant tenant_id =
    (d.ofTenant tenant_id).setContact c value id tenant_id :=
  ofTenant_updateRows fun _ => by cases c <;> rfl

end Column

section Change

variable {answers : Stmt → Env} {x : Draws} {d : Store} {tenant_id : UUID} {c : Contact}
  {value : Option String} {user : User} {s : String} {α : Type} {f : Unit → M α}

theorem taken_iff {id : UUID} : Taken d tenant_id c s id ↔
    ((d.ofTenant tenant_id).users.any fun r => c.of r == s && r.id != id) = true := by
  simp only [Taken, Store.ofTenant, List.any_eq_true, List.mem_filter, Bool.and_eq_true,
    beq_iff_eq, bne_iff_ne]
  constructor
  · rintro ⟨u, hu, ht, hid, hv⟩
    exact ⟨u, ⟨hu, ht⟩, hv, hid⟩
  · rintro ⟨u, ⟨hu, ht⟩, hv, hid⟩
    exact ⟨u, hu, ht, hid, hv⟩

/-- A change is refused exactly when the tenant would refuse it alone. -/
theorem refused_iff : Refused d tenant_id c value user ↔
    withContact tenant_id (d.ofTenant tenant_id) c value user user.id = none := by
  unfold Refused withContact
  cases c.wanted value user with
  | none => simp
  | some s => simp [taken_iff]

variable (answers x d tenant_id c) in
/-- Whether the query about another user finds one. -/
theorem select_other_user (id : UUID) (hs : fits none s = true) :
    ∃ existing, (Stmt.select_other_user c s tenant_id id).eval
        (envOf answers x.id (.select_other_user c s tenant_id id)) d = .ok (existing, d) ∧
      (existing.isSome = true ↔ Taken d tenant_id c s id) := by
  refine ⟨_, by simp only [Stmt.eval, textParam_of_fits hs]; rfl, ?_⟩
  rw [← not_iff_not, Bool.not_eq_true, Option.isSome_eq_false_iff, Option.isNone_iff_eq_none,
    fetchrow_eq_none]
  simp only [Bool.and_eq_true, beq_iff_eq, bne_iff_ne, Taken]
  constructor
  · rintro h ⟨u, hu, ht, hid, hv⟩
    exact h u hu ⟨⟨hv, ht⟩, hid⟩
  · rintro h u hu ⟨⟨hv, ht⟩, hid⟩
    exact h ⟨u, hu, ht, hid, hv⟩

theorem alone_change_same (h : c.wanted value user = none) {id : UUID} :
    alone answers x (change_contact c value user id tenant_id >>= f) d =
      alone answers x (f ()) d := by
  rw [change_contact, h]
  rfl

theorem alone_change_taken {id : UUID} (h : c.wanted value user = some s)
    (hs : fits none s = true) (ht : Taken d tenant_id c s id) :
    alone answers x (change_contact c value user id tenant_id >>= f) d =
      (.error c.conflict, d, {}) := by
  obtain ⟨existing, heval, hsome⟩ := select_other_user answers x d tenant_id c id hs
  rw [change_contact, h]
  apply alone_bind_error
  change alone answers x (exec _ >>= fun existing => _) d = _
  rw [alone_ok heval]
  simp only [hsome.mpr ht, if_true]
  rfl

/-- A change that no other user of the tenant prevents comes to its update. -/
theorem alone_change_free {id : UUID} (h : c.wanted value user = some s)
    (hs : fits none s = true) (ht : ¬ Taken d tenant_id c s id) :
    alone answers x (change_contact c value user id tenant_id >>= f) d =
      alone answers x (exec (.set_contact c s id tenant_id) >>= f) d := by
  obtain ⟨existing, heval, hsome⟩ := select_other_user answers x d tenant_id c id hs
  have hnone : ¬ existing.isSome = true := fun he => ht (hsome.mp he)
  rw [change_contact, h]
  apply alone_bind_congr
  change alone answers x (exec _ >>= fun existing => _) d = _
  rw [alone_ok heval]
  simp only [hnone]
  rfl

theorem raw_set_contact {v : Env} {id : UUID} :
    Raw ((Stmt.set_contact c s id tenant_id).eval v d) :=
  raw_textParam.bind fun _ => (raw_check rfl).bind fun _ => raw_pure

/-- A contact that can be written is written. -/
theorem eval_set_contact {v : Env} {id : UUID} (hw : Writable d c s) :
    (Stmt.set_contact c s id tenant_id).eval v d = .ok ((), d.setContact c s id tenant_id) := by
  have htext : textParam (some c.limit) (.str s) = .ok (some s) := textParam_of_fits hw.1
  have hfree : (d.users.all fun r => (r.id == id && r.tenant_id == tenant_id) || c.of r != s) =
      true := by
    refine List.all_eq_true.mpr fun u hu => ?_
    rw [bne_iff_ne.mpr (hw.2 u hu), Bool.or_true]
  simp only [Stmt.eval, htext, hfree, Bool.or_true, check, if_true]
  rfl

/-- A contact that is written to a user who had another one was free. -/
theorem writable_of_set_contact {v : Env} {id : UUID} {a : Unit} {d' : Store} {t : String}
    (hids : (d.users.map (·.id)).Nodup) (hrow : (id, tenant_id, t) ∈ column c d) (hne : s ≠ t)
    (h : (Stmt.set_contact c s id tenant_id).eval v d = .ok (a, d')) : Writable d c s := by
  simp only [Stmt.eval, Except.bind_eq_ok, check_eq_ok] at h
  obtain ⟨_, htext, _, hcheck, -⟩ := h
  obtain ⟨w, hw, hwid, hwt, hwv⟩ := exists_of_mem_column hrow
  have hany : (d.users.any fun r => r.id == id && r.tenant_id == tenant_id) = true :=
    List.any_eq_true.mpr ⟨w, hw, by simp [hwid, hwt]⟩
  rw [hany, Bool.not_true, Bool.false_or, List.all_eq_true] at hcheck
  refine ⟨textParam_ok htext, fun u hu heq => ?_⟩
  have hu' := hcheck u hu
  simp only [heq, bne_self_eq_false, Bool.or_false, Bool.and_eq_true, beq_iff_eq] at hu'
  have huw : u = w := List.inj_on_of_nodup_map hids hu hw (hu'.1.trans hwid.symm)
  rw [huw, hwv] at heq
  exact hne heq.symm

theorem Contact.wanted_ne (h : c.wanted value user = some s) : s ≠ c.of user := by
  obtain ⟨-, hne⟩ := Option.filter_eq_some_iff.mp h
  exact bne_iff_ne.mp hne

variable (answers x f) in
/-- A change that the tenant may make is made, or refused for its own users. -/
theorem change_clear (hc : Changeable d tenant_id c value user) :
    (withContact tenant_id (d.ofTenant tenant_id) c value user user.id = none ∧
      alone answers x (change_contact c value user user.id tenant_id >>= f) d =
        (.error c.conflict, d, {})) ∨
    ∃ d', withContact tenant_id (d.ofTenant tenant_id) c value user user.id =
        some (d'.ofTenant tenant_id) ∧
      alone answers x (change_contact c value user user.id tenant_id >>= f) d =
        alone answers x (f ()) d' ∧
      ∀ c', c' ≠ c → column c' d' = column c' d := by
  cases hwant : c.wanted value user with
  | none =>
      refine .inr ⟨d, ?_, alone_change_same hwant, fun _ _ => rfl⟩
      rw [withContact, hwant]
  | some s =>
      obtain ⟨hs, hor⟩ := hc s hwant
      by_cases ht : Taken d tenant_id c s user.id
      · refine .inl ⟨?_, alone_change_taken hwant hs ht⟩
        rw [withContact, hwant]
        simp only [taken_iff.mp ht, if_true]
      · have hw := hor.resolve_left ht
        refine .inr ⟨d.setContact c s user.id tenant_id, ?_, ?_, fun c' hne =>
          column_setContact hne⟩
        · have hany := Bool.eq_false_iff.mpr fun h => ht (taken_iff.mpr h)
          rw [withContact, hwant, ofTenant_setContact]
          simp only [hany, Bool.false_eq_true, if_false]
        · rw [alone_change_free hwant hs ht, alone_ok (eval_set_contact hw)]

variable (answers x f) in
/-- A change that the tenant may not make fails in the database. -/
theorem change_raw (hids : (d.users.map (·.id)).Nodup)
    (hrow : (user.id, tenant_id, c.of user) ∈ column c d)
    (hc : ¬ Changeable d tenant_id c value user) :
    ∃ e, (alone answers x (change_contact c value user user.id tenant_id >>= f) d).1 = .error e ∧
      e.isDomain = false := by
  simp only [Changeable, not_forall] at hc
  obtain ⟨s, hwant, hc⟩ := hc
  cases hs : fits none s with
  | false =>
      obtain ⟨message, hm⟩ := textParam_of_not_fits hs
      have heval : (Stmt.select_other_user c s tenant_id user.id).eval
          (envOf answers x.id (.select_other_user c s tenant_id user.id)) d =
            .error (.database message) := by
        simp only [Stmt.eval, hm]
        rfl
      refine ⟨.database message, ?_, rfl⟩
      rw [change_contact, Option.mem_def.mp hwant, alone_bind_error (alone_error heval)]
  | true =>
      have ht : ¬ Taken d tenant_id c s user.id := fun h => hc ⟨hs, .inl h⟩
      rw [alone_change_free hwant hs ht]
      cases heval : (Stmt.set_contact c s user.id tenant_id).eval (envOf answers x.id _) d with
      | ok r =>
          exact absurd ⟨hs, .inr (writable_of_set_contact hids hrow (Contact.wanted_ne hwant) heval)⟩
            hc
      | error e =>
          rw [alone_error heval]
          exact ⟨e, rfl, raw_set_contact e heval⟩

end Change

section Profile

variable {answers : Stmt → Env} {x : Draws} {d d' : Store} {tenant_id : UUID} {user user' : User}
  {data : UserUpdate} {user_id : UUID} {α : Type}

theorem eval_select_contact : (Stmt.select_contact user_id tenant_id).eval
    (envOf answers x.id (.select_contact user_id tenant_id)) d =
      .ok (profile answers tenant_id (d.ofTenant tenant_id) user_id, d) := by
  simp only [Stmt.eval, profile, fetchrow, Store.ofTenant, List.filter_filter]
  rfl

theorem alone_missing {f : User → M α}
    (h : profile answers tenant_id (d.ofTenant tenant_id) user_id = none) :
    alone answers x (get_my_profile user_id tenant_id >>= f) d =
      (.error (.notFound "User" (str user_id)), d, {}) := by
  apply alone_bind_error
  rw [get_my_profile, alone_ok eval_select_contact, h]
  rfl

theorem alone_profile {f : User → M α}
    (h : profile answers tenant_id (d.ofTenant tenant_id) user_id = some user) :
    alone answers x (get_my_profile user_id tenant_id >>= f) d = alone answers x (f user) d := by
  apply alone_bind_ok
  rw [get_my_profile, alone_ok eval_select_contact, h]
  rfl

variable (answers x d tenant_id user_id) in
/-- A new password. -/
theorem alone_password (password : Option String) (f : Unit → M α) :
    ∃ d', alone answers x (change_password password user_id tenant_id >>= f) d =
        alone answers x (f ()) d' ∧
      d'.ofTenant tenant_id =
        withPassword answers tenant_id (d.ofTenant tenant_id) password user_id ∧
      ∀ c, column c d' = column c d := by
  cases password with
  | none => exact ⟨d, rfl, rfl, fun _ => rfl⟩
  | some password =>
      have hhash : (Stmt.hash_password password).eval
          (envOf answers x.id (.hash_password password)) d =
          .ok ((answers (.hash_password password)).text, d) := rfl
      refine ⟨d.setPassword (answers (.hash_password password)).text user_id tenant_id, ?_,
        ofTenant_setPassword, fun _ => column_setPassword⟩
      apply alone_bind_ok
      change alone answers x (exec _ >>= fun hashed => _) d = _
      rw [alone_ok hhash]
      rfl

/-- The tenant sees its own users with their ids. -/
theorem seen_same {r : Except Exn User} (h : known tenant_id d' = known tenant_id d)
    (hr : ∀ u, r = .ok u → u ∈ (d'.ofTenant tenant_id).users) :
    seen tenant_id d (r.map AccountReply.user, d', {}) =
      (r.map AccountReply.user, d'.ofTenant tenant_id) := by
  rw [seen, ← h, blank_ofTenant]
  cases r with
  | error e => rfl
  | ok u =>
      have hid : u.id ∈ known tenant_id d' := List.mem_map_of_mem (hr u rfl)
      simp only [Except.map, AccountReply.blank, User.blank, hid, if_true]

/-- What the tenant sees of a profile. -/
theorem seen_profile (h : known tenant_id d' = known tenant_id d) :
    seen tenant_id d
      (Except.map AccountReply.user (alone answers x (get_my_profile user_id tenant_id) d').1,
        (alone answers x (get_my_profile user_id tenant_id) d').2) =
    match profile answers tenant_id (d'.ofTenant tenant_id) user_id with
    | none => (.error (.notFound "User" (str user_id)), d'.ofTenant tenant_id)
    | some user => (.ok (.user user), d'.ofTenant tenant_id) := by
  rw [get_my_profile, alone_ok eval_select_contact]
  cases hp : profile answers tenant_id (d'.ofTenant tenant_id) user_id with
  | none => exact seen_same h fun u hu => by cases hu
  | some row =>
      refine seen_same (r := .ok row) h fun u hu => ?_
      cases hu
      exact (fetchrow_eq_some hp).1

/-- A profile that the tenant may have is written, or refused for its own users. -/
theorem profile_clear (hc : Clear d tenant_id answers (.update_my_profile user_id data)) :
    seen tenant_id d (alone answers x (do
      let user ← update_my_profile user_id tenant_id data
      return .user user) d) =
    expectedProfile answers tenant_id (d.ofTenant tenant_id) user_id data := by
  rw [alone_map, expectedProfile, update_my_profile]
  cases hprofile : profile answers tenant_id (d.ofTenant tenant_id) user_id with
  | none =>
      rw [alone_missing hprofile]
      exact seen_same rfl fun u h => by cases h
  | some user =>
      obtain ⟨hmem, hid⟩ := fetchrow_eq_some hprofile
      obtain rfl : user.id = user_id := beq_iff_eq.mp hid
      simp only [Store.ofTenant, List.mem_filter, beq_iff_eq] at hmem
      obtain ⟨hphone, hemail⟩ := hc user hmem.1 rfl hmem.2
      rw [alone_profile hprofile]
      obtain ⟨d₁, hrun₁, hrows₁, hcol₁⟩ := alone_password answers x d tenant_id user.id data.password
        fun _ => do
          change_contact .phone data.phone user user.id tenant_id
          change_contact .email data.email user user.id tenant_id
          get_my_profile user.id tenant_id
      rw [hrun₁]
      simp only [← hrows₁]
      have hknown₁ := known_congr tenant_id (hcol₁ .phone)
      rcases change_clear answers x (fun _ => do
          change_contact .email data.email user user.id tenant_id
          get_my_profile user.id tenant_id) (hphone.congr (hcol₁ .phone)) with
        ⟨hnone, hrun₂⟩ | ⟨d₂, hsome, hrun₂, hcol₂⟩
      · rw [hrun₂]
        simp only [hnone]
        exact seen_same hknown₁ fun u h => by cases h
      · have hrefused : ¬ Refused d tenant_id .phone data.phone user := by
          intro h
          rw [refused_iff.mp (h.congr (hcol₁ .phone))] at hsome
          cases hsome
        have hemail₂ : column .email d₂ = column .email d :=
          (hcol₂ .email (by decide)).trans (hcol₁ .email)
        have hknown₂ := known_congr tenant_id hemail₂
        rw [hrun₂]
        simp only [hsome]
        rcases change_clear answers x
            (fun _ => get_my_profile user.id tenant_id) ((hemail hrefused).congr hemail₂) with
          ⟨hnone, hrun₃⟩ | ⟨d₃, hsome, hrun₃, hcol₃⟩
        · rw [hrun₃]
          simp only [hnone]
          exact seen_same hknown₂ fun u h => by cases h
        · have hknown₃ := (known_congr tenant_id (hcol₃ .phone (by decide))).trans
            hknown₂
          rw [hrun₃]
          simp only [hsome]
          exact seen_profile hknown₃

/-- A profile that the tenant may not have fails in the database. -/
theorem profile_raw (hids : (d.users.map (·.id)).Nodup)
    (hc : ¬ Clear d tenant_id answers (.update_my_profile user_id data)) :
    ∃ e, (alone answers x (do
      let user ← update_my_profile user_id tenant_id data
      return AccountReply.user user) d).1 = .error e ∧ e.isDomain = false := by
  simp only [Clear, not_forall] at hc
  obtain ⟨user, hmem, rfl, ht, hc⟩ := hc
  have hrow (c : Contact) : (user.id, tenant_id, c.of user) ∈ column c d := ht ▸ mem_column hmem
  have hprofile : profile answers tenant_id (d.ofTenant tenant_id) user.id = some user := by
    cases hp : profile answers tenant_id (d.ofTenant tenant_id) user.id with
    | none =>
        refine absurd (beq_self_eq_true user.id) (fetchrow_eq_none.mp hp user ?_)
        simp only [Store.ofTenant, List.mem_filter, beq_iff_eq]
        exact ⟨hmem, ht⟩
    | some row =>
        obtain ⟨hrow, hid⟩ := fetchrow_eq_some hp
        simp only [Store.ofTenant, List.mem_filter] at hrow
        rw [List.inj_on_of_nodup_map hids hrow.1 hmem (beq_iff_eq.mp hid)]
  obtain ⟨d₁, hrun₁, -, hcol₁⟩ := alone_password answers x d tenant_id user.id data.password
    fun _ => do
      change_contact .phone data.phone user user.id tenant_id
      change_contact .email data.email user user.id tenant_id
      get_my_profile user.id tenant_id
  have hids₁ : (d₁.users.map (·.id)).Nodup := ids_congr (hcol₁ .phone) ▸ hids
  rw [alone_map, update_my_profile, alone_profile hprofile, hrun₁]
  by_cases hphone : Changeable d tenant_id .phone data.phone user
  · obtain ⟨hrefused, hemail⟩ : ¬ Refused d tenant_id .phone data.phone user ∧
        ¬ Changeable d tenant_id .email data.email user := by
      by_contra h
      exact hc ⟨hphone, fun hr => by_contra fun he => h ⟨hr, he⟩⟩
    rcases change_clear answers x (fun _ => do
        change_contact .email data.email user user.id tenant_id
        get_my_profile user.id tenant_id) (hphone.congr (hcol₁ .phone)) with
      ⟨hnone, -⟩ | ⟨d₂, -, hrun₂, hcol₂⟩
    · exact absurd ((refused_iff.mpr hnone).congr (hcol₁ .phone).symm) hrefused
    · have hemail₂ : column .email d₂ = column .email d :=
        (hcol₂ .email (by decide)).trans (hcol₁ .email)
      obtain ⟨e, he, hraw⟩ := change_raw answers x
        (fun _ => get_my_profile user.id tenant_id) (ids_congr hemail₂ ▸ hids)
        (hemail₂ ▸ hrow .email) fun h => hemail (h.congr hemail₂.symm)
      rw [hrun₂, he]
      exact ⟨e, rfl, hraw⟩
  · obtain ⟨e, he, hraw⟩ := change_raw answers x (fun _ => do
      change_contact .email data.email user user.id tenant_id
      get_my_profile user.id tenant_id) hids₁ (hcol₁ .phone ▸ hrow .phone)
      fun h => hphone (h.congr (hcol₁ .phone).symm)
    rw [he]
    exact ⟨e, rfl, hraw⟩

end Profile

section Call

variable {answers : Stmt → Env} {x x' : Draws} {d d' : Store} {tenant_id : UUID}
  {call : AccountCall}

theorem generates_none : Generates answers x d (pure none) false :=
  ⟨none, rfl, rfl, fun _ h => by cases h⟩

theorem generates_wallet_ref (hl : Lawful tenant_id x d) {role : Role} :
    Generates answers x d (if role = .reseller then draw_wallet_ref x.codes else pure none)
      (role == .reseller) := by
  by_cases hrole : role = .reseller
  · obtain ⟨w, hw, hfree⟩ := alone_draw answers x hl.drawn
    rw [if_pos hrole, beq_iff_eq.mpr hrole]
    refine ⟨some w, hw, rfl, fun s hs => ?_⟩
    cases hs
    exact hfree
  · rw [if_neg hrole, beq_eq_false_iff_ne.mpr hrole]
    exact generates_none

/-- A call that is clear does what it would do for a tenant that is alone in the database. -/
theorem view_clear (hl : Lawful tenant_id x d) (hc : Clear d tenant_id answers call) :
    view answers x tenant_id call d = expected answers tenant_id (d.ofTenant tenant_id) call := by
  cases call with
  | register_user email phone password role =>
      exact account_clear hl (generates_wallet_ref hl) hc
  | create_customer data reseller_id => exact account_clear hl generates_none hc
  | admin_create_user data => exact account_clear hl generates_none hc
  | update_my_profile user_id data => exact profile_clear hc
  | get_or_create_guest_customer phone => exact guest_clear hl hc

/-- A call that is not clear fails in the database. -/
theorem run_raw (hl : Lawful tenant_id x d) (hc : ¬ Clear d tenant_id answers call) :
    ∃ e, (run answers x tenant_id call d).1 = .error e ∧ e.isDomain = false := by
  cases call with
  | register_user email phone password role => exact account_raw (generates_wallet_ref hl) hc
  | create_customer data reseller_id => exact account_raw generates_none hc
  | admin_create_user data => exact account_raw generates_none hc
  | update_my_profile user_id data => exact profile_raw hl.ids hc
  | get_or_create_guest_customer phone => exact guest_raw hc

/-- A tenant that is alone meets exceptions of the application only. -/
theorem expected_domain {t : Store} {e : Exn} (h : (expected answers tenant_id t call).1 = .error e) :
    e.isDomain = true := by
  have haccount {email phone password : String} {role : Role} {reseller_id : Option UUID}
      {wallet : Bool} (h : (expectedAccount answers tenant_id t email phone password role reseller_id
        wallet).1 = .error e) : e.isDomain = true := by
    unfold expectedAccount at h
    split at h
    · cases h
      split
      · rfl
      · rfl
    · cases h
  cases call with
  | register_user email phone password role => exact haccount h
  | create_customer data reseller_id => exact haccount h
  | admin_create_user data => exact haccount h
  | update_my_profile user_id data =>
      simp only [expected, expectedProfile] at h
      split at h
      · cases h
        rfl
      · split at h
        · cases h
          rfl
        · split at h
          · cases h
            rfl
          · split at h
            · cases h
              rfl
            · cases h
  | get_or_create_guest_customer phone =>
      simp only [expected, expectedGuest] at h
      split at h <;> cases h

theorem run_domain (hl : Lawful tenant_id x d) (hc : Clear d tenant_id answers call) {e : Exn}
    (h : (run answers x tenant_id call d).1 = .error e) : e.isDomain = true := by
  have hexpected : (expected answers tenant_id (d.ofTenant tenant_id) call).1 = .error e := by
    rw [← view_clear hl hc, view, seen, h]
    rfl
  exact expected_domain hexpected

end Call

section Reachable

/-- The signups of tenants leave tenants with their admins. -/
structure Founded (d : Store) : Prop where
  signups : d = { tenants := d.tenants, users := d.users }
  admins : ∀ u ∈ d.users, u.role = .admin
  ids : (d.users.map (·.id)).Nodup
  emails : (d.users.map (·.email)).Nodup
  phones : (d.users.map (·.phone)).Nodup

/-- The processes run in any order, and any of their statements can fail. -/
def Reachable (d : Store) : Prop :=
  ∃ d₀ s, Founded d₀ ∧ Reaches accountSystem ({} : AccountRules) (idle d₀) s ∧ s.store = d

/-- No statement gives an id a second time. -/
theorem ids_rule : StoreRule accountSystem ({} : AccountRules) (fun _ => True)
    fun d => (d.users.map (·.id)).Nodup where
  restores := machine_restores
  start w d d' p _ hd hs := by
    refine ⟨?_, p.all_true⟩
    cases w with
    | base w =>
        have hsame : d'.users = d.users := Spawn.aside_start hs (T := .users) (by simp)
        rwa [hsame]
    | call c tenant_id codes =>
        cases hs
        exact hd
  edit _ _ he := he.elim
  stmt s v d a d' _ _ hd hx := by
    cases Stmt.onUsers (Stmt.exec_eq_ok.mp hx) with
    | insert_guest email phone hashed_password tenant_id hid => exact nodup_map_concat _ hd hid
    | insert_user email phone hashed_password role reseller_id tenant_id wallet_reference hid =>
        exact nodup_map_concat _ hd hid
    | set_hashed_password hashed_password id tenant_id =>
        exact nodup_updateRows _ (fun _ => rfl) hd
    | set_contact c value id tenant_id =>
        exact nodup_updateRows _ (fun _ => by cases c <;> rfl) hd
    | other hsame => rwa [hsame]

/-- The ids of the users are distinct in every reachable store. -/
theorem Reachable.ids {d : Store} (h : Reachable d) : (d.users.map (·.id)).Nodup := by
  obtain ⟨d₀, s, hfounded, hr, rfl⟩ := h
  exact ids_rule.run hr hfounded.ids

end Reachable

section Examples

/-- Two tenants that have signed up. -/
def twoTenants : Store :=
  { tenants := [{ id := 1, owner_phone := "254700000001", next_billing_date := 0 },
      { id := 2, owner_phone := "254700000002", next_billing_date := 0 }]
    users := [
      { id := 11, email := "a@example.com", phone := "254700000001", hashed_password := "",
        role := .admin, tenant_id := 1 },
      { id := 12, email := "b@example.com", phone := "254700000002", hashed_password := "",
        role := .admin, tenant_id := 2 }] }

/-- A customer. -/
def newcomer : CreateCustomerRequest :=
  { email := "c@example.com", phone := "254700000003", password := "password" }

/-- The first tenant has created the customer. -/
def oneCustomer : Store :=
  { twoTenants with
    users := twoTenants.users ++ [{
      id := 21, email := newcomer.email, phone := newcomer.phone, hashed_password := ""
      tenant_id := 1 }] }

/-- The moves that create the customer. -/
def creation : List (Label Exn Store Env AccountSpawn) :=
  .spawn (.call (.create_customer newcomer none) 1 []) ::
    List.replicate 3 (.step 0 (.run { uuid := 21 }))

theorem founded_twoTenants : Founded twoTenants where
  signups := rfl
  admins := by decide
  ids := by decide
  emails := by decide
  phones := by decide

section Decidable

variable (s : Stmt) (c : Choice Exn Env) (w : AccountSpawn) (d d' : Store)

instance : Decidable (({} : AccountRules).stmt s c d) := .isTrue trivial

instance : Decidable (({} : AccountRules).spawn w d) := .isTrue trivial

instance : Decidable (({} : AccountRules).edit d d') := .isFalse not_false

end Decidable

theorem reachable_twoTenants : Reachable twoTenants :=
  ⟨twoTenants, idle twoTenants, founded_twoTenants, .refl, rfl⟩

theorem reachable_oneCustomer : Reachable oneCustomer := by
  obtain ⟨s, hs, hstore⟩ := Reaches.of_moves (Y := accountSystem) (ρ := ({} : AccountRules))
    (idle twoTenants) creation (fun d => d) oneCustomer (by decide +kernel) (by decide +kernel)
  exact ⟨twoTenants, s, founded_twoTenants, hs, hstore⟩

/-- Draws that are new in both stores. -/
def draws : Draws := { id := 22, codes := ["ABCDE"] }

theorem lawful_twoTenants : Lawful 2 draws twoTenants where
  ids := by decide
  tenant := by decide
  fresh := by decide
  drawn := ⟨"ABCDE", by decide, by decide⟩

theorem lawful_oneCustomer : Lawful 2 draws oneCustomer where
  ids := by decide
  tenant := by decide
  fresh := by decide
  drawn := ⟨"ABCDE", by decide, by decide⟩

end Examples

end TenantIsolation

end FrixelConnect
