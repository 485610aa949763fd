import FrixelConnect.AddressPlan
import FrixelConnect.RouterAddresses
import FrixelConnect.RouterHeartbeat
import FrixelConnect.SetupScripts
import FrixelConnect.Interleaving.Fenced

/-!
# The fleet of routers

All the requests that write the tables `routers` and `setup_tokens`, and the monitor, over one
database: a router is registered, renamed, onboarded, provisioned, confirmed and deleted while the
monitor sets the status of those that it has fetched before.

## Implementation notes

The port, the user and the password of a router are left out of its row, as is the log of the
tenant. What a router answers to the client is an answer of the environment. Here the monitor is a
program, so that what others do between its statements is their own doing; `check_router_agrees`
says that it does what the monitor of `RouterHeartbeat` does.
-/

namespace FrixelConnect

open Calendar Interleaving Python

namespace RouterFleet

structure RouterCreate where
  name : String
  host : String
  port : ℕ := 80
  username : String
  password : String
  site_name : String

structure RouterUpdate where
  name : Option String := none
  host : Option String := none
  port : Option ℕ := none
  username : Option String := none
  password : Option String := none
  site_name : Option String := none

structure SaveCredentialsRequest where
  router_id : UUID
  username : String
  password : String
  port : ℕ

/-- Some column is to be updated. -/
def RouterUpdate.any (payload : RouterUpdate) : Bool :=
  payload.name.isSome || payload.host.isSome || payload.port.isSome || payload.username.isSome ||
    payload.password.isSome || payload.site_name.isSome

/-- The columns after the update. -/
def RouterUpdate.apply (payload : RouterUpdate) (r : RouterRow) : RouterRow :=
  { r with
    name := payload.name.getD r.name
    host := payload.host.or r.host
    site_name := payload.site_name.getD r.site_name }

inductive FleetStmt where
  | router (s : RouterStmt)
  | provision (s : AddressPlan.ProvisionStmt)
  | select_name_conflict (tenant_id : UUID) (name : String) (id : UUID)
  | update_router (id tenant_id : UUID) (payload : RouterUpdate)
  | save_credentials (host username password_encrypted : String) (port : ℕ) (id tenant_id : UUID)
  | complete_onboarding (id tenant_id : UUID)
  | encrypt_secret (password : String)
  | select_monitored
  | get_user_profile_names (r : RouterRow)
  | set_online (id : UUID)
  | set_offline (id : UUID)

/-- What the environment contributes to one statement. -/
structure FleetEnv where
  core : RouterEnv := {}
  client : RouterOs.RestClient := { host := "", port := 80 }
  response : RouterOs.Response := { status_code := 200, content := .other }
  names : List String := []

namespace FleetStmt

abbrev Res : FleetStmt → Type
  | .router s => s.Res
  | .provision s => s.Res
  | .select_name_conflict .. => Option UUID
  | .update_router .. => Option RouterRow
  | .encrypt_secret _ => String
  | .select_monitored => List RouterRow
  | .get_user_profile_names _ => List String
  | _ => Unit

/-- The statement runs on the database connection. -/
def inTx : FleetStmt → Bool
  | .router s => s.inTx
  | .provision (.get_mikrotik_client _) => false
  | .provision (.request _) => false
  | .encrypt_secret _ => false
  | .get_user_profile_names _ => false
  | _ => true

end FleetStmt

/-- `UPDATE routers SET status = … WHERE id = …`. -/
def setStatus (d : RouterStore) (id : UUID) (status : RouterStatus) : RouterStore :=
  d.updateRouters (fun r => r.id == id) fun r => { r with status }

/-- `WHERE status NOT IN ('pending_setup', 'testing')`. -/
def monitored (r : RouterRow) : Bool := r.status != .pending_setup && r.status != .testing

/-- The exceptions of the server and those of its client. -/
abbrev FleetExn := Exn ⊕ RouterOs.ClientError

/-- The statements of the provisioning, over the database of the fleet. -/
def evalProvision (v : FleetEnv) (d : RouterStore) :
    (s : AddressPlan.ProvisionStmt) → s.Res × RouterStore
  | .select_router id tenant_id =>
      (fetchrow v.core.pick (fun r => r.id == id && r.tenant_id == tenant_id) d.routers, d)
  | .get_mikrotik_client _ => (v.client, d)
  | .request _ => (v.response, d)
  | .set_online id => ((), setStatus d id .online)

/-- What a statement answers and the store after it, or what it raises. -/
def FleetStmt.eval (v : FleetEnv) (d : RouterStore) :
    (s : FleetStmt) → Except FleetExn (s.Res × RouterStore)
  | .router s => (s.eval v.core d).mapError .inl
  | .provision s => pure (evalProvision v d s)
  | .select_name_conflict tenant_id name id =>
      pure ((fetchrow v.core.pick
        (fun r => r.tenant_id == tenant_id && r.name == name && r.id != id) d.routers).map (·.id),
        d)
  | .update_router id tenant_id payload => do
      let named (r : RouterRow) : Bool := r.id == id && r.tenant_id == tenant_id
      (check (!d.routers.any named || d.routers.all fun r =>
        named r || !(r.tenant_id == tenant_id && payload.name == some r.name))
        (.uniqueViolation .routers_tenant_name_unique)).mapError .inl
      let d' := d.updateRouters named payload.apply
      pure (fetchrow v.core.pick named d'.routers, d')
  | .save_credentials host _ _ _ id tenant_id =>
      pure ((), d.updateRouters (fun r => r.id == id && r.tenant_id == tenant_id)
        fun r => { r with host := some host, status := .testing })
  | .complete_onboarding id tenant_id =>
      pure ((), d.updateRouters (fun r => r.id == id && r.tenant_id == tenant_id)
        fun r => { r with status := .online })
  | .encrypt_secret _ => pure (v.core.text, d)
  | .select_monitored => pure (d.routers.filter monitored, d)
  | .get_user_profile_names _ => pure (v.names, d)
  | .set_online id => pure ((), setStatus d id .online)
  | .set_offline id => pure ((), setStatus d id .offline)

/-- A statement that raises leaves the store as it was. -/
def FleetStmt.exec (s : FleetStmt) (v : FleetEnv) (d : RouterStore) :
    Except FleetExn s.Res × RouterStore := settle (s.eval v d) d

def fleetMachine : Machine FleetStmt FleetStmt.Res FleetExn RouterStore FleetEnv UUID where
  exec := FleetStmt.exec
  inTx := FleetStmt.inTx
  locks _ := []
  aborted := .inl .inFailedTransaction

/-! ## The requests of the administrators -/

abbrev AdminM := Prog FleetStmt FleetStmt.Res Unit Exn

/-- One statement of a program. -/
abbrev run (s : FleetStmt) : AdminM s.Res := Prog.exec s

def create_router (tenant_id : UUID) (payload : RouterCreate) : AdminM RouterRow := do
  (Routers.require_new_name tenant_id payload.name).embed FleetStmt.router
  let _ ← run (.encrypt_secret payload.password)
  let row : RouterRow := {
    id := 0, tenant_id, name := payload.name, site_name := payload.site_name
    host := some payload.host }
  let id ← run (.router (.insert_router row))
  return { row with id }

def get_router_by_id (tenant_id router_id : UUID) : AdminM RouterRow := do
  let row ← run (.router (.select_router router_id tenant_id))
  match row with
  | none => throw (.notFound "Router" (str router_id))
  | some row => return row

/-- The new name, if there is one, is not taken within the tenant. -/
def require_free_name (tenant_id router_id : UUID) (name : Option String) (old : String) :
    AdminM Unit :=
  match name with
  | none => pure ()
  | some name =>
      if name = old then pure ()
      else do
        let conflict ← run (.select_name_conflict tenant_id name router_id)
        match conflict with
        | some _ => throw (.conflict ("A router with name '" ++ name ++ "' already exists."))
        | none => return ()

/-- The password is encrypted while the columns are collected. -/
def encrypt_password (password : Option String) : AdminM Unit :=
  match password with
  | none => pure ()
  | some password => do
      let _ ← run (.encrypt_secret password)
      return ()

def update_router (tenant_id router_id : UUID) (payload : RouterUpdate) : AdminM RouterRow := do
  let existing ← run (.router (.select_router router_id tenant_id))
  match existing with
  | none => throw (.notFound "Router" (str router_id))
  | some existing =>
      require_free_name tenant_id router_id payload.name existing.name
      encrypt_password payload.password
      if !payload.any then
        get_router_by_id tenant_id router_id
      else
        let row ← run (.update_router router_id tenant_id payload)
        match row with
        | none => throw (.fault .typeError)
        | some row => return row

def onboarding_save_credentials (tenant_id : UUID) (data : SaveCredentialsRequest) :
    AdminM Unit := do
  let router_row ← run (.router (.select_router data.router_id tenant_id))
  match router_row with
  | none => throw (.notFound "Router" (str data.router_id))
  | some router_row =>
      let assigned_ip := strOfInet router_row.wireguard_assigned_ip
      let encrypted_password ← run (.encrypt_secret data.password)
      run (.save_credentials assigned_ip data.username encrypted_password data.port data.router_id
        tenant_id)

def onboarding_complete (tenant_id router_id : UUID) : AdminM UUID := do
  let router_row ← run (.router (.select_router router_id tenant_id))
  match router_row with
  | none => throw (.notFound "Router" (str router_id))
  | some _ =>
      run (.complete_onboarding router_id tenant_id)
      return router_id

/-! ## The monitor -/

/-- `consecutive_failures`. -/
abbrev Failures := UUID → Option ℕ

/-- The statement goes through. -/
def attempt (s : FleetStmt) : AdminM Bool :=
  (run s >>= fun _ => pure true).tryCatch fun _ => pure false

/-- The counters after a failed check, which is the third in a row or not. -/
def count_failure (consecutive_failures : Failures) (r : RouterRow) : AdminM (Failures × Bool) := do
  let failures := (consecutive_failures r.id).getD 0 + 1
  let consecutive_failures := Function.update consecutive_failures r.id (some failures)
  if failures ≥ 3 then
    let goes_on ← attempt (.set_offline r.id)
    return (consecutive_failures, goes_on)
  else return (consecutive_failures, true)

/-- One pass of the inner loop: the counters after it, and whether the round goes on. -/
def check_router (consecutive_failures : Failures) (r : RouterRow) : AdminM (Failures × Bool) := do
  let answered ← attempt (.get_user_profile_names r)
  if answered then
    let consecutive_failures := Function.update consecutive_failures r.id (some 0)
    let stored ← attempt (.set_online r.id)
    if stored then return (consecutive_failures, true)
    else count_failure consecutive_failures r
  else count_failure consecutive_failures r

def check_routers (consecutive_failures : Failures) : List RouterRow → AdminM Failures
  | [] => pure consecutive_failures
  | r :: rest => do
      let (consecutive_failures, goes_on) ← check_router consecutive_failures r
      if goes_on then check_routers consecutive_failures rest else pure consecutive_failures

def heartbeat_round (consecutive_failures : Failures) : AdminM Failures :=
  (do let routers ← run .select_monitored
      check_routers consecutive_failures routers : AdminM Failures).tryCatch
    fun _ => pure consecutive_failures

/-- The monitor until it has finished its last round. -/
def router_heartbeat_loop : ℕ → Failures → AdminM Unit
  | 0, _ => pure ()
  | rounds + 1, consecutive_failures => do
      let consecutive_failures ← heartbeat_round consecutive_failures
      router_heartbeat_loop rounds consecutive_failures

/-! ## The monitor of `RouterHeartbeat` -/

/-- The answers to the statements of a visit. -/
def answered (v : Visit) (s : FleetStmt) (d : RouterStore) : Except Exn s.Res × RouterStore :=
  match s with
  | .get_user_profile_names _ => (v.check.map fun _ => [], d)
  | .set_online id => settle (v.set_online.map fun _ => ((), setStatus d id .online)) d
  | .set_offline id => settle (v.set_offline.map fun _ => ((), setStatus d id .offline)) d
  | _ => (.error .inFailedTransaction, d)

theorem rows_set (t : RouterTable) (id : UUID) (f : MonitoredRouter → MonitoredRouter)
    (hf : ∀ r, (f r).id = r.id) (g : RouterRow → RouterRow)
    (hg : ∀ r, (f r).toRouterRow = g r.toRouterRow) :
    (t.update id f hf).rows.map (·.toRouterRow) =
      updateRows (fun r => r.id == id) g (t.rows.map (·.toRouterRow)) := by
  simp only [RouterTable.update, updateRows, List.map_map]
  refine List.map_congr_left fun r _ => ?_
  dsimp only [Function.comp]
  split
  · exact hg r
  · rfl

theorem attempt_then {α σ : Type} {f : (s : FleetStmt) → σ → Except Exn s.Res × σ} {s : FleetStmt}
    {k : Bool → AdminM α} {x : σ} : (attempt s >>= k).interpret f x =
      (k (f s x).1.isOk).interpret f (f s x).2 := by
  rw [Prog.bind_eq, Prog.bind, Prog.interpret_handle]
  have hattempt : (attempt s).interpret f x = (.ok (f s x).1.isOk, (f s x).2) := by
    rw [attempt, Prog.tryCatch, Prog.bind_eq, Prog.bind, Prog.interpret_handle,
      Prog.interpret_handle]
    have hrun : (run s).interpret f x = f s x := rfl
    rw [hrun]
    rcases f s x with ⟨e | a, y⟩
    · rfl
    · rfl
  rw [hattempt]

/-- A check of the monitor whose statements go through leaves the counters and the rows that
`Monitor.dealt` says. -/
theorem check_router_agrees {r : MonitoredRouter} {v : Visit} {m : Monitor} {d : RouterStore}
    (hv : v.Succeeds) (hd : d.routers = m.routers.rows.map (·.toRouterRow)) :
    (check_router m.consecutive_failures r.toRouterRow).interpret (answered v) d =
      (.ok ((m.dealt r.id v).consecutive_failures, true),
        { d with routers := (m.dealt r.id v).routers.rows.map (·.toRouterRow) }) := by
  have honline : setStatus d r.id .online =
      { d with routers := (m.routers.set_online r.id v.now).rows.map (·.toRouterRow) } := by
    rw [setStatus, RouterStore.updateRouters, hd, RouterTable.set_online,
      rows_set m.routers r.id _ _ (fun r => { r with status := .online }) fun _ => rfl]
  have hoffline : setStatus d r.id .offline =
      { d with routers := (m.routers.set_offline r.id).rows.map (·.toRouterRow) } := by
    rw [setStatus, RouterStore.updateRouters, hd, RouterTable.set_offline,
      rows_set m.routers r.id _ _ (fun r => { r with status := .offline }) fun _ => rfl]
  rw [check_router, attempt_then]
  unfold Monitor.dealt
  cases hcheck : v.check with
  | ok _ =>
      have hnames : (answered v (.get_user_profile_names r.toRouterRow) d) = (.ok [], d) := by
        rw [answered, hcheck]
        rfl
      have hstore : answered v (.set_online r.id) d = (.ok (), setStatus d r.id .online) := by
        rw [answered, hv.set_online]
        rfl
      rw [hnames]
      change (attempt (.set_online r.id) >>= _).interpret _ d = _
      rw [attempt_then, hstore, honline]
      rfl
  | error e =>
      have hnames : (answered v (.get_user_profile_names r.toRouterRow) d) = (.error e, d) := by
        rw [answered, hcheck]
        rfl
      have hstore : answered v (.set_offline r.id) d = (.ok (), setStatus d r.id .offline) := by
        rw [answered, hv.set_offline]
        rfl
      rw [hnames]
      change (count_failure _ r.toRouterRow).interpret _ d = _
      have hcount : (m.consecutive_failures r.toRouterRow.id).getD 0 = m.failures r.id := rfl
      rw [count_failure, hcount]
      dsimp only
      by_cases hthird : m.failures r.id + 1 ≥ 3
      · rw [if_pos hthird, if_pos hthird, attempt_then, hstore, hoffline]
        rfl
      · rw [if_neg hthird, if_neg hthird]
        have hsame : d = { d with routers := m.routers.rows.map (·.toRouterRow) } := by rw [← hd]
        exact congrArg (Prod.mk _) hsame

/-! ## The system -/

abbrev FleetM := Prog FleetStmt FleetStmt.Res Unit FleetExn

/-- The exception as the server sees it, and as the client does. -/
def onServer (e : FleetExn) : Exn := e.elim id fun _ => .exception ""

def atClient (e : FleetExn) : RouterOs.ClientError := e.elim (fun e => .exception e.str) id

variable {α : Type}

def ofRouter (p : RouterM α) : FleetM Unit :=
  (p >>= fun _ => pure ()).translate FleetStmt.router id .inl onServer

def ofAdmin (p : AdminM α) : FleetM Unit :=
  (p >>= fun _ => pure ()).translate id id .inl onServer

def ofProvision (p : AddressPlan.ProvisionM α) : FleetM Unit :=
  (p >>= fun _ => pure ()).translate FleetStmt.provision Empty.elim .inr atClient

/-- The requests, and the monitor. -/
inductive FleetCall where
  | onboard (w : Routers.RouterSpawn)
  | download (token client_ip : String)
  | create (tenant_id : UUID) (payload : RouterCreate)
  | update (tenant_id router_id : UUID) (payload : RouterUpdate)
  | save_credentials (tenant_id : UUID) (data : SaveCredentialsRequest)
  | complete (tenant_id router_id : UUID)
  | provision (tenant_id router_id : UUID) (data : AddressPlan.RouterProvisionRequest)
  | heartbeat (rounds : ℕ)

/-- The settings of the server. -/
structure FleetSettings where
  setup : SetupSettings
  provision : AddressPlan.ProvisionSettings
  valid_netloc : List Char → Bool

variable (settings : FleetSettings)

def FleetCall.program : FleetCall → FleetM Unit
  | .onboard w => ofRouter w.program
  | .download token client_ip =>
      ofRouter (Routers.download_setup_script settings.setup token client_ip)
  | .create tenant_id payload => ofAdmin (create_router tenant_id payload)
  | .update tenant_id router_id payload => ofAdmin (update_router tenant_id router_id payload)
  | .save_credentials tenant_id data => ofAdmin (onboarding_save_credentials tenant_id data)
  | .complete tenant_id router_id => ofAdmin (onboarding_complete tenant_id router_id)
  | .provision tenant_id router_id data =>
      ofProvision (AddressPlan.provision_router settings.provision settings.valid_netloc router_id
        tenant_id data)
  | .heartbeat rounds => ofAdmin (router_heartbeat_loop rounds fun _ => none)

def fleet : System FleetStmt FleetStmt.Res Unit FleetExn RouterStore FleetEnv UUID Unit FleetCall :=
  { fleetMachine with start := fun w d => some (d, w.program settings) }

abbrev FleetState := State FleetStmt FleetStmt.Res Unit FleetExn RouterStore FleetEnv Unit
abbrev FleetRules := Rules FleetStmt FleetExn RouterStore FleetEnv FleetCall

theorem fleetMachine_restores : fleetMachine.Restores :=
  .of_settle (fun s v d => s.eval v d) fun _ _ _ => rfl

end RouterFleet

end FrixelConnect
