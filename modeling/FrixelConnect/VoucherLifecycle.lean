import FrixelConnect.Vouchers
import FrixelConnect.Routers

/-!
# Withdrawing and retrying vouchers

An administrator revokes a voucher or retries one that is not provisioned yet, a poller retries
all of these, and the session sync expires the vouchers whose time is over.

## Implementation notes

Every statement takes effect at once, since none of the operations opens a transaction, and
carries the operation that runs it. One pass of the poller is one call.
-/

namespace FrixelConnect

open Calendar Python Interleaving

/-- A row of `radacct`; `router_ip` is `HOST(nasipaddress)`. -/
structure AcctRow where
  acctsessionid : String
  acctuniqueid : String
  username : Option String := none
  router_ip : String
  acctstarttime : Option Timestamptz := none
  acctstoptime : Option Timestamptz := none
  acctinputoctets : Option ℤ := none
  acctoutputoctets : Option ℤ := none
  callingstationid : Option String := none
  framedipaddress : Option String := none
  deriving DecidableEq

structure Router where
  id : UUID
  host : String
  tenant_id : UUID
  status : RouterStatus := .unknown
  deriving DecidableEq

/-- The tables that the operations on vouchers read and write. -/
structure VoucherStore extends Store where
  radacct : List AcctRow := []
  routers : List Router := []

inductive VoucherOperation where
  | revoke
  | retry
  | poller
  | sync
  deriving DecidableEq

inductive VoucherQuery where
  | base (s : Stmt)
  | select_voucher (voucher_id tenant_id : UUID)
  | revoke_voucher (voucher_id tenant_id : UUID)
  | select_provision (voucher_id tenant_id : UUID)
  | activate_voucher (voucher_id tenant_id : UUID)
  | select_pending
  | expire_vouchers
  | select_tenant (voucher_id : UUID)
  | select_active_session (username : String)
  | select_last_session (username : String)
  | select_router (router_id tenant_id : UUID)
  | select_router_host (host : String)
  | select_router_id (router_id : UUID)
  | send_coa_disconnect (router_ip username session_id : String)
  | remove_active_hotspot_session (router : Option Router) (username : String)

/-- A statement of an operation. -/
structure VoucherStmt where
  caller : VoucherOperation
  query : VoucherQuery

namespace VoucherQuery

abbrev Res : VoucherQuery → Type
  | .base s => s.Res
  | .select_voucher _ _ => Option Voucher
  | .revoke_voucher _ _ => Option Voucher
  | .select_provision _ _ => Option (Voucher × Package)
  | .activate_voucher _ _ => Option Voucher
  | .select_pending => List (Voucher × Package)
  | .expire_vouchers => List Voucher
  | .select_tenant _ => Option UUID
  | .select_active_session _ => Option AcctRow
  | .select_last_session _ => Option AcctRow
  | .select_router _ _ => Option Router
  | .select_router_host _ => Option Router
  | .select_router_id _ => Option Router
  | .send_coa_disconnect _ _ _ => Bool
  | .remove_active_hotspot_session _ _ => Unit

/-- The query runs on the database connection. -/
def inTx : VoucherQuery → Bool
  | .base s => s.inTx
  | .send_coa_disconnect _ _ _ => false
  | .remove_active_hotspot_session _ _ => false
  | _ => true

end VoucherQuery

abbrev VoucherStmt.Res (s : VoucherStmt) : Type := s.query.Res

namespace VoucherStore

/-- The vouchers with their packages. -/
def provisions (d : VoucherStore) : List (Voucher × Package) :=
  d.vouchers.flatMap fun w => (d.packages.filter fun k => k.id == w.package_id).map fun k => (w, k)

/-- `UPDATE vouchers SET status = …` for the rows that satisfy `p`. -/
def setStatus (d : VoucherStore) (p : Voucher → Bool) (status : VoucherStatus) : VoucherStore :=
  { d with vouchers := updateRows p (fun w => { w with status }) d.vouchers }

/-- The latest of the sessions that satisfy `p`; NULL sorts behind every time. -/
def latest (d : VoucherStore) (pick : ℕ) (p : AcctRow → Bool) : Option AcctRow :=
  let found := d.radacct.filter p
  fetchrow pick (fun r => found.all fun r' => r.acctstarttime.all fun t =>
    r'.acctstarttime.any fun t' => t' ≤ t) found

end VoucherStore

/-- The voucher with the id, in the tenant. -/
def Voucher.isOf (voucher_id tenant_id : UUID) (w : Voucher) : Bool :=
  w.id == voucher_id && w.tenant_id == tenant_id

/-- The time of the voucher is over. -/
def Voucher.isDue (now : Timestamptz) (w : Voucher) : Bool :=
  (w.status == .active || w.status == .used) && w.expires_at.any fun t => t ≤ now

/-- What a query answers and the store after it, or what it raises. -/
def VoucherQuery.eval (v : Env) (d : VoucherStore) :
    (q : VoucherQuery) → Except Exn (q.Res × VoucherStore)
  | .base s => (s.eval v d.toStore).map fun r => (r.1, { d with toStore := r.2 })
  | .select_voucher voucher_id tenant_id =>
      pure (fetchrow v.pick (·.isOf voucher_id tenant_id) d.vouchers, d)
  | .revoke_voucher voucher_id tenant_id =>
      let d' := d.setStatus (·.isOf voucher_id tenant_id) .revoked
      pure (fetchrow v.pick (·.isOf voucher_id tenant_id) d'.vouchers, d')
  | .select_provision voucher_id tenant_id =>
      pure (fetchrow v.pick (fun r => r.1.isOf voucher_id tenant_id) d.provisions, d)
  | .activate_voucher voucher_id tenant_id =>
      let d' := d.setStatus (·.isOf voucher_id tenant_id) .active
      pure (fetchrow v.pick (·.isOf voucher_id tenant_id) d'.vouchers, d')
  | .select_pending =>
      pure (d.provisions.filter fun r => r.1.status == .pending_provision, d)
  | .expire_vouchers =>
      let expired := d.vouchers.filter (·.isDue v.now)
      pure (expired.map fun w => { w with status := .expired }, d.setStatus (·.isDue v.now) .expired)
  | .select_tenant voucher_id =>
      pure ((fetchrow v.pick (fun w => w.id == voucher_id) d.vouchers).map (·.tenant_id), d)
  | .select_active_session username =>
      pure (d.latest v.pick fun r => r.username == some username && r.acctstoptime.isNone, d)
  | .select_last_session username =>
      pure (d.latest v.pick fun r => r.username == some username, d)
  | .select_router router_id tenant_id =>
      pure (fetchrow v.pick (fun r => r.id == router_id && r.tenant_id == tenant_id) d.routers, d)
  | .select_router_host host => pure (fetchrow v.pick (fun r => r.host == host) d.routers, d)
  | .select_router_id router_id => pure (fetchrow v.pick (fun r => r.id == router_id) d.routers, d)
  | .send_coa_disconnect _ _ _ => pure (v.draw 0 != 0, d)
  | .remove_active_hotspot_session _ _ => pure ((), d)

/-- A statement that raises leaves the store as it was. -/
def VoucherStmt.exec (s : VoucherStmt) (v : Env) (d : VoucherStore) :
    Except Exn s.Res × VoucherStore :=
  match s.query.eval v d with
  | .ok r => (.ok r.1, r.2)
  | .error e => (.error e, d)

def voucherMachine : Machine VoucherStmt VoucherStmt.Res Exn VoucherStore Env UUID where
  exec := VoucherStmt.exec
  inTx s := s.query.inTx
  locks _ := []
  aborted := .inFailedTransaction

abbrev VoucherM := Prog VoucherStmt VoucherStmt.Res Frame Exn

/-- One statement of an operation. -/
abbrev query (caller : VoucherOperation) (q : VoucherQuery) : VoucherM q.Res :=
  Prog.exec (R := VoucherStmt.Res) { caller, query := q }

/-- A program over the common tables that an operation runs. -/
abbrev within {α : Type} (caller : VoucherOperation) (p : M α) : VoucherM α :=
  Prog.embed (fun s => VoucherStmt.mk caller (.base s)) p

/-- The session of a withdrawn voucher is removed at the router; a failure is logged. -/
def remove_session (caller : VoucherOperation) (router : Option Router) (code : String) :
    VoucherM Unit :=
  (query caller (.remove_active_hotspot_session router code)).tryCatch fun _ => pure ()

/-- The session of a revoked voucher is ended. -/
def disconnect_revoked (tenant_id : UUID) (voucher : Voucher) : VoucherM Unit := do
  let active_session ← query .revoke (.select_active_session voucher.code)
  match active_session with
  | none => return ()
  | some active_session =>
      let coa_success ← query .revoke (.send_coa_disconnect active_session.router_ip voucher.code
        active_session.acctsessionid)
      if coa_success then return ()
      else
        match voucher.router_id with
        | none => remove_session .revoke none voucher.code
        | some router_id => do
            let router_row ← query .revoke (.select_router router_id tenant_id)
            remove_session .revoke router_row voucher.code

def admin_revoke_voucher (tenant_id voucher_id : UUID) : VoucherM Voucher := do
  let voucher ← query .revoke (.select_voucher voucher_id tenant_id)
  match voucher with
  | none => throw (.notFound "Voucher" (str voucher_id))
  | some voucher => do
      let updated_row ← query .revoke (.revoke_voucher voucher_id tenant_id)
      query .revoke (.base (.delete_radius .radcheck voucher.code tenant_id))
      query .revoke (.base (.delete_radius .radreply voucher.code tenant_id))
      disconnect_revoked tenant_id voucher
      match updated_row with
      | some updated_row => return updated_row
      | none => throw (.fault .typeError)

def admin_retry_voucher (tenant_id voucher_id : UUID) : VoucherM Voucher := do
  let row ← query .retry (.select_provision voucher_id tenant_id)
  match row with
  | none => throw (.notFound "Voucher" (str voucher_id))
  | some (row, package) =>
      if row.status ≠ .pending_provision then
        throw (.valueError s!"Voucher {str voucher_id} is not pending provision.")
      else do
        let code := row.code
        (within .retry (_provision_radius_credentials code code package.speed_mbps
          package.duration_minutes tenant_id package.data_quota_mb)).tryCatch fun _ =>
            throw (.valueError "RADIUS provisioning failed")
        let updated_row ← query .retry (.activate_voucher voucher_id tenant_id)
        match updated_row with
        | some updated_row => return updated_row
        | none => throw (.fault .typeError)

/-- The poller provisions and activates one voucher. -/
def provision_pending (v : Voucher) (package : Package) : VoucherM Unit := do
  within .poller (_provision_radius_credentials v.code v.code package.speed_mbps
    package.duration_minutes v.tenant_id package.data_quota_mb)
  let _ ← query .poller (.activate_voucher v.id v.tenant_id)

/-- One pass of the poller. -/
def provision_retry_poller : VoucherM Unit :=
  (query .poller .select_pending >>= fun rows => Prog.forEach rows fun r =>
    (provision_pending r.1 r.2).tryCatch fun _ => pure ()).tryCatch fun _ => pure ()

def router_by_host : Option String → VoucherM (Option Router)
  | some host => query .sync (.select_router_host host)
  | none => return none

/-- The router of an expired voucher: the one with the address, or else the voucher's own. -/
def find_router (host : Option String) (router_id : Option UUID) : VoucherM (Option Router) := do
  let by_host ← router_by_host host
  match by_host, router_id with
  | some router, _ => return some router
  | none, some router_id => query .sync (.select_router_id router_id)
  | none, none => return none

/-- The session of an expired voucher is ended. -/
def disconnect_expired (v : Voucher) : VoucherM Unit := do
  let active_session ← query .sync (.select_active_session v.code)
  match active_session with
  | some active_session =>
      let coa_success ← query .sync (.send_coa_disconnect active_session.router_ip v.code
        active_session.acctsessionid)
      if coa_success then return ()
      else do
        let router ← find_router (some active_session.router_ip) v.router_id
        remove_session .sync router v.code
  | none =>
      let last_session ← query .sync (.select_last_session v.code)
      let router ← find_router (last_session.map (·.router_ip)) v.router_id
      remove_session .sync router v.code

/-- `WHERE tenant_id = $2` with the tenant that was found; NULL matches no row. -/
def delete_expired (t : RadiusTable) (code : String) (tenant_id : Option UUID) : VoucherM Unit :=
  match tenant_id with
  | some tenant_id => query .sync (.base (.delete_radius t code tenant_id))
  | none => return ()

/-- The loop of the expiry step, for one voucher. -/
def withdraw_expired (v : Voucher) : VoucherM Unit := do
  let voucher_tenant_id ← query .sync (.select_tenant v.id)
  delete_expired .radcheck v.code voucher_tenant_id
  delete_expired .radreply v.code voucher_tenant_id
  disconnect_expired v

/-- The expiry step of `sync_radius_sessions_cron`. -/
def expire_step : VoucherM Unit :=
  (query .sync .expire_vouchers >>= fun expired_vouchers =>
    Prog.forEach expired_vouchers withdraw_expired).tryCatch fun _ => pure ()

/-- The calls that may run. -/
inductive VoucherCall where
  | revoke (tenant_id voucher_id : UUID)
  | retry (tenant_id voucher_id : UUID)
  | poller
  | sync

/-- The program of a call. -/
def VoucherCall.prog : VoucherCall → VoucherM Unit
  | .revoke tenant_id voucher_id => admin_revoke_voucher tenant_id voucher_id >>= fun _ => pure ()
  | .retry tenant_id voucher_id => admin_retry_voucher tenant_id voucher_id >>= fun _ => pure ()
  | .poller => provision_retry_poller
  | .sync => expire_step

def voucherSystem : System VoucherStmt VoucherStmt.Res Frame Exn VoucherStore Env UUID Unit
    VoucherCall :=
  { voucherMachine with start := fun w d => some (d, w.prog) }

abbrev VoucherState := State VoucherStmt VoucherStmt.Res Frame Exn VoucherStore Env Unit
abbrev VoucherRules := Rules VoucherStmt Exn VoucherStore Env VoucherCall

theorem VoucherStmt.exec_eq_settle (s : VoucherStmt) (v : Env) (d : VoucherStore) :
    s.exec v d = settle (s.query.eval v d) d := by
  rw [exec]
  cases s.query.eval v d with
  | ok r => rfl
  | error e => rfl

theorem VoucherStmt.exec_eq_ok {s : VoucherStmt} {v : Env} {d d' : VoucherStore} {a : s.Res} :
    s.exec v d = (.ok a, d') ↔ s.query.eval v d = .ok (a, d') := by
  rw [exec_eq_settle, settle_eq_ok]

theorem VoucherQuery.eval_base {s : Stmt} {v : Env} {d d' : VoucherStore} {a : s.Res}
    (h : (base s).eval v d = .ok (a, d')) :
    ∃ x, s.eval v d.toStore = .ok (a, x) ∧ d' = { d with toStore := x } := by
  rw [eval] at h
  cases hs : s.eval v d.toStore with
  | ok r =>
      rw [hs] at h
      cases h
      exact ⟨r.2, rfl, rfl⟩
  | error e =>
      rw [hs] at h
      cases h

theorem voucherMachine_restores : voucherMachine.Restores := .of_settle _ VoucherStmt.exec_eq_settle

end FrixelConnect
