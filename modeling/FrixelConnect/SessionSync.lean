import FrixelConnect.VoucherLifecycle

/-!
# Synchronising the sessions

The accounting rows that the RADIUS server writes become rows of `sessions`, the routers report
the bytes of the logins that are open, the first session of a voucher starts its clock, and the
vouchers whose time is over are withdrawn. Beside the sync, packages are edited.

## Implementation notes

The sync opens no transaction, so that every statement takes effect at once, and one handler
stands around all of it. A statement converts, checks and writes all of its rows or none.
-/

namespace FrixelConnect

open Calendar Decimals Python Interleaving

/-- A row of `sessions`. -/
structure Session where
  id : UUID
  voucher_id : UUID
  customer_id : UUID
  tenant_id : UUID
  mac_address : Option String := none
  ip_address : Option String := none
  bytes_uploaded : ℤ := 0
  bytes_downloaded : ℤ := 0
  started_at : Timestamptz
  ended_at : Option Timestamptz := none
  acct_unique_id : Option String := none
  deriving DecidableEq

/-- The tables that the sync reads and writes. -/
structure SyncStore extends VoucherStore where
  sessions : List Session := []

/-- A login in the answer of a router; a counter is `none` where `int` raises. -/
structure LiveSession where
  user : Option String := none
  bytes_in : Option ℤ := some 0
  bytes_out : Option ℤ := some 0
  /-- The accounting id of the login. It is not in the answer, and nothing here reads it. -/
  login : String := ""
  deriving DecidableEq

structure SyncEnv extends Env where
  /-- The id that is generated for the session of an accounting id. -/
  session_id : String → UUID := fun _ => 0
  live : List LiveSession := []

/-- The body of `PUT /packages/\x7bid\x7d`. -/
structure PackageUpdate where
  name : Option String := none
  description : Option String := none
  price_kes : Option Decimal := none
  duration_minutes : Option ℤ := none
  speed_mbps : Option ℤ := none
  data_quota_mb : Option ℤ := none

/-- No field is given. -/
def PackageUpdate.isEmpty (data : PackageUpdate) : Bool :=
  data.name.isNone && data.description.isNone && data.price_kes.isNone &&
    data.duration_minutes.isNone && data.speed_mbps.isNone && data.data_quota_mb.isNone

inductive SyncStmt where
  | voucher (s : VoucherStmt)
  | upsert_sessions
  | select_online_routers
  | get_active_sessions (router : Router)
  | select_voucher_id (code : String)
  /-- `login` says whose counters these are; it is no argument of the query. -/
  | update_live (bytes_in bytes_out : ℤ) (voucher_id : UUID) (login : String)
  | activate_vouchers
  | select_package (tenant_id package_id : UUID)
  | update_package (data : PackageUpdate) (tenant_id package_id : UUID)
  | deactivate_package (tenant_id package_id : UUID)

namespace SyncStmt

abbrev Res : SyncStmt → Type
  | .voucher s => s.Res
  | .upsert_sessions => Unit
  | .select_online_routers => List Router
  | .get_active_sessions _ => List LiveSession
  | .select_voucher_id _ => Option UUID
  | .update_live _ _ _ _ => Unit
  | .activate_vouchers => Unit
  | .select_package _ _ => Option Package
  | .update_package _ _ _ => Option Package
  | .deactivate_package _ _ => ℕ

/-- The statement runs on the database connection. -/
def inTx : SyncStmt → Bool
  | .voucher s => s.query.inTx
  | .get_active_sessions _ => false
  | _ => true

end SyncStmt

/-- `'1 hour'`. -/
def recently : ℤ := hour

/-- The accounting row is still written to, or was until an hour ago. -/
def AcctRow.isRecent (now : Timestamptz) (r : AcctRow) : Bool :=
  r.acctstoptime.all fun t => now - recently < t

/-- A text for a column of type `VARCHAR(n)`; of what is too long only blanks are cut off. -/
def varchar (n : ℕ) (s : String) : Except Exn String :=
  if s.length ≤ n then pure s
  else if (s.toList.drop n).all (· == ' ') then pure (String.ofList (s.toList.take n))
  else throw (.database "value too long for type character varying")

/-- The row of `sessions` that is proposed for an accounting row and its voucher. -/
def AcctRow.toSession (id : UUID) (r : AcctRow) (v : Voucher) : Except Exn Session := do
  let mac_address ← r.callingstationid.mapM (varchar 17)
  let acct_unique_id ← varchar 50 r.acctuniqueid
  let started_at ← notNull r.acctstarttime
  pure { id, voucher_id := v.id, customer_id := v.customer_id, tenant_id := v.tenant_id
         mac_address, ip_address := r.framedipaddress
         bytes_uploaded := r.acctinputoctets.getD 0, bytes_downloaded := r.acctoutputoctets.getD 0
         started_at, ended_at := r.acctstoptime, acct_unique_id := some acct_unique_id }

/-- `DO UPDATE SET …` of the row that has the accounting id of a proposed one. -/
def Session.refreshed (proposed : List Session) (x : Session) : Session :=
  match proposed.find? fun y => y.acct_unique_id == x.acct_unique_id with
  | some y => { x with bytes_uploaded := y.bytes_uploaded, bytes_downloaded := y.bytes_downloaded
                       ended_at := y.ended_at, ip_address := y.ip_address
                       mac_address := y.mac_address }
  | none => x

/-- `GREATEST` of the stored counters of an open session and those of the router. -/
def Session.raised (bytes_in bytes_out : ℤ) (x : Session) : Session :=
  { x with bytes_uploaded := max x.bytes_uploaded bytes_in
           bytes_downloaded := max x.bytes_downloaded bytes_out }

/-- The value fits into a column of the type BIGINT. -/
def isBigint (n : ℤ) : Bool := -2 ^ 63 ≤ n && n < 2 ^ 63

/-- The value fits into a column of the type INTEGER. -/
def isInteger (n : ℤ) : Bool := -2 ^ 31 ≤ n && n < 2 ^ 31

/-- The end of what TIMESTAMPTZ can hold, in the year 294277. -/
def endTimestamp : Timestamptz := 9224318016000000000

namespace SyncStore

/-- The accounting rows that the sync looks at, with their vouchers. -/
def accounted (d : SyncStore) (now : Timestamptz) : List (AcctRow × Voucher) :=
  (d.radacct.filter (·.isRecent now)).flatMap fun r =>
    (d.vouchers.filter fun v => r.username == some v.code).map fun v => (r, v)

/-- `MIN(started_at)` of the sessions of a voucher. -/
def first_start (d : SyncStore) (voucher_id : UUID) : Option Timestamptz :=
  ((d.sessions.filter fun x => x.voucher_id == voucher_id).map (·.started_at)).min?

/-- The times that a voucher gets: it has none yet, and it has a session. -/
def clock (d : SyncStore) (v : Voucher) : Option (Timestamptz × Timestamptz) :=
  match v.activated_at, d.first_start v.id, d.packages.find? fun p => p.id == v.package_id with
  | none, some first_start, some p => some (first_start, first_start + p.duration_minutes * minute)
  | _, _, _ => none

/-- The voucher with the times that it gets. -/
def started (d : SyncStore) (v : Voucher) : Voucher :=
  match d.clock v with
  | some (activated_at, expires_at) =>
      { v with activated_at := some activated_at, expires_at := some expires_at }
  | none => v

/-- The store after the report of a router on a voucher. -/
def reported (d : SyncStore) (bytes_in bytes_out : ℤ) (voucher_id : UUID) : SyncStore :=
  let sessions := updateRows (fun x => x.voucher_id == voucher_id && x.ended_at.isNone)
    (·.raised bytes_in bytes_out) d.sessions
  { d with sessions }

end SyncStore

/-- The package is on sale in the tenant. -/
def Package.isActiveIn (tenant_id package_id : UUID) (p : Package) : Bool :=
  p.id == package_id && p.tenant_id == tenant_id && p.is_active

/-- `SET` of the fields that are given. -/
def PackageUpdate.apply (data : PackageUpdate) (price_kes : Option Money) (p : Package) : Package :=
  { p with name := data.name.getD p.name
           description := data.description.orElse fun _ => p.description
           price_kes := price_kes.getD p.price_kes
           duration_minutes := data.duration_minutes.getD p.duration_minutes
           speed_mbps := data.speed_mbps.getD p.speed_mbps
           data_quota_mb := data.data_quota_mb.orElse fun _ => p.data_quota_mb }

namespace SyncStmt

variable (v : SyncEnv) (d : SyncStore)

/-- The new sessions are inserted, and those that are there are brought up to date. -/
def upsert (proposed : List Session) : Except Exn SyncStore := do
  check (decide (proposed.map (·.acct_unique_id)).Nodup)
    (.database "ON CONFLICT DO UPDATE command cannot affect row a second time")
  let inserted := proposed.filter fun x =>
    d.sessions.all fun y => y.acct_unique_id != x.acct_unique_id
  check (decide ((d.sessions ++ inserted).map (·.id)).Nodup) (.uniqueViolation .primary_key)
  pure { d with sessions := d.sessions.map (·.refreshed proposed) ++ inserted }

/-- What a statement answers and the store after it, or what it raises. -/
def eval : (s : SyncStmt) → Except Exn (s.Res × SyncStore)
  | .voucher s =>
      (s.query.eval v.toEnv d.toVoucherStore).map fun r => (r.1, { d with toVoucherStore := r.2 })
  | .upsert_sessions => do
      let proposed ← (d.accounted v.now).mapM fun x =>
        x.1.toSession (v.session_id x.1.acctuniqueid) x.2
      let d' ← upsert d proposed
      pure ((), d')
  | .select_online_routers => pure (d.routers.filter fun r => r.status == .online, d)
  | .get_active_sessions _ => pure (v.live, d)
  | .select_voucher_id code =>
      pure ((fetchrow v.pick (fun w => w.code == code) d.vouchers).map (·.id), d)
  | .update_live bytes_in bytes_out voucher_id _ => do
      check (isBigint bytes_in && isBigint bytes_out)
        (.database "invalid input for query argument: value out of int64 range")
      pure ((), d.reported bytes_in bytes_out voucher_id)
  | .activate_vouchers => do
      check (d.vouchers.all fun w => (d.clock w).all fun t => t.2 < endTimestamp)
        (.database "timestamp out of range")
      pure ((), { d with vouchers := d.vouchers.map d.started })
  | .select_package tenant_id package_id =>
      pure (fetchrow v.pick (·.isActiveIn tenant_id package_id) d.packages, d)
  | .update_package data tenant_id package_id => do
      let name ← textParam (some 100) ((data.name.map Json.str).getD .null)
      let description ← textParam none ((data.description.map Json.str).getD .null)
      let price_kes ← data.price_kes.mapM moneyParam
      check ([data.duration_minutes, data.speed_mbps, data.data_quota_mb].all fun n =>
        n.all isInteger) (.database "invalid input for query argument: value out of int32 range")
      let changed := PackageUpdate.apply { data with name, description } price_kes
      check ((d.packages.filter (·.isActiveIn tenant_id package_id)).all fun p =>
        (changed p).price_kes.positive && 0 < (changed p).duration_minutes &&
          0 < (changed p).speed_mbps) (.database "violates check constraint")
      let packages : List Package := updateRows (·.isActiveIn tenant_id package_id) changed d.packages
      check (decide (packages.map fun (p : Package) => (p.tenant_id, p.name)).Nodup)
        (.uniqueViolation .packages_tenant_name_unique)
      pure (fetchrow v.pick (·.isActiveIn tenant_id package_id) packages, { d with packages })
  | .deactivate_package tenant_id package_id =>
      let packages : List Package := updateRows (·.isActiveIn tenant_id package_id)
        (fun p => { p with is_active := false }) d.packages
      pure ((d.packages.filter (·.isActiveIn tenant_id package_id)).length, { d with packages })

/-- A statement that raises leaves the store as it was. -/
def exec (s : SyncStmt) : Except Exn s.Res × SyncStore :=
  match s.eval v d with
  | .ok r => (.ok r.1, r.2)
  | .error e => (.error e, d)

end SyncStmt

def syncMachine : Machine SyncStmt SyncStmt.Res Exn SyncStore SyncEnv UUID where
  exec s v d := s.exec v d
  inTx s := s.inTx
  locks _ := []
  aborted := .inFailedTransaction

abbrev SyncM := Prog SyncStmt SyncStmt.Res Frame Exn

namespace SessionSync

/-- One statement. -/
abbrev run (s : SyncStmt) : SyncM s.Res := Prog.exec (R := SyncStmt.Res) s

/-- A program over vouchers. -/
abbrev vouchers {α : Type} (p : VoucherM α) : SyncM α := Prog.embed SyncStmt.voucher p

/-- `int(x)`. -/
def toInt : Option ℤ → SyncM ℤ
  | some n => return n
  | none => throw (.valueError "invalid literal for int() with base 10")

/-- The loop over the logins of a router, for one of them. -/
def sync_login (s_mk : LiveSession) : SyncM Unit := do
  let bytes_in ← toInt s_mk.bytes_in
  let bytes_out ← toInt s_mk.bytes_out
  match s_mk.user with
  | none => return ()
  | some voucher_code =>
      if voucher_code = "" ∨ (bytes_in = 0 ∧ bytes_out = 0) then return ()
      else do
        let voucher_id ← run (.select_voucher_id voucher_code)
        match voucher_id with
        | none => return ()
        | some voucher_id => run (.update_live bytes_in bytes_out voucher_id s_mk.login)

/-- The live bytes of one router; a failure is logged. -/
def sync_router (router_row : Router) : SyncM Unit :=
  (run (.get_active_sessions router_row) >>= fun active_sessions =>
    Prog.forEach active_sessions sync_login).tryCatch fun _ => pure ()

/-- What happens after the upsert. -/
def after_upsert : SyncM Unit := do
  let routers ← run .select_online_routers
  Prog.forEach routers sync_router
  run .activate_vouchers
  let expired_vouchers ← vouchers (query .sync .expire_vouchers)
  Prog.forEach expired_vouchers fun v => vouchers (withdraw_expired v)

def sync_radius_sessions_cron : SyncM Unit :=
  (run .upsert_sessions >>= fun _ => after_upsert).tryCatch fun _ => pure ()

def get_package_by_id (tenant_id package_id : UUID) : SyncM Package := do
  let row ← run (.select_package tenant_id package_id)
  match row with
  | none => throw (.notFound "Package" (str package_id))
  | some row => return row

def update_package (tenant_id package_id : UUID) (data : PackageUpdate) : SyncM Package := do
  let _ ← get_package_by_id tenant_id package_id
  if data.isEmpty then get_package_by_id tenant_id package_id
  else do
    let row ← run (.update_package data tenant_id package_id)
    match row with
    | none => throw (.notFound "Package" (str package_id))
    | some row => return row

def deactivate_package (tenant_id package_id : UUID) : SyncM Unit := do
  let result ← run (.deactivate_package tenant_id package_id)
  if result = 0 then throw (.notFound "Package" (str package_id))

/-- The calls that may run. -/
inductive SyncCall where
  | sync
  | update_package (tenant_id package_id : UUID) (data : PackageUpdate)
  | deactivate_package (tenant_id package_id : UUID)
  | revoke (tenant_id voucher_id : UUID)
  | retry (tenant_id voucher_id : UUID)
  | poller

/-- The program of a call. -/
def SyncCall.prog : SyncCall → SyncM Unit
  | .sync => sync_radius_sessions_cron
  | .update_package tenant_id package_id data =>
      SessionSync.update_package tenant_id package_id data >>= fun _ => pure ()
  | .deactivate_package tenant_id package_id =>
      SessionSync.deactivate_package tenant_id package_id
  | .revoke tenant_id voucher_id => vouchers (VoucherCall.revoke tenant_id voucher_id).prog
  | .retry tenant_id voucher_id => vouchers (VoucherCall.retry tenant_id voucher_id).prog
  | .poller => vouchers VoucherCall.poller.prog

def syncSystem : System SyncStmt SyncStmt.Res Frame Exn SyncStore SyncEnv UUID Unit SyncCall :=
  { syncMachine with start := fun w d => some (d, w.prog) }

abbrev SyncState := State SyncStmt SyncStmt.Res Frame Exn SyncStore SyncEnv Unit
abbrev SyncRules := Rules SyncStmt Exn SyncStore SyncEnv SyncCall

end SessionSync

end FrixelConnect
