import FrixelConnect.Daraja

/-!
# Routers and their WireGuard peers

The onboarding of a router, in two steps or by one command, the confirmation that the
router sends, and its deletion. Routers are rows of a table; their peers are configured
on the interface `wg0` by a command line, outside every transaction. The commands are
those of a server that does not mock them.

## Implementation notes

An address column holds the canonical text of its address. The rows of `setup_tokens`
go with their router. The ciphertext of an API password is drawn by the environment. What no
function here reads is left out: the port, the user and the password of a router, the rows of
the audit log, and the tenants that the rows refer to.
-/

namespace FrixelConnect

open Calendar Interleaving Python

inductive RouterStatus where
  | online
  | offline
  | unknown
  | pending_setup
  | testing
  deriving DecidableEq

structure RouterRow where
  id : UUID
  tenant_id : UUID
  name : String
  site_name : String
  status : RouterStatus := .unknown
  host : Option String := none
  wireguard_public_key : Option String := none
  wireguard_assigned_ip : Option String := none
  wireguard_peer_public_key : Option String := none
  deriving DecidableEq

structure SetupToken where
  id : UUID
  tenant_id : UUID
  router_id : UUID
  token : String
  router_wg_private_key : Option String
  api_password : String := ""
  expires_at : Timestamptz
  used_at : Option Timestamptz := none
  deriving DecidableEq

/-- A peer of the interface. An address belongs to one peer at most, so that a peer can lose it. -/
structure Peer where
  public_key : String
  allowed_ip : Option String
  deriving DecidableEq

structure RouterStore where
  routers : List RouterRow := []
  setup_tokens : List SetupToken := []
  wg0 : List Peer := []
  deriving DecidableEq

/-- What the environment contributes to one statement. -/
structure RouterEnv where
  now : Timestamptz := 0
  uuid : UUID := 0
  pick : ℕ := 0
  text : String := ""
  keypair : String × String := ("", "")
  admin : Option UUID := none

inductive RouterStmt where
  | select_router_named (tenant_id : UUID) (name : String)
  | select_assigned_ips
  | select_router (id tenant_id : UUID)
  | select_router_peer (id : UUID)
  | insert_router (row : RouterRow)
  | set_peer_public_key (peer_public_key : String) (id tenant_id : UUID)
  | confirm_router (id tenant_id : UUID) (client_ip : String)
  | delete_router (id tenant_id : UUID)
  | select_setup_token (token : String)
  | insert_setup_token (tenant_id router_id : UUID) (token router_wg_private_key : String)
      (expires_at : Timestamptz)
  | consume_setup_token (id : UUID)
  | clear_private_key (id : UUID)
  | wg_show_public_key
  | wg_conf_public_key
  | wg_set_peer (peer_public_key assigned_ip : String)
  | wg_remove_peer (peer_public_key : String)
  | wg_quick_save
  | wg_keypair
  | api_password
  | setup_token
  | utc_now
  | decrypt_secret (ciphertext : String)
  | select_admin (tenant_id : UUID)
  | insert_audit_log (tenant_id actor_user_id target_id : UUID) ( token_prefix : String)
      (is_chr : Bool) (client_ip : String)

namespace RouterStmt

abbrev Res : RouterStmt → Type
  | .select_router_named .. => Option UUID
  | .select_assigned_ips => List String
  | .select_router .. => Option RouterRow
  | .select_router_peer _ => Option RouterRow
  | .insert_router _ => UUID
  | .select_setup_token _ => Option SetupToken
  | .wg_show_public_key => String
  | .wg_conf_public_key => String
  | .wg_keypair => String × String
  | .api_password => String
  | .setup_token => String
  | .utc_now => Timestamptz
  | .decrypt_secret _ => String
  | .select_admin _ => Option UUID
  | _ => Unit

/-- The statement runs on the database connection. -/
def inTx : RouterStmt → Bool
  | .wg_show_public_key => false
  | .wg_conf_public_key => false
  | .wg_set_peer .. => false
  | .wg_remove_peer _ => false
  | .wg_quick_save => false
  | .wg_keypair => false
  | .api_password => false
  | .setup_token => false
  | .utc_now => false
  | .decrypt_secret _ => false
  | _ => true

end RouterStmt

namespace RouterStore

variable (d : RouterStore)

def updateRouters (p : RouterRow → Bool) (f : RouterRow → RouterRow) : RouterStore :=
  { d with routers := updateRows p f d.routers }

def updateTokens (id : UUID) (f : SetupToken → SetupToken) : RouterStore :=
  { d with setup_tokens := updateRows (fun r => r.id == id) f d.setup_tokens }

/-- `wg set wg0 peer KEY allowed-ips IP/32`: the peer gets the address, and any other peer that
had it loses it. -/
def setPeer (key ip : String) : RouterStore :=
  { d with wg0 := ((d.wg0.filter fun p => p.public_key != key).map fun p =>
      if p.allowed_ip == some ip then { p with allowed_ip := none } else p) ++
        [{ public_key := key, allowed_ip := some ip }] }

/-- `wg set wg0 peer KEY remove`. -/
def removePeer (key : String) : RouterStore :=
  { d with wg0 := d.wg0.filter fun p => p.public_key != key }

end RouterStore

/-- `str(row["wireguard_assigned_ip"])`. -/
def strOfInet (ip : Option String) : String := ip.getD "None"

/-- What a statement answers and the store after it, or what it raises. The commands refuse an
empty key and the text of a missing address. -/
def RouterStmt.eval (v : RouterEnv) (d : RouterStore) :
    (s : RouterStmt) → Except Exn (s.Res × RouterStore)
  | .select_router_named tenant_id name =>
      pure ((fetchrow v.pick (fun r => r.tenant_id == tenant_id && r.name == name) d.routers).map
        (·.id), d)
  | .select_assigned_ips => pure (d.routers.filterMap (·.wireguard_assigned_ip), d)
  | .select_router id tenant_id =>
      pure (fetchrow v.pick (fun r => r.id == id && r.tenant_id == tenant_id) d.routers, d)
  | .select_router_peer id => pure (fetchrow v.pick (fun r => r.id == id) d.routers, d)
  | .insert_router row => do
      check (d.routers.all fun r => r.id != v.uuid) (.uniqueViolation .primary_key)
      check (d.routers.all fun r => !(r.tenant_id == row.tenant_id && r.name == row.name))
        (.uniqueViolation .routers_tenant_name_unique)
      pure (v.uuid, { d with routers := d.routers ++ [{ row with id := v.uuid }] })
  | .set_peer_public_key peer_public_key id tenant_id =>
      pure ((), d.updateRouters (fun r => r.id == id && r.tenant_id == tenant_id)
        fun r => { r with wireguard_peer_public_key := some peer_public_key })
  | .confirm_router id tenant_id client_ip =>
      pure ((), d.updateRouters (fun r => r.id == id && r.tenant_id == tenant_id) fun r =>
        { r with
          status := .online
          host := if r.wireguard_peer_public_key.isNone then some client_ip else r.host })
  | .delete_router id tenant_id =>
      let gone (r : RouterRow) : Bool := r.id == id && r.tenant_id == tenant_id
      pure ((), { d with
        routers := d.routers.filter fun r => !gone r
        setup_tokens := d.setup_tokens.filter fun t =>
          !d.routers.any fun r => gone r && r.id == t.router_id })
  | .select_setup_token token =>
      pure (fetchrow v.pick (fun t => t.token == token && t.used_at.isNone &&
        decide (v.now < t.expires_at)) d.setup_tokens, d)
  | .insert_setup_token tenant_id router_id token router_wg_private_key expires_at => do
      check (d.setup_tokens.all fun t => t.id != v.uuid) (.uniqueViolation .primary_key)
      check (d.setup_tokens.all fun t => t.token != token) (.uniqueViolation .setup_tokens_token)
      check (d.routers.any fun r => r.id == router_id) (.database "setup_tokens_router_id_fkey")
      let row : SetupToken := {
        id := v.uuid, tenant_id, router_id, token, expires_at
        router_wg_private_key := some router_wg_private_key, api_password := v.text }
      pure ((), { d with setup_tokens := d.setup_tokens ++ [row] })
  | .consume_setup_token id => pure ((), d.updateTokens id fun t => { t with used_at := some v.now })
  | .clear_private_key id => pure ((), d.updateTokens id fun t => { t with router_wg_private_key := none })
  | .wg_show_public_key => pure (v.text, d)
  | .wg_conf_public_key => pure (v.text, d)
  | .wg_set_peer peer_public_key assigned_ip => do
      check (peer_public_key != "") (.lost "Key is not the correct length or format")
      check (assigned_ip != "None") (.lost "Unable to parse IP address")
      pure ((), d.setPeer peer_public_key assigned_ip)
  | .wg_remove_peer peer_public_key => do
      check (peer_public_key != "") (.lost "Key is not the correct length or format")
      pure ((), d.removePeer peer_public_key)
  | .wg_quick_save => pure ((), d)
  | .wg_keypair => pure (v.keypair, d)
  | .api_password => pure (v.text, d)
  | .setup_token => pure (v.text, d)
  | .utc_now => pure (v.now, d)
  | .decrypt_secret _ => pure (v.text, d)
  | .select_admin _ => pure (v.admin, d)
  | .insert_audit_log .. => pure ((), d)

/-- A statement that raises leaves the store as it was. -/
def RouterStmt.exec (s : RouterStmt) (v : RouterEnv) (d : RouterStore) :
    Except Exn s.Res × RouterStore :=
  match s.eval v d with
  | .ok r => (.ok r.1, r.2)
  | .error e => (.error e, d)

def routerMachine : Machine RouterStmt RouterStmt.Res Exn RouterStore RouterEnv UUID where
  exec := RouterStmt.exec
  inTx := RouterStmt.inTx
  locks _ := []
  aborted := .inFailedTransaction

/-- Programs of the router endpoints. -/
abbrev RouterM := Prog RouterStmt RouterStmt.Res Unit Exn

namespace Routers

/-- One statement of a program. -/
abbrev run (s : RouterStmt) : RouterM s.Res := Prog.exec s

def get_server_public_key : RouterM String :=
  (run .wg_show_public_key).tryCatch fun _ => (run .wg_conf_public_key).tryCatch fun _ =>
    pure "Frixel ConnectServerPublicKeyWgPlaceholderBase64="

/-- `f"10.8.0.{i}"`. -/
def address (i : ℕ) : String := "10.8.0." ++ toString i

/-- The last numbers of the addresses, in the order in which they are tried. -/
def hosts : List ℕ := (List.range 253).map (· + 2)

def assign_peer_ip : RouterM String := do
  let assigned_ips ← run .select_assigned_ips
  match (hosts.map address).find? fun ip => !assigned_ips.contains ip with
  | some ip => return ip
  | none => throw (.exception "WireGuard peer IP range exhausted (>253 routers)")

/-- A failed command is raised as a plain exception. -/
def wgCommand (command : RouterStmt) : RouterM Unit :=
  (do let _ ← run command
      let _ ← run .wg_quick_save
      return () : RouterM Unit).tryCatch fun e => throw (.exception ("WireGuard CLI error: " ++ e.str))

def add_wireguard_peer (peer_public_key assigned_ip : String) : RouterM Unit :=
  wgCommand (.wg_set_peer peer_public_key assigned_ip)

def remove_wireguard_peer (peer_public_key : String) : RouterM Unit :=
  wgCommand (.wg_remove_peer peer_public_key)

/-- The name is not taken within the tenant. -/
def require_new_name (tenant_id : UUID) (name : String) : RouterM Unit := do
  let existing ← run (.select_router_named tenant_id name)
  match existing with
  | some _ => throw (.conflict ("A router with name '" ++ name ++ "' already exists."))
  | none => return ()

structure OnboardingInitRequest where
  name : String
  site_name : String

structure OnboardingInitResponse where
  router_id : UUID
  frixel_connect_public_key : String
  assigned_ip : String
  server_wg_ip : String := "10.8.0.1"

def onboarding_init (tenant_id : UUID) (data : OnboardingInitRequest) :
    RouterM OnboardingInitResponse := do
  require_new_name tenant_id data.name
  let assigned_ip ← assign_peer_ip
  let server_public_key ← get_server_public_key
  let router_id ← run (.insert_router {
    id := 0, tenant_id, name := data.name, site_name := data.site_name, status := .pending_setup
    wireguard_assigned_ip := some assigned_ip, wireguard_public_key := some server_public_key })
  return { router_id, frixel_connect_public_key := server_public_key, assigned_ip }

structure MagicInitRequest where
  name : String
  site_name : String
  is_chr : Bool

structure MagicInitResponse where
  router_id : UUID
  setup_token : String
  expires_at : Timestamptz
  is_chr : Bool

/-- The peer of a new router; a router in a virtual machine has none. -/
def pre_register (is_chr : Bool) (peer_public_key assigned_ip : String) : RouterM Unit :=
  if is_chr then pure () else add_wireguard_peer peer_public_key assigned_ip

def onboarding_init_magic (tenant_id : UUID) (data : MagicInitRequest) :
    RouterM MagicInitResponse := do
  require_new_name tenant_id data.name
  let assigned_ip ← assign_peer_ip
  let (wg_private_key, wg_public_key) ← run .wg_keypair
  let _ ← run .api_password
  let setup_token ← run .setup_token
  let wg_peer_key_to_save := if data.is_chr then none else some wg_public_key
  let server_public_key ← get_server_public_key
  let router_id ← run (.insert_router {
    id := 0, tenant_id, name := data.name, site_name := data.site_name, status := .pending_setup
    host := some assigned_ip, wireguard_assigned_ip := some assigned_ip
    wireguard_public_key := some server_public_key
    wireguard_peer_public_key := wg_peer_key_to_save })
  let now ← run .utc_now
  let expires_at := now + 24 * hour
  run (.insert_setup_token tenant_id router_id setup_token wg_private_key expires_at)
  pre_register data.is_chr wg_public_key assigned_ip
  return { router_id, setup_token, expires_at, is_chr := data.is_chr }

structure RegisterPeerRequest where
  router_id : UUID
  peer_public_key : String

def onboarding_register_peer (tenant_id : UUID) (data : RegisterPeerRequest) : RouterM Unit := do
  let router_row ← run (.select_router data.router_id tenant_id)
  match router_row with
  | none => throw (.notFound "Router" (str data.router_id))
  | some router_row =>
      add_wireguard_peer data.peer_public_key (strOfInet router_row.wireguard_assigned_ip)
      run (.set_peer_public_key data.peer_public_key data.router_id tenant_id)

/-- What the router is told. -/
inductive Confirmation where
  | invalid_length
  | token_invalid
  | confirmed (router_id : UUID)

/-- The safety net of the confirmation: the peer of the row is configured once more. -/
def restore_peer (router_row : Option RouterRow) : RouterM Unit :=
  match router_row.bind (·.wireguard_peer_public_key),
      router_row.bind (·.wireguard_assigned_ip) with
  | some key, some ip =>
      if key = "" then pure () else (add_wireguard_peer key ip).tryCatch fun _ => pure ()
  | _, _ => pure ()

def confirm_setup (token client_ip : String) : RouterM Confirmation := do
  if token.length < 43 then
    return .invalid_length
  let token_row ← run (.select_setup_token token)
  match token_row with
  | none => return .token_invalid
  | some token_row =>
      Prog.transaction (do
        run (.consume_setup_token token_row.id)
        run (.clear_private_key token_row.id)
        run (.confirm_router token_row.router_id token_row.tenant_id client_ip) : RouterM Unit)
      let router_row ← run (.select_router_peer token_row.router_id)
      restore_peer router_row
      return .confirmed token_row.router_id

/-- The peer of a router that is about to be deleted; a failure is only logged. -/
def drop_peer (peer_public_key : Option String) : RouterM Unit :=
  match peer_public_key with
  | some key =>
      if key = "" then pure () else (remove_wireguard_peer key).tryCatch fun _ => pure ()
  | none => pure ()

def delete_router (tenant_id router_id : UUID) : RouterM Unit := do
  let existing ← run (.select_router router_id tenant_id)
  match existing with
  | none => throw (.notFound "Router" (str router_id))
  | some existing =>
      drop_peer existing.wireguard_peer_public_key
      run (.delete_router router_id tenant_id)

end Routers

end FrixelConnect
