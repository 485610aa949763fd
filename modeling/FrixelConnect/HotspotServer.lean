import FrixelConnect.Python.Urls
import FrixelConnect.RouterOs

/-!
# The hotspot server of a router

The set-up of the interface address, the address pool, the DHCP server and network, the walled
garden, the hotspot profile and server, the login page, the RADIUS client and the NAT rule.

## Main results

`hotspot_established_iff`: a successful run reaches its goal exactly where nothing was left over
that it does not correct. A second run changes identifiers only (`Configured.again`).

## Implementation notes

The goal of a part is that an item of it is there, and that every such item has the requested
values. The interface is asked to have the requested address and no other.
-/

namespace FrixelConnect.HotspotServer

open Interleaving Python Keyed RouterOs RestClient

/-- The arguments of `setup_hotspot_server`. -/
structure Setup where
  interface : String
  gateway : String
  network_base : String
  pool_start : String
  pool_end : String
  frontend_url : String
  tenant_id : String
  radius_ip : String
  radius_secret : String
  login_html_url : String

namespace Setup

variable (a : Setup)

def target_addr : String := a.gateway ++ "/24"

def target_net : String := a.network_base ++ "/24"

def ranges : String := a.pool_start ++ "-" ++ a.pool_end

def nas_identifier : String :=
  "Frixel Connect-" ++ String.ofList ((a.tenant_id.toList.filter (· ≠ '-')).take 8)

def address : Fields :=
  [("address", a.target_addr), ("interface", a.interface), ("comment", "Frixel Connect-auto")]

def pool : Fields := [("name", "Frixel Connect-hs-pool"), ("ranges", a.ranges)]

def pool_update : Fields := [("ranges", a.ranges)]

def dhcp_server : Fields :=
  [("name", "Frixel Connect-dhcp"), ("interface", a.interface),
    ("address-pool", "Frixel Connect-hs-pool"), ("disabled", "false")]

def dhcp_server_update : Fields :=
  [("interface", a.interface), ("address-pool", "Frixel Connect-hs-pool")]

def dhcp_network : Fields :=
  [("address", a.target_net), ("gateway", a.gateway), ("dns-server", "8.8.8.8,1.1.1.1")]

def walled_garden (frontend_host : String) : Fields :=
  [("action", "accept"), ("dst-address", frontend_host), ("comment", "Frixel Connect-portal")]

def profile : Fields :=
  [("name", "Frixel Connect-hsprof"), ("hotspot-address", a.gateway),
    ("login-by", "cookie,http-chap,http-pap"), ("dns-name", "login.Frixel Connect.local"),
    ("html-directory", "hotspot"), ("use-radius", "true")]

def profile_update : Fields := [("hotspot-address", a.gateway)]

def server : Fields :=
  [("name", "Frixel Connect-hotspot"), ("interface", a.interface),
    ("profile", "Frixel Connect-hsprof"), ("disabled", "false")]

def server_update : Fields :=
  [("interface", a.interface), ("profile", "Frixel Connect-hsprof")]

def radius : Fields :=
  [("service", "hotspot"), ("address", a.radius_ip), ("secret", a.radius_secret),
    ("comment", "Frixel Connect-radius")]

def identity : Fields := [("name", a.nas_identifier)]

def incoming : Fields := [("accept", "true"), ("port", "3799")]

def nat_rule (target_src : String) : Fields :=
  [("chain", "srcnat"), ("action", "masquerade"), ("src-address", target_src),
    ("comment", "Frixel Connect-masquerade")]

/-- The tests by which the items are looked up. -/
def is_address : Attrs → Bool := fun attrs =>
  named "interface" a.interface attrs &&
    a.gateway.toList.isPrefixOf ((attrs "address").getD "").toList

def is_dhcp_network : Attrs → Bool := named "address" a.target_net

end Setup

def is_pool : Attrs → Bool := named "name" "Frixel Connect-hs-pool"

def is_dhcp_server : Attrs → Bool := named "name" "Frixel Connect-dhcp"

def is_walled_garden (frontend_host : String) : Attrs → Bool := fun attrs =>
  named "dst-address" frontend_host attrs && named "action" "accept" attrs

def is_profile : Attrs → Bool := named "name" "Frixel Connect-hsprof"

def is_server : Attrs → Bool := named "name" "Frixel Connect-hotspot"

def is_radius : Attrs → Bool := named "comment" "Frixel Connect-radius"

def is_nat_rule : Attrs → Bool := fun attrs =>
  named "action" "masquerade" attrs && named "chain" "srcnat" attrs &&
    named "comment" "Frixel Connect-masquerade" attrs

variable (valid_netloc : List Char → Bool) (self : RestClient) (a : Setup)

/-- The entry of the walled garden for the portal. -/
def walled_garden : ClientM Unit :=
  match hostname valid_netloc a.frontend_url with
  | none => throw .invalidUrl
  | some none => pure ()
  | some (some frontend_host) =>
      self.add_missing .ip_hotspot_walled_garden_ip "list walled garden" "add walled garden entry"
        (is_walled_garden frontend_host) (Setup.walled_garden frontend_host)

def mode (login_html_url : String) : String :=
  if "https".toList.isPrefixOf login_html_url.toList then "https" else "http"

def setup_hotspot_server : ClientM Unit := do
  self.add_missing .ip_address "list interface IP addresses"
    ("assign gateway IP " ++ a.target_addr ++ " to " ++ a.interface) a.is_address a.address
  self.add_or_patch .ip_pool "list IP pools" "create hotspot IP pool"
    "update hotspot IP pool ranges" is_pool a.pool a.pool_update
  self.add_or_patch .ip_dhcp_server "list DHCP servers" "create DHCP server"
    "update DHCP server interface" is_dhcp_server a.dhcp_server a.dhcp_server_update
  self.add_missing .ip_dhcp_server_network "list DHCP networks" "create DHCP network"
    a.is_dhcp_network a.dhcp_network
  walled_garden valid_netloc self a
  self.add_or_patch .ip_hotspot_profile "list hotspot profiles" "create hotspot profile"
    "update hotspot profile address" is_profile a.profile a.profile_update
  self.add_or_patch .ip_hotspot "list hotspot servers" "create hotspot server"
    "update hotspot server interface" is_server a.server a.server_update
  let _ ← self.send (.fetch a.login_html_url "hotspot/login.html" (mode a.login_html_url))
    "fetch captive portal login.html"
  let radius_clients ← self.list .radius "list RADIUS clients"
  self.delete_each .radius "remove old RADIUS client" is_radius radius_clients
  let _ ← self.send (.set .system_identity a.identity) "set system identity for NAS-Identifier"
  let _ ← self.send (.add .radius a.radius) "add RADIUS client"
  let _ ← self.send (.set .radius_incoming Setup.incoming)
    "enable RADIUS incoming CoA on port 3799"
  let target_src ← Prog.ofExcept (nat_source a.pool_start)
  self.add_missing .ip_firewall_nat "list NAT rules" "create NAT masquerade rule" is_nat_rule
    (Setup.nat_rule target_src)

section Runs

variable {valid_netloc self a} {R : Device} {c c' c'' : RouterConfig}

/-- The walled garden has the host of the portal, if the URL names one. -/
def Opens (host : Option (Option String)) (t t' : Items) : Prop :=
  match host with
  | some (some frontend_host) =>
      AddsMissing (is_walled_garden frontend_host) (Setup.walled_garden frontend_host) t t'
  | _ => t' = t

/-- What a successful run leaves of the configuration `c`. -/
structure Configured (valid_netloc : List Char → Bool) (a : Setup) (c c' : RouterConfig) :
    Prop where
  address : AddsMissing a.is_address a.address (c.tables .ip_address) (c'.tables .ip_address)
  pool : Upserts is_pool a.pool a.pool_update (c.tables .ip_pool) (c'.tables .ip_pool)
  dhcp_server : Upserts is_dhcp_server a.dhcp_server a.dhcp_server_update
    (c.tables .ip_dhcp_server) (c'.tables .ip_dhcp_server)
  dhcp_network : AddsMissing a.is_dhcp_network a.dhcp_network
    (c.tables .ip_dhcp_server_network) (c'.tables .ip_dhcp_server_network)
  walled_garden : Opens (hostname valid_netloc a.frontend_url)
    (c.tables .ip_hotspot_walled_garden_ip) (c'.tables .ip_hotspot_walled_garden_ip)
  profile : Upserts is_profile a.profile a.profile_update (c.tables .ip_hotspot_profile)
    (c'.tables .ip_hotspot_profile)
  server : Upserts is_server a.server a.server_update (c.tables .ip_hotspot)
    (c'.tables .ip_hotspot)
  radius : Replaces is_radius a.radius (c.tables .radius) (c'.tables .radius)
  nat : ∃ target_src, nat_source a.pool_start = .ok target_src ∧
    AddsMissing is_nat_rule (Setup.nat_rule target_src) (c.tables .ip_firewall_nat)
      (c'.tables .ip_firewall_nat)
  active : c'.tables .ip_hotspot_active = c.tables .ip_hotspot_active
  user_profile : c'.tables .ip_hotspot_user_profile = c.tables .ip_hotspot_user_profile
  ppp_profile : c'.tables .ppp_profile = c.tables .ppp_profile
  pppoe_server : c'.tables .interface_pppoe_server_server =
    c.tables .interface_pppoe_server_server
  settings : c'.settings = ((c.patchSetting .system_identity a.identity).patchSetting
    .radius_incoming Setup.incoming).settings
  files : c'.files = (c.saveFile "hotspot/login.html" a.login_html_url).files

theorem walled_garden_ends : self.Ends R (walled_garden valid_netloc self a) c fun _ c' =>
    ∃ t, Opens (hostname valid_netloc a.frontend_url) (c.tables .ip_hotspot_walled_garden_ip) t ∧
      c' = c.setTable .ip_hotspot_walled_garden_ip t := by
  have hsame : c = c.setTable .ip_hotspot_walled_garden_ip
      (c.tables .ip_hotspot_walled_garden_ip) := by
    rw [RouterConfig.setTable, Function.update_eq_self]
  rw [walled_garden]
  cases hostname valid_netloc a.frontend_url with
  | none => exact fun he => by cases he
  | some host =>
      cases host with
      | none => exact ⟨_, rfl, hsame⟩
      | some frontend_host => exact add_missing_ends ..

theorem setup_hotspot_server_ends : self.Ends R (setup_hotspot_server valid_netloc self a) c
    fun _ c' => Configured valid_netloc a c c' := by
  apply Prog.Gives.bind (add_missing_ends ..)
  rintro _ _ ⟨address, haddress, rfl⟩
  apply Prog.Gives.bind (add_or_patch_ends ..)
  rintro _ _ ⟨pool, hpool, rfl⟩
  apply Prog.Gives.bind (add_or_patch_ends ..)
  rintro _ _ ⟨dhcp_server, hdhcp_server, rfl⟩
  apply Prog.Gives.bind (add_missing_ends ..)
  rintro _ _ ⟨dhcp_network, hdhcp_network, rfl⟩
  apply Prog.Gives.bind walled_garden_ends
  rintro _ _ ⟨garden, hgarden, rfl⟩
  apply Prog.Gives.bind (add_or_patch_ends ..)
  rintro _ _ ⟨profile, hprofile, rfl⟩
  apply Prog.Gives.bind (add_or_patch_ends ..)
  rintro _ _ ⟨server, hserver, rfl⟩
  apply Prog.Gives.bind (fetch_ends ..)
  rintro _ _ rfl
  apply Prog.Gives.bind (list_ends ..)
  rintro _ _ ⟨rfl, rfl⟩
  apply Prog.Gives.bind (delete_each_ends _ _ (fun _ h => h) (KeyTable.nodup _))
  rintro _ _ rfl
  apply Prog.Gives.bind (set_ends ..)
  rintro _ _ rfl
  apply Prog.Gives.bind (add_ends ..)
  rintro _ _ ⟨id, hid, rfl⟩
  apply Prog.Gives.bind (set_ends ..)
  rintro _ _ rfl
  apply Prog.Gives.bind (nat_source_ends a.pool_start)
  rintro target_src _ ⟨hsrc, rfl⟩
  apply (add_missing_ends ..).mono
  rintro _ _ ⟨nat, hnat, rfl⟩
  simp only [ne_eq, reduceCtorEq, not_false_eq_true, RouterConfig.tables_setTable_ne,
    RouterConfig.tables_setTable, RouterConfig.tables_saveFile,
    RouterConfig.tables_patchSetting, kept_nil]
    at hpool hdhcp_server hdhcp_network hgarden hprofile hserver hid hnat
  constructor
  · simpa using haddress
  · simpa using hpool
  · simpa using hdhcp_server
  · simpa using hdhcp_network
  · simpa using hgarden
  · simpa using hprofile
  · simpa using hserver
  · exact ⟨id, hid, by simp [kept_nil]⟩
  · exact ⟨target_src, hsrc, by simpa using hnat⟩
  · simp
  · simp
  · simp
  · simp
  · rfl
  · rfl

theorem recognises_address (a : Setup) : Recognises a.is_address a.address where
  created := by
    have hprefix : a.gateway.toList.isPrefixOf a.target_addr.toList = true := by
      rw [List.isPrefixOf_iff_prefix, Setup.target_addr, String.toList_append]
      exact List.prefix_append ..
    have hinterface : named "interface" a.interface (ofBody a.address) = true :=
      beq_self_eq_true (some a.interface)
    rw [Setup.is_address, hinterface, Bool.true_and]
    exact hprefix
  nodup := by simp [Setup.address]

theorem recognises_dhcp_network (a : Setup) : Recognises a.is_dhcp_network a.dhcp_network where
  created := beq_self_eq_true (some a.target_net)
  nodup := by simp [Setup.dhcp_network]

theorem is_walled_garden_created (frontend_host : String) :
    is_walled_garden frontend_host (ofBody (Setup.walled_garden frontend_host)) = true := by
  have hhost : named "dst-address" frontend_host (ofBody (Setup.walled_garden frontend_host)) =
      true := beq_self_eq_true (some frontend_host)
  rw [is_walled_garden, hhost]
  rfl

theorem Opens.again {host : Option (Option String)} {t t' t'' : Items} (h : Opens host t t')
    (h' : Opens host t' t'') : t'' = t' := by
  cases host with
  | none => exact h'
  | some host =>
      cases host with
      | none => exact h'
      | some frontend_host =>
          exact AddsMissing.again h h' (is_walled_garden_created frontend_host)

theorem recognises_radius (a : Setup) : Recognises is_radius a.radius where
  created := rfl
  nodup := by simp [Setup.radius]

theorem recognises_nat_rule (target_src : String) :
    Recognises is_nat_rule (Setup.nat_rule target_src) where
  created := rfl
  nodup := by simp [Setup.nat_rule]

theorem updates_pool (a : Setup) : Updates is_pool a.pool a.pool_update where
  created := rfl
  nodup := by simp [Setup.pool]
  sublist := .cons _ (.refl _)
  stable := named_patch rfl

theorem updates_dhcp_server (a : Setup) :
    Updates is_dhcp_server a.dhcp_server a.dhcp_server_update where
  created := rfl
  nodup := by simp [Setup.dhcp_server]
  sublist := .cons _ (.cons_cons _ (.cons_cons _ (.cons _ .slnil)))
  stable := named_patch rfl

theorem updates_profile (a : Setup) : Updates is_profile a.profile a.profile_update where
  created := rfl
  nodup := by simp [Setup.profile]
  sublist := .cons _ (.cons_cons _ (.cons _ (.cons _ (.cons _ (.cons _ .slnil)))))
  stable := named_patch rfl

theorem updates_server (a : Setup) : Updates is_server a.server a.server_update where
  created := rfl
  nodup := by simp [Setup.server]
  sublist := .cons _ (.cons_cons _ (.cons_cons _ (.cons _ .slnil)))
  stable := named_patch rfl

/-- A second run changes identifiers only. -/
theorem Configured.again (h : Configured valid_netloc a c c')
    (h' : Configured valid_netloc a c' c'') : c'.Same c'' := by
  have hsame {t t' : Items} (heq : t' = t) : t.Same t' := by
    rw [heq]
    exact .refl _
  constructor
  · intro m
    cases m with
    | ip_address => exact hsame (h.address.again h'.address (recognises_address a).created)
    | ip_pool => exact hsame (h.pool.again h'.pool (updates_pool a))
    | ip_dhcp_server => exact hsame (h.dhcp_server.again h'.dhcp_server (updates_dhcp_server a))
    | ip_dhcp_server_network =>
        exact hsame (h.dhcp_network.again h'.dhcp_network (recognises_dhcp_network a).created)
    | ip_hotspot_walled_garden_ip =>
        exact hsame (h.walled_garden.again h'.walled_garden)
    | ip_hotspot_profile => exact hsame (h.profile.again h'.profile (updates_profile a))
    | ip_hotspot => exact hsame (h.server.again h'.server (updates_server a))
    | radius => exact h.radius.again h'.radius (recognises_radius a).created
    | ip_firewall_nat =>
        obtain ⟨target_src, hsrc, hfirst⟩ := h.nat
        obtain ⟨_, hsrc', hsecond⟩ := h'.nat
        cases hsrc.symm.trans hsrc'
        exact hsame (hfirst.again hsecond (recognises_nat_rule target_src).created)
    | ip_hotspot_active => exact hsame h'.active
    | ip_hotspot_user_profile => exact hsame h'.user_profile
    | ppp_profile => exact hsame h'.ppp_profile
    | interface_pppoe_server_server => exact hsame h'.pppoe_server
  · have hidentity : Holds (c'.settings .system_identity) a.identity := by
      rw [h.settings]
      exact holds_patch (by simp [Setup.identity])
    have hincoming : Holds (c'.settings .radius_incoming) Setup.incoming := by
      rw [h.settings]
      exact holds_patch (by simp [Setup.incoming])
    rw [h'.settings, RouterConfig.patchSetting_eq_self hidentity,
      RouterConfig.patchSetting_eq_self hincoming]
  · rw [h'.files, RouterConfig.saveFile, h.files, RouterConfig.saveFile]
    exact (Function.update_idem ..).symm

/-- The goal of the set-up. -/
structure Established (a : Setup) (c : RouterConfig) : Prop where
  address : OnlyHolds (named "interface" a.interface)
    [("address", a.target_addr), ("interface", a.interface)] (c.tables .ip_address)
  pool : OnlyHolds is_pool a.pool (c.tables .ip_pool)
  dhcp_server : OnlyHolds is_dhcp_server a.dhcp_server (c.tables .ip_dhcp_server)
  dhcp_network : OnlyHolds a.is_dhcp_network a.dhcp_network (c.tables .ip_dhcp_server_network)
  profile : OnlyHolds is_profile a.profile (c.tables .ip_hotspot_profile)
  server : OnlyHolds is_server a.server (c.tables .ip_hotspot)
  radius : OnlyHolds is_radius a.radius (c.tables .radius)
  nat : ∃ target_src, nat_source a.pool_start = .ok target_src ∧
    OnlyHolds is_nat_rule (Setup.nat_rule target_src) (c.tables .ip_firewall_nat)

/-- The first item that is looked up has the values that an update leaves alone, and the other
items like it have all values. -/
def Updatable (key : Attrs → Bool) (create change : Fields) (t : Items) : Prop :=
  ∀ first, (t.rows.find? fun r => key r.attrs) = some first →
    ∀ r ∈ t.rows, key r.attrs = true →
      Holds (if r.id = first.id then patch r.attrs change else r.attrs) create

/-- What the set-up does not correct is as requested before: the addresses of the interface, the
DHCP network and the NAT rule, and the values that the updates leave alone. -/
structure Ready (a : Setup) (c : RouterConfig) : Prop where
  address : ∀ r ∈ (c.tables .ip_address).rows, named "interface" a.interface r.attrs = true →
    Holds r.attrs [("address", a.target_addr), ("interface", a.interface)]
  pool : Updatable is_pool a.pool a.pool_update (c.tables .ip_pool)
  dhcp_server : Updatable is_dhcp_server a.dhcp_server a.dhcp_server_update
    (c.tables .ip_dhcp_server)
  dhcp_network : ∀ r ∈ (c.tables .ip_dhcp_server_network).rows,
    a.is_dhcp_network r.attrs = true → Holds r.attrs a.dhcp_network
  profile : Updatable is_profile a.profile a.profile_update (c.tables .ip_hotspot_profile)
  server : Updatable is_server a.server a.server_update (c.tables .ip_hotspot)
  nat : ∀ target_src, nat_source a.pool_start = .ok target_src →
    ∀ r ∈ (c.tables .ip_firewall_nat).rows, is_nat_rule r.attrs = true →
      Holds r.attrs (Setup.nat_rule target_src)

theorem Configured.established_iff (h : Configured valid_netloc a c c') :
    Established a c' ↔ Ready a c := by
  have haddress := h.address.onlyHolds_iff (named "interface" a.interface)
    [("address", a.target_addr), ("interface", a.interface)] (recognises_address a)
    (by simp [Setup.address]) fun attrs hkey => (Bool.and_eq_true_iff.mp hkey).1
  have hpool := h.pool.onlyHolds_iff (updates_pool a)
  have hdhcp_server := h.dhcp_server.onlyHolds_iff (updates_dhcp_server a)
  have hdhcp_network := h.dhcp_network.onlyHolds_iff a.is_dhcp_network a.dhcp_network
    (recognises_dhcp_network a) (List.Subset.refl _) fun _ hkey => hkey
  have hprofile := h.profile.onlyHolds_iff (updates_profile a)
  have hserver := h.server.onlyHolds_iff (updates_server a)
  obtain ⟨target_src, hsrc, hadds⟩ := h.nat
  have hnat := hadds.onlyHolds_iff is_nat_rule (Setup.nat_rule target_src)
    (recognises_nat_rule target_src) (List.Subset.refl _) fun _ hkey => hkey
  constructor
  · intro he
    constructor
    · exact haddress.mp he.address
    · exact hpool.mp he.pool
    · exact hdhcp_server.mp he.dhcp_server
    · exact hdhcp_network.mp he.dhcp_network
    · exact hprofile.mp he.profile
    · exact hserver.mp he.server
    · intro src hsrc'
      obtain ⟨src', hsrc'', honly⟩ := he.nat
      cases hsrc.symm.trans hsrc'
      cases hsrc.symm.trans hsrc''
      exact hnat.mp honly
  · intro hready
    constructor
    · exact haddress.mpr hready.address
    · exact hpool.mpr hready.pool
    · exact hdhcp_server.mpr hready.dhcp_server
    · exact hdhcp_network.mpr hready.dhcp_network
    · exact hprofile.mpr hready.profile
    · exact hserver.mpr hready.server
    · exact h.radius.onlyHolds (recognises_radius a)
    · exact ⟨target_src, hsrc, hnat.mpr (hready.nat target_src hsrc)⟩

end Runs

/-- After a successful run the goal is reached and a second run changes identifiers only, exactly
where nothing was left over that the set-up does not correct. -/
theorem hotspot_established_iff (valid_netloc : List Char → Bool) (self : RestClient)
    (R : Device) (a : Setup) (c c' : RouterConfig)
    (h : self.run R (setup_hotspot_server valid_netloc self a) c = (.ok (), c')) :
    (Established a c' ∧ ∀ c'', self.run R (setup_hotspot_server valid_netloc self a) c' =
      (.ok (), c'') → c'.Same c'') ↔ Ready a c := by
  rw [run_eq] at h
  have hfirst : Configured valid_netloc a c c' := setup_hotspot_server_ends.ok h
  rw [hfirst.established_iff]
  constructor
  · exact fun hboth => hboth.1
  · intro hready
    constructor
    · exact hready
    · intro c'' h'
      rw [run_eq] at h'
      exact hfirst.again (setup_hotspot_server_ends.ok h')

/-- A set-up of the interface `ether3`. -/
def firstSetup : Setup where
  interface := "ether3"
  gateway := "10.0.0.1"
  network_base := "10.0.0.0"
  pool_start := "10.0.0.2"
  pool_end := "10.0.0.254"
  frontend_url := "https://portal.example"
  tenant_id := "00000000-0000-0000-0000-000000000001"
  radius_ip := "10.8.0.1"
  radius_secret := "secret"
  login_html_url := "https://api.example/api/v1/hotspot/login.html"

def client : RestClient := ⟨"10.8.0.2", 80⟩

def valid (_ : List Char) : Bool := true

/-- The configuration after a first set-up. -/
def established (c : RouterConfig) : RouterConfig :=
  (client.run .plain (setup_hotspot_server valid client firstSetup) c).2

theorem hotspot_established_first : (Established firstSetup (established .blank) ∧
    ∀ c'', client.run .plain (setup_hotspot_server valid client firstSetup)
      (established .blank) = (.ok (), c'') → (established .blank).Same c'') ↔
    Ready firstSetup .blank := by
  have hrun : (client.run .plain (setup_hotspot_server valid client firstSetup) .blank).1 =
      .ok () := by decide +kernel
  exact hotspot_established_iff valid client .plain firstSetup .blank (established .blank)
    (by rw [← hrun, established])

/-- A router whose interface has an address that begins like the requested one. -/
def readdressed : RouterConfig :=
  RouterConfig.blank.setTable .ip_address (KeyTable.empty.insert 1 (by decide)
    [("address", "10.0.0.10/24"), ("interface", "ether3")])

theorem not_established : ¬ ∀ (valid_netloc : List Char → Bool) (self : RestClient)
    (R : Device) (a : Setup) (c c' : RouterConfig),
    self.run R (setup_hotspot_server valid_netloc self a) c = (.ok (), c') →
      Established a c' ∧ ∀ c'', self.run R (setup_hotspot_server valid_netloc self a) c' =
        (.ok (), c'') → c'.Same c'' := by
  intro h
  have hrun : (client.run .plain (setup_hotspot_server valid client firstSetup) readdressed).1 =
      .ok () := by decide +kernel
  have hpair : client.run .plain (setup_hotspot_server valid client firstSetup) readdressed =
      (.ok (), established readdressed) := by rw [← hrun, established]
  have hestablished := (h valid client .plain firstSetup readdressed _ hpair).1
  rw [run_eq] at hpair
  have hready := (setup_hotspot_server_ends.ok hpair).established_iff.mp hestablished
  have hstale := hready.address ⟨1, ofBody [("address", "10.0.0.10/24"),
    ("interface", "ether3")]⟩ List.mem_cons_self (by decide)
  revert hstale
  decide

end FrixelConnect.HotspotServer
