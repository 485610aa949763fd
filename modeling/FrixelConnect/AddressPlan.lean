import FrixelConnect.HotspotServer
import FrixelConnect.PppoeServer
import FrixelConnect.Routers

/-!
# The address plan of a router

The provisioning of a router derives a gateway and a pool of addresses from the range that the
administrator gives, and hands them to the set-up of the service. The set-up of the hotspot
writes its own prefix length behind each address.

## Main results

`address_planned_iff`: the plan fits the networks that the set-up makes of it exactly where the
range is refused, or its prefix length is from 24 to 31.

## Implementation notes

The texts of the addresses are made where they are handed on. The message of an exception that
the answer renders is kept as the exception.
-/

namespace FrixelConnect.AddressPlan

open Interleaving Python Keyed RouterOs RestClient

inductive ServiceType where
  | hotspot
  | pppoe
  deriving DecidableEq

structure RouterProvisionRequest where
  service_type : ServiceType
  interface : String
  ip_range : String

/-- The settings that the provisioning reads; the first may be absent. -/
structure ProvisionSettings where
  FRONTEND_URL : Option String
  CHR_HOST_IP : String
  CHR_FRONTEND_URL : String
  CHR_BACKEND_PORT : ℕ
  API_BASE_URL : String
  RADIUS_COA_SECRET : String

inductive Answer where
  | success (message : String)
  | error (e : ClientError)
  | invalidRange (e : AddressError)

inductive ProvisionStmt where
  | select_router (router_id tenant_id : UUID)
  | get_mikrotik_client (row : RouterRow)
  | request (r : Request)
  | set_online (router_id : UUID)

abbrev ProvisionStmt.Res : ProvisionStmt → Type
  | .select_router .. => Option RouterRow
  | .get_mikrotik_client _ => RestClient
  | .request _ => Response
  | .set_online _ => Unit

abbrev ProvisionM := Prog ProvisionStmt ProvisionStmt.Res Empty ClientError

/-- The addresses that are derived from the range. -/
structure Plan where
  gateway : IPv4Address
  pool_start : IPv4Address
  pool_end : IPv4Address
  network_base : IPv4Address

/-- `hosts[i]`. -/
def item {α : Type} (x : Option α) : Except ClientError α :=
  match x with
  | some a => .ok a
  | none => .error .indexError

def plan_of (network : IPv4Network) : Except ClientError Plan := do
  let gateway ← item network.hosts[0]?
  let pool_start ← item network.hosts[1]?
  let pool_end ← item network.hosts.getLast?
  pure ⟨gateway, pool_start, pool_end, network.network_address⟩

def create_speed_profiles (self : RestClient) : ClientM (List (String × Bool)) := do
  let existing ← self.send (.get .ip_hotspot_user_profile []) "list existing speed profiles"
  let existing_names := existing.items.map fun p => (p.attrs "name").getD ""
  let create (name rate_limit : String) : ClientM (String × Bool) :=
    if name ∈ existing_names then pure (name, false)
    else do
      let _ ← self.send (.add .ip_hotspot_user_profile
        [("name", name), ("rate-limit", rate_limit), ("shared-users", "1"),
          ("mac-cookie-timeout", "1d"), ("keepalive-timeout", "2m")])
        ("create speed profile '" ++ name ++ "'")
      pure (name, true)
  let a ← create "10Mbps" "10M/10M"
  let b ← create "20Mbps" "20M/20M"
  let c ← create "50Mbps" "50M/50M"
  pure [a, b, c]

/-- `"192.168.56." in row["host"]`; it raises for a router without a host. -/
def is_chr (row : RouterRow) : Except ClientError Bool :=
  match row.host with
  | some host => .ok (host.toList.tails.any fun t => "192.168.56.".toList.isPrefixOf t)
  | none => .error (.exception "argument of type 'NoneType' is not iterable")

/-- The arguments of `setup_hotspot_server`. -/
def hotspot_setup (settings : ProvisionSettings) (tenant_id : UUID) (row : RouterRow)
    (interface : String) (plan : Plan) : Except ClientError HotspotServer.Setup := do
  let chr ← is_chr row
  let frontend_url := if chr then settings.CHR_FRONTEND_URL
    else settings.FRONTEND_URL.getD "https://portal.Frixel Connect.dev"
  let radius_ip := if chr then settings.CHR_HOST_IP else "10.8.0.1"
  let backend_base := if chr then
      "http://" ++ settings.CHR_HOST_IP ++ ":" ++ toString settings.CHR_BACKEND_PORT
    else settings.API_BASE_URL
  pure {
    interface
    gateway := plan.gateway.str
    network_base := plan.network_base.str
    pool_start := plan.pool_start.str
    pool_end := plan.pool_end.str
    frontend_url
    tenant_id := String.ofList tenant_id.str
    radius_ip
    radius_secret := settings.RADIUS_COA_SECRET
    login_html_url := backend_base ++ "/api/v1/hotspot/login.html?tenant_id=" ++
      String.ofList tenant_id.str ++ "&frontend_url=" ++ quote frontend_url }

def address_plan (ip_range : String) : Except ClientError Plan :=
  match IPv4Network.parse ip_range with
  | .ok network => plan_of network
  | .error e => .error (.addressError e)

/-- The set-up of the service, over the client. -/
def service (settings : ProvisionSettings) (valid_netloc : List Char → Bool) (tenant_id : UUID)
    (data : RouterProvisionRequest) (row : RouterRow) (plan : Plan) (mikrotik : RestClient) :
    ClientM Unit :=
  match data.service_type with
  | .hotspot => do
      let a ← Prog.ofExcept (hotspot_setup settings tenant_id row data.interface plan)
      let _ ← create_speed_profiles mikrotik
      HotspotServer.setup_hotspot_server valid_netloc mikrotik a
  | .pppoe => PppoeServer.setup_pppoe_server mikrotik {
      interface := data.interface
      local_address := plan.gateway.str
      pool_start := plan.pool_start.str
      pool_end := plan.pool_end.str }

/-- `service_type.capitalize()`. -/
def ServiceType.capitalize : ServiceType → String
  | .hotspot => "Hotspot"
  | .pppoe => "Pppoe"

/-- What follows the plan: the client is made outside the block that answers with exceptions. -/
def deploy (router_id : UUID) (data : RouterProvisionRequest) (row : RouterRow)
    (service : RestClient → ClientM Unit) : ProvisionM Answer := do
  let mikrotik ← Prog.exec (ProvisionStmt.get_mikrotik_client row)
  Prog.tryCatch (do
      (service mikrotik).embed ProvisionStmt.request
      Prog.exec (ProvisionStmt.set_online router_id)
      pure (.success (data.service_type.capitalize ++ " provisioned on " ++ data.interface)))
    fun e => pure (.error e)

/-- What follows the look-up of the router. -/
def provision (settings : ProvisionSettings) (valid_netloc : List Char → Bool)
    (router_id tenant_id : UUID) (data : RouterProvisionRequest) (row : RouterRow) :
    ProvisionM Answer :=
  match address_plan data.ip_range with
  | .ok plan =>
      deploy router_id data row (service settings valid_netloc tenant_id data row plan)
  | .error (.addressError e) => pure (.invalidRange e)
  | .error e => throw e

def provision_router (settings : ProvisionSettings) (valid_netloc : List Char → Bool)
    (router_id tenant_id : UUID) (data : RouterProvisionRequest) : ProvisionM Answer := do
  match ← Prog.exec (ProvisionStmt.select_router router_id tenant_id) with
  | none => throw (.notFound "Router" (String.ofList router_id.str))
  | some row => provision settings valid_netloc router_id tenant_id data row

section Plans

variable {network : IPv4Network} {plan : Plan}

/-- The numbers of addresses that the network keeps at each of its ends. -/
def edge (network : IPv4Network) : ℕ := if network.prefixlen.val = 31 then 0 else 1

/-- Where the addresses of a plan lie in the network. -/
structure Placed (network : IPv4Network) (plan : Plan) : Prop where
  gateway : plan.gateway.val = network.network_address.val + edge network
  pool_start : plan.pool_start.val = network.network_address.val + edge network + 1
  pool_end : plan.pool_end.val + edge network + 1 = network.network_address.val + network.size
  ordered : plan.pool_start.val ≤ plan.pool_end.val
  network_base : plan.network_base = network.network_address
  hosts : plan.gateway ∈ network.hosts ∧ plan.pool_start ∈ network.hosts ∧
    plan.pool_end ∈ network.hosts

theorem hosts_eq (h : network.prefixlen.val < 32) : network.hosts =
    IPv4Network.addresses (network.network_address.val + edge network)
      (network.size - 2 * edge network) := by
  have h32 : network.prefixlen ≠ 32 := fun heq => by simp [heq] at h
  rw [IPv4Network.hosts, if_neg h32, edge]
  by_cases h31 : network.prefixlen = 31
  · rw [if_pos h31, IPv4Network.size, h31]
    rfl
  · have hne : network.prefixlen.val ≠ 31 := fun heq => h31 (Fin.ext heq)
    rw [if_neg h31, if_neg hne]

/-- Two addresses at least are between the ends. -/
theorem two_le_hosts (h : network.prefixlen.val < 32) :
    2 + 2 * edge network ≤ network.size := by
  rw [edge, IPv4Network.size]
  by_cases h31 : network.prefixlen.val = 31
  · rw [if_pos h31, h31]
    decide
  · have hbits : 2 ≤ 32 - network.prefixlen.val := by omega
    rw [if_neg h31]
    calc 2 + 2 * 1 = 2 ^ 2 := rfl
      _ ≤ 2 ^ (32 - network.prefixlen.val) := Nat.pow_le_pow_right (by decide) hbits

theorem plan_of_eq_ok (h : network.prefixlen.val < 32) :
    ∃ plan, plan_of network = .ok plan ∧ Placed network plan := by
  have hspace := network.address_add_size_le
  have htwo := two_le_hosts h
  have hhosts := hosts_eq h
  have hgateway := IPv4Network.getElem?_addresses
    (network.network_address.val + edge network) (network.size - 2 * edge network) 0
    (by omega) (by omega)
  have hstart := IPv4Network.getElem?_addresses
    (network.network_address.val + edge network) (network.size - 2 * edge network) 1
    (by omega) (by omega)
  have hlast := IPv4Network.getElem?_addresses
    (network.network_address.val + edge network) (network.size - 2 * edge network)
    (network.size - 2 * edge network - 1) (by omega) (by omega)
  have hend : network.hosts.getLast? = network.hosts[network.size - 2 * edge network - 1]? := by
    rw [List.getLast?_eq_getElem?, hhosts, IPv4Network.length_addresses]
  rw [← hhosts] at hgateway hstart hlast
  rw [plan_of, hend, hgateway, hstart, hlast]
  refine ⟨_, rfl, ?_⟩
  constructor
  · rfl
  · rfl
  · dsimp only
    omega
  · dsimp only
    omega
  · rfl
  · exact ⟨List.mem_of_getElem? hgateway, List.mem_of_getElem? hstart,
      List.mem_of_getElem? hlast⟩

/-- A network of one address has no second host. -/
theorem plan_of_eq_error (h : network.prefixlen = 32) :
    plan_of network = .error .indexError := by
  rw [plan_of, IPv4Network.hosts, if_pos h]
  rfl

/-- The text names a network that has the address. -/
def InNetwork (x : IPv4Address) (text : String) : Prop :=
  ∃ network, IPv4Network.parse text = .ok network ∧ network.Contains x

/-- The network that the set-up makes of an address. -/
theorem parse_24 (a : IPv4Address) :
    IPv4Network.parse (a.str ++ "/24") = .ok (IPv4Network.of a 24) := by
  have hmask : make_netmask ['2', '4'] = .ok 24 := by decide
  rw [IPv4Network.parse_mask a ['2', '4']
    (by rw [String.toList_append]; rfl) (by decide), hmask]
  rfl

theorem inNetwork_24 {a x : IPv4Address} : InNetwork x (a.str ++ "/24") ↔
    x.val / 256 = a.val / 256 := by
  have hcontains : (IPv4Network.of a 24).Contains x ↔ x.val / 256 = a.val / 256 :=
    IPv4Network.contains_of
  rw [← hcontains, InNetwork]
  constructor
  · rintro ⟨network, hparse, hx⟩
    cases (parse_24 a).symm.trans hparse
    exact hx
  · exact fun hx => ⟨_, parse_24 a, hx⟩

/-- The source range of the NAT rule. -/
theorem nat_source_str (a : IPv4Address) :
    nat_source a.str = .ok (IPv4Network.of a 24).str := by
  rw [nat_source, parse_24]

theorem inNetwork_nat_source {a x : IPv4Address} :
    InNetwork x (IPv4Network.of a 24).str ↔ x.val / 256 = a.val / 256 := by
  rw [← inNetwork_24, InNetwork, InNetwork, IPv4Network.parse_str, parse_24]

/-- What is asked of a plan that is handed to the set-up of the hotspot. -/
structure Fits (network : IPv4Network) (plan : Plan) (a : HotspotServer.Setup) : Prop where
  gateway : a.gateway = plan.gateway.str ∧ plan.gateway ∈ network.hosts
  pool_start : a.pool_start = plan.pool_start.str ∧ plan.pool_start ∈ network.hosts
  pool_end : a.pool_end = plan.pool_end.str ∧ plan.pool_end ∈ network.hosts
  ordered : plan.pool_start ≤ plan.pool_end
  gateway_outside : ¬ (plan.pool_start ≤ plan.gateway ∧ plan.gateway ≤ plan.pool_end)
  interface : ∀ x, plan.pool_start ≤ x → x ≤ plan.pool_end → InNetwork x a.target_addr
  dhcp : ∀ x, plan.pool_start ≤ x → x ≤ plan.pool_end → InNetwork x a.target_net
  nat : ∃ target_src, nat_source a.pool_start = .ok target_src ∧
    ∀ x, plan.pool_start ≤ x → x ≤ plan.pool_end → InNetwork x target_src

/-- The only exception that is not answered is that of the client that cannot be made. -/
def Answers (p : ProvisionM Answer) (row : RouterRow) : Prop :=
  ∀ (σ : Type) (f : (s : ProvisionStmt) → σ → Except ClientError s.Res × σ) (x : σ)
    (e : ClientError), (p.interpret f x).1 = .error e →
      (f (.get_mikrotik_client row) x).1 = .error e

/-- The provisioning of a hotspot answers with an error before the router is contacted, or goes
on with a plan that fits, and answers then, too. -/
def Planned (ip_range : String) : Prop :=
  ∀ (settings : ProvisionSettings) (valid_netloc : List Char → Bool) (router_id tenant_id : UUID)
    (row : RouterRow) (interface : String),
    let data : RouterProvisionRequest := ⟨.hotspot, interface, ip_range⟩
    let p := provision settings valid_netloc router_id tenant_id data row
    (∃ e, p = pure (.invalidRange e)) ∨ Answers p row ∧
      ∃ network plan, IPv4Network.parse ip_range = .ok network ∧ plan_of network = .ok plan ∧
        p = deploy router_id data row
          (service settings valid_netloc tenant_id data row plan) ∧
        ∀ a, hotspot_setup settings tenant_id row interface plan = .ok a → Fits network plan a

theorem deploy_answers {router_id : UUID} {data : RouterProvisionRequest} {row : RouterRow}
    {service : RestClient → ClientM Unit} :
    Answers (deploy router_id data row service) row := by
  intro σ f x e h
  cases hclient : (f (.get_mikrotik_client row) x).1 with
  | error e' =>
      rw [deploy, Prog.bind_eq, Prog.exec, Prog.bind, Prog.handle, Prog.interpret, hclient,
        Prog.handle_ret] at h
      dsimp only at h
      rw [Prog.interpret] at h
      cases h
      rfl
  | ok mikrotik =>
      rw [deploy, Prog.bind_eq, Prog.exec, Prog.bind, Prog.handle, Prog.interpret, hclient,
        Prog.handle_ret] at h
      dsimp only at h
      rw [Prog.tryCatch, Prog.interpret_handle] at h
      split at h
      · cases h
      · cases h

/-- The addresses of a set-up are those of its plan. -/
theorem hotspot_setup_eq_ok {settings : ProvisionSettings} {tenant_id : UUID} {row : RouterRow}
    {interface : String} {a : HotspotServer.Setup}
    (h : hotspot_setup settings tenant_id row interface plan = .ok a) :
    a.gateway = plan.gateway.str ∧ a.network_base = plan.network_base.str ∧
      a.pool_start = plan.pool_start.str ∧ a.pool_end = plan.pool_end.str := by
  rw [hotspot_setup] at h
  cases hchr : is_chr row with
  | error e =>
      rw [hchr] at h
      cases h
  | ok chr =>
      rw [hchr] at h
      cases h
      exact ⟨rfl, rfl, rfl, rfl⟩

/-- The addresses of a network with a prefix of 24 bits or more agree in them. -/
theorem div_eq_of_long (h : 24 ≤ network.prefixlen.val) {x y : IPv4Address}
    (hx : network.Contains x) (hy : network.Contains y) : x.val / 256 = y.val / 256 := by
  have hsplit : 256 = network.size * 2 ^ (network.prefixlen.val - 24) := by
    have hlt := network.prefixlen.isLt
    have hbits : 8 = 32 - network.prefixlen.val + (network.prefixlen.val - 24) := by omega
    calc 256 = 2 ^ 8 := rfl
      _ = network.size * 2 ^ (network.prefixlen.val - 24) := by
        rw [IPv4Network.size, ← Nat.pow_add, ← hbits]
  rw [hsplit, ← Nat.div_div_eq_div_mul, ← Nat.div_div_eq_div_mul, hx.div_eq, hy.div_eq]

theorem Placed.contains (hplaced : Placed network plan) {x : IPv4Address}
    (hstart : plan.pool_start ≤ x) (hend : x ≤ plan.pool_end) : network.Contains x := by
  have h₁ := hplaced.pool_start
  have h₂ := hplaced.pool_end
  have hs : plan.pool_start.val ≤ x.val := hstart
  have he : x.val ≤ plan.pool_end.val := hend
  constructor
  · omega
  · omega

theorem Placed.contains_gateway (hplaced : Placed network plan) :
    network.Contains plan.gateway := by
  have h₁ := hplaced.gateway
  have h₂ := hplaced.pool_start
  have h₃ := hplaced.pool_end
  have h₄ := hplaced.ordered
  constructor
  · omega
  · omega

/-- A plan fits when its range has a prefix of 24 bits or more. -/
theorem Placed.fits (hplaced : Placed network plan) (h : 24 ≤ network.prefixlen.val)
    {a : HotspotServer.Setup} (hgateway : a.gateway = plan.gateway.str)
    (hbase : a.network_base = plan.network_base.str) (hstart : a.pool_start = plan.pool_start.str)
    (hend : a.pool_end = plan.pool_end.str) : Fits network plan a := by
  have hordered : plan.pool_start ≤ plan.pool_end := hplaced.ordered
  have hfirst : network.Contains network.network_address :=
    ⟨Nat.le_refl _, Nat.lt_add_of_pos_right network.size_pos⟩
  constructor
  · exact ⟨hgateway, hplaced.hosts.1⟩
  · exact ⟨hstart, hplaced.hosts.2.1⟩
  · exact ⟨hend, hplaced.hosts.2.2⟩
  · exact hordered
  · rintro ⟨hle, _⟩
    have hle : plan.pool_start.val ≤ plan.gateway.val := hle
    rw [hplaced.pool_start, hplaced.gateway] at hle
    omega
  · intro x hx hx'
    rw [HotspotServer.Setup.target_addr, hgateway, inNetwork_24]
    exact div_eq_of_long h (hplaced.contains hx hx') hplaced.contains_gateway
  · intro x hx hx'
    rw [HotspotServer.Setup.target_net, hbase, inNetwork_24, hplaced.network_base]
    exact div_eq_of_long h (hplaced.contains hx hx') hfirst
  · refine ⟨_, by rw [hstart, nat_source_str], fun x hx hx' => ?_⟩
    rw [inNetwork_nat_source]
    exact div_eq_of_long h (hplaced.contains hx hx')
      (hplaced.contains (le_refl plan.pool_start) hordered)

/-- The pool of a range with a shorter prefix leaves the network of the interface. -/
theorem Placed.not_fits (hplaced : Placed network plan) (h : network.prefixlen.val < 24)
    {a : HotspotServer.Setup} (hgateway : a.gateway = plan.gateway.str) :
    ¬ Fits network plan a := by
  intro hfits
  have hlast := hfits.interface plan.pool_end hfits.ordered (le_refl _)
  rw [HotspotServer.Setup.target_addr, hgateway, inNetwork_24] at hlast
  have hbits : 9 ≤ 32 - network.prefixlen.val := by omega
  have hsize : 512 ∣ network.size := Nat.pow_dvd_pow 2 hbits
  have hbase : 512 ∣ network.network_address.val := hsize.trans network.aligned
  have hedge : edge network = 1 := by
    have hne : network.prefixlen.val ≠ 31 := by omega
    rw [edge, if_neg hne]
  have hpos := network.size_pos
  have h₁ := hplaced.gateway
  have h₂ := hplaced.pool_end
  omega

end Plans

section Provision

variable {settings : ProvisionSettings} {valid_netloc : List Char → Bool}
  {router_id tenant_id : UUID} (data : RouterProvisionRequest) {row : RouterRow}
  {network : IPv4Network} {plan : Plan}

theorem provision_refused {e : AddressError} (h : IPv4Network.parse data.ip_range = .error e) :
    provision settings valid_netloc router_id tenant_id data row = pure (.invalidRange e) := by
  rw [provision, address_plan, h]

theorem provision_planned (h : IPv4Network.parse data.ip_range = .ok network)
    (hplan : plan_of network = .ok plan) :
    provision settings valid_netloc router_id tenant_id data row = deploy router_id data row
      (service settings valid_netloc tenant_id data row plan) := by
  rw [provision, address_plan, h]
  dsimp only
  rw [hplan]

/-- The index of the second host raises outside the block that answers with exceptions. -/
theorem provision_single (h : IPv4Network.parse data.ip_range = .ok network)
    (h32 : network.prefixlen = 32) :
    provision settings valid_netloc router_id tenant_id data row = throw .indexError := by
  rw [provision, address_plan, h]
  dsimp only
  rw [plan_of_eq_error h32]

/-- A router that is found is provisioned from the state that the look-up leaves. -/
theorem provision_router_found {σ : Type}
    {f : (s : ProvisionStmt) → σ → Except ClientError s.Res × σ} {x : σ}
    (h : (f (.select_router router_id tenant_id) x).1 = .ok (some row)) :
    (provision_router settings valid_netloc router_id tenant_id data).interpret f x =
      (provision settings valid_netloc router_id tenant_id data row).interpret f
        (f (.select_router router_id tenant_id) x).2 := by
  rw [provision_router, Prog.bind_eq, Prog.exec, Prog.bind, Prog.handle, Prog.interpret, h,
    Prog.handle_ret]

/-- A range that has a plan raises what the look-up of the router or the making of its client
raises, and nothing else. -/
theorem provision_router_raises {σ : Type}
    {f : (s : ProvisionStmt) → σ → Except ClientError s.Res × σ} {x : σ} {e : ClientError}
    (hparse : IPv4Network.parse data.ip_range = .ok network) (hplan : plan_of network = .ok plan)
    (hfound : (f (.select_router router_id tenant_id) x).1 = .ok (some row))
    (h : ((provision_router settings valid_netloc router_id tenant_id data).interpret f x).1 =
      .error e) :
    (f (.get_mikrotik_client row) (f (.select_router router_id tenant_id) x).2).1 = .error e := by
  rw [provision_router_found data hfound, provision_planned data hparse hplan] at h
  exact deploy_answers σ f _ e h

omit data in
theorem lt_32_of_plan (h : plan_of network = .ok plan) : network.prefixlen.val < 32 := by
  have hlt := network.prefixlen.isLt
  by_contra hge
  have h32 : network.prefixlen = 32 := Fin.ext (by
    change network.prefixlen.val = 32
    omega)
  rw [plan_of_eq_error h32] at h
  cases h

end Provision

/-- A router of the office network. -/
def office : RouterRow where
  id := 1
  tenant_id := 1
  name := "office"
  site_name := "office"
  host := some "10.8.0.2"

def production : ProvisionSettings where
  FRONTEND_URL := none
  CHR_HOST_IP := "192.168.56.1"
  CHR_FRONTEND_URL := "http://192.168.56.1"
  CHR_BACKEND_PORT := 8000
  API_BASE_URL := "https://api.Frixel Connect.dev"
  RADIUS_COA_SECRET := "testing123"

/-- The plan of a hotspot fits exactly where the range is refused or its prefix length is from 24
to 31. -/
theorem address_planned_iff (ip_range : String) : Planned ip_range ↔
    ∀ network, IPv4Network.parse ip_range = .ok network →
      24 ≤ network.prefixlen.val ∧ network.prefixlen.val ≤ 31 := by
  constructor
  · intro h network hparse
    cases h production (fun _ => true) 1 1 office "ether3" with
    | inl hrefused =>
        obtain ⟨e, he⟩ := hrefused
        by_cases h32 : network.prefixlen = 32
        · rw [provision_single ⟨.hotspot, "ether3", ip_range⟩ hparse h32] at he
          cases he
        · have hlt : network.prefixlen.val < 32 := by
            have hbound := network.prefixlen.isLt
            have hne : network.prefixlen.val ≠ 32 := fun heq => h32 (Fin.ext heq)
            omega
          obtain ⟨plan, hplan, _⟩ := plan_of_eq_ok hlt
          rw [provision_planned ⟨.hotspot, "ether3", ip_range⟩ hparse hplan] at he
          cases he
    | inr hgoes =>
        obtain ⟨_, network', plan, hparse', hplan, _, hfits⟩ := hgoes
        cases hparse.symm.trans hparse'
        have hlt := lt_32_of_plan hplan
        obtain ⟨plan', hplan', hplaced⟩ := plan_of_eq_ok hlt
        cases hplan.symm.trans hplan'
        obtain ⟨a, ha⟩ : ∃ a, hotspot_setup production 1 office "ether3" plan = .ok a := ⟨_, rfl⟩
        constructor
        · by_contra hshort
          exact hplaced.not_fits (by omega) (hotspot_setup_eq_ok ha).1 (hfits a ha)
        · omega
  · intro h settings valid_netloc router_id tenant_id row interface data p
    cases hparse : IPv4Network.parse ip_range with
    | error e => exact .inl ⟨e, provision_refused data hparse⟩
    | ok network =>
        obtain ⟨hlong, hle⟩ := h network hparse
        have hlt : network.prefixlen.val < 32 := by omega
        obtain ⟨plan, hplan, hplaced⟩ := plan_of_eq_ok hlt
        have hp : p = deploy router_id data row
            (service settings valid_netloc tenant_id data row plan) :=
          provision_planned data hparse hplan
        right
        constructor
        · rw [hp]
          exact deploy_answers
        · refine ⟨network, plan, rfl, hplan, hp, fun a ha => ?_⟩
          obtain ⟨hgateway, hbase, hstart, hend⟩ := hotspot_setup_eq_ok ha
          exact hplaced.fits hlong hgateway hbase hstart hend

/-- A range of one address ends in an exception that nothing answers. -/
theorem not_planned : ¬ ∀ ip_range, Planned ip_range := by
  intro h
  have hparse : IPv4Network.parse "10.0.0.7/32" = .ok (.of ⟨167772167, by decide⟩ 32) := by
    decide +kernel
  cases h "10.0.0.7/32" production (fun _ => true) 1 1 office "ether3" with
  | inl hrefused =>
      obtain ⟨e, he⟩ := hrefused
      rw [provision_single ⟨.hotspot, "ether3", "10.0.0.7/32"⟩ hparse rfl] at he
      cases he
  | inr hgoes =>
      obtain ⟨_, network, plan, hparse', hplan, _⟩ := hgoes
      cases hparse.symm.trans hparse'
      have hlt := lt_32_of_plan hplan
      revert hlt
      decide

end FrixelConnect.AddressPlan
