import FrixelConnect.RouterOs

/-!
# The PPPoE server of a router

The set-up of the address pool, the PPP profile, the PPPoE server and the NAT rule. Every part
but the last is looked up before it is added.

## Main results

`setup_pppoe_server_twice`: no two successful runs leave what one leaves. The second run adds a
NAT rule to those that are there, and changes nothing else (`Configured.again`).
-/

namespace FrixelConnect.PppoeServer

open Interleaving Python Keyed RouterOs RestClient

/-- The arguments of `setup_pppoe_server`. -/
structure Setup where
  interface : String
  local_address : String
  pool_start : String
  pool_end : String

namespace Setup

variable (a : Setup)

def ranges : String := a.pool_start ++ "-" ++ a.pool_end

def pool : Fields := [("name", "Frixel Connect-pppoe-pool"), ("ranges", a.ranges)]

def pool_update : Fields := [("ranges", a.ranges)]

def profile : Fields :=
  [("name", "Frixel Connect-pppoe-prof"), ("local-address", a.local_address),
    ("remote-address", "Frixel Connect-pppoe-pool"), ("use-upnp", "yes"),
    ("change-tcp-mss", "yes")]

def profile_update : Fields :=
  [("local-address", a.local_address), ("remote-address", "Frixel Connect-pppoe-pool")]

def server : Fields :=
  [("service-name", "Frixel Connect-pppoe"), ("interface", a.interface),
    ("default-profile", "Frixel Connect-pppoe-prof"), ("disabled", "false")]

def server_update : Fields :=
  [("interface", a.interface), ("default-profile", "Frixel Connect-pppoe-prof")]

def nat_rule (target_src : String) : Fields :=
  [("chain", "srcnat"), ("action", "masquerade"), ("src-address", target_src),
    ("comment", "Frixel Connect-pppoe-masquerade")]

end Setup

/-- The tests by which the items are looked up. -/
def is_pool : Attrs → Bool := named "name" "Frixel Connect-pppoe-pool"

def is_profile : Attrs → Bool := named "name" "Frixel Connect-pppoe-prof"

def is_server : Attrs → Bool := named "service-name" "Frixel Connect-pppoe"

/-- A NAT rule of the PPPoE set-up. -/
def is_nat_rule : Attrs → Bool := named "comment" "Frixel Connect-pppoe-masquerade"

def setup_pppoe_server (self : RestClient) (a : Setup) : ClientM Unit := do
  self.add_or_patch .ip_pool "list IP pools" "create PPPoE IP pool" "update PPPoE IP pool ranges"
    is_pool a.pool a.pool_update
  self.add_or_patch .ppp_profile "list PPP profiles" "create PPPoE profile"
    "update PPPoE profile addresses" is_profile a.profile a.profile_update
  self.add_or_patch .interface_pppoe_server_server "list PPPoE servers" "create PPPoE server"
    "update PPPoE server interface" is_server a.server a.server_update
  let target_src ← Prog.ofExcept (nat_source a.pool_start)
  let _ ← self.send (.add .ip_firewall_nat (Setup.nat_rule target_src))
    "create PPPoE NAT masquerade"
  pure ()

variable {self : RestClient} {R : Device} {a : Setup} {c c' c'' : RouterConfig}

/-- What a successful run leaves of the configuration `c`. -/
structure Configured (a : Setup) (c c' : RouterConfig) : Prop where
  pool : Upserts is_pool a.pool a.pool_update (c.tables .ip_pool) (c'.tables .ip_pool)
  profile : Upserts is_profile a.profile a.profile_update (c.tables .ppp_profile)
    (c'.tables .ppp_profile)
  server : Upserts is_server a.server a.server_update
    (c.tables .interface_pppoe_server_server) (c'.tables .interface_pppoe_server_server)
  nat : ∃ target_src, nat_source a.pool_start = .ok target_src ∧
    ∃ id h, c'.tables .ip_firewall_nat =
      (c.tables .ip_firewall_nat).insert id h (Setup.nat_rule target_src)
  others : ∀ m, m ≠ .ip_pool → m ≠ .ppp_profile → m ≠ .interface_pppoe_server_server →
    m ≠ .ip_firewall_nat → c'.tables m = c.tables m
  settings : c'.settings = c.settings
  files : c'.files = c.files

theorem setup_pppoe_server_ends : self.Ends R (setup_pppoe_server self a) c fun _ c' =>
    Configured a c c' := by
  apply Prog.Gives.bind (add_or_patch_ends ..)
  rintro _ _ ⟨pool, hpool, rfl⟩
  apply Prog.Gives.bind (add_or_patch_ends ..)
  rintro _ _ ⟨profile, hprofile, rfl⟩
  apply Prog.Gives.bind (add_or_patch_ends ..)
  rintro _ _ ⟨server, hserver, rfl⟩
  apply Prog.Gives.bind (nat_source_ends a.pool_start)
  rintro target_src _ ⟨hsrc, rfl⟩
  apply Prog.Gives.bind (add_ends ..)
  rintro _ _ ⟨id, hid, rfl⟩
  simp only [ne_eq, reduceCtorEq, not_false_eq_true, RouterConfig.tables_setTable_ne] at hprofile
  simp only [ne_eq, reduceCtorEq, not_false_eq_true, RouterConfig.tables_setTable_ne] at hserver hid
  constructor
  · simpa using hpool
  · simpa using hprofile
  · simpa using hserver
  · exact ⟨target_src, hsrc, id, hid, by simp⟩
  · intro m h₁ h₂ h₃ h₄
    simp [h₁, h₂, h₃, h₄]
  · rfl
  · rfl

theorem updates_pool (a : Setup) : Updates is_pool a.pool a.pool_update where
  created := rfl
  nodup := by simp [Setup.pool]
  sublist := .cons _ (.refl _)
  stable := named_patch rfl

theorem updates_profile (a : Setup) :
    Updates is_profile a.profile a.profile_update where
  created := rfl
  nodup := by simp [Setup.profile]
  sublist := .cons _ (.cons_cons _ (.cons_cons _ (.cons _ (.cons _ .slnil))))
  stable := named_patch rfl

theorem updates_server (a : Setup) : Updates is_server a.server a.server_update where
  created := rfl
  nodup := by simp [Setup.server]
  sublist := .cons _ (.cons_cons _ (.cons_cons _ (.cons _ .slnil)))
  stable := named_patch rfl

/-- Where a menu is looked up first, the second run finds what the first one left. -/
theorem Configured.again (h : Configured a c c') (h' : Configured a c' c'') {m : Menu}
    (hm : m ≠ .ip_firewall_nat) : c''.tables m = c'.tables m := by
  by_cases hpool : m = .ip_pool
  · subst hpool
    exact h.pool.again h'.pool (updates_pool a)
  by_cases hprofile : m = .ppp_profile
  · subst hprofile
    exact h.profile.again h'.profile (updates_profile a)
  by_cases hserver : m = .interface_pppoe_server_server
  · subst hserver
    exact h.server.again h'.server (updates_server a)
  · exact h'.others m hpool hprofile hserver hm

/-- The second run adds a NAT rule. -/
theorem Configured.length_nat (h : Configured a c c') :
    (c'.tables .ip_firewall_nat).rows.length = (c.tables .ip_firewall_nat).rows.length + 1 := by
  obtain ⟨target_src, _, id, hid, htable⟩ := h.nat
  rw [htable, KeyTable.insert, List.length_append, List.length_singleton]

/-- What is asked of two runs, the first of which ends in `c'` and the second in `c''`. -/
structure Idempotent (a : Setup) (c' c'' : RouterConfig) : Prop where
  same : c'.Same c''
  pool : OnlyHolds is_pool a.pool (c''.tables .ip_pool)
  profile : OnlyHolds is_profile a.profile (c''.tables .ppp_profile)
  server : OnlyHolds is_server a.server (c''.tables .interface_pppoe_server_server)
  nat : ∃ target_src, nat_source a.pool_start = .ok target_src ∧
    OnlyHolds is_nat_rule (Setup.nat_rule target_src) (c''.tables .ip_firewall_nat)

/-- Two successful runs never leave the configuration that one leaves. -/
theorem setup_pppoe_server_twice (self : RestClient) (R : Device) (a : Setup)
    (c c' c'' : RouterConfig) (h : self.run R (setup_pppoe_server self a) c = (.ok (), c'))
    (h' : self.run R (setup_pppoe_server self a) c' = (.ok (), c'')) :
    ¬ Idempotent a c' c'' := by
  rw [run_eq] at h h'
  have hfirst : Configured a c c' := setup_pppoe_server_ends.ok h
  have hsecond : Configured a c' c'' := setup_pppoe_server_ends.ok h'
  intro hidempotent
  have hlength := (hidempotent.same.tables .ip_firewall_nat).length_eq
  rw [List.length_map, List.length_map, hsecond.length_nat] at hlength
  omega

/-- A set-up on a router without any configuration. -/
def firstSetup : Setup where
  interface := "ether3"
  local_address := "10.0.0.1"
  pool_start := "10.0.0.2"
  pool_end := "10.0.0.254"

def client : RestClient := ⟨"10.8.0.2", 80⟩

/-- The configuration after some runs of the set-up. -/
def afterRuns (n : ℕ) : RouterConfig :=
  (fun c => (client.run .plain (setup_pppoe_server client firstSetup) c).2)^[n] .blank

theorem afterRuns_succ (n : ℕ) (h : (client.run .plain (setup_pppoe_server client firstSetup)
    (afterRuns n)).1 = .ok ()) :
    client.run .plain (setup_pppoe_server client firstSetup) (afterRuns n) =
      (.ok (), afterRuns (n + 1)) := by
  rw [← h, afterRuns, afterRuns, Function.iterate_succ_apply']

theorem setup_pppoe_server_twice_first : ¬ Idempotent firstSetup (afterRuns 1) (afterRuns 2) :=
  setup_pppoe_server_twice client .plain firstSetup (afterRuns 0) (afterRuns 1) (afterRuns 2)
    (afterRuns_succ 0 (by decide +kernel)) (afterRuns_succ 1 (by decide +kernel))

theorem not_idempotent : ¬ ∀ (self : RestClient) (R : Device) (a : Setup) (c c' c'' : RouterConfig),
    self.run R (setup_pppoe_server self a) c = (.ok (), c') →
    self.run R (setup_pppoe_server self a) c' = (.ok (), c'') → Idempotent a c' c'' := by
  intro h
  have hsame := (h client .plain firstSetup (afterRuns 0) (afterRuns 1) (afterRuns 2)
    (afterRuns_succ 0 (by decide +kernel)) (afterRuns_succ 1 (by decide +kernel))).same
  have hlength := (hsame.tables .ip_firewall_nat).length_eq
  revert hlength
  decide +kernel

end FrixelConnect.PppoeServer
