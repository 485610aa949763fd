import FrixelConnect.Routers
import FrixelConnect.Interleaving.Solo
import FrixelConnect.Interleaving.StoreRule

/-!
# Addresses of the routers

A new router gets the first address of the tunnel network that no router holds. The
address is read and inserted by two statements, so that two requests can get the same
one. Addresses are distinct in every run in which an insert meets no router with its
address; that they lie in the network, and that they run out only when all are held,
holds in every run.
-/

namespace FrixelConnect

open Interleaving

namespace Routers

/-- The requests that administrators and routers send. -/
inductive RouterSpawn where
  | init (tenant_id : UUID) (data : OnboardingInitRequest)
  | init_magic (tenant_id : UUID) (data : MagicInitRequest)
  | register_peer (tenant_id : UUID) (data : RegisterPeerRequest)
  | confirm (token client_ip : String)
  | delete (tenant_id router_id : UUID)

/-- Run a program for its effects. -/
def forEffect {α : Type} (p : RouterM α) : RouterM Unit := p >>= fun _ => pure ()

def RouterSpawn.program : RouterSpawn → RouterM Unit
  | .init tenant_id data => forEffect (onboarding_init tenant_id data)
  | .init_magic tenant_id data => forEffect (onboarding_init_magic tenant_id data)
  | .register_peer tenant_id data => onboarding_register_peer tenant_id data
  | .confirm token client_ip => forEffect (confirm_setup token client_ip)
  | .delete tenant_id router_id => delete_router tenant_id router_id

def routerSystem : System RouterStmt RouterStmt.Res Unit Exn RouterStore RouterEnv UUID Unit
    RouterSpawn :=
  { routerMachine with start := fun w d => some (d, w.program) }

/-- States and rules of the router endpoints. -/
abbrev RouterState := State RouterStmt RouterStmt.Res Unit Exn RouterStore RouterEnv Unit
abbrev RouterRules := Rules RouterStmt Exn RouterStore RouterEnv RouterSpawn
abbrev RouterLabel := Label Exn RouterStore RouterEnv RouterSpawn

theorem exec_eq_settle (s : RouterStmt) (v : RouterEnv) (d : RouterStore) :
    s.exec v d = settle (s.eval v d) d := by
  rw [RouterStmt.exec]
  cases s.eval v d with
  | ok r => rfl
  | error e => rfl

theorem exec_cases (s : RouterStmt) (v : RouterEnv) (d : RouterStore) :
    (∃ a d', s.eval v d = .ok (a, d') ∧ s.exec v d = (.ok a, d')) ∨
      ∃ e, s.eval v d = .error e ∧ s.exec v d = (.error e, d) := by
  rw [exec_eq_settle]
  exact settle_cases (s.eval v d) d

theorem exec_eq_ok {s : RouterStmt} {v : RouterEnv} {d d' : RouterStore} {a : s.Res} :
    s.exec v d = (.ok a, d') ↔ s.eval v d = .ok (a, d') := by
  rw [exec_eq_settle, settle_eq_ok]

theorem routerMachine_restores : routerMachine.Restores := .of_settle _ exec_eq_settle

/-- The address lies in 10.8.0.2-10.8.0.254. -/
def InRange (ip : String) : Prop := ∃ i, 2 ≤ i ∧ i ≤ 254 ∧ ip = address i

theorem mem_hosts {i : ℕ} : i ∈ hosts ↔ 2 ≤ i ∧ i ≤ 254 := by
  simp only [hosts, List.mem_map, List.mem_range]
  constructor
  · rintro ⟨j, hj, rfl⟩
    omega
  · intro h
    exact ⟨i - 2, by omega, by omega⟩

theorem inRange_of_find {p : String → Bool} {ip : String}
    (h : (hosts.map address).find? p = some ip) : InRange ip := by
  obtain ⟨i, hi, rfl⟩ := List.mem_map.mp (List.mem_of_find?_eq_some h)
  obtain ⟨h₁, h₂⟩ := mem_hosts.mp hi
  exact ⟨i, h₁, h₂, rfl⟩

/-- The statement writes no address that is out of range. -/
def WritesInRange : RouterStmt → Prop
  | .insert_router row => ∀ ip, row.wireguard_assigned_ip = some ip → InRange ip
  | _ => True

/-- The statement leaves the store as it is. -/
def Reads : RouterStmt → Prop
  | .insert_router _ => False
  | .set_peer_public_key .. => False
  | .confirm_router .. => False
  | .delete_router .. => False
  | .insert_setup_token .. => False
  | .consume_setup_token _ => False
  | .clear_private_key _ => False
  | .wg_set_peer .. => False
  | .wg_remove_peer _ => False
  | _ => True

section Reading

variable {φ : RouterStmt → Prop} (hφ : ∀ s, Reads s → φ s)
include hφ

theorem require_new_name_all (tenant_id : UUID) (name : String) :
    (require_new_name tenant_id name).All φ := by
  refine Prog.All.bind ((Prog.all_exec _).mpr (hφ _ trivial)) fun existing => ?_
  cases existing <;> trivial

/-- An assigned address is in range. -/
theorem assign_peer_ip_allWith : assign_peer_ip.AllWith φ InRange := by
  refine ⟨hφ _ trivial, fun r => ?_⟩
  cases r with
  | error e =>
      intro ip hip
      cases hip
  | ok assigned_ips =>
      dsimp only [Prog.handle_ret]
      split
      · next ip hfind =>
          intro ip' hip
          cases hip
          exact inRange_of_find hfind
      · intro ip hip
        cases hip

theorem get_server_public_key_all : get_server_public_key.All φ :=
  Prog.All.tryCatch ((Prog.all_exec _).mpr (hφ _ trivial)) fun _ =>
    Prog.All.tryCatch ((Prog.all_exec _).mpr (hφ _ trivial)) fun _ => trivial

end Reading

section Footprint

theorem WritesInRange.of_reads (s : RouterStmt) (h : Reads s) : WritesInRange s := by
  cases s with
  | insert_router row => exact h.elim
  | _ => trivial

theorem wgCommand_all {command : RouterStmt} (h : WritesInRange command) :
    (wgCommand command).All WritesInRange := by
  refine Prog.All.tryCatch (Prog.All.bind ((Prog.all_exec _).mpr h) fun _ => ?_) fun _ => trivial
  exact Prog.All.bind ((Prog.all_exec _).mpr trivial) fun _ => trivial

theorem add_wireguard_peer_all (peer_public_key assigned_ip : String) :
    (add_wireguard_peer peer_public_key assigned_ip).All WritesInRange := wgCommand_all trivial

theorem remove_wireguard_peer_all (peer_public_key : String) :
    (remove_wireguard_peer peer_public_key).All WritesInRange := wgCommand_all trivial

theorem restore_peer_all (router_row : Option RouterRow) :
    (restore_peer router_row).All WritesInRange := by
  unfold restore_peer
  split
  · split
    · trivial
    · exact (add_wireguard_peer_all _ _).tryCatch fun _ => trivial
  · trivial

theorem drop_peer_all (peer_public_key : Option String) :
    (drop_peer peer_public_key).All WritesInRange := by
  unfold drop_peer
  split
  · split
    · trivial
    · exact (remove_wireguard_peer_all _).tryCatch fun _ => trivial
  · trivial

theorem onboarding_init_all (tenant_id : UUID) (data : OnboardingInitRequest) :
    (onboarding_init tenant_id data).All WritesInRange := by
  refine (require_new_name_all WritesInRange.of_reads _ _).bind fun _ => ?_
  refine (assign_peer_ip_allWith WritesInRange.of_reads).bind fun ip hip => ?_
  refine (get_server_public_key_all WritesInRange.of_reads).bind fun key => ?_
  refine Prog.All.bind ((Prog.all_exec _).mpr fun ip' h => ?_) fun _ => trivial
  cases h
  exact hip

theorem onboarding_init_magic_all (tenant_id : UUID) (data : MagicInitRequest) :
    (onboarding_init_magic tenant_id data).All WritesInRange := by
  refine (require_new_name_all WritesInRange.of_reads _ _).bind fun _ => ?_
  refine (assign_peer_ip_allWith WritesInRange.of_reads).bind fun ip hip => ?_
  refine Prog.All.bind ((Prog.all_exec _).mpr trivial) fun keypair => ?_
  refine Prog.All.bind ((Prog.all_exec _).mpr trivial) fun _ => ?_
  refine Prog.All.bind ((Prog.all_exec _).mpr trivial) fun token => ?_
  refine (get_server_public_key_all WritesInRange.of_reads).bind fun key => ?_
  refine Prog.All.bind ((Prog.all_exec _).mpr fun ip' h => ?_) fun router_id => ?_
  · cases h
    exact hip
  refine Prog.All.bind ((Prog.all_exec _).mpr trivial) fun now => ?_
  refine Prog.All.bind ((Prog.all_exec _).mpr trivial) fun _ => ?_
  refine Prog.All.bind ?_ fun _ => trivial
  unfold pre_register
  split
  · trivial
  · exact add_wireguard_peer_all _ _

theorem onboarding_register_peer_all (tenant_id : UUID) (data : RegisterPeerRequest) :
    (onboarding_register_peer tenant_id data).All WritesInRange := by
  refine Prog.All.bind ((Prog.all_exec _).mpr trivial) fun router_row => ?_
  cases router_row with
  | none => trivial
  | some row =>
      exact (add_wireguard_peer_all _ _).bind fun _ => (Prog.all_exec _).mpr trivial

theorem confirm_setup_all (token client_ip : String) :
    (confirm_setup token client_ip).All WritesInRange := by
  unfold confirm_setup
  split
  · trivial
  refine Prog.All.bind ((Prog.all_exec _).mpr trivial) fun token_row => ?_
  cases token_row with
  | none => trivial
  | some row =>
      refine Prog.All.bind (Prog.All.transaction ?_) fun _ => ?_
      · exact Prog.All.bind ((Prog.all_exec _).mpr trivial) fun _ =>
          Prog.All.bind ((Prog.all_exec _).mpr trivial) fun _ => (Prog.all_exec _).mpr trivial
      refine Prog.All.bind ((Prog.all_exec _).mpr trivial) fun router_row => ?_
      exact (restore_peer_all router_row).bind fun _ => trivial

theorem delete_router_all (tenant_id router_id : UUID) :
    (delete_router tenant_id router_id).All WritesInRange := by
  refine Prog.All.bind ((Prog.all_exec _).mpr trivial) fun existing => ?_
  cases existing with
  | none => trivial
  | some row => exact (drop_peer_all _).bind fun _ => (Prog.all_exec _).mpr trivial

theorem program_all (w : RouterSpawn) : w.program.All WritesInRange := by
  cases w with
  | init tenant_id data => exact (onboarding_init_all tenant_id data).bind fun _ => trivial
  | init_magic tenant_id data =>
      exact (onboarding_init_magic_all tenant_id data).bind fun _ => trivial
  | register_peer tenant_id data => exact onboarding_register_peer_all tenant_id data
  | confirm token client_ip => exact (confirm_setup_all token client_ip).bind fun _ => trivial
  | delete tenant_id router_id => exact delete_router_all tenant_id router_id

end Footprint

/-- Two distinct routers never hold the same address. -/
def Distinct (d : RouterStore) : Prop := ∀ r ∈ d.routers, ∀ r' ∈ d.routers, ∀ ip,
  r.wireguard_assigned_ip = some ip → r'.wireguard_assigned_ip = some ip → r.id = r'.id

/-- Every address is in range. -/
def Ranged (d : RouterStore) : Prop :=
  ∀ r ∈ d.routers, ∀ ip, r.wireguard_assigned_ip = some ip → InRange ip

/-- Every address of the range is held by a router. -/
def Exhausted (d : RouterStore) : Prop :=
  ∀ i, 2 ≤ i → i ≤ 254 → ∃ r ∈ d.routers, r.wireguard_assigned_ip = some (address i)

/-- An insert meets no router with its address. -/
def MeetsFree (d : RouterStore) : RouterStmt → Prop
  | .insert_router row => row.wireguard_assigned_ip ≠ none →
      ∀ r ∈ d.routers, r.wireguard_assigned_ip ≠ row.wireguard_assigned_ip
  | _ => True

/-- All requests in any interleaving. The rest of the system assigns no addresses. -/
def unguarded : RouterRules where
  edit d d' := ∀ r' ∈ d'.routers, ∀ ip, r'.wireguard_assigned_ip = some ip →
    ∃ r ∈ d.routers, r.id = r'.id ∧ r.wireguard_assigned_ip = some ip

/-- Such runs in which every insert meets no router with its address. -/
def guarded : RouterRules where
  stmt s c d := match c with
    | .run _ => MeetsFree d s
    | .fail _ => True
  edit := unguarded.edit

variable {d d' : RouterStore} {s : RouterStmt} {v : RouterEnv} {a : s.Res}

/-- Every address of the new table belongs to the same router in the old one. -/
def Holds (d d' : RouterStore) : Prop := ∀ r' ∈ d'.routers, ∀ ip,
  r'.wireguard_assigned_ip = some ip → ∃ r ∈ d.routers, r.id = r'.id ∧
    r.wireguard_assigned_ip = some ip

theorem Holds.of_routers (h : d'.routers = d.routers) : Holds d d' := by
  intro r hr ip hip
  exact ⟨r, h ▸ hr, rfl, hip⟩

theorem Holds.updateRouters {p : RouterRow → Bool} {f : RouterRow → RouterRow}
    (hf : ∀ r, (f r).id = r.id ∧ (f r).wireguard_assigned_ip = r.wireguard_assigned_ip) :
    Holds d (d.updateRouters p f) := by
  intro r' hr' ip hip
  obtain ⟨r, hr, rfl⟩ := List.mem_map.mp hr'
  split at hip
  · next h => exact ⟨r, hr, by rw [if_pos h, (hf r).1], (hf r).2 ▸ hip⟩
  · next h => exact ⟨r, hr, by rw [if_neg h], hip⟩

/-- Only an insert assigns an address. -/
theorem holds_of_eval (hs : ∀ row, s ≠ .insert_router row) (h : s.eval v d = .ok (a, d')) :
    Holds d d' := by
  cases s with
  | insert_router row => exact absurd rfl (hs row)
  | set_peer_public_key key id tenant_id =>
      cases h
      exact Holds.updateRouters fun _ => ⟨rfl, rfl⟩
  | confirm_router id tenant_id ip =>
      cases h
      exact Holds.updateRouters fun _ => ⟨rfl, rfl⟩
  | delete_router id tenant_id =>
      cases h
      exact fun r hr ip hip => ⟨r, List.mem_of_mem_filter hr, rfl, hip⟩
  | insert_setup_token tenant_id router_id token key expires_at =>
      simp only [RouterStmt.eval, Except.bind_eq_ok, pure, Except.pure, Except.ok.injEq,
        Prod.mk.injEq] at h
      obtain ⟨-, -, -, -, -, -, -, rfl⟩ := h
      exact .of_routers rfl
  | wg_set_peer key ip =>
      simp only [RouterStmt.eval, Except.bind_eq_ok, pure, Except.pure, Except.ok.injEq,
        Prod.mk.injEq] at h
      obtain ⟨-, -, -, -, -, rfl⟩ := h
      exact .of_routers rfl
  | wg_remove_peer key =>
      simp only [RouterStmt.eval, Except.bind_eq_ok, pure, Except.pure, Except.ok.injEq,
        Prod.mk.injEq] at h
      obtain ⟨-, -, -, rfl⟩ := h
      exact .of_routers rfl
  | _ =>
      cases h
      exact .of_routers rfl

theorem eval_insert_router {row : RouterRow} {id : UUID}
    (h : (RouterStmt.insert_router row).eval v d = .ok (id, d')) :
    d' = { d with routers := d.routers ++ [{ row with id }] } := by
  simp only [RouterStmt.eval, Except.bind_eq_ok, pure, Except.pure, Except.ok.injEq,
    Prod.mk.injEq] at h
  obtain ⟨-, -, -, -, rfl, rfl⟩ := h
  rfl

theorem Ranged.holds (h : Ranged d) (hd : Holds d d') : Ranged d' := by
  intro r' hr' ip hip
  obtain ⟨r, hr, -, hip'⟩ := hd r' hr' ip hip
  exact h r hr ip hip'

theorem Distinct.holds (h : Distinct d) (hd : Holds d d') : Distinct d' := by
  intro r₁' hr₁' r₂' hr₂' ip hip₁ hip₂
  obtain ⟨r₁, hr₁, hid₁, hip₁⟩ := hd r₁' hr₁' ip hip₁
  obtain ⟨r₂, hr₂, hid₂, hip₂⟩ := hd r₂' hr₂' ip hip₂
  rw [← hid₁, ← hid₂]
  exact h r₁ hr₁ r₂ hr₂ ip hip₁ hip₂

theorem Distinct.insert {row : RouterRow} (h : Distinct d)
    (hfree : MeetsFree d (.insert_router row)) :
    Distinct { d with routers := d.routers ++ [row] } := by
  have hnew (r : RouterRow) (hr : r ∈ d.routers) (ip : String)
      (hip : row.wireguard_assigned_ip = some ip) : r.wireguard_assigned_ip ≠ some ip := by
    rw [← hip]
    exact hfree (by simp [hip]) r hr
  intro r₁ hr₁ r₂ hr₂ ip hip₁ hip₂
  rcases List.mem_append.mp hr₁ with hr₁ | hr₁
  · rcases List.mem_append.mp hr₂ with hr₂ | hr₂
    · exact h r₁ hr₁ r₂ hr₂ ip hip₁ hip₂
    · rw [List.mem_singleton.mp hr₂] at hip₂
      exact absurd hip₁ (hnew r₁ hr₁ ip hip₂)
  · rw [List.mem_singleton.mp hr₁] at hip₁ ⊢
    rcases List.mem_append.mp hr₂ with hr₂ | hr₂
    · exact absurd hip₂ (hnew r₂ hr₂ ip hip₁)
    · rw [List.mem_singleton.mp hr₂]

/-- Every statement of these requests keeps the addresses in range. -/
theorem ranged_rule : StoreRule routerSystem unguarded WritesInRange Ranged where
  restores := routerMachine_restores
  start w d d' p _ hd hs := by
    cases hs
    exact ⟨hd, program_all w⟩
  edit d d' he hd := hd.holds he
  stmt s v d a d' hs _ hd hx := by
    have he := exec_eq_ok.mp hx
    by_cases hinsert : ∃ row, s = .insert_router row
    · obtain ⟨row, rfl⟩ := hinsert
      obtain rfl := eval_insert_router he
      intro r hr ip hip
      rcases List.mem_append.mp hr with hr | hr
      · exact hd r hr ip hip
      · rw [List.mem_singleton.mp hr] at hip
        exact hs ip hip
    · exact hd.holds (holds_of_eval (fun row h => hinsert ⟨row, h⟩) he)

/-- In a guarded run they keep the addresses distinct. -/
theorem distinct_rule : StoreRule routerSystem guarded WritesInRange Distinct where
  restores := routerMachine_restores
  start w d d' p _ hd hs := by
    cases hs
    exact ⟨hd, program_all w⟩
  edit d d' he hd := hd.holds he
  stmt s v d a d' _ hr hd hx := by
    have he := exec_eq_ok.mp hx
    by_cases hinsert : ∃ row, s = .insert_router row
    · obtain ⟨row, rfl⟩ := hinsert
      obtain rfl := eval_insert_router he
      exact hd.insert hr
    · exact hd.holds (holds_of_eval (fun row h => hinsert ⟨row, h⟩) he)

/-- Where no command and no statement fails, an assignment fails only when every address is
held. -/
theorem exhausted_of_error {e : Exn} (h : (Solo.outcome routerMachine ⟨fun _ => .run v, .run v⟩
    assign_peer_ip d {}).1 = .error e) : Exhausted d := by
  have hread : routerMachine.direct .select_assigned_ips (.run v) d =
      (.ok (d.routers.filterMap (·.wireguard_assigned_ip)), d) := rfl
  rw [assign_peer_ip, Solo.outcome_exec_bind rfl hread] at h
  split at h
  · cases h
  · next hnone =>
      intro i h₁ h₂
      have hmem : address i ∈ hosts.map address := List.mem_map_of_mem (mem_hosts.mpr ⟨h₁, h₂⟩)
      have hused := List.find?_eq_none.mp hnone _ hmem
      simpa using hused

/-- No router and no request yet. -/
def idleRouters (d : RouterStore) : RouterState := { store := d }

/-- The addresses of the routers: in range and exhausted only when all are held, in every run;
distinct in every guarded run. -/
theorem router_addresses (hranged : Ranged d) (hdistinct : Distinct d) :
    (∀ s, Reaches routerSystem unguarded (idleRouters d) s → Ranged s.store ∧
      ∀ v e, (Solo.outcome routerMachine ⟨fun _ => .run v, .run v⟩ assign_peer_ip s.store {}).1 =
        .error e → Exhausted s.store) ∧
    ∀ s, Reaches routerSystem guarded (idleRouters d) s → Distinct s.store := by
  constructor
  · exact fun s hs => ⟨ranged_rule.run hs hranged, fun v e h => exhausted_of_error h⟩
  · exact fun s hs => distinct_rule.run hs hdistinct

section Decidable

variable (s : RouterStmt) (c : Choice Exn RouterEnv) (w : RouterSpawn) (d d' : RouterStore)

instance : Decidable (MeetsFree d s) := by
  cases s with
  | insert_router row =>
      exact inferInstanceAs (Decidable (row.wireguard_assigned_ip ≠ none → ∀ r ∈ d.routers, _))
  | _ => exact .isTrue trivial

instance : Decidable (guarded.stmt s c d) := by
  cases c with
  | run v => exact inferInstanceAs (Decidable (MeetsFree d s))
  | fail e => exact .isTrue trivial

instance : Decidable (guarded.spawn w d) := .isTrue trivial

noncomputable instance : Decidable (guarded.edit d d') := Classical.propDecidable _

instance : Decidable (unguarded.stmt s c d) := .isTrue trivial

instance : Decidable (unguarded.spawn w d) := .isTrue trivial

noncomputable instance : Decidable (unguarded.edit d d') := Classical.propDecidable _

end Decidable

/-- A request of the administrator of the tenant. -/
def initOf (tenant_id : UUID) : RouterLabel :=
  .spawn (.init tenant_id { name := "Main Office", site_name := "Nairobi" })

/-- `n` steps of process `i`, which inserts the row with the id `id`. -/
def routerSteps (n i : ℕ) (id : UUID) : List RouterLabel :=
  List.replicate n (.step i (.run { uuid := id }))

/-- One request after the other. -/
theorem router_addresses_in_turn : ∃ s : RouterState,
    s.store.routers.map (·.wireguard_assigned_ip) = [some "10.8.0.2", some "10.8.0.3"] ∧
      Distinct s.store := by
  obtain ⟨s, hs, hv⟩ := Reaches.of_moves (Y := routerSystem) (ρ := guarded) (idleRouters {})
    (initOf 1 :: routerSteps 4 0 7 ++ initOf 2 :: routerSteps 4 1 8)
    (fun d => d.routers.map (·.wireguard_assigned_ip)) [some "10.8.0.2", some "10.8.0.3"]
    (by decide +kernel) (by decide +kernel)
  refine ⟨s, hv, (router_addresses ?_ ?_).2 s hs⟩
  · exact fun r hr => by cases hr
  · exact fun r hr => by cases hr

/-- Two requests that read the held addresses before either inserts. -/
theorem not_router_addresses : ¬ ∀ (d : RouterStore) (s : RouterState), Ranged d → Distinct d →
    Reaches routerSystem unguarded (idleRouters d) s → Distinct s.store := by
  intro h
  obtain ⟨s, hs, hv⟩ := Reaches.of_moves (Y := routerSystem) (ρ := unguarded) (idleRouters {})
    (initOf 1 :: initOf 2 :: routerSteps 2 0 7 ++ routerSteps 2 1 8 ++ routerSteps 2 0 7 ++
      routerSteps 2 1 8)
    (fun d => d.routers.map fun r => (r.id, r.wireguard_assigned_ip))
    [(7, some "10.8.0.2"), (8, some "10.8.0.2")] (by decide +kernel) (by decide +kernel)
  have hdistinct := h {} s (fun r hr => by cases hr) (fun r hr => by cases hr) hs
  have hfirst : ((7 : UUID), some "10.8.0.2") ∈ s.store.routers.map fun r =>
      (r.id, r.wireguard_assigned_ip) := by simp [hv]
  have hsecond : ((8 : UUID), some "10.8.0.2") ∈ s.store.routers.map fun r =>
      (r.id, r.wireguard_assigned_ip) := by simp [hv]
  obtain ⟨r, hr, hrv⟩ := List.mem_map.mp hfirst
  obtain ⟨r', hr', hrv'⟩ := List.mem_map.mp hsecond
  obtain ⟨hid, hip⟩ := Prod.mk.inj hrv
  obtain ⟨hid', hip'⟩ := Prod.mk.inj hrv'
  have hsame := hdistinct r hr r' hr' "10.8.0.2" hip hip'
  rw [hid, hid'] at hsame
  exact absurd hsame (by decide)

end Routers

end FrixelConnect
