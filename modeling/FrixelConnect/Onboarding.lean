import FrixelConnect.PeerRequests

/-!
# Onboarding by one command

The request inserts a router, then a token, and then configures the peer, each by a step of its
own. Nothing takes the router back when a later step fails.
-/

namespace FrixelConnect

open Calendar Interleaving

namespace Routers

/-- The request has made one router, one token and, unless the router is virtual, one peer, with
the same key and address. -/
def Onboarded (o : Course) (tenant_id : UUID) (data : MagicInitRequest) (d d' : RouterStore)
    (reply : MagicInitResponse) : Prop :=
  ∃ (row : RouterRow) (t : SetupToken) (v : RouterEnv) (ip : String),
    d'.routers = d.routers ++ [row] ∧ d'.setup_tokens = d.setup_tokens ++ [t] ∧
    Pending tenant_id data row ∧ row.id = reply.router_id ∧ o .wg_keypair = .run v ∧
    row.wireguard_peer_public_key = (if data.is_chr then none else some v.keypair.2) ∧
    row.wireguard_assigned_ip = some ip ∧ (∀ r ∈ d.routers, r.wireguard_assigned_ip ≠ some ip) ∧
    t.router_id = row.id ∧ t.token = reply.setup_token ∧
    t.router_wg_private_key = some v.keypair.1 ∧ t.used_at = none ∧
    if data.is_chr then d'.wg0 = d.wg0
    else d'.wg0.filter (fun p => p.public_key == v.keypair.2 || p.allowed_ip == some ip) =
      [{ public_key := v.keypair.2, allowed_ip := some ip }]

/-- A request that raises leaves everything as it was; one that returns has made its rows and
its peer. -/
def AllOrNothing (o : Course) (tenant_id : UUID) (data : MagicInitRequest) (d : RouterStore) :
    Prop :=
  match Solo.outcome routerMachine o.fate (onboarding_init_magic tenant_id data) d {} with
  | (.error _, d', _) => d' = d
  | (.ok reply, d', _) => Onboarded o tenant_id data d d' reply

/-- Every step after the insert of the router goes through. -/
structure Equips (o : Course) (d : RouterStore) (is_chr : Bool) : Prop where
  clock : o.Takes .utc_now
  token : ∃ v v', o .insert_setup_token = .run v ∧ o .setup_token = .run v' ∧
    ∀ t ∈ d.setup_tokens, t.id ≠ v.uuid ∧ t.token ≠ v'.text
  peer : is_chr = false → o.Takes .wg_set_peer ∧ o.Takes .wg_quick_save ∧
    ∃ v, o .wg_keypair = .run v ∧ v.keypair.2 ≠ ""

variable {o : Course} {d : RouterStore} {row : RouterRow} {tenant_id : UUID} {is_chr : Bool}
  {l : RouterLocal} {v v' : RouterEnv} {i : ℕ}

/-- A configured peer is the only one with its key or its address. -/
theorem filter_setPeer (key ip : String) :
    (d.setPeer key ip).wg0.filter (fun p => p.public_key == key || p.allowed_ip == some ip) =
      [{ public_key := key, allowed_ip := some ip }] := by
  have hothers : (((d.wg0.filter fun p => p.public_key != key).map fun p =>
      if p.allowed_ip == some ip then { p with allowed_ip := none } else p).filter
        fun p => p.public_key == key || p.allowed_ip == some ip) = [] := by
    apply List.filter_eq_nil_iff.mpr
    intro p hp
    obtain ⟨q, hq, rfl⟩ := List.mem_map.mp hp
    have hkey : q.public_key ≠ key := by simpa using (List.mem_filter.mp hq).2
    by_cases hip : q.allowed_ip = some ip
    · simp [hip, hkey]
    · simp [hip, hkey]
  rw [RouterStore.setPeer, List.filter_append, hothers]
  simp

variable (o d is_chr i) in
/-- The peer of the new router, or none where it is virtual. -/
theorem outcome_pre_register (key : String) (hl : l.txn = .none) :
    ((is_chr = false → o.Takes .wg_set_peer ∧ o.Takes .wg_quick_save ∧ key ≠ "") ∧
      Solo.outcome routerMachine o.fate (pre_register is_chr key (address i)) d l =
        (.ok (), if is_chr then d else d.setPeer key (address i), l)) ∨
    (¬ (is_chr = false → o.Takes .wg_set_peer ∧ o.Takes .wg_quick_save ∧ key ≠ "") ∧
      ∃ e d', Solo.outcome routerMachine o.fate (pre_register is_chr key (address i)) d l =
        (.error e, d', l) ∧ d'.routers = d.routers) := by
  cases is_chr with
  | true => exact .inl ⟨fun h => (by cases h), rfl⟩
  | false =>
      rw [pre_register, if_neg Bool.false_ne_true, if_neg Bool.false_ne_true]
      by_cases hsets : Sets o key (address i)
      · obtain ⟨r, hr, hok⟩ := outcome_add_peer (d := d) hl hsets
        cases r with
        | ok u => exact .inl ⟨fun _ => ⟨hsets.1, hok.mp rfl, hsets.2.1⟩, hr⟩
        | error e =>
            refine .inr ⟨fun h => ?_, e, _, hr, rfl⟩
            have hsaved := hok.mpr (h rfl).2.1
            cases hsaved
      · obtain ⟨e, he⟩ := outcome_add_peer_error (d := d) hl hsets
        exact .inr ⟨fun h => hsets ⟨(h rfl).1, (h rfl).2.2, address_ne i⟩, e, d, he, rfl⟩

variable (d row tenant_id is_chr i) in
/-- The rest of the request with the new router in the table. -/
theorem outcome_equip (hl : l.txn = .none) (htoken : o .setup_token = .run v)
    (hkeypair : o .wg_keypair = .run v') :
    (Equips o d is_chr ∧ ∃ (t : SetupToken) (reply : MagicInitResponse),
      Solo.outcome routerMachine o.fate (equip tenant_id row.id v.text v'.keypair.1 v'.keypair.2
        (address i) is_chr) (withRouter d row d.setup_tokens) l =
        (.ok reply, (if is_chr then withRouter d row (d.setup_tokens ++ [t])
          else (withRouter d row (d.setup_tokens ++ [t])).setPeer v'.keypair.2 (address i)), l) ∧
      row.id = reply.router_id ∧ t.router_id = row.id ∧ t.token = reply.setup_token ∧
      t.router_wg_private_key = some v'.keypair.1 ∧ t.used_at = none) ∨
    (¬ Equips o d is_chr ∧ ∃ e d',
      Solo.outcome routerMachine o.fate (equip tenant_id row.id v.text v'.keypair.1 v'.keypair.2
        (address i) is_chr) (withRouter d row d.setup_tokens) l = (.error e, d', l) ∧
      d'.routers = d.routers ++ [row]) := by
  rw [equip]
  by_cases hclock : o.Takes .utc_now
  swap
  · obtain ⟨e, hx⟩ := outcome_fail (s := .utc_now) (d := withRouter d row d.setup_tokens) hl hclock
    exact .inr ⟨fun h => hclock h.clock, e, _, hx, rfl⟩
  obtain ⟨v₁, hv₁⟩ := Course.takes_iff.mp hclock
  rw [outcome_take (s := .utc_now) hl hv₁ rfl]
  cases hinsert : o .insert_setup_token with
  | fail e =>
      have hnot : ¬ o.Takes .insert_setup_token := by
        rw [Course.Takes, hinsert]
        exact Bool.false_ne_true
      obtain ⟨e, hx⟩ := outcome_fail (s := .insert_setup_token tenant_id row.id v.text
        v'.keypair.1 (v₁.now + 24 * hour)) (d := withRouter d row d.setup_tokens) hl hnot
      refine .inr ⟨fun h => ?_, e, _, hx, rfl⟩
      obtain ⟨w, w', hw, -⟩ := h.token
      rw [hinsert] at hw
      cases hw
  | run v₂ =>
      by_cases hfresh : ∀ t ∈ d.setup_tokens, t.id ≠ v₂.uuid ∧ t.token ≠ v.text
      swap
      · obtain ⟨e, he⟩ := exec_insert_setup_token_error tenant_id row v'.keypair.1
          (v₁.now + 24 * hour) hfresh
        refine .inr ⟨fun h => hfresh ?_, e, _,
          outcome_refuse (s := .insert_setup_token ..) hl hinsert he, rfl⟩
        obtain ⟨w, w', hw, hw', hnew⟩ := h.token
        cases hinsert.symm.trans hw
        cases htoken.symm.trans hw'
        exact hnew
      obtain ⟨t, hrouter, ht, hprivate, hunused, he⟩ :=
        exec_insert_setup_token tenant_id row v'.keypair.1 (v₁.now + 24 * hour) hfresh
      rw [outcome_take (s := .insert_setup_token ..) hl hinsert he]
      rcases outcome_pre_register o (withRouter d row (d.setup_tokens ++ [t])) is_chr i
        v'.keypair.2 hl with ⟨hpeer, hx⟩ | ⟨hpeer, e, d', hx, hd'⟩
      · refine .inl ⟨⟨hclock, ⟨v₂, v, hinsert, htoken, hfresh⟩, fun hchr => ?_⟩, t, _,
          Solo.outcome_bind_ok hx, rfl, hrouter, ht, hprivate, hunused⟩
        obtain ⟨hset, hsave, hkey⟩ := hpeer hchr
        exact ⟨hset, hsave, v', hkeypair, hkey⟩
      · refine .inr ⟨fun h => hpeer fun hchr => ?_, e, d', Solo.outcome_bind_error hx, hd'⟩
        obtain ⟨hset, hsave, w, hw, hkey⟩ := h.peer hchr
        cases hkeypair.symm.trans hw
        exact ⟨hset, hsave, hkey⟩

/-- The request is all or nothing exactly when every step after the insert of the router goes
through, as soon as the router is inserted. -/
theorem onboarding_all_or_nothing (o : Course) (tenant_id : UUID) (data : MagicInitRequest)
    (d : RouterStore) :
    AllOrNothing o tenant_id data d ↔
      (Inserts o tenant_id data.name d → Equips o d data.is_chr) := by
  rw [AllOrNothing]
  rcases outcome_magic o d tenant_id data (l := {}) rfl with
    ⟨hnot, e, hx⟩ | ⟨row, i, v, v', hinserts, hv, hv', hpending, hkey, hip, hfree, hx⟩
  · rw [hx]
    exact iff_of_true rfl fun hinserts => absurd hinserts hnot
  · rw [hx]
    rcases outcome_equip d row tenant_id data.is_chr i (l := {}) rfl hv hv' with
      ⟨hequips, t, reply, hx, hid, hrouter, ht, hprivate, hunused⟩ | ⟨hnot, e, d', hx, hd'⟩
    · rw [hx]
      refine iff_of_true ?_ fun _ => hequips
      refine ⟨row, t, v', address i, ?_, ?_, hpending, hid, hv', hkey, hip, hfree, hrouter, ht,
        hprivate, hunused, ?_⟩
      · split <;> rfl
      · split <;> rfl
      · split
        · rfl
        · exact filter_setPeer _ _
    · rw [hx]
      refine iff_of_false (fun hsame => ?_) fun hall => hnot (hall hinserts)
      have hrouters : d.routers = d.routers ++ [row] := by rw [← hd', show d' = d from hsame]
      have hlength := congrArg List.length hrouters
      simp at hlength

/-- A request that fails after it has inserted its router cannot be repeated. -/
theorem refused_after_failure {data : MagicInitRequest} (hinserts : Inserts o tenant_id data.name d)
    (hnot : ¬ Equips o d data.is_chr) (o' : Course) : ∃ e e' d',
      Solo.outcome routerMachine o.fate (onboarding_init_magic tenant_id data) d {} =
        (.error e, d', {}) ∧
      Solo.outcome routerMachine o'.fate (onboarding_init_magic tenant_id data) d' {} =
        (.error e', d', {}) := by
  rcases outcome_magic o d tenant_id data (l := {}) rfl with
    ⟨hno, -⟩ | ⟨row, i, v, v', -, hv, hv', hpending, -, -, -, hx⟩
  · exact absurd hinserts hno
  rcases outcome_equip d row tenant_id data.is_chr i (l := {}) rfl hv hv' with
    ⟨hequips, -⟩ | ⟨-, e, d', hx', hd'⟩
  · exact absurd hequips hnot
  rcases outcome_magic o' d' tenant_id data (l := {}) rfl with
    ⟨-, e', hagain⟩ | ⟨_, _, _, _, hagain, -⟩
  · exact ⟨e, e', d', hx.trans hx', hagain⟩
  · have hrow : row ∈ d'.routers := hd' ▸ List.mem_append_right _ (List.mem_singleton_self _)
    exact absurd ⟨hpending.tenant, hpending.name⟩ (hagain.name row hrow)

/-- The interface does not take the peer. -/
def noPeer : Course
  | .wg_set_peer => .fail (.lost "")
  | _ => .run { keypair := ("private", "public") }

/-- A request whose peer fails leaves its router and its token. -/
theorem not_onboarding_all_or_nothing : ¬ AllOrNothing noPeer 1
    { name := "Main Office", site_name := "Nairobi", is_chr := false } {} := by
  rw [onboarding_all_or_nothing]
  intro h
  have hequips := h {
    selects := ⟨rfl, rfl⟩
    name := fun r hr => (by cases hr)
    free := fun hall => by
      obtain ⟨r, hr, -⟩ := hall 2 (by decide) (by decide)
      cases hr
    draws := ⟨rfl, rfl, rfl⟩
    insert := ⟨_, rfl, fun r hr => (by cases hr)⟩ }
  have hpeer := (hequips.peer rfl).1
  cases hpeer

end Routers

end FrixelConnect
