import FrixelConnect.PeerMirror

/-!
# The mirror of the peers along requests

Requests run one after the other, and each of their steps may fail. A request meets its
condition when what it configures on the interface and what it writes to the table go
together; exactly then it keeps the mirror.
-/

namespace FrixelConnect

open Calendar Interleaving

namespace Routers

/-- The steps of the requests. No request takes one of them twice. -/
inductive RouterStep where
  | select_router_named
  | select_assigned_ips
  | select_router
  | select_router_peer
  | insert_router
  | set_peer_public_key
  | confirm_router
  | delete_router
  | select_setup_token
  | insert_setup_token
  | consume_setup_token
  | clear_private_key
  | wg_show_public_key
  | wg_conf_public_key
  | wg_set_peer
  | wg_remove_peer
  | wg_quick_save
  | wg_keypair
  | api_password
  | setup_token
  | utc_now
  | decrypt_secret
  | select_admin
  | insert_audit_log
  | commit
  deriving DecidableEq

/-- What happens at every step of a request. -/
abbrev Course := RouterStep → Choice Exn RouterEnv

/-- The step of a statement. -/
def stepOf : RouterStmt → RouterStep
  | .select_router_named .. => .select_router_named
  | .select_assigned_ips => .select_assigned_ips
  | .select_router .. => .select_router
  | .select_router_peer _ => .select_router_peer
  | .insert_router _ => .insert_router
  | .set_peer_public_key .. => .set_peer_public_key
  | .confirm_router .. => .confirm_router
  | .delete_router .. => .delete_router
  | .select_setup_token _ => .select_setup_token
  | .insert_setup_token .. => .insert_setup_token
  | .consume_setup_token _ => .consume_setup_token
  | .clear_private_key _ => .clear_private_key
  | .wg_show_public_key => .wg_show_public_key
  | .wg_conf_public_key => .wg_conf_public_key
  | .wg_set_peer .. => .wg_set_peer
  | .wg_remove_peer _ => .wg_remove_peer
  | .wg_quick_save => .wg_quick_save
  | .wg_keypair => .wg_keypair
  | .api_password => .api_password
  | .setup_token => .setup_token
  | .utc_now => .utc_now
  | .decrypt_secret _ => .decrypt_secret
  | .select_admin _ => .select_admin
  | .insert_audit_log .. => .insert_audit_log

def Course.fate (o : Course) : Solo.Fate RouterStmt Exn RouterEnv where
  stmt s := o (stepOf s)
  commit := o .commit

/-- The store after a request. -/
def after (o : Course) (w : RouterSpawn) (d : RouterStore) : RouterStore :=
  (Solo.outcome routerMachine o.fate w.program d {}).2.1

/-- The step does not fail. -/
def Course.Takes (o : Course) (step : RouterStep) : Prop := (o step).isRun = true

instance (o : Course) (step : RouterStep) : Decidable (o.Takes step) :=
  inferInstanceAs (Decidable (_ = _))

/-- The new router reaches the table. -/
structure Inserts (o : Course) (tenant_id : UUID) (name : String) (d : RouterStore) : Prop where
  selects : o.Takes .select_router_named ∧ o.Takes .select_assigned_ips
  name : ∀ r ∈ d.routers, ¬ (r.tenant_id = tenant_id ∧ r.name = name)
  free : ¬ Exhausted d
  draws : o.Takes .wg_keypair ∧ o.Takes .api_password ∧ o.Takes .setup_token
  insert : ∃ v, o .insert_router = .run v ∧ ∀ r ∈ d.routers, r.id ≠ v.uuid

/-- Its peer reaches the interface, under a key that no router has. -/
structure Follows (o : Course) (d : RouterStore) : Prop where
  clock : o.Takes .utc_now
  token : ∃ v v', o .insert_setup_token = .run v ∧ o .setup_token = .run v' ∧
    ∀ t ∈ d.setup_tokens, t.id ≠ v.uuid ∧ t.token ≠ v'.text
  peer : o.Takes .wg_set_peer
  key : ∃ v, o .wg_keypair = .run v ∧ v.keypair.2 ≠ "" ∧
    ∀ r ∈ d.routers, r.wireguard_peer_public_key ≠ some v.keypair.2

/-- What the registration of `key` does for the router `r` with the address `ip`. -/
def Registers (o : Course) (d : RouterStore) (r : RouterRow) (key ip : String) : Prop :=
  if o.Takes .wg_quick_save ∧ o.Takes .set_peer_public_key then Replaces d r key ip
  else ∃ r' ∈ d.routers, r'.wireguard_peer_public_key = some key ∧
    r'.wireguard_assigned_ip = some ip

/-- What the deletion does with the router of the id `id` and its key. -/
def Drops (o : Course) (d : RouterStore) (id : UUID) (key : String) : Prop :=
  if o.Takes .wg_remove_peer then o.Takes .delete_router ∧ ¬ Shared d id key
  else o.Takes .delete_router → Shared d id key

/-- The condition of each request. -/
def Meets (o : Course) (d : RouterStore) : RouterSpawn → Prop
  | .init .. => True
  | .init_magic tenant_id data =>
      data.is_chr = true ∨ (Inserts o tenant_id data.name d → Follows o d)
  | .register_peer tenant_id data => ∀ r ∈ d.routers, r.id = data.router_id →
      r.tenant_id = tenant_id → ∀ ip, r.wireguard_assigned_ip = some ip → ip ≠ "None" →
      data.peer_public_key ≠ "" → o.Takes .select_router → o.Takes .wg_set_peer →
      Registers o d r data.peer_public_key ip
  | .confirm .. => True
  | .delete tenant_id router_id => ∀ r ∈ d.routers, r.id = router_id → r.tenant_id = tenant_id →
      ∀ key, r.wireguard_peer_public_key = some key → o.Takes .select_router →
      Drops o d router_id key

variable {o : Course} {d d' : RouterStore} {r : RouterRow} {key ip : String}

theorem Course.takes_iff {step : RouterStep} : o.Takes step ↔ ∃ v, o step = .run v := by
  unfold Course.Takes
  cases o step with
  | run v => simp [Choice.isRun]
  | fail e => simp [Choice.isRun]

section Steps

variable {α : Type} {s : RouterStmt} {f : s.Res → RouterM α}

/-- The control state of a request outside its transaction. -/
abbrev RouterLocal := Local RouterStmt Unit RouterEnv

variable {l : RouterLocal}

theorem direct_run {v : RouterEnv} {a : s.Res} (hv : o (stepOf s) = .run v)
    (he : s.eval v d = .ok (a, d')) : routerMachine.direct s (o.fate.stmt s) d = (.ok a, d') := by
  rw [show o.fate.stmt s = .run v from hv]
  exact exec_eq_ok.mpr he

theorem direct_fail (hv : ¬ o.Takes (stepOf s)) :
    ∃ e, routerMachine.direct s (o.fate.stmt s) d = (.error e, d) := by
  cases hc : o (stepOf s) with
  | run v => exact absurd (Course.takes_iff.mpr ⟨v, hc⟩) hv
  | fail e =>
      rw [show o.fate.stmt s = .fail e from hc]
      exact ⟨e, rfl⟩

/-- A step that is taken. -/
theorem outcome_take {v : RouterEnv} {a : s.Res} (hl : l.txn = .none)
    (hv : o (stepOf s) = .run v) (he : s.eval v d = .ok (a, d')) :
    Solo.outcome routerMachine o.fate (run s >>= f) d l = Solo.outcome routerMachine o.fate (f a) d' l :=
  Solo.outcome_exec_bind hl (direct_run hv he)

/-- A step that fails. -/
theorem outcome_fail (hl : l.txn = .none) (hv : ¬ o.Takes (stepOf s)) :
    ∃ e, Solo.outcome routerMachine o.fate (run s >>= f) d l = (.error e, d, l) := by
  obtain ⟨e, hx⟩ := direct_fail (d := d) hv
  exact ⟨e, Solo.outcome_exec_bind_error hl hx⟩

theorem outcome_fail_store (hl : l.txn = .none) (hv : ¬ o.Takes (stepOf s)) :
    (Solo.outcome routerMachine o.fate (run s >>= f) d l).2.1 = d := by
  obtain ⟨e, hx⟩ := outcome_fail (d := d) (f := f) hl hv
  rw [hx]

/-- A step that is refused. -/
theorem outcome_refuse {v : RouterEnv} {e : Exn} (hl : l.txn = .none)
    (hv : o (stepOf s) = .run v) (he : s.eval v d = .error e) :
    Solo.outcome routerMachine o.fate (run s >>= f) d l = (.error e, d, l) := by
  have hx : routerMachine.direct s (o.fate.stmt s) d = (.error e, d) := by
    rw [show o.fate.stmt s = .run v from hv]
    simp [Machine.direct, routerMachine, RouterStmt.exec, he]
  exact Solo.outcome_exec_bind_error hl hx

end Steps

section Commands

variable {s : RouterStmt} {l : RouterLocal}

/-- A command that takes effect; saving the configuration may still fail. -/
theorem outcome_command {a : s.Res} (hl : l.txn = .none)
    (hs : routerMachine.direct s (o.fate.stmt s) d = (.ok a, d')) :
    ∃ r, Solo.outcome routerMachine o.fate (wgCommand s) d l = (r, d', l) ∧ (r = .ok () ↔ o.Takes .wg_quick_save) := by
  rw [wgCommand, Prog.tryCatch, Solo.outcome_handle, Solo.outcome_exec_bind hl hs]
  by_cases hsave : o.Takes .wg_quick_save
  · obtain ⟨v, hv⟩ := Course.takes_iff.mp hsave
    have hquick := direct_run (s := .wg_quick_save) (d := d') hv rfl
    rw [Solo.outcome_exec_bind hl hquick]
    exact ⟨.ok (), rfl, by simp [hsave]⟩
  · obtain ⟨e, hquick⟩ := direct_fail (s := .wg_quick_save) (d := d') hsave
    rw [Solo.outcome_exec_bind_error hl hquick]
    exact ⟨.error (.exception ("WireGuard CLI error: " ++ e.str)), rfl, by simp [hsave]⟩

/-- A command that fails. -/
theorem outcome_command_error {e : Exn} (hl : l.txn = .none)
    (hs : routerMachine.direct s (o.fate.stmt s) d = (.error e, d)) :
    ∃ e', Solo.outcome routerMachine o.fate (wgCommand s) d l = (.error e', d, l) := by
  rw [wgCommand, Prog.tryCatch, Solo.outcome_handle, Solo.outcome_exec_bind_error hl hs]
  exact ⟨_, rfl⟩

/-- The peer is configured. -/
def Sets (o : Course) (key ip : String) : Prop := o.Takes .wg_set_peer ∧ key ≠ "" ∧ ip ≠ "None"

theorem outcome_add_peer (hl : l.txn = .none) (hsets : Sets o key ip) :
    ∃ r, Solo.outcome routerMachine o.fate (add_wireguard_peer key ip) d l = (r, d.setPeer key ip, l) ∧
      (r = .ok () ↔ o.Takes .wg_quick_save) := by
  obtain ⟨v, hv⟩ := Course.takes_iff.mp hsets.1
  refine outcome_command (a := ()) hl (direct_run (s := .wg_set_peer key ip) hv ?_)
  simp [RouterStmt.eval, check, hsets.2.1, hsets.2.2, bind, Except.bind, pure, Except.pure]

theorem outcome_add_peer_error (hl : l.txn = .none) (hsets : ¬ Sets o key ip) :
    ∃ e, Solo.outcome routerMachine o.fate (add_wireguard_peer key ip) d l = (.error e, d, l) := by
  cases hc : o .wg_set_peer with
  | fail e =>
      apply outcome_command_error (e := e) hl
      rw [show o.fate.stmt (.wg_set_peer key ip) = .fail e from hc]
      rfl
  | run v =>
      have hrefused : ∃ e, (RouterStmt.wg_set_peer key ip).eval v d = .error e := by
        by_cases hkey : key = ""
        · simp [RouterStmt.eval, check, hkey, bind, Except.bind]
        · have hip : ip = "None" := by
            by_contra hip
            exact hsets ⟨Course.takes_iff.mpr ⟨v, hc⟩, hkey, hip⟩
          simp [RouterStmt.eval, check, hkey, hip, bind, Except.bind]
      obtain ⟨e, he⟩ := hrefused
      apply outcome_command_error (e := e) hl
      rw [show o.fate.stmt (.wg_set_peer key ip) = .run v from hc]
      simp [Machine.direct, routerMachine, RouterStmt.exec, he]

end Commands

section Deletion

variable {tenant_id router_id : UUID} {l : RouterLocal}

/-- The store without a router. -/
def deleted (d : RouterStore) (id tenant_id : UUID) : RouterStore :=
  { d with
    routers := d.routers.filter fun r => !(r.id == id && r.tenant_id == tenant_id)
    setup_tokens := d.setup_tokens.filter fun t =>
      !d.routers.any fun r => (r.id == id && r.tenant_id == tenant_id) && r.id == t.router_id }

theorem mem_deleted (hids : (d.routers.map (·.id)).Nodup) (hr : r ∈ d.routers) (r' : RouterRow) :
    r' ∈ (deleted d r.id r.tenant_id).routers ↔ r' ∈ d.routers ∧ r'.id ≠ r.id := by
  simp only [deleted, List.mem_filter, Bool.not_eq_true', Bool.and_eq_false_iff, beq_eq_false_iff_ne]
  refine and_congr_right fun hr' => ⟨fun hne hid => ?_, .inl⟩
  rw [List.inj_on_of_nodup_map hids hr' hr hid] at hne
  exact hne.elim (fun h => h rfl) fun h => h rfl

/-- The last step of a deletion. -/
theorem outcome_delete (hl : l.txn = .none) :
    (Solo.outcome routerMachine o.fate (run (.delete_router router_id tenant_id)) d l).2.1 =
      if o.Takes .delete_router then deleted d router_id tenant_id else d := by
  split
  · next h =>
      obtain ⟨v, hv⟩ := Course.takes_iff.mp h
      rw [Solo.outcome_exec hl (direct_run (s := .delete_router ..) hv rfl)]
      rfl
  · next h =>
      obtain ⟨e, hx⟩ := direct_fail (s := .delete_router router_id tenant_id) (d := d) h
      rw [Solo.outcome_exec hl hx]

/-- The deletion of a router that is found. -/
theorem outcome_deletion (hl : l.txn = .none) (hd : Sound d) (h : Mirrored d) (hr : r ∈ d.routers) :
    Mirrored (Solo.outcome routerMachine o.fate (do
      drop_peer r.wireguard_peer_public_key
      run (.delete_router r.id r.tenant_id)) d l).2.1 ↔
      ∀ key, r.wireguard_peer_public_key = some key → Drops o d r.id key := by
  cases hkey : r.wireguard_peer_public_key with
  | none =>
      change Mirrored (Solo.outcome routerMachine o.fate (run (.delete_router r.id r.tenant_id)) d l).2.1 ↔ _
      rw [outcome_delete hl]
      refine iff_of_true ?_ fun key hkey => by cases hkey
      split
      · exact mirrored_delete hr (mem_deleted hd.ids hr) hd h hkey rfl
      · exact h
  | some key =>
      have hpeer : { public_key := key, allowed_ip := r.wireguard_assigned_ip } ∈ d.wg0 :=
        (h _).mpr ⟨r, hr, hkey, rfl⟩
      have hne : key ≠ "" := hd.nonempty _ hpeer
      have hcond : (∀ key', some key = some key' → Drops o d r.id key') ↔ Drops o d r.id key :=
        ⟨fun hall => hall key rfl, fun hdrops key' hkey' => Option.some.inj hkey' ▸ hdrops⟩
      rw [hcond, drop_peer, if_neg hne, Prog.bind_eq, Prog.bind, Solo.outcome_handle,
        Solo.outcome_absorb]
      dsimp only
      by_cases hremove : o.Takes .wg_remove_peer
      · obtain ⟨v, hv⟩ := Course.takes_iff.mp hremove
        have heval : (RouterStmt.wg_remove_peer key).eval v d = .ok ((), d.removePeer key) := by
          simp [RouterStmt.eval, check, hne, bind, Except.bind, pure, Except.pure]
        have hx := direct_run hv heval
        obtain ⟨e, he, -⟩ := outcome_command hl hx
        rw [remove_wireguard_peer, he]
        rw [outcome_delete hl, Drops, if_pos hremove]
        split
        · next hdelete =>
            have hmirror : Mirrored (deleted (d.removePeer key) r.id r.tenant_id) ↔
                ¬ Shared d r.id key :=
              mirrored_delete_removed hr (mem_deleted hd.ids hr) hd h hkey rfl
            rw [hmirror]
            simp [hdelete]
        · next hdelete =>
            exact iff_of_false (not_mirrored_removePeer hr hkey) fun hall => hdelete hall.1
      · obtain ⟨e, hx⟩ := direct_fail (s := .wg_remove_peer key) (d := d) hremove
        obtain ⟨e', he⟩ := outcome_command_error hl hx
        rw [remove_wireguard_peer, he]
        rw [outcome_delete hl, Drops, if_neg hremove]
        split
        · next hdelete =>
            rw [mirrored_delete_kept hr (mem_deleted hd.ids hr) hd h hkey rfl]
            simp [hdelete]
        · next hdelete => exact iff_of_true h fun htakes => absurd htakes hdelete

theorem mirrored_after_delete (hd : Sound d) (h : Mirrored d) :
    Mirrored (after o (.delete tenant_id router_id) d) ↔
      Meets o d (.delete tenant_id router_id) := by
  rw [after, RouterSpawn.program, delete_router]
  by_cases hselect : o.Takes .select_router
  · obtain ⟨v, hv⟩ := Course.takes_iff.mp hselect
    rw [outcome_take (s := .select_router router_id tenant_id) rfl hv rfl]
    cases hfound : fetchrow v.pick (fun r => r.id == router_id && r.tenant_id == tenant_id)
        d.routers with
    | none =>
        refine iff_of_true h fun r hr hid htenant => ?_
        exact absurd (fetchrow_eq_none.mp hfound r hr) (by simp [hid, htenant])
    | some r =>
        obtain ⟨hr, hrow⟩ := fetchrow_eq_some hfound
        obtain ⟨hid, htenant⟩ : r.id = router_id ∧ r.tenant_id = tenant_id := by simpa using hrow
        subst hid htenant
        refine (outcome_deletion rfl hd h hr).trans ⟨fun hkeys r' hr' hid _ key hkey _ => ?_,
          fun hmeets key hkey => hmeets r hr rfl rfl key hkey hselect⟩
        rw [List.inj_on_of_nodup_map hd.ids hr' hr hid] at hkey
        exact hkeys key hkey
  · rw [outcome_fail_store (s := .select_router router_id tenant_id) rfl hselect]
    exact iff_of_true h fun _ _ _ _ _ _ htakes => absurd htakes hselect

end Deletion

section Registration

variable {tenant_id : UUID} {l : RouterLocal}

/-- The store with the key of a router. -/
def keyed (d : RouterStore) (key : String) (id tenant_id : UUID) : RouterStore :=
  d.updateRouters (fun r => r.id == id && r.tenant_id == tenant_id)
    fun r => { r with wireguard_peer_public_key := some key }

theorem registered_keyed {p : Peer} (hids : (d.routers.map (·.id)).Nodup) (hr : r ∈ d.routers)
    (hip : r.wireguard_assigned_ip = some ip) :
    Registered (keyed d key r.id r.tenant_id) p ↔ p = { public_key := key, allowed_ip := some ip } ∨
      ∃ r' ∈ d.routers, r'.id ≠ r.id ∧ r'.wireguard_peer_public_key = some p.public_key ∧
        r'.wireguard_assigned_ip = p.allowed_ip := by
  constructor
  · rintro ⟨r', hr', hk, ha⟩
    obtain ⟨r₀, hr₀, rfl⟩ := List.mem_map.mp hr'
    by_cases hrow : (r₀.id == r.id && r₀.tenant_id == r.tenant_id) = true
    · rw [if_pos hrow] at hk ha
      have hid : r₀.id = r.id := by
        simp only [Bool.and_eq_true, beq_iff_eq] at hrow
        exact hrow.1
      rw [List.inj_on_of_nodup_map hids hr₀ hr hid] at ha
      obtain ⟨k, a⟩ := p
      have hk : key = k := by simpa using hk
      have ha : some ip = a := hip.symm.trans ha
      exact .inl (by rw [hk, ha])
    · rw [if_neg hrow] at hk ha
      refine .inr ⟨r₀, hr₀, fun hid => hrow ?_, hk, ha⟩
      rw [List.inj_on_of_nodup_map hids hr₀ hr hid]
      simp
  · rintro (rfl | ⟨r', hr', hne, hk, ha⟩)
    · refine ⟨{ r with wireguard_peer_public_key := some key }, List.mem_map.mpr ⟨r, hr, ?_⟩, rfl, hip⟩
      rw [if_pos (by simp)]
    · refine ⟨r', List.mem_map.mpr ⟨r', hr', ?_⟩, hk, ha⟩
      rw [if_neg (by simp [hne])]

/-- The registration of a router that is found. -/
theorem outcome_registration (hl : l.txn = .none) (hd : Sound d) (h : Mirrored d)
    (hr : r ∈ d.routers) :
    Mirrored (Solo.outcome routerMachine o.fate (do
      add_wireguard_peer key (strOfInet r.wireguard_assigned_ip)
      run (.set_peer_public_key key r.id r.tenant_id)) d l).2.1 ↔
      ∀ ip, r.wireguard_assigned_ip = some ip → ip ≠ "None" → key ≠ "" → o.Takes .wg_set_peer →
        Registers o d r key ip := by
  by_cases hsets : Sets o key (strOfInet r.wireguard_assigned_ip)
  · obtain ⟨ip, hip⟩ : ∃ ip, r.wireguard_assigned_ip = some ip := by
      cases hip : r.wireguard_assigned_ip with
      | some ip => exact ⟨ip, rfl⟩
      | none => exact absurd (by rw [hip]; rfl) hsets.2.2
    have hstr : strOfInet r.wireguard_assigned_ip = ip := by rw [hip]; rfl
    rw [hstr] at hsets ⊢
    have hcond : (∀ ip', r.wireguard_assigned_ip = some ip' → ip' ≠ "None" → key ≠ "" →
        o.Takes .wg_set_peer → Registers o d r key ip') ↔ Registers o d r key ip := by
      refine ⟨fun hall => hall ip hip hsets.2.2 hsets.2.1 hsets.1, fun hreg ip' hip' _ _ _ => ?_⟩
      rw [hip] at hip'
      exact Option.some.inj hip' ▸ hreg
    rw [hcond, Registers]
    obtain ⟨a, ha, hok⟩ := outcome_add_peer (d := d) hl hsets
    by_cases hsave : o.Takes .wg_quick_save
    · rw [hok.mpr hsave] at ha
      rw [Solo.outcome_bind_ok ha]
      by_cases hset : o.Takes .set_peer_public_key
      · obtain ⟨v, hv⟩ := Course.takes_iff.mp hset
        rw [if_pos ⟨hsave, hset⟩, Solo.outcome_exec hl
          (direct_run (s := .set_peer_public_key key r.id r.tenant_id) hv rfl)]
        exact mirrored_register hd h hr hip
          (fun p => registered_keyed (d := d.setPeer key ip) hd.ids hr hip) rfl
      · obtain ⟨e, hx⟩ := direct_fail (s := .set_peer_public_key key r.id r.tenant_id)
          (d := d.setPeer key ip) hset
        rw [if_neg fun hboth => hset hboth.2, Solo.outcome_exec hl hx]
        exact mirrored_setPeer hd h
    · cases a with
      | ok u => exact absurd (hok.mp rfl) hsave
      | error e =>
          rw [Solo.outcome_bind_error ha, if_neg fun hboth => hsave hboth.1]
          exact mirrored_setPeer hd h
  · obtain ⟨e, he⟩ := outcome_add_peer_error (d := d) hl hsets
    rw [Solo.outcome_bind_error he]
    refine iff_of_true h fun ip hip hne hkey htakes => absurd ⟨htakes, hkey, ?_⟩ hsets
    rw [hip]
    exact hne

theorem mirrored_after_register {data : RegisterPeerRequest} (hd : Sound d) (h : Mirrored d) :
    Mirrored (after o (.register_peer tenant_id data) d) ↔
      Meets o d (.register_peer tenant_id data) := by
  rw [after, RouterSpawn.program, onboarding_register_peer]
  by_cases hselect : o.Takes .select_router
  · obtain ⟨v, hv⟩ := Course.takes_iff.mp hselect
    rw [outcome_take (s := .select_router data.router_id tenant_id) rfl hv rfl]
    cases hfound : fetchrow v.pick (fun r => r.id == data.router_id && r.tenant_id == tenant_id)
        d.routers with
    | none =>
        refine iff_of_true h fun r hr hid htenant => ?_
        exact absurd (fetchrow_eq_none.mp hfound r hr) (by simp [hid, htenant])
    | some r =>
        obtain ⟨hr, hrow⟩ := fetchrow_eq_some hfound
        obtain ⟨hid, rfl⟩ : r.id = data.router_id ∧ r.tenant_id = tenant_id := by simpa using hrow
        dsimp only
        rw [← hid]
        refine (outcome_registration rfl hd h hr).trans
          ⟨fun hreg r' hr' hid' _ ip hip hne hkey _ htakes => ?_,
            fun hmeets ip hip hne hkey htakes => hmeets r hr hid rfl ip hip hne hkey hselect htakes⟩
        obtain rfl := List.inj_on_of_nodup_map hd.ids hr' hr (hid'.trans hid.symm)
        exact hreg ip hip hne hkey htakes
  · rw [outcome_fail_store (s := .select_router data.router_id tenant_id) rfl hselect]
    exact iff_of_true h fun _ _ _ _ _ _ _ _ htakes => absurd htakes hselect

end Registration

section Soundness

theorem Sound.setPeer (hd : Sound d) (hkey : key ≠ "") : Sound (d.setPeer key ip) where
  ids := hd.ids
  keys := by
    have hmap : ((d.wg0.filter fun p => p.public_key != key).map fun p =>
        if p.allowed_ip == some ip then { p with allowed_ip := none } else p).map (·.public_key) =
          (d.wg0.filter fun p => p.public_key != key).map (·.public_key) := by
      rw [List.map_map]
      apply List.map_congr_left
      intro p _
      dsimp only [Function.comp]
      split <;> rfl
    rw [RouterStore.setPeer, List.map_append, hmap, List.map_singleton, List.nodup_append]
    refine ⟨hd.keys.sublist (List.filter_sublist.map _), List.nodup_singleton _, ?_⟩
    intro k hk k' hk' heq
    obtain ⟨p, hp, rfl⟩ := List.mem_map.mp hk
    have hne : p.public_key ≠ key := by simpa using (List.mem_filter.mp hp).2
    exact hne (heq.trans (List.mem_singleton.mp hk'))
  ips := by
    intro p hp q hq ip' hpip hqip
    rcases mem_setPeer.mp hp with rfl | ⟨hpkey, ⟨hp, hpne⟩ | ⟨hpnone, -⟩⟩
    · rcases mem_setPeer.mp hq with rfl | ⟨-, ⟨-, hqne⟩ | ⟨hqnone, -⟩⟩
      · rfl
      · exact absurd (hqip.trans hpip.symm) hqne
      · rw [hqnone] at hqip
        cases hqip
    · rcases mem_setPeer.mp hq with rfl | ⟨-, ⟨hq, -⟩ | ⟨hqnone, -⟩⟩
      · exact absurd (hpip.trans hqip.symm) hpne
      · exact hd.ips p hp q hq ip' hpip hqip
      · rw [hqnone] at hqip
        cases hqip
    · rw [hpnone] at hpip
      cases hpip
  nonempty := by
    intro p hp
    rcases mem_setPeer.mp hp with rfl | ⟨-, ⟨hp, -⟩ | ⟨-, hp⟩⟩
    · exact hkey
    · exact hd.nonempty p hp
    · have hne := hd.nonempty _ hp
      exact hne

theorem Sound.removePeer (hd : Sound d) : Sound (d.removePeer key) where
  ids := hd.ids
  keys := hd.keys.sublist (List.filter_sublist.map _)
  ips := fun p hp q hq => hd.ips p (mem_removePeer.mp hp).1 q (mem_removePeer.mp hq).1
  nonempty := fun p hp => hd.nonempty p (mem_removePeer.mp hp).1

/-- The same interface over a table with distinct ids. -/
theorem Sound.congr (hd : Sound d) (hids : (d'.routers.map (·.id)).Nodup) (hw : d'.wg0 = d.wg0) :
    Sound d' where
  ids := hids
  keys := hw ▸ hd.keys
  ips := hw ▸ hd.ips
  nonempty := hw ▸ hd.nonempty

theorem Sound.updateRouters (hd : Sound d) {p : RouterRow → Bool} {f : RouterRow → RouterRow}
    (hf : ∀ r, (f r).id = r.id) : Sound (d.updateRouters p f) := by
  refine hd.congr ?_ rfl
  have hids : (d.updateRouters p f).routers.map (·.id) = d.routers.map (·.id) := by
    rw [RouterStore.updateRouters, updateRows, List.map_map]
    apply List.map_congr_left
    intro r _
    dsimp only [Function.comp]
    split
    · exact hf r
    · rfl
  rw [hids]
  exact hd.ids

/-- Every statement keeps the guarantees of the keys and of the interface. -/
theorem Sound.exec (hd : Sound d) (s : RouterStmt) (v : RouterEnv) : Sound (s.exec v d).2 := by
  rcases exec_cases s v d with ⟨a, d', he, hx⟩ | ⟨e, -, hx⟩
  · rw [hx]
    cases s with
    | insert_router row =>
        simp only [RouterStmt.eval, Except.bind_eq_ok, check_eq_ok, pure, Except.pure,
          Except.ok.injEq, Prod.mk.injEq] at he
        obtain ⟨-, hfresh, -, -, -, rfl⟩ := he
        refine hd.congr ?_ rfl
        rw [List.map_append, List.map_singleton, List.nodup_append]
        refine ⟨hd.ids, List.nodup_singleton _, fun id hid id' hid' heq => ?_⟩
        obtain ⟨r, hr, rfl⟩ := List.mem_map.mp hid
        have hne : r.id ≠ v.uuid := by simpa using List.all_eq_true.mp hfresh r hr
        exact hne (heq.trans (List.mem_singleton.mp hid'))
    | wg_set_peer key ip =>
        simp only [RouterStmt.eval, Except.bind_eq_ok, check_eq_ok, bne_iff_ne, pure, Except.pure,
          Except.ok.injEq, Prod.mk.injEq] at he
        obtain ⟨-, hkey, -, -, -, rfl⟩ := he
        exact hd.setPeer hkey
    | wg_remove_peer key =>
        simp only [RouterStmt.eval, Except.bind_eq_ok, pure, Except.pure, Except.ok.injEq,
          Prod.mk.injEq] at he
        obtain ⟨-, -, -, rfl⟩ := he
        exact hd.removePeer
    | set_peer_public_key key id tenant_id =>
        cases he
        exact hd.updateRouters fun _ => rfl
    | confirm_router id tenant_id ip =>
        cases he
        exact hd.updateRouters fun _ => rfl
    | delete_router id tenant_id =>
        cases he
        exact hd.congr (hd.ids.sublist (List.filter_sublist.map _)) rfl
    | insert_setup_token tenant_id router_id token key expires_at =>
        simp only [RouterStmt.eval, Except.bind_eq_ok, pure, Except.pure, Except.ok.injEq,
          Prod.mk.injEq] at he
        obtain ⟨-, -, -, -, -, -, -, rfl⟩ := he
        exact hd.congr hd.ids rfl
    | _ =>
        cases he
        exact hd.congr hd.ids rfl
  · rw [hx]
    exact hd

end Soundness

section Keyless

/-- The statement leaves the keys, the addresses and the interface alone. -/
def LeavesPeers : RouterStmt → Prop
  | .insert_router row => row.wireguard_peer_public_key = none
  | .set_peer_public_key .. => False
  | .delete_router .. => False
  | .wg_set_peer .. => False
  | .wg_remove_peer _ => False
  | _ => True

theorem LeavesPeers.of_reads (s : RouterStmt) (h : Reads s) : LeavesPeers s := by
  cases s with
  | insert_router row => exact h.elim
  | set_peer_public_key => exact h.elim
  | delete_router => exact h.elim
  | wg_set_peer => exact h.elim
  | wg_remove_peer => exact h.elim
  | _ => trivial

/-- Such a statement keeps the mirror. -/
theorem Mirrored.exec {s : RouterStmt} (hs : LeavesPeers s) (h : Mirrored d) (v : RouterEnv) :
    Mirrored (s.exec v d).2 := by
  rcases exec_cases s v d with ⟨a, d', he, hx⟩ | ⟨e, -, hx⟩
  · rw [hx]
    cases s with
    | insert_router row =>
        obtain rfl := eval_insert_router he
        exact mirrored_withRouter h hs
    | set_peer_public_key => exact hs.elim
    | delete_router => exact hs.elim
    | wg_set_peer => exact hs.elim
    | wg_remove_peer => exact hs.elim
    | confirm_router id tenant_id client_ip =>
        cases he
        refine h.congr (fun p => ?_) fun p => Iff.rfl
        simp only [Registered, RouterStore.updateRouters, updateRows, List.mem_map,
          exists_exists_and_eq_and]
        refine exists_congr fun r => and_congr_right fun _ => ?_
        split <;> rfl
    | insert_setup_token tenant_id router_id token key expires_at =>
        simp only [RouterStmt.eval, Except.bind_eq_ok, pure, Except.pure, Except.ok.injEq,
          Prod.mk.injEq] at he
        obtain ⟨-, -, -, -, -, -, -, rfl⟩ := he
        exact h
    | _ =>
        cases he
        exact h
  · rw [hx]
    exact h

theorem onboarding_init_leaves (tenant_id : UUID) (data : OnboardingInitRequest) :
    (onboarding_init tenant_id data).All LeavesPeers := by
  refine (require_new_name_all LeavesPeers.of_reads _ _).bind fun _ => ?_
  refine (assign_peer_ip_allWith LeavesPeers.of_reads).bind fun ip _ => ?_
  refine (get_server_public_key_all LeavesPeers.of_reads).bind fun key => ?_
  exact Prog.All.bind ((Prog.all_exec _).mpr rfl) fun _ => trivial

theorem mirrored_after_init {tenant_id : UUID} {data : OnboardingInitRequest} (h : Mirrored d) :
    Mirrored (after o (.init tenant_id data) d) :=
  Solo.outcome_keeps_all (fun _ hs v _ hd => hd.exec hs v)
    ((onboarding_init_leaves tenant_id data).bind fun _ => trivial) (by simp [Txn.log]) h

end Keyless

section Confirmation

variable {l : RouterLocal}

/-- Restoring the peer of a router of the table. -/
theorem outcome_restore (hl : l.txn = .none) (hd : Sound d) (h : Mirrored d)
    {row : Option RouterRow} (hrow : ∀ r, row = some r → r ∈ d.routers) :
    Mirrored (Solo.outcome routerMachine o.fate (restore_peer row) d l).2.1 := by
  unfold restore_peer
  split
  · next key ip hkey hip =>
      obtain ⟨r, hr, hrkey⟩ := Option.bind_eq_some_iff.mp hkey
      obtain ⟨r', hr', hrip⟩ := Option.bind_eq_some_iff.mp hip
      obtain rfl : r = r' := Option.some.inj (hr.symm.trans hr')
      split
      · exact h
      rw [Solo.outcome_absorb]
      by_cases hsets : Sets o key ip
      · obtain ⟨a, ha, -⟩ := outcome_add_peer (d := d) hl hsets
        rw [ha]
        exact (mirrored_setPeer hd h).mpr ⟨r, hrow r hr, hrkey, hrip⟩
      · obtain ⟨e, he⟩ := outcome_add_peer_error (d := d) hl hsets
        rw [he]
        exact h
  · exact h

/-- The transaction of a confirmation. -/
def confirmation (row : SetupToken) (client_ip : String) : RouterM Unit := do
  run (.consume_setup_token row.id)
  run (.clear_private_key row.id)
  run (.confirm_router row.router_id row.tenant_id client_ip)

theorem confirmation_all {φ : RouterStmt → Prop} {row : SetupToken} {client_ip : String}
    (hconsume : φ (.consume_setup_token row.id)) (hclear : φ (.clear_private_key row.id))
    (hconfirm : φ (.confirm_router row.router_id row.tenant_id client_ip)) :
    (confirmation row client_ip).transaction.All φ :=
  Prog.All.transaction (Prog.All.bind ((Prog.all_exec _).mpr hconsume) fun _ =>
    Prog.All.bind ((Prog.all_exec _).mpr hclear) fun _ => (Prog.all_exec _).mpr hconfirm)

theorem mirrored_after_confirm {token client_ip : String} (hd : Sound d) (h : Mirrored d) :
    Mirrored (after o (.confirm token client_ip) d) := by
  rw [after, RouterSpawn.program, forEffect, Solo.outcome_map_store, confirm_setup]
  split
  · exact h
  by_cases hselect : o.Takes .select_setup_token
  · obtain ⟨v, hv⟩ := Course.takes_iff.mp hselect
    rw [outcome_take (s := .select_setup_token token) rfl hv rfl]
    split
    · exact h
    · next row hrow =>
        have hall : (confirmation row client_ip).transaction.All LeavesPeers :=
          confirmation_all trivial trivial trivial
        have hmirror : Mirrored (Solo.outcome routerMachine o.fate
            (confirmation row client_ip).transaction d {}).2.1 :=
          Solo.outcome_keeps_all (fun s hs v d hd => hd.exec hs v) hall (by simp [Txn.log]) h
        have hsound : Sound (Solo.outcome routerMachine o.fate
            (confirmation row client_ip).transaction d {}).2.1 :=
          Solo.outcome_keeps_all (fun s _ v d hd => hd.exec s v) hall (by simp [Txn.log]) hd
        have hclosed : (Solo.outcome routerMachine o.fate
            (confirmation row client_ip).transaction d {}).2.2.txn = .none :=
          Solo.outcome_transaction_txn
        obtain ⟨⟨a, d₁, l₁⟩, hout⟩ : ∃ x, Solo.outcome routerMachine o.fate
          (confirmation row client_ip).transaction d {} = x := ⟨_, rfl⟩
        rw [hout] at hmirror hsound hclosed
        rw [confirmation] at hout
        cases a with
        | error e =>
            rw [Solo.outcome_bind_error hout]
            exact hmirror
        | ok u =>
            rw [Solo.outcome_bind_ok hout]
            by_cases hpeer : o.Takes .select_router_peer
            · obtain ⟨v, hv⟩ := Course.takes_iff.mp hpeer
              rw [outcome_take (s := .select_router_peer row.router_id) hclosed hv rfl,
                Solo.outcome_map_store]
              exact outcome_restore hclosed hsound hmirror fun r hr => (fetchrow_eq_some hr).1
            · rw [outcome_fail_store (s := .select_router_peer row.router_id) hclosed hpeer]
              exact hmirror
  · rw [outcome_fail_store (s := .select_setup_token token) rfl hselect]
    exact h

end Confirmation

section Magic

variable {tenant_id : UUID} {name : String} {l : RouterLocal}

variable (o d tenant_id name) in
theorem outcome_require (hl : l.txn = .none) :
    (o.Takes .select_router_named ∧ (∀ r ∈ d.routers, ¬ (r.tenant_id = tenant_id ∧ r.name = name)) ∧
      Solo.outcome routerMachine o.fate (require_new_name tenant_id name) d l = (.ok (), d, l)) ∨
    (¬ (o.Takes .select_router_named ∧
        ∀ r ∈ d.routers, ¬ (r.tenant_id = tenant_id ∧ r.name = name)) ∧
      ∃ e, Solo.outcome routerMachine o.fate (require_new_name tenant_id name) d l =
        (.error e, d, l)) := by
  by_cases hselect : o.Takes .select_router_named
  · obtain ⟨v, hv⟩ := Course.takes_iff.mp hselect
    rw [require_new_name, outcome_take (s := .select_router_named tenant_id name) hl hv rfl]
    cases hfound : fetchrow v.pick (fun r => r.tenant_id == tenant_id && r.name == name)
        d.routers with
    | none =>
        refine .inl ⟨hselect, fun r hr hrow => ?_, rfl⟩
        exact absurd (fetchrow_eq_none.mp hfound r hr) (by simp [hrow.1, hrow.2])
    | some r =>
        obtain ⟨hr, hrow⟩ := fetchrow_eq_some hfound
        exact .inr ⟨fun h => h.2 r hr (by simpa using hrow), _, rfl⟩
  · obtain ⟨e, hx⟩ := direct_fail (s := .select_router_named tenant_id name) (d := d) hselect
    exact .inr ⟨fun h => hselect h.1, e, Solo.outcome_exec_bind_error hl hx⟩

theorem outcome_assign (hl : l.txn = .none) :
    (o.Takes .select_assigned_ips ∧ ¬ Exhausted d ∧ ∃ i,
      Solo.outcome routerMachine o.fate assign_peer_ip d l = (.ok (address i), d, l) ∧
      ∀ r ∈ d.routers, r.wireguard_assigned_ip ≠ some (address i)) ∨
    (¬ (o.Takes .select_assigned_ips ∧ ¬ Exhausted d) ∧
      ∃ e, Solo.outcome routerMachine o.fate assign_peer_ip d l = (.error e, d, l)) := by
  by_cases hselect : o.Takes .select_assigned_ips
  · obtain ⟨v, hv⟩ := Course.takes_iff.mp hselect
    rw [assign_peer_ip, outcome_take (s := .select_assigned_ips) hl hv rfl]
    split
    · next ip hfind =>
        obtain ⟨i, hi, rfl⟩ := List.mem_map.mp (List.mem_of_find?_eq_some hfind)
        have hfree : ∀ r ∈ d.routers, r.wireguard_assigned_ip ≠ some (address i) := by
          simpa using List.find?_some hfind
        refine .inl ⟨hselect, fun hall => ?_, i, rfl, hfree⟩
        obtain ⟨r, hr, hip⟩ := hall i (mem_hosts.mp hi).1 (mem_hosts.mp hi).2
        exact hfree r hr hip
    · next hnone =>
        refine .inr ⟨fun h => h.2 fun i h₁ h₂ => ?_, _, rfl⟩
        have hused := List.find?_eq_none.mp hnone _ (List.mem_map_of_mem (mem_hosts.mpr ⟨h₁, h₂⟩))
        simpa using hused
  · obtain ⟨e, hx⟩ := direct_fail (s := .select_assigned_ips) (d := d) hselect
    exact .inr ⟨fun h => hselect h.1, e, Solo.outcome_exec_bind_error hl hx⟩

theorem outcome_server_key (hl : l.txn = .none) :
    ∃ k, Solo.outcome routerMachine o.fate get_server_public_key d l = (.ok k, d, l) := by
  rw [get_server_public_key, Prog.tryCatch, Solo.outcome_handle]
  by_cases hshow : o.Takes .wg_show_public_key
  · obtain ⟨v, hv⟩ := Course.takes_iff.mp hshow
    rw [Solo.outcome_exec hl (direct_run (s := .wg_show_public_key) hv rfl)]
    exact ⟨v.text, rfl⟩
  · obtain ⟨e, hx⟩ := direct_fail (s := .wg_show_public_key) (d := d) hshow
    rw [Solo.outcome_exec hl hx]
    dsimp only
    rw [Prog.tryCatch, Solo.outcome_handle]
    by_cases hconf : o.Takes .wg_conf_public_key
    · obtain ⟨v, hv⟩ := Course.takes_iff.mp hconf
      rw [Solo.outcome_exec hl (direct_run (s := .wg_conf_public_key) hv rfl)]
      exact ⟨v.text, rfl⟩
    · obtain ⟨e, hx⟩ := direct_fail (s := .wg_conf_public_key) (d := d) hconf
      rw [Solo.outcome_exec hl hx]
      exact ⟨_, rfl⟩

theorem address_ne (i : ℕ) : address i ≠ "None" := by
  intro h
  have hhead := congrArg (fun s => s.toList.head?) h
  simp [address] at hhead

/-- The rest of the request once the router is in the table. -/
def equip (tenant_id router_id : UUID) (setup_token wg_private_key wg_public_key assigned_ip : String)
    (is_chr : Bool) : RouterM MagicInitResponse := do
  let now ← run .utc_now
  run (.insert_setup_token tenant_id router_id setup_token wg_private_key (now + 24 * hour))
  pre_register is_chr wg_public_key assigned_ip
  return { router_id, setup_token, expires_at := now + 24 * hour, is_chr }

variable {row : RouterRow} {setup_token wg_private_key : String} {tokens : List SetupToken}

variable (tenant_id row wg_private_key) in
theorem exec_insert_setup_token {v : RouterEnv} (expires_at : Timestamptz)
    (hfresh : ∀ t ∈ d.setup_tokens, t.id ≠ v.uuid ∧ t.token ≠ setup_token) :
    ∃ t : SetupToken, t.router_id = row.id ∧ t.token = setup_token ∧
      t.router_wg_private_key = some wg_private_key ∧ t.used_at = none ∧
      (RouterStmt.insert_setup_token tenant_id row.id setup_token wg_private_key expires_at).eval v
        (withRouter d row d.setup_tokens) =
          .ok ((), withRouter d row (d.setup_tokens ++ [t])) := by
  have hids : (d.setup_tokens.all fun t => t.id != v.uuid) = true := by
    simpa using fun t ht => (hfresh t ht).1
  have htokens : (d.setup_tokens.all fun t => t.token != setup_token) = true := by
    simpa using fun t ht => (hfresh t ht).2
  refine ⟨{
    id := v.uuid, tenant_id, router_id := row.id, token := setup_token, expires_at
    router_wg_private_key := some wg_private_key, api_password := v.text }, rfl, rfl, rfl, rfl, ?_⟩
  simp [RouterStmt.eval, withRouter, check, hids, htokens, bind, Except.bind, pure, Except.pure]

variable (tenant_id row wg_private_key) in
theorem exec_insert_setup_token_error {v : RouterEnv} (expires_at : Timestamptz)
    (hfresh : ¬ ∀ t ∈ d.setup_tokens, t.id ≠ v.uuid ∧ t.token ≠ setup_token) :
    ∃ e, (RouterStmt.insert_setup_token tenant_id row.id setup_token wg_private_key
      expires_at).eval v (withRouter d row d.setup_tokens) = .error e := by
  cases he : (RouterStmt.insert_setup_token tenant_id row.id setup_token wg_private_key
      expires_at).eval v (withRouter d row d.setup_tokens) with
  | error e => exact ⟨e, rfl⟩
  | ok x =>
      simp only [RouterStmt.eval, Except.bind_eq_ok, check_eq_ok, withRouter] at he
      obtain ⟨-, hids, -, htokens, -⟩ := he
      refine absurd (fun t ht => ⟨?_, ?_⟩) hfresh
      · simpa using List.all_eq_true.mp hids t ht
      · simpa using List.all_eq_true.mp htokens t ht

/-- A router with a key is equipped exactly when its peer follows. -/
theorem mirrored_equip {i : ℕ} {v v' : RouterEnv} (hl : l.txn = .none) (h : Mirrored d)
    (htoken : o .setup_token = .run v) (hkeypair : o .wg_keypair = .run v')
    (hkey : row.wireguard_peer_public_key = some v'.keypair.2)
    (hip : row.wireguard_assigned_ip = some (address i))
    (hfree : ∀ r ∈ d.routers, r.wireguard_assigned_ip ≠ some (address i)) :
    Mirrored (Solo.outcome routerMachine o.fate (equip tenant_id row.id v.text wg_private_key
      v'.keypair.2 (address i) false) (withRouter d row d.setup_tokens) l).2.1 ↔ Follows o d := by
  have hmissing (tokens : List SetupToken) : ¬ Mirrored (withRouter d row tokens) :=
    not_mirrored_withRouter hkey hip hfree h
  rw [equip]
  by_cases hclock : o.Takes .utc_now
  · obtain ⟨v₁, hv₁⟩ := Course.takes_iff.mp hclock
    rw [outcome_take (s := .utc_now) hl hv₁ rfl]
    by_cases hinsert : o.Takes .insert_setup_token
    · obtain ⟨v₂, hv₂⟩ := Course.takes_iff.mp hinsert
      by_cases hfresh : ∀ t ∈ d.setup_tokens, t.id ≠ v₂.uuid ∧ t.token ≠ v.text
      · obtain ⟨t, -, -, -, -, he⟩ := exec_insert_setup_token tenant_id row wg_private_key
          (v₁.now + 24 * hour) hfresh
        rw [outcome_take (s := .insert_setup_token ..) hl hv₂ he, Solo.outcome_map_store,
          pre_register]
        by_cases hsets : Sets o v'.keypair.2 (address i)
        · obtain ⟨a, ha, -⟩ := outcome_add_peer (d := withRouter d row (d.setup_tokens ++ [t])) hl hsets
          rw [if_neg Bool.false_ne_true, ha]
          refine (mirrored_withRouter_setPeer hkey hip hfree h).trans ⟨fun hnew => ?_, fun hf => ?_⟩
          · exact ⟨hclock, ⟨v₂, v, hv₂, htoken, hfresh⟩, hsets.1, v', hkeypair, hsets.2.1, hnew⟩
          · obtain ⟨w, hw, -, hnew⟩ := hf.key
            rw [hkeypair] at hw
            cases hw
            exact hnew
        · obtain ⟨e, he⟩ := outcome_add_peer_error (d := withRouter d row (d.setup_tokens ++ [t])) hl hsets
          rw [if_neg Bool.false_ne_true, he]
          refine iff_of_false (hmissing _) fun hf => hsets ⟨hf.peer, ?_, address_ne i⟩
          obtain ⟨w, hw, hne, -⟩ := hf.key
          rw [hkeypair] at hw
          cases hw
          exact hne
      · obtain ⟨e, he⟩ := exec_insert_setup_token_error tenant_id row wg_private_key
          (v₁.now + 24 * hour) hfresh
        rw [outcome_refuse (s := .insert_setup_token ..) hl hv₂ he]
        refine iff_of_false (hmissing _) fun hf => hfresh ?_
        obtain ⟨w, w', hw, hw', hnew⟩ := hf.token
        rw [hv₂] at hw
        rw [htoken] at hw'
        cases hw
        cases hw'
        exact hnew
    · rw [outcome_fail_store (s := .insert_setup_token ..) hl hinsert]
      refine iff_of_false (hmissing _) fun hf => hinsert ?_
      obtain ⟨w, w', hw, -⟩ := hf.token
      exact Course.takes_iff.mpr ⟨w, hw⟩
  · rw [outcome_fail_store (s := .utc_now) hl hclock]
    exact iff_of_false (hmissing _) fun hf => hclock hf.clock

/-- The row is that of a new router which waits for its setup. -/
structure Pending (tenant_id : UUID) (data : MagicInitRequest) (row : RouterRow) : Prop where
  tenant : row.tenant_id = tenant_id
  name : row.name = data.name
  site : row.site_name = data.site_name
  status : row.status = .pending_setup
  host : row.host = row.wireguard_assigned_ip

variable (o d tenant_id) in
/-- Either the request ends without a router, or it goes on with the new one. -/
theorem outcome_magic (data : MagicInitRequest) (hl : l.txn = .none) :
    (¬ Inserts o tenant_id data.name d ∧
      ∃ e, Solo.outcome routerMachine o.fate (onboarding_init_magic tenant_id data) d l =
        (.error e, d, l)) ∨
    ∃ (row : RouterRow) (i : ℕ) (v v' : RouterEnv), Inserts o tenant_id data.name d ∧
      o .setup_token = .run v ∧ o .wg_keypair = .run v' ∧ Pending tenant_id data row ∧
      row.wireguard_peer_public_key = (if data.is_chr then none else some v'.keypair.2) ∧
      row.wireguard_assigned_ip = some (address i) ∧
      (∀ r ∈ d.routers, r.wireguard_assigned_ip ≠ some (address i)) ∧
      Solo.outcome routerMachine o.fate (onboarding_init_magic tenant_id data) d l =
        Solo.outcome routerMachine o.fate (equip tenant_id row.id v.text v'.keypair.1 v'.keypair.2
          (address i) data.is_chr) (withRouter d row d.setup_tokens) l := by
  rw [onboarding_init_magic]
  rcases outcome_require o d tenant_id data.name hl with
    ⟨hnamed, hnew, hx⟩ | ⟨hnot, e, hx⟩
  swap
  · exact .inl ⟨fun h => hnot ⟨h.selects.1, h.name⟩, e, Solo.outcome_bind_error hx⟩
  rw [Solo.outcome_bind_ok hx]
  rcases outcome_assign (o := o) (d := d) hl with ⟨hips, hexhausted, i, hx, hfree⟩ | ⟨hnot, e, hx⟩
  swap
  · exact .inl ⟨fun h => hnot ⟨h.selects.2, h.free⟩, e, Solo.outcome_bind_error hx⟩
  rw [Solo.outcome_bind_ok hx]
  by_cases hkeypair : o.Takes .wg_keypair
  swap
  · exact .inl ⟨fun h => hkeypair h.draws.1, outcome_fail (s := .wg_keypair) hl hkeypair⟩
  obtain ⟨v', hv'⟩ := Course.takes_iff.mp hkeypair
  rw [outcome_take (s := .wg_keypair) hl hv' rfl]
  by_cases hpassword : o.Takes .api_password
  swap
  · exact .inl ⟨fun h => hpassword h.draws.2.1, outcome_fail (s := .api_password) hl hpassword⟩
  obtain ⟨v₁, hv₁⟩ := Course.takes_iff.mp hpassword
  dsimp only
  rw [outcome_take (s := .api_password) hl hv₁ rfl]
  by_cases htoken : o.Takes .setup_token
  swap
  · exact .inl ⟨fun h => htoken h.draws.2.2, outcome_fail (s := .setup_token) hl htoken⟩
  obtain ⟨v, hv⟩ := Course.takes_iff.mp htoken
  rw [outcome_take (s := .setup_token) hl hv rfl]
  obtain ⟨server_key, hx⟩ := outcome_server_key (o := o) (d := d) hl
  rw [Solo.outcome_bind_ok hx]
  by_cases hinsert : ∃ v₂, o .insert_router = .run v₂ ∧ ∀ r ∈ d.routers, r.id ≠ v₂.uuid
  · obtain ⟨v₂, hv₂, hfresh⟩ := hinsert
    let row : RouterRow := {
      id := v₂.uuid, tenant_id, name := data.name, site_name := data.site_name
      status := .pending_setup, host := some (address i)
      wireguard_assigned_ip := some (address i), wireguard_public_key := some server_key
      wireguard_peer_public_key := if data.is_chr then none else some v'.keypair.2 }
    have he : (RouterStmt.insert_router { row with id := 0 }).eval v₂ d =
        .ok (v₂.uuid, withRouter d row d.setup_tokens) := by
      have hids : (d.routers.all fun r => r.id != v₂.uuid) = true := by simpa using hfresh
      have hnames : (d.routers.all fun r => !(r.tenant_id == tenant_id && r.name == data.name)) =
          true := by simpa [imp_iff_not_or] using hnew
      simp only [RouterStmt.eval, check, hids, hnames, row, if_true]
      rfl
    refine .inr ⟨row, i, v, v', ⟨⟨hnamed, hips⟩, hnew, hexhausted, ⟨hkeypair, hpassword, htoken⟩,
      v₂, hv₂, hfresh⟩, hv, hv', ⟨rfl, rfl, rfl, rfl, rfl⟩, rfl, rfl, hfree, ?_⟩
    exact outcome_take (s := .insert_router { row with id := 0 }) hl hv₂ he
  · refine .inl ⟨fun h => hinsert h.insert, ?_⟩
    cases hc : o .insert_router with
    | fail e =>
        refine outcome_fail (s := .insert_router _) hl fun h => ?_
        obtain ⟨v₂, hv₂⟩ := Course.takes_iff.mp h
        rw [show stepOf (.insert_router _) = .insert_router from rfl, hc] at hv₂
        cases hv₂
    | run v₂ =>
        have hids : (d.routers.all fun r => r.id != v₂.uuid) = false := by
          by_contra hids
          exact hinsert ⟨v₂, hc, by simpa using hids⟩
        refine ⟨_, outcome_refuse (s := .insert_router _) (e := .uniqueViolation .primary_key) hl hc
          ?_⟩
        simp only [RouterStmt.eval, check, hids]
        rfl

theorem mirrored_after_magic {data : MagicInitRequest} (h : Mirrored d) :
    Mirrored (after o (.init_magic tenant_id data) d) ↔ Meets o d (.init_magic tenant_id data) := by
  rw [after, RouterSpawn.program, forEffect, Solo.outcome_map_store]
  rcases outcome_magic o d tenant_id data (l := {}) rfl with
    ⟨hnot, e, hx⟩ | ⟨row, i, v, v', hinserts, hv, hv', -, hkey, hip, hfree, hx⟩
  · rw [hx]
    exact iff_of_true h (.inr fun hinserts => absurd hinserts hnot)
  · rw [hx]
    cases hchr : data.is_chr with
    | true =>
        rw [hchr] at hkey
        refine iff_of_true ?_ (.inl hchr)
        refine Solo.outcome_keeps_all (φ := LeavesPeers) (fun s hs v d hd => hd.exec hs v) ?_
          (by simp [Txn.log]) (mirrored_withRouter h hkey)
        exact Prog.All.bind ((Prog.all_exec _).mpr trivial) fun _ =>
          Prog.All.bind ((Prog.all_exec _).mpr trivial) fun _ => trivial
    | false =>
        rw [hchr] at hkey
        refine (mirrored_equip rfl h hv hv' hkey hip hfree).trans ?_
        simp [Meets, hchr, hinserts]

end Magic

/-- A request keeps the mirror exactly when it meets its condition. -/
theorem mirrored_after (o : Course) (w : RouterSpawn) (hd : Sound d) (h : Mirrored d) :
    Mirrored (after o w d) ↔ Meets o d w := by
  cases w with
  | init tenant_id data => exact iff_of_true (mirrored_after_init h) trivial
  | init_magic tenant_id data => exact mirrored_after_magic h
  | register_peer tenant_id data => exact mirrored_after_register hd h
  | confirm token client_ip => exact iff_of_true (mirrored_after_confirm hd h) trivial
  | delete tenant_id router_id => exact mirrored_after_delete hd h

theorem sound_after (o : Course) (w : RouterSpawn) (hd : Sound d) : Sound (after o w d) :=
  Solo.outcome_keeps_all (fun s _ v _ hd => hd.exec s v) (Prog.all_true _) (by simp [Txn.log]) hd

/-- The stores after each of the requests. -/
def stores (d : RouterStore) : List (Course × RouterSpawn) → List RouterStore
  | [] => []
  | (o, w) :: rest => after o w d :: stores (after o w d) rest

/-- Each request meets its condition in the store it finds. -/
def MeetsAll (d : RouterStore) : List (Course × RouterSpawn) → Prop
  | [] => True
  | (o, w) :: rest => Meets o d w ∧ MeetsAll (after o w d) rest

/-- The mirror holds after every request exactly when each of them meets its condition. -/
theorem peers_mirror_routers (d : RouterStore) (requests : List (Course × RouterSpawn))
    (hd : Sound d) (h : Mirrored d) :
    (∀ d' ∈ stores d requests, Mirrored d') ↔ MeetsAll d requests := by
  induction requests generalizing d with
  | nil => simp [stores, MeetsAll]
  | cons request rest ih =>
      obtain ⟨o, w⟩ := request
      rw [stores, MeetsAll, List.forall_mem_cons, mirrored_after o w hd h]
      refine and_congr_right fun hmeets => ih _ (sound_after o w hd) ?_
      exact (mirrored_after o w hd h).mpr hmeets

/-- Nothing fails, and the environment answers alike at every step. -/
def calm (v : RouterEnv) : Course := fun _ => .run v

theorem sound_empty : Sound {} where
  ids := List.nodup_nil
  keys := List.nodup_nil
  ips := fun p hp => by cases hp
  nonempty := fun p hp => by cases hp

theorem mirrored_empty : Mirrored {} := by
  intro p
  simp [Registered]

/-- A router that is set up by one command and then deleted. -/
theorem peers_mirror_one_router : (stores {}
    [(calm { uuid := 7, text := "token", keypair := ("private", "public") },
        .init_magic 1 { name := "Main Office", site_name := "Nairobi", is_chr := false }),
      (calm {}, .delete 1 7)]).Forall Mirrored := by
  rw [List.forall_iff_forall_mem]
  apply (peers_mirror_routers _ _ sound_empty mirrored_empty).mpr
  refine ⟨.inr fun _ => ⟨rfl, ⟨_, _, rfl, rfl, by simp⟩, rfl, _, rfl, by decide, by simp⟩, ?_, trivial⟩
  intro r _ _ _ key _ _
  rw [Drops, if_pos (show (calm {}).Takes .wg_remove_peer from rfl)]
  refine ⟨rfl, ?_⟩
  rintro ⟨r', hr', hne, -⟩
  have hids : ∀ r ∈ (after (calm { uuid := 7, text := "token", keypair := ("private", "public") })
      (.init_magic 1 { name := "Main Office", site_name := "Nairobi", is_chr := false })
      {}).routers, r.id = 7 := by decide +kernel
  exact hne (hids r' hr')

/-- A key that is replaced stays on the interface. -/
theorem not_peers_mirror_routers : ¬ ∀ (d : RouterStore) (requests : List (Course × RouterSpawn)),
    Sound d → Mirrored d → ∀ d' ∈ stores d requests, Mirrored d' := by
  intro h
  obtain ⟨d', hd', hpeer, hkeys⟩ : ∃ d' ∈ stores {}
      [(calm { uuid := 7 }, .init 1 { name := "Main Office", site_name := "Nairobi" }),
        (calm {}, .register_peer 1 { router_id := 7, peer_public_key := "first" }),
        (calm {}, .register_peer 1 { router_id := 7, peer_public_key := "second" })],
      { public_key := "first", allowed_ip := none } ∈ d'.wg0 ∧
        ∀ r ∈ d'.routers, r.wireguard_peer_public_key ≠ some "first" := by decide +kernel
  obtain ⟨r, hr, hkey, -⟩ := (h {} _ sound_empty mirrored_empty d' hd' _).mp hpeer
  exact hkeys r hr hkey

end Routers

end FrixelConnect
