import FrixelConnect.RouterFleet

/-!
# The routers of one tenant and the requests of the others

Two writes of the fleet name a router without its tenant: the end of a provisioning, and the
monitor, whose list of routers may be old. Two more name a setup token by its id only. In every run
without a request of the tenant's own administrators, and in which none of its setup tokens is
confirmed, its routers and tokens still stay as they are, except that the monitor sets those that
it watches online and offline. A router that is being set up does not even change its status.
-/

namespace FrixelConnect

open Calendar Interleaving Python

namespace RouterFleet

open Routers

/-- The rows of a tenant. -/
def routersOf (d : RouterStore) (tenant_id : UUID) : List RouterRow :=
  d.routers.filter fun r => r.tenant_id == tenant_id

def tokensOf (d : RouterStore) (tenant_id : UUID) : List SetupToken :=
  d.setup_tokens.filter fun t => t.tenant_id == tenant_id

/-- The monitor may have set the status of a router that it watches. -/
def Watched (r r' : RouterRow) : Prop :=
  r' = r ∨ monitored r = true ∧ ∃ status, (status = .online ∨ status = .offline) ∧
    r' = { r with status }

/-- The keys of the tables, and the setup tokens of the tenant, which are for its routers. -/
structure Keyed (tenant_id : UUID) (d : RouterStore) : Prop where
  ids : (d.routers.map (·.id)).Nodup
  token_ids : (d.setup_tokens.map (·.id)).Nodup
  owned : ∀ t ∈ tokensOf d tenant_id, ∃ r ∈ routersOf d tenant_id, r.id = t.router_id

/-- The request is not from an administrator of the tenant, and confirms none of its tokens. -/
def Foreign (tenant_id : UUID) (d : RouterStore) : FleetCall → Prop
  | .onboard (.init other _) => other ≠ tenant_id
  | .onboard (.init_magic other _) => other ≠ tenant_id
  | .onboard (.register_peer other _) => other ≠ tenant_id
  | .onboard (.confirm token _) => ∀ t ∈ tokensOf d tenant_id, t.token ≠ token
  | .onboard (.delete other _) => other ≠ tenant_id
  | .download _ _ => True
  | .create other _ => other ≠ tenant_id
  | .update other _ _ => other ≠ tenant_id
  | .save_credentials other _ => other ≠ tenant_id
  | .complete other _ => other ≠ tenant_id
  | .provision other _ _ => other ≠ tenant_id
  | .heartbeat _ => True

/-- Runs of such requests and of monitors, in any interleaving and with any failures. -/
def foreign (tenant_id : UUID) : FleetRules where
  spawn w d := Foreign tenant_id d w

section Fence

variable (tenant_id : UUID) (d₀ : RouterStore)

/-- No token of the tenant has the id. -/
def NoToken (id : UUID) : Prop := ∀ t ∈ tokensOf d₀ tenant_id, t.id ≠ id

/-- The monitor may set the status of the router. -/
def Settable (id : UUID) : Prop := ∀ r ∈ routersOf d₀ tenant_id, r.id = id → monitored r = true

def OutsideRouter : RouterStmt → Prop
  | .insert_router row => row.tenant_id ≠ tenant_id
  | .set_peer_public_key _ _ other => other ≠ tenant_id
  | .confirm_router _ other _ => other ≠ tenant_id
  | .delete_router _ other => other ≠ tenant_id
  | .insert_setup_token other .. => other ≠ tenant_id
  | .consume_setup_token id => NoToken tenant_id d₀ id
  | .clear_private_key id => NoToken tenant_id d₀ id
  | _ => True

/-- The statement does not write the rows of the tenant, except as the monitor may. -/
def Outside : FleetStmt → Prop
  | .router s => OutsideRouter tenant_id d₀ s
  | .provision (.set_online id) => ∀ r ∈ routersOf d₀ tenant_id, r.id ≠ id
  | .update_router _ other _ => other ≠ tenant_id
  | .save_credentials _ _ _ _ _ other => other ≠ tenant_id
  | .complete_onboarding _ other => other ≠ tenant_id
  | .set_online id => Settable tenant_id d₀ id
  | .set_offline id => Settable tenant_id d₀ id
  | _ => True

/-- What the answer of a statement tells about the rows of the tenant. -/
def Tells : (s : FleetStmt) → s.Res → Prop
  | .router (.select_setup_token token), row => ∀ t, row = some t →
      (∀ t' ∈ tokensOf d₀ tenant_id, t'.token ≠ token) →
        t.tenant_id ≠ tenant_id ∧ NoToken tenant_id d₀ t.id
  | .provision (.select_router id other), row => row.isSome → other ≠ tenant_id →
      ∀ r ∈ routersOf d₀ tenant_id, r.id ≠ id
  | .select_monitored, rows => ∀ row ∈ rows, Settable tenant_id d₀ row.id
  | _, _ => True

/-- The rows of the tenant are those of `d₀`, up to what the monitor does. -/
structure Kept (d : RouterStore) : Prop where
  ids : (d.routers.map (·.id)).Nodup
  token_ids : (d.setup_tokens.map (·.id)).Nodup
  routers : List.Forall₂ Watched (routersOf d₀ tenant_id) (routersOf d tenant_id)
  tokens : tokensOf d tenant_id = tokensOf d₀ tenant_id

end Fence

variable {tenant_id : UUID} {d₀ d d' : RouterStore} {r r' : RouterRow} {router_id : UUID}

theorem Watched.refl (r : RouterRow) : Watched r r := .inl rfl

theorem Watched.id (h : Watched r r') : r'.id = r.id := by
  rcases h with rfl | ⟨-, status, -, rfl⟩ <;> rfl

theorem Watched.monitored (h : Watched r r') (hr' : monitored r' = true) : monitored r = true := by
  rcases h with rfl | ⟨hr, -⟩
  · exact hr'
  · exact hr

/-- The monitor sets the status once more. -/
theorem Watched.set (h : Watched r r') (hr : RouterFleet.monitored r = true)
    {status : RouterStatus} (hs : status = .online ∨ status = .offline) :
    Watched r { r' with status } := by
  refine .inr ⟨hr, status, hs, ?_⟩
  rcases h with rfl | ⟨-, status, -, rfl⟩ <;> rfl

/-- What is related to a row of the first list. -/
theorem exists_related {α β : Type} {R : α → β → Prop} {l : List α} {l' : List β}
    (h : List.Forall₂ R l l') {x : α} (hx : x ∈ l) : ∃ y ∈ l', R x y := by
  induction h with
  | nil => cases hx
  | @cons a b l l' hab _ ih =>
      rcases List.mem_cons.mp hx with rfl | hx
      · exact ⟨b, List.mem_cons_self, hab⟩
      · obtain ⟨y, hy, hxy⟩ := ih hx
        exact ⟨y, List.mem_cons_of_mem _ hy, hxy⟩

/-- The rows of the second list change. -/
theorem related_map {α β : Type} {R : α → β → Prop} {l : List α} {l' : List β} {g : β → β}
    (h : List.Forall₂ R l l') (hg : ∀ x ∈ l, ∀ y ∈ l', R x y → R x (g y)) :
    List.Forall₂ R l (l'.map g) := by
  induction h with
  | nil => exact .nil
  | @cons a b l l' hab _ ih =>
      refine .cons (hg a List.mem_cons_self b List.mem_cons_self hab) (ih fun x hx y hy => ?_)
      exact hg x (List.mem_cons_of_mem _ hx) y (List.mem_cons_of_mem _ hy)

/-- A new row that is not asked for. -/
theorem filter_concat {α : Type} {p : α → Bool} {rows : List α} {x : α} (hx : p x = false) :
    (rows ++ [x]).filter p = rows.filter p := by
  rw [List.filter_append, List.filter_cons_of_neg (by simp [hx]), List.filter_nil, List.append_nil]

theorem mem_routersOf : r ∈ routersOf d tenant_id ↔ r ∈ d.routers ∧ r.tenant_id = tenant_id := by
  simp [routersOf]

/-- An update that keeps the tenants touches the rows of a tenant one by one. -/
theorem routersOf_update {p : RouterRow → Bool} {f : RouterRow → RouterRow}
    (hf : ∀ r, (f r).tenant_id = r.tenant_id) : routersOf (d.updateRouters p f) tenant_id =
      (routersOf d tenant_id).map fun r => if p r then f r else r := by
  rw [routersOf, RouterStore.updateRouters, updateRows, List.filter_map, routersOf]
  congr 2
  funext r
  dsimp only [Function.comp]
  split
  · rw [hf]
  · rfl

namespace Kept

section Rows

variable (h : Kept tenant_id d₀ d)
include h

/-- Every router of the tenant is still there. -/
theorem row (hr : r ∈ routersOf d₀ tenant_id) :
    ∃ r' ∈ d.routers, r'.tenant_id = tenant_id ∧ Watched r r' := by
  obtain ⟨r', hr', hw⟩ := exists_related h.routers hr
  exact ⟨r', (mem_routersOf.mp hr').1, (mem_routersOf.mp hr').2, hw⟩

/-- The id of a router of another tenant. -/
theorem id_ne (hr' : r' ∈ d.routers) (htenant : r'.tenant_id ≠ tenant_id)
    (hr : r ∈ routersOf d₀ tenant_id) : r.id ≠ r'.id := by
  intro hid
  obtain ⟨x, hx, hxtenant, hw⟩ := h.row hr
  obtain rfl := List.inj_on_of_nodup_map h.ids hx hr' (hw.id.trans hid)
  exact htenant hxtenant

theorem token_ne {t : SetupToken} (ht : t ∈ d.setup_tokens) (htenant : t.tenant_id ≠ tenant_id) :
    NoToken tenant_id d₀ t.id := by
  intro t' ht' hid
  rw [← h.tokens] at ht'
  obtain ⟨hmem, htenant'⟩ := List.mem_filter.mp ht'
  obtain rfl := List.inj_on_of_nodup_map h.token_ids hmem ht hid
  exact htenant (by simpa using htenant')

/-- The monitor fetches only routers that it may set. -/
theorem settable (hr' : r' ∈ d.routers) (hmonitored : RouterFleet.monitored r' = true) :
    Settable tenant_id d₀ r'.id := by
  intro r hr hid
  obtain ⟨x, hx, -, hw⟩ := h.row hr
  obtain rfl := List.inj_on_of_nodup_map h.ids hx hr' (hw.id.trans hid)
  exact hw.monitored hmonitored

/-! ## What the statements keep -/

/-- An update of routers. -/
theorem updateRouters {p : RouterRow → Bool} {f : RouterRow → RouterRow}
    (hf : ∀ r, (f r).id = r.id ∧ (f r).tenant_id = r.tenant_id)
    (hp : ∀ r ∈ routersOf d₀ tenant_id, ∀ r' ∈ d.routers, r'.tenant_id = tenant_id → Watched r r' →
      p r' = true → Watched r (f r')) : Kept tenant_id d₀ (d.updateRouters p f) where
  ids := nodup_updateRows _ (fun r => (hf r).1) h.ids
  token_ids := h.token_ids
  routers := by
    rw [routersOf_update fun r => (hf r).2]
    refine related_map h.routers fun r hr r' hr' hw => ?_
    obtain ⟨hmem, htenant⟩ := mem_routersOf.mp hr'
    split
    · next hpr => exact hp r hr r' hmem htenant hw hpr
    · exact hw
  tokens := h.tokens

/-- An update of the routers of another tenant. -/
theorem updateOther {other : UUID} {p : RouterRow → Bool} {f : RouterRow → RouterRow}
    (hother : other ≠ tenant_id) (hp : ∀ r, p r = true → r.tenant_id = other)
    (hf : ∀ r, (f r).id = r.id ∧ (f r).tenant_id = r.tenant_id) :
    Kept tenant_id d₀ (d.updateRouters p f) :=
  h.updateRouters hf fun _ _ r' _ htenant _ hpr => absurd ((hp r' hpr).symm.trans htenant) hother

/-- The status that the monitor sets. -/
theorem setStatus {status : RouterStatus} (hid : Settable tenant_id d₀ router_id)
    (hs : status = .online ∨ status = .offline) :
    Kept tenant_id d₀ (RouterFleet.setStatus d router_id status) := by
  refine h.updateRouters (fun _ => ⟨rfl, rfl⟩) fun r hr r' _ _ hw hpr => ?_
  exact hw.set (hid r hr (hw.id.symm.trans (by simpa using hpr))) hs

/-- An update of a setup token of another tenant. -/
theorem updateTokens {f : SetupToken → SetupToken} {id : UUID} (hid : NoToken tenant_id d₀ id)
    (hf : ∀ t, (f t).id = t.id ∧ (f t).tenant_id = t.tenant_id) :
    Kept tenant_id d₀ (d.updateTokens id f) where
  ids := h.ids
  token_ids := nodup_updateRows _ (fun t => (hf t).1) h.token_ids
  routers := h.routers
  tokens := by
    rw [← h.tokens, tokensOf, RouterStore.updateTokens, updateRows, List.filter_map, tokensOf]
    have hsame : ((fun t : SetupToken => t.tenant_id == tenant_id) ∘
        fun t => if (t.id == id) = true then f t else t) = fun t => t.tenant_id == tenant_id := by
      funext t
      dsimp only [Function.comp]
      split
      · rw [(hf t).2]
      · rfl
    rw [hsame]
    refine (List.map_congr_left fun t ht => ?_).trans (List.map_id _)
    have hne : t.id ≠ id := hid t (by rw [← h.tokens]; exact ht)
    rw [if_neg (by simpa using hne)]
    rfl

end Rows

end Kept

/-- A router of another tenant goes, with its tokens, which are not those of this one. -/
theorem Kept.delete (h : Kept tenant_id d₀ d) (hd₀ : Keyed tenant_id d₀) {other : UUID}
    (hother : other ≠ tenant_id) {v : RouterEnv} {a : Unit}
    (he : (RouterStmt.delete_router router_id other).eval v d = .ok (a, d')) :
    Kept tenant_id d₀ d' := by
  cases he
  refine ⟨h.ids.sublist (List.filter_sublist.map _),
    h.token_ids.sublist (List.filter_sublist.map _), ?_, ?_⟩
  · have hsame : routersOf { d with routers := d.routers.filter fun r =>
        !(r.id == router_id && r.tenant_id == other) } tenant_id = routersOf d tenant_id := by
      rw [routersOf, List.filter_filter, routersOf]
      refine List.filter_congr fun r _ => ?_
      by_cases htenant : r.tenant_id = tenant_id
      · simp [htenant, hother.symm]
      · simp [htenant]
    exact hsame ▸ h.routers
  · rw [← h.tokens, tokensOf, List.filter_filter, tokensOf]
    refine List.filter_congr fun t ht => ?_
    by_cases htenant : t.tenant_id = tenant_id
    · have hmem : t ∈ tokensOf d₀ tenant_id := by
        rw [← h.tokens]
        exact List.mem_filter.mpr ⟨ht, by simpa using htenant⟩
      obtain ⟨r, hr, hrouter⟩ := hd₀.owned t hmem
      have hstays : ∀ r' ∈ d.routers, r'.tenant_id = other → r'.id ≠ t.router_id :=
        fun r' hr' hr'other hid =>
          h.id_ne hr' (by rw [hr'other]; exact hother) hr (hrouter.trans hid.symm)
      simp only [htenant, beq_self_eq_true, Bool.true_and, Bool.not_eq_true', List.any_eq_false]
      intro r' hr' hgone
      simp only [Bool.and_eq_true, beq_iff_eq] at hgone
      exact hstays r' hr' hgone.1.2 hgone.2
    · simp [htenant]

/-- A statement of the onboarding that does not write the rows of the tenant. -/
theorem Kept.router (h : Kept tenant_id d₀ d) (hd₀ : Keyed tenant_id d₀) {s : RouterStmt}
    {v : RouterEnv} {a : s.Res} (hs : OutsideRouter tenant_id d₀ s)
    (he : s.eval v d = .ok (a, d')) : Kept tenant_id d₀ d' := by
  cases s with
  | insert_router row =>
      simp only [RouterStmt.eval, Except.bind_eq_ok, check_eq_ok, List.all_eq_true,
        bne_iff_ne] at he
      obtain ⟨-, hid, -, -, he⟩ := he
      cases he
      refine ⟨nodup_map_concat _ h.ids hid, h.token_ids, ?_, h.tokens⟩
      have hsame : routersOf { d with routers := d.routers ++ [{ row with id := v.uuid }] }
          tenant_id = routersOf d tenant_id := filter_concat (beq_false_of_ne hs)
      exact hsame ▸ h.routers
  | set_peer_public_key key id other =>
      cases he
      exact h.updateOther hs (by simp) fun _ => ⟨rfl, rfl⟩
  | confirm_router id other ip =>
      cases he
      exact h.updateOther hs (by simp) fun _ => ⟨rfl, rfl⟩
  | delete_router id other => exact h.delete hd₀ hs he
  | insert_setup_token other id token key expires_at =>
      simp only [RouterStmt.eval, Except.bind_eq_ok, check_eq_ok, List.all_eq_true,
        bne_iff_ne] at he
      obtain ⟨-, hid, -, -, -, -, he⟩ := he
      cases he
      refine ⟨h.ids, nodup_map_concat _ h.token_ids hid, h.routers, ?_⟩
      rw [← h.tokens]
      exact filter_concat (p := fun t : SetupToken => t.tenant_id == tenant_id) (beq_false_of_ne hs)
  | consume_setup_token id =>
      cases he
      exact h.updateTokens hs fun _ => ⟨rfl, rfl⟩
  | clear_private_key id =>
      cases he
      exact h.updateTokens hs fun _ => ⟨rfl, rfl⟩
  | wg_set_peer key ip =>
      simp only [RouterStmt.eval, Except.bind_eq_ok] at he
      obtain ⟨-, -, -, -, he⟩ := he
      cases he
      exact ⟨h.ids, h.token_ids, h.routers, h.tokens⟩
  | wg_remove_peer key =>
      simp only [RouterStmt.eval, Except.bind_eq_ok] at he
      obtain ⟨-, -, he⟩ := he
      cases he
      exact ⟨h.ids, h.token_ids, h.routers, h.tokens⟩
  | _ =>
      cases he
      exact h

/-- A statement of the fleet that does not write the rows of the tenant. -/
theorem Kept.stmt (h : Kept tenant_id d₀ d) (hd₀ : Keyed tenant_id d₀) {s : FleetStmt}
    {v : FleetEnv} {a : s.Res} (hs : Outside tenant_id d₀ s) (he : s.eval v d = .ok (a, d')) :
    Kept tenant_id d₀ d' := by
  cases s with
  | router s =>
      change (s.eval v.core d).mapError Sum.inl = _ at he
      cases hcore : s.eval v.core d with
      | ok r =>
          rw [hcore] at he
          cases he
          exact h.router hd₀ hs hcore
      | error e =>
          rw [hcore] at he
          cases he
  | provision s =>
      cases s with
      | set_online id =>
          cases he
          exact h.setStatus (fun r hr hid => absurd hid (hs r hr)) (.inl rfl)
      | _ =>
          cases he
          exact h
  | update_router id other payload =>
      simp only [FleetStmt.eval, Except.bind_eq_ok] at he
      obtain ⟨-, -, he⟩ := he
      cases he
      exact h.updateOther hs (by simp) fun _ => ⟨rfl, rfl⟩
  | save_credentials host username password port id other =>
      cases he
      exact h.updateOther hs (by simp) fun _ => ⟨rfl, rfl⟩
  | complete_onboarding id other =>
      cases he
      exact h.updateOther hs (by simp) fun _ => ⟨rfl, rfl⟩
  | set_online id =>
      cases he
      exact h.setStatus hs (.inl rfl)
  | set_offline id =>
      cases he
      exact h.setStatus hs (.inr rfl)
  | _ =>
      cases he
      exact h

/-- What the answers tell. -/
theorem Kept.tells (h : Kept tenant_id d₀ d) {s : FleetStmt} {v : FleetEnv} {a : s.Res}
    (he : s.eval v d = .ok (a, d')) : Tells tenant_id d₀ s a := by
  cases s with
  | router s =>
      cases s with
      | select_setup_token token =>
          cases he
          intro t ht hforeign
          obtain ⟨hmem, hfound⟩ := fetchrow_eq_some ht
          have htoken : t.token = token := by
            simp only [Bool.and_eq_true, beq_iff_eq] at hfound
            exact hfound.1.1
          have htenant : t.tenant_id ≠ tenant_id := by
            intro htenant
            refine hforeign t ?_ htoken
            rw [← h.tokens]
            exact List.mem_filter.mpr ⟨hmem, by simpa using htenant⟩
          exact ⟨htenant, h.token_ne hmem htenant⟩
      | _ => trivial
  | provision s =>
      cases s with
      | select_router id other =>
          cases he
          intro hfound hother r hr hid
          obtain ⟨r', hr'⟩ := Option.isSome_iff_exists.mp hfound
          obtain ⟨hmem, hrow⟩ := fetchrow_eq_some hr'
          simp only [Bool.and_eq_true, beq_iff_eq] at hrow
          exact h.id_ne hmem (by rw [hrow.2]; exact hother) hr (hid.trans hrow.1.symm)
      | _ => trivial
  | select_monitored =>
      cases he
      intro row hrow
      obtain ⟨hmem, hmonitored⟩ := List.mem_filter.mp hrow
      exact h.settable hmem hmonitored
  | _ => trivial

/-! ## The requests of the others -/

section Requests

variable {other : UUID}

theorem outside_of_reads (s : RouterStmt) (hs : Reads s) : OutsideRouter tenant_id d₀ s := by
  cases s with
  | insert_router => exact hs.elim
  | set_peer_public_key => exact hs.elim
  | confirm_router => exact hs.elim
  | delete_router => exact hs.elim
  | insert_setup_token => exact hs.elim
  | consume_setup_token => exact hs.elim
  | clear_private_key => exact hs.elim
  | _ => trivial

theorem wgCommand_outside {command : RouterStmt} (h : OutsideRouter tenant_id d₀ command) :
    (wgCommand command).All (OutsideRouter tenant_id d₀) := by
  refine Prog.All.tryCatch (Prog.All.bind ((Prog.all_exec _).mpr h) fun _ => ?_) fun _ => trivial
  exact Prog.All.bind ((Prog.all_exec _).mpr trivial) fun _ => trivial

theorem add_wireguard_peer_outside (peer_public_key assigned_ip : String) :
    (add_wireguard_peer peer_public_key assigned_ip).All (OutsideRouter tenant_id d₀) :=
  wgCommand_outside trivial

theorem remove_wireguard_peer_outside (peer_public_key : String) :
    (remove_wireguard_peer peer_public_key).All (OutsideRouter tenant_id d₀) :=
  wgCommand_outside trivial

theorem restore_peer_outside (router_row : Option RouterRow) :
    (restore_peer router_row).All (OutsideRouter tenant_id d₀) := by
  unfold restore_peer
  split
  · split
    · trivial
    · exact (add_wireguard_peer_outside _ _).tryCatch fun _ => trivial
  · trivial

theorem drop_peer_outside (peer_public_key : Option String) :
    (drop_peer peer_public_key).All (OutsideRouter tenant_id d₀) := by
  unfold drop_peer
  split
  · split
    · trivial
    · exact (remove_wireguard_peer_outside _).tryCatch fun _ => trivial
  · trivial

theorem onboarding_init_outside (hother : other ≠ tenant_id) (data : OnboardingInitRequest) :
    (onboarding_init other data).All (OutsideRouter tenant_id d₀) := by
  refine (require_new_name_all outside_of_reads _ _).bind fun _ => ?_
  refine (assign_peer_ip_allWith outside_of_reads).bind fun ip _ => ?_
  refine (get_server_public_key_all outside_of_reads).bind fun key => ?_
  exact Prog.All.bind ((Prog.all_exec _).mpr hother) fun _ => trivial

theorem onboarding_init_magic_outside (hother : other ≠ tenant_id) (data : MagicInitRequest) :
    (onboarding_init_magic other data).All (OutsideRouter tenant_id d₀) := by
  refine (require_new_name_all outside_of_reads _ _).bind fun _ => ?_
  refine (assign_peer_ip_allWith outside_of_reads).bind fun ip _ => ?_
  refine Prog.All.bind ((Prog.all_exec _).mpr trivial) fun keypair => ?_
  refine Prog.All.bind ((Prog.all_exec _).mpr trivial) fun _ => ?_
  refine Prog.All.bind ((Prog.all_exec _).mpr trivial) fun token => ?_
  refine (get_server_public_key_all outside_of_reads).bind fun key => ?_
  refine Prog.All.bind ((Prog.all_exec _).mpr hother) fun router_id => ?_
  refine Prog.All.bind ((Prog.all_exec _).mpr trivial) fun now => ?_
  refine Prog.All.bind ((Prog.all_exec _).mpr hother) fun _ => ?_
  refine Prog.All.bind ?_ fun _ => trivial
  unfold pre_register
  split
  · trivial
  · exact add_wireguard_peer_outside _ _

theorem onboarding_register_peer_outside (hother : other ≠ tenant_id)
    (data : RegisterPeerRequest) :
    (onboarding_register_peer other data).All (OutsideRouter tenant_id d₀) := by
  refine Prog.All.bind ((Prog.all_exec _).mpr trivial) fun router_row => ?_
  cases router_row with
  | none => trivial
  | some row =>
      exact (add_wireguard_peer_outside _ _).bind fun _ => (Prog.all_exec _).mpr hother

theorem delete_router_outside (hother : other ≠ tenant_id) (router_id : UUID) :
    (delete_router other router_id).All (OutsideRouter tenant_id d₀) := by
  refine Prog.All.bind ((Prog.all_exec _).mpr trivial) fun existing => ?_
  cases existing with
  | none => trivial
  | some row => exact (drop_peer_outside _).bind fun _ => (Prog.all_exec _).mpr hother

/-- The confirmation of a token that is not one of the tenant. -/
theorem confirm_setup_outside {token : String}
    (htoken : ∀ t ∈ tokensOf d₀ tenant_id, t.token ≠ token) (client_ip : String) :
    (confirm_setup token client_ip).AllUnder (fun s => Tells tenant_id d₀ (.router s))
      (OutsideRouter tenant_id d₀) := by
  unfold confirm_setup
  split
  · trivial
  refine Prog.AllUnder.exec_bind trivial fun token_row htells => ?_
  cases token_row with
  | none => trivial
  | some row =>
      obtain ⟨hother, hid⟩ := htells row rfl htoken
      apply Prog.All.under
      refine Prog.All.bind (Prog.All.transaction ?_) fun _ => ?_
      · exact Prog.All.bind ((Prog.all_exec _).mpr hid) fun _ =>
          Prog.All.bind ((Prog.all_exec _).mpr hid) fun _ => (Prog.all_exec _).mpr hother
      refine Prog.All.bind ((Prog.all_exec _).mpr trivial) fun router_row => ?_
      exact (restore_peer_outside router_row).bind fun _ => trivial

theorem log_download_outside (other router_id : UUID) (token : String) (is_chr : Bool)
    (client_ip : String) :
    (log_download other router_id token is_chr client_ip).All (OutsideRouter tenant_id d₀) := by
  refine Prog.All.tryCatch ?_ fun _ => trivial
  refine Prog.All.bind ((Prog.all_exec _).mpr trivial) fun actor_row => ?_
  cases actor_row with
  | none => trivial
  | some actor => exact (Prog.all_exec _).mpr trivial

theorem build_setup_script_outside (settings : SetupSettings)
    {token name private_key public_key endpoint wg_ip server_ip password url : String}
    {is_chr : Bool} : (build_setup_script settings token name private_key public_key endpoint wg_ip
      server_ip password url is_chr).All (OutsideRouter tenant_id d₀) := by
  have hrest (script : Timestamptz → SetupScript) : (Routers.run .utc_now >>=
      fun timestamp => pure (script timestamp)).All (OutsideRouter tenant_id d₀) :=
    Prog.All.bind ((Prog.all_exec _).mpr trivial) fun _ => trivial
  have hcheck (r : Except Exn Unit) :
    (Prog.ofExcept r : RouterM Unit).All (OutsideRouter tenant_id d₀) := trivial
  cases is_chr with
  | false => exact (hcheck _).bind fun _ => (hcheck _).bind fun _ => hrest _
  | true => exact hrest _

theorem download_setup_script_outside (settings : SetupSettings) (token client_ip : String) :
    (download_setup_script settings token client_ip).All (OutsideRouter tenant_id d₀) := by
  unfold download_setup_script
  split
  · trivial
  refine Prog.All.bind ((Prog.all_exec _).mpr trivial) fun token_row => ?_
  cases token_row with
  | none => trivial
  | some row =>
      refine Prog.All.bind ((Prog.all_exec _).mpr trivial) fun router_row => ?_
      cases router_row with
      | none => trivial
      | some router =>
          refine Prog.All.bind ((Prog.all_exec _).mpr trivial) fun password => ?_
          refine (build_setup_script_outside settings).bind fun script => ?_
          exact (log_download_outside _ _ _ _ _).bind fun _ => trivial

theorem create_router_outside (hother : other ≠ tenant_id) (payload : RouterCreate) :
    (create_router other payload).All (Outside tenant_id d₀) := by
  refine Prog.All.bind (Prog.All.embed (require_new_name_all outside_of_reads _ _)) fun _ => ?_
  refine Prog.All.bind ((Prog.all_exec _).mpr trivial) fun _ => ?_
  exact Prog.All.bind ((Prog.all_exec _).mpr hother) fun _ => trivial

theorem get_router_by_id_outside (other router_id : UUID) :
    (get_router_by_id other router_id).All (Outside tenant_id d₀) := by
  refine Prog.All.bind ((Prog.all_exec _).mpr trivial) fun row => ?_
  cases row <;> trivial

theorem require_free_name_outside (other router_id : UUID) (name : Option String) (old : String) :
    (require_free_name other router_id name old).All (Outside tenant_id d₀) := by
  unfold require_free_name
  split
  · trivial
  · split
    · trivial
    · refine Prog.All.bind ((Prog.all_exec _).mpr trivial) fun conflict => ?_
      cases conflict <;> trivial

theorem encrypt_password_outside (password : Option String) :
    (encrypt_password password).All (Outside tenant_id d₀) := by
  unfold encrypt_password
  split
  · trivial
  · exact Prog.All.bind ((Prog.all_exec _).mpr trivial) fun _ => trivial

theorem update_router_outside (hother : other ≠ tenant_id) (router_id : UUID)
    (payload : RouterUpdate) :
    (update_router other router_id payload).All (Outside tenant_id d₀) := by
  refine Prog.All.bind ((Prog.all_exec _).mpr trivial) fun existing => ?_
  cases existing with
  | none => trivial
  | some existing =>
      refine (require_free_name_outside _ _ _ _).bind fun _ => ?_
      refine (encrypt_password_outside _).bind fun _ => ?_
      split
      · exact get_router_by_id_outside _ _
      · refine Prog.All.bind ((Prog.all_exec _).mpr hother) fun row => ?_
        cases row <;> trivial

theorem onboarding_save_credentials_outside (hother : other ≠ tenant_id)
    (data : SaveCredentialsRequest) :
    (onboarding_save_credentials other data).All (Outside tenant_id d₀) := by
  refine Prog.All.bind ((Prog.all_exec _).mpr trivial) fun router_row => ?_
  cases router_row with
  | none => trivial
  | some row =>
      refine Prog.All.bind ((Prog.all_exec _).mpr trivial) fun encrypted_password => ?_
      exact (Prog.all_exec _).mpr hother

theorem onboarding_complete_outside (hother : other ≠ tenant_id) (router_id : UUID) :
    (onboarding_complete other router_id).All (Outside tenant_id d₀) := by
  refine Prog.All.bind ((Prog.all_exec _).mpr trivial) fun router_row => ?_
  cases router_row with
  | none => trivial
  | some row => exact Prog.All.bind ((Prog.all_exec _).mpr hother) fun _ => trivial

/-- The router that a provisioning has found is not one of the tenant, whatever happens to it until
it is set online. -/
theorem provision_router_outside (hother : other ≠ tenant_id)
    (settings : AddressPlan.ProvisionSettings) (valid_netloc : List Char → Bool) (router_id : UUID)
    (data : AddressPlan.RouterProvisionRequest) :
    (AddressPlan.provision_router settings valid_netloc router_id other data).AllUnder
      (fun s => Tells tenant_id d₀ (.provision s))
      fun s => Outside tenant_id d₀ (.provision s) := by
  refine Prog.AllUnder.exec_bind trivial fun row htells => ?_
  cases row with
  | none => trivial
  | some row =>
      have hid := htells rfl hother
      apply Prog.All.under
      change (AddressPlan.provision _ _ _ _ _ row).All _
      unfold AddressPlan.provision
      split
      · refine Prog.All.bind ((Prog.all_exec _).mpr trivial) fun mikrotik => ?_
        refine Prog.All.tryCatch ?_ fun _ => trivial
        refine Prog.All.bind (Prog.All.embed ?_) fun _ => ?_
        · exact (Prog.all_true _).mono fun _ _ => trivial
        exact Prog.All.bind ((Prog.all_exec _).mpr hid) fun _ => trivial
      · trivial
      · trivial

end Requests

/-! ## The monitor -/

theorem attempt_outside (s : FleetStmt) (hs : Outside tenant_id d₀ s) :
    (attempt s).All (Outside tenant_id d₀) :=
  Prog.All.tryCatch (Prog.All.bind ((Prog.all_exec _).mpr hs) fun _ => trivial) fun _ => trivial

theorem count_failure_outside (hr : Settable tenant_id d₀ r.id) (failures : Failures) :
    (count_failure failures r).All (Outside tenant_id d₀) := by
  unfold count_failure
  dsimp only
  split
  · exact (attempt_outside (.set_offline r.id) hr).bind fun _ => trivial
  · trivial

theorem check_router_outside (hr : Settable tenant_id d₀ r.id) (failures : Failures) :
    (check_router failures r).All (Outside tenant_id d₀) := by
  refine (attempt_outside (.get_user_profile_names r) trivial).bind fun answered => ?_
  cases answered with
  | false => exact count_failure_outside hr failures
  | true =>
      refine (attempt_outside (.set_online r.id) hr).bind fun stored => ?_
      cases stored with
      | false => exact count_failure_outside hr _
      | true => trivial

theorem check_routers_outside {routers : List RouterRow} :
    ∀ {failures : Failures}, (∀ r ∈ routers, Settable tenant_id d₀ r.id) →
      (check_routers failures routers).All (Outside tenant_id d₀) := by
  induction routers with
  | nil => exact fun _ => trivial
  | cons r rest ih =>
      intro failures hr
      refine (check_router_outside (hr r List.mem_cons_self) failures).bind fun x => ?_
      obtain ⟨failures', goes_on⟩ := x
      cases goes_on with
      | false => trivial
      | true => exact ih fun r' hr' => hr r' (List.mem_cons_of_mem _ hr')

/-- A round on the routers that it has fetched, which stay those that it may set. -/
theorem heartbeat_round_outside (failures : Failures) :
    (heartbeat_round failures).AllUnder (Tells tenant_id d₀) (Outside tenant_id d₀) := by
  refine Prog.AllUnder.tryCatch ?_ fun _ => trivial
  exact Prog.AllUnder.exec_bind trivial fun routers hrows => (check_routers_outside hrows).under

theorem router_heartbeat_loop_outside (rounds : ℕ) : ∀ failures : Failures,
    (router_heartbeat_loop rounds failures).AllUnder (Tells tenant_id d₀)
      (Outside tenant_id d₀) := by
  induction rounds with
  | zero => exact fun _ => trivial
  | succ rounds ih => exact fun failures => (heartbeat_round_outside failures).bind ih

/-! ## Runs -/

section Runs

variable (settings : FleetSettings)

theorem ofRouter_outside {α : Type} {p : RouterM α} (hp : p.AllUnder
    (fun s => Tells tenant_id d₀ (.router s)) (OutsideRouter tenant_id d₀)) :
    (ofRouter p).AllUnder (Tells tenant_id d₀) (Outside tenant_id d₀) :=
  Prog.AllUnder.translate (B := Tells tenant_id d₀) (hp.bind fun _ => trivial)

theorem ofAdmin_outside {α : Type} {p : AdminM α}
    (hp : p.AllUnder (Tells tenant_id d₀) (Outside tenant_id d₀)) :
    (ofAdmin p).AllUnder (Tells tenant_id d₀) (Outside tenant_id d₀) :=
  Prog.AllUnder.translate (B := Tells tenant_id d₀) (f := id) (hp.bind fun _ => trivial)

theorem ofProvision_outside {α : Type} {p : AddressPlan.ProvisionM α} (hp : p.AllUnder
    (fun s => Tells tenant_id d₀ (.provision s)) fun s => Outside tenant_id d₀ (.provision s)) :
    (ofProvision p).AllUnder (Tells tenant_id d₀) (Outside tenant_id d₀) :=
  Prog.AllUnder.translate (B := Tells tenant_id d₀) (hp.bind fun _ => trivial)

/-- A request of others, and the monitor. -/
theorem program_outside {w : FleetCall} (hw : Foreign tenant_id d₀ w) :
    (w.program settings).AllUnder (Tells tenant_id d₀) (Outside tenant_id d₀) := by
  cases w with
  | onboard w =>
      apply ofRouter_outside
      cases w with
      | init other data => exact (onboarding_init_outside hw data).under.bind fun _ => trivial
      | init_magic other data =>
          exact (onboarding_init_magic_outside hw data).under.bind fun _ => trivial
      | register_peer other data => exact (onboarding_register_peer_outside hw data).under
      | confirm token client_ip =>
          exact (confirm_setup_outside hw client_ip).bind fun _ => trivial
      | delete other router_id => exact (delete_router_outside hw router_id).under
  | download token client_ip =>
      exact ofRouter_outside (download_setup_script_outside _ _ _).under
  | create other payload => exact ofAdmin_outside (create_router_outside hw payload).under
  | update other router_id payload =>
      exact ofAdmin_outside (update_router_outside hw router_id payload).under
  | save_credentials other data =>
      exact ofAdmin_outside (onboarding_save_credentials_outside hw data).under
  | complete other router_id =>
      exact ofAdmin_outside (onboarding_complete_outside hw router_id).under
  | provision other router_id data =>
      exact ofProvision_outside (provision_router_outside hw _ _ router_id data)
  | heartbeat rounds => exact ofAdmin_outside (router_heartbeat_loop_outside rounds _)

/-- The tokens of the tenant are still those of the first store. -/
theorem Foreign.of_kept {w : FleetCall} (hw : Foreign tenant_id d w) (h : Kept tenant_id d₀ d) :
    Foreign tenant_id d₀ w := by
  cases w with
  | onboard w =>
      cases w with
      | confirm token client_ip => exact fun t ht => hw t (by rw [h.tokens]; exact ht)
      | _ => exact hw
  | _ => exact hw

theorem fenced (hd₀ : Keyed tenant_id d₀) : Fenced (fleet settings) (foreign tenant_id)
    (Outside tenant_id d₀) (Tells tenant_id d₀) (Kept tenant_id d₀) where
  restores := fleetMachine_restores
  start w d d' p hw h hstart := by
    cases hstart
    exact ⟨h, program_outside settings (Foreign.of_kept hw h)⟩
  edit d d' hedit h := by
    cases hedit
  stmt s v d a d' hs h hx := by
    have he : s.eval v d = .ok (a, d') := settle_eq_ok.mp hx
    exact ⟨h.stmt hd₀ hs he, h.tells he⟩

/-- What others do to the routers of a tenant, in any run: the monitor sets those that it watches
online and offline. Nothing happens to its setup tokens. -/
theorem tenant_routers_kept (hd₀ : Keyed tenant_id d₀) {s : FleetState}
    (hs : Reaches (fleet settings) (foreign tenant_id) { store := d₀ } s) :
    List.Forall₂ Watched (routersOf d₀ tenant_id) (routersOf s.store tenant_id) ∧
      tokensOf s.store tenant_id = tokensOf d₀ tenant_id := by
  have hkept : Kept tenant_id d₀ s.store := (fenced settings hd₀).run hs {
    ids := hd₀.ids
    token_ids := hd₀.token_ids
    routers := List.forall₂_same.mpr fun r _ => Watched.refl r
    tokens := rfl }
  exact ⟨hkept.routers, hkept.tokens⟩

end Runs

section Decidable

variable (s : FleetStmt) (c : Choice FleetExn FleetEnv) (w : FleetCall)

instance : Decidable ((foreign tenant_id).stmt s c d) := .isTrue trivial

instance : Decidable ((foreign tenant_id).edit d d') := .isFalse id

instance : Decidable ((foreign tenant_id).spawn w d) := by
  cases w with
  | onboard w =>
      cases w with
      | confirm token client_ip =>
          exact inferInstanceAs (Decidable (∀ t ∈ tokensOf d tenant_id, t.token ≠ token))
      | _ => exact instDecidableNot
  | download token client_ip => exact .isTrue trivial
  | heartbeat rounds => exact .isTrue trivial
  | _ => exact instDecidableNot

end Decidable

/-- A router of the first tenant that is offline and one that is being set up, and a router of the
second, under the same name. -/
def twoTenants : RouterStore where
  routers := [
    { id := 11, tenant_id := 1, name := "Main Office", site_name := "Nairobi", status := .offline },
    { id := 12, tenant_id := 1, name := "Annex", site_name := "Nairobi", status := .pending_setup },
    { id := 21, tenant_id := 2, name := "Main Office", site_name := "Kisumu", status := .online }]
  setup_tokens := [{
    id := 31, tenant_id := 1, router_id := 12, token := "token"
    router_wg_private_key := none, expires_at := 5 * minute }]

def exampleSettings : FleetSettings where
  setup := {}
  provision := {
    FRONTEND_URL := none, CHR_HOST_IP := "192.168.56.1", CHR_FRONTEND_URL := "http://192.168.56.1"
    CHR_BACKEND_PORT := 8000, API_BASE_URL := "https://api", RADIUS_COA_SECRET := "secret" }
  valid_netloc _ := true

/-- The monitor has fetched its list before the second tenant replaces its router. -/
def replacedMoves : List (Label FleetExn RouterStore FleetEnv FleetCall) :=
  let steps (n i : ℕ) : List (Label FleetExn RouterStore FleetEnv FleetCall) :=
    List.replicate n (.step i (.run { core := { uuid := 22 } }))
  let payload : RouterCreate := {
    name := "Main Office", host := "10.0.0.7", username := "admin", password := "secret"
    site_name := "Kisumu" }
  .spawn (.heartbeat 1) :: steps 1 0 ++ .spawn (.onboard (.delete 2 21)) :: steps 2 1 ++
    .spawn (.create 2 payload) :: steps 3 2 ++ steps 4 0

theorem keyed_twoTenants : Keyed 1 twoTenants where
  ids := by decide
  token_ids := by decide
  owned := by decide

theorem tenant_routers_kept_replaced : ∃ s : FleetState,
    s.store.routers.map (fun r => (r.id, r.status)) =
      [(11, .online), (12, .pending_setup), (22, .unknown)] ∧
    List.Forall₂ Watched (routersOf twoTenants 1) (routersOf s.store 1) ∧
      tokensOf s.store 1 = tokensOf twoTenants 1 := by
  obtain ⟨s, hs, hv⟩ := Reaches.of_moves (Y := fleet exampleSettings) (ρ := foreign 1)
    { store := twoTenants } replacedMoves (fun d => d.routers.map fun r => (r.id, r.status))
    [(11, .online), (12, .pending_setup), (22, .unknown)] (by decide +kernel)
    (by decide +kernel)
  exact ⟨s, hv, tenant_routers_kept _ keyed_twoTenants hs⟩

end RouterFleet

end FrixelConnect
