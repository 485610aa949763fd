import FrixelConnect.SessionSync
import FrixelConnect.Interleaving.Direct
import FrixelConnect.Specs.Footprint

/-!
# What the sync and the calls beside it write

None of the programs opens a transaction, and none of them inserts a voucher. The lemmas say what
each statement does to the vouchers, the packages and the sessions.
-/

namespace FrixelConnect

open Calendar Interleaving Contract

theorem SyncStmt.exec_eq_settle (s : SyncStmt) (v : SyncEnv) (d : SyncStore) :
    s.exec v d = settle (s.eval v d) d := by
  rw [exec]
  cases s.eval v d with
  | ok r => rfl
  | error e => rfl

theorem SyncStmt.exec_eq_ok {s : SyncStmt} {v : SyncEnv} {d d' : SyncStore} {a : s.Res} :
    s.exec v d = (.ok a, d') ↔ s.eval v d = .ok (a, d') := by
  rw [exec_eq_settle, settle_eq_ok]

theorem syncMachine_restores : syncMachine.Restores := .of_settle _ SyncStmt.exec_eq_settle

namespace SessionSync

/-- What a program does to the tables of the application: RADIUS rows only. -/
def VoucherUsed (s : VoucherStmt) : Prop :=
  match s.query with
  | .base q => Within [.radcheck, .radreply] q
  | _ => True

/-- The statements of the programs. -/
def Used : SyncStmt → Prop
  | .voucher s => VoucherUsed s
  | _ => True

section Programs

variable {caller : VoucherOperation}

theorem used_delete (t : RadiusTable) (code : String) (tenant_id : UUID) :
    (query caller (.base (.delete_radius t code tenant_id))).Plain VoucherUsed :=
  (Prog.plain_exec _).mpr fun T hT => by
    cases hT
    cases t <;> decide

theorem used_provision (code : String) (package : Package) (tenant_id : UUID) :
    (within caller (_provision_radius_credentials code code package.speed_mbps
      package.duration_minutes tenant_id package.data_quota_mb)).Plain VoucherUsed :=
  Prog.Plain.embed (_provision_radius_credentials_plain _ _ _ _ _ _ (by decide) (by decide))

theorem used_remove (router : Option Router) (code : String) :
    (remove_session caller router code).Plain VoucherUsed :=
  Prog.Plain.tryCatch ((Prog.plain_exec _).mpr trivial) fun _ => trivial

theorem used_revoke (tenant_id voucher_id : UUID) :
    (admin_revoke_voucher tenant_id voucher_id).Plain VoucherUsed := by
  apply Prog.Plain.bind ((Prog.plain_exec _).mpr trivial)
  intro voucher
  cases voucher with
  | none => trivial
  | some voucher =>
      apply Prog.Plain.bind ((Prog.plain_exec _).mpr trivial)
      intro updated_row
      apply Prog.Plain.bind (used_delete _ _ _)
      intro _
      apply Prog.Plain.bind (used_delete _ _ _)
      intro _
      apply Prog.Plain.bind
      · apply Prog.Plain.bind ((Prog.plain_exec _).mpr trivial)
        intro active_session
        cases active_session with
        | none => trivial
        | some active_session =>
            apply Prog.Plain.bind ((Prog.plain_exec _).mpr trivial)
            intro coa_success
            cases coa_success with
            | true => trivial
            | false =>
                cases voucher.router_id with
                | none => exact used_remove _ _
                | some router_id =>
                    exact Prog.Plain.bind ((Prog.plain_exec _).mpr trivial) fun _ =>
                      used_remove _ _
      · intro _
        cases updated_row <;> trivial

theorem used_retry (tenant_id voucher_id : UUID) :
    (admin_retry_voucher tenant_id voucher_id).Plain VoucherUsed := by
  apply Prog.Plain.bind ((Prog.plain_exec _).mpr trivial)
  intro row
  cases row with
  | none => trivial
  | some row =>
      obtain ⟨row, package⟩ := row
      dsimp only
      split
      · trivial
      · apply Prog.Plain.bind
        · exact Prog.Plain.tryCatch (used_provision _ _ _) fun _ => trivial
        · intro _
          apply Prog.Plain.bind ((Prog.plain_exec _).mpr trivial)
          intro updated_row
          cases updated_row <;> trivial

theorem used_poller : provision_retry_poller.Plain VoucherUsed := by
  apply Prog.Plain.tryCatch
  · apply Prog.Plain.bind ((Prog.plain_exec _).mpr trivial)
    intro rows
    apply Prog.Plain.forEach
    intro r _
    apply Prog.Plain.tryCatch
    · apply Prog.Plain.bind (used_provision _ _ _)
      intro _
      exact Prog.Plain.bind ((Prog.plain_exec _).mpr trivial) fun _ => trivial
    · exact fun _ => trivial
  · exact fun _ => trivial

theorem used_find_router (host : Option String) (router_id : Option UUID) :
    (find_router host router_id).Plain VoucherUsed := by
  apply Prog.Plain.bind
  · cases host with
    | none => trivial
    | some host => exact (Prog.plain_exec _).mpr trivial
  · intro by_host
    cases by_host with
    | some router => trivial
    | none =>
        cases router_id with
        | none => trivial
        | some router_id => exact (Prog.plain_exec _).mpr trivial

theorem used_withdraw (w : Voucher) : (withdraw_expired w).Plain VoucherUsed := by
  have hdelete (t : RadiusTable) (tenant_id : Option UUID) :
      (delete_expired t w.code tenant_id).Plain VoucherUsed := by
    cases tenant_id with
    | none => trivial
    | some tenant_id => exact used_delete _ _ _
  apply Prog.Plain.bind ((Prog.plain_exec _).mpr trivial)
  intro voucher_tenant_id
  apply Prog.Plain.bind (hdelete _ _)
  intro _
  apply Prog.Plain.bind (hdelete _ _)
  intro _
  apply Prog.Plain.bind ((Prog.plain_exec _).mpr trivial)
  intro active_session
  cases active_session with
  | none =>
      apply Prog.Plain.bind ((Prog.plain_exec _).mpr trivial)
      intro last_session
      exact Prog.Plain.bind (used_find_router _ _) fun _ => used_remove _ _
  | some active_session =>
      apply Prog.Plain.bind ((Prog.plain_exec _).mpr trivial)
      intro coa_success
      cases coa_success with
      | true => trivial
      | false => exact Prog.Plain.bind (used_find_router _ _) fun _ => used_remove _ _

theorem used_vouchers {α : Type} {p : VoucherM α} (hp : p.Plain VoucherUsed) :
    (vouchers p).Plain Used :=
  Prog.Plain.embed hp

/-- The statements of the loop over the logins of a router. -/
theorem login_plain {φ : SyncStmt → Prop} (hselect : ∀ code, φ (.select_voucher_id code))
    (hupdate : ∀ i o u l, φ (.update_live i o u l)) (s_mk : LiveSession) :
    (sync_login s_mk).Plain φ := by
  have hint (n : Option ℤ) : (toInt n).Plain φ := by cases n <;> trivial
  apply Prog.Plain.bind (hint _)
  intro bytes_in
  apply Prog.Plain.bind (hint _)
  intro bytes_out
  cases s_mk.user with
  | none => trivial
  | some voucher_code =>
      dsimp only
      split
      · trivial
      · apply Prog.Plain.bind ((Prog.plain_exec _).mpr (hselect _))
        intro voucher_id
        cases voucher_id with
        | none => trivial
        | some voucher_id => exact (Prog.plain_exec _).mpr (hupdate _ _ _ _)

theorem router_plain {φ : SyncStmt → Prop} (hget : ∀ router, φ (.get_active_sessions router))
    (hselect : ∀ code, φ (.select_voucher_id code))
    (hupdate : ∀ i o u l, φ (.update_live i o u l)) (router_row : Router) :
    (sync_router router_row).Plain φ := by
  apply Prog.Plain.tryCatch
  · apply Prog.Plain.bind ((Prog.plain_exec _).mpr (hget _))
    intro active_sessions
    exact Prog.Plain.forEach fun s_mk _ => login_plain hselect hupdate s_mk
  · exact fun _ => trivial

theorem used_router (router_row : Router) : (sync_router router_row).Plain Used :=
  router_plain (fun _ => trivial) (fun _ => trivial) (fun _ _ _ _ => trivial) router_row

theorem used_sync : sync_radius_sessions_cron.Plain Used := by
  apply Prog.Plain.tryCatch
  · apply Prog.Plain.bind ((Prog.plain_exec _).mpr trivial)
    intro _
    apply Prog.Plain.bind ((Prog.plain_exec _).mpr trivial)
    intro routers
    apply Prog.Plain.bind (Prog.Plain.forEach fun r _ => used_router r)
    intro _
    apply Prog.Plain.bind ((Prog.plain_exec _).mpr trivial)
    intro _
    apply Prog.Plain.bind (used_vouchers (p := query .sync .expire_vouchers)
      ((Prog.plain_exec _).mpr trivial))
    intro expired_vouchers
    exact Prog.Plain.forEach fun w _ => used_vouchers (used_withdraw w)
  · exact fun _ => trivial

theorem used_update_package (tenant_id package_id : UUID) (data : PackageUpdate) :
    (update_package tenant_id package_id data).Plain Used := by
  have hget : (get_package_by_id tenant_id package_id).Plain Used := by
    apply Prog.Plain.bind ((Prog.plain_exec _).mpr trivial)
    intro row
    cases row <;> trivial
  apply Prog.Plain.bind hget
  intro _
  split
  · exact hget
  · apply Prog.Plain.bind ((Prog.plain_exec _).mpr trivial)
    intro row
    cases row <;> trivial

theorem used_deactivate_package (tenant_id package_id : UUID) :
    (deactivate_package tenant_id package_id).Plain Used := by
  apply Prog.Plain.bind ((Prog.plain_exec _).mpr trivial)
  intro result
  split <;> trivial

theorem used_call (call : SyncCall) : call.prog.Plain Used := by
  cases call with
  | sync => exact used_sync
  | update_package tenant_id package_id data =>
      exact Prog.Plain.bind (used_update_package _ _ _) fun _ => trivial
  | deactivate_package tenant_id package_id => exact used_deactivate_package _ _
  | revoke tenant_id voucher_id =>
      exact used_vouchers (Prog.Plain.bind (used_revoke _ _) fun _ => trivial)
  | retry tenant_id voucher_id =>
      exact used_vouchers (Prog.Plain.bind (used_retry _ _) fun _ => trivial)
  | poller => exact used_vouchers used_poller

theorem syncSystem_direct : Direct syncSystem Used where
  restores := syncMachine_restores
  start w d d' p h := by
    cases h
    exact ⟨rfl, used_call w⟩

end Programs

section Rows

variable {ε α β : Type} {f : α → Except ε β}

/-- Every row is converted, or none. -/
theorem mapM_eq_ok_iff {l : List α} :
    (∃ ys, l.mapM f = .ok ys) ↔ ∀ x ∈ l, ∃ y, f x = .ok y := by
  induction l with
  | nil => simp [pure, Except.pure]
  | cons x l ih =>
      simp only [List.mapM_cons, Except.bind_eq_ok, pure, Except.pure, Except.ok.injEq,
        List.forall_mem_cons, ← ih]
      constructor
      · rintro ⟨_, y, hy, ys, hys, rfl⟩
        exact ⟨⟨y, hy⟩, ys, hys⟩
      · rintro ⟨⟨y, hy⟩, ys, hys⟩
        exact ⟨_, y, hy, ys, hys, rfl⟩

theorem mem_mapM {l : List α} {ys : List β} (h : l.mapM f = .ok ys) {y : β} :
    y ∈ ys ↔ ∃ x ∈ l, f x = .ok y := by
  induction l generalizing ys with
  | nil =>
      cases h
      simp
  | cons x l ih =>
      simp only [List.mapM_cons, Except.bind_eq_ok, pure, Except.pure, Except.ok.injEq] at h
      obtain ⟨y₀, hy₀, ys₀, hys₀, rfl⟩ := h
      rw [List.mem_cons, ih hys₀, List.exists_mem_cons_iff, hy₀, Except.ok.injEq, eq_comm]

/-- The row that is proposed. -/
theorem toSession_eq_ok {id : UUID} {r : AcctRow} {w : Voucher} {x : Session} :
    r.toSession id w = .ok x ↔ ∃ mac_address acct_unique_id started_at,
      r.callingstationid.mapM (varchar 17) = .ok mac_address ∧
      varchar 50 r.acctuniqueid = .ok acct_unique_id ∧ r.acctstarttime = some started_at ∧
      x = { id, voucher_id := w.id, customer_id := w.customer_id, tenant_id := w.tenant_id
            mac_address, ip_address := r.framedipaddress
            bytes_uploaded := r.acctinputoctets.getD 0
            bytes_downloaded := r.acctoutputoctets.getD 0
            started_at, ended_at := r.acctstoptime, acct_unique_id := some acct_unique_id } := by
  have hnull (t : Timestamptz) : notNull r.acctstarttime = .ok t ↔ r.acctstarttime = some t := by
    cases r.acctstarttime <;> simp [notNull]
  simp only [AcctRow.toSession, Except.bind_eq_ok, hnull, pure, Except.pure, Except.ok.injEq]
  constructor
  · rintro ⟨mac_address, hmac, acct_unique_id, hid, started_at, hstart, rfl⟩
    exact ⟨_, _, _, hmac, hid, hstart, rfl⟩
  · rintro ⟨mac_address, acct_unique_id, started_at, hmac, hid, hstart, rfl⟩
    exact ⟨_, hmac, _, hid, _, hstart, rfl⟩

end Rows

section Effects

variable {v : SyncEnv} {d d' : SyncStore}

/-- What a query over vouchers does: it sets the status of some vouchers, or leaves all of them
alone. -/
theorem eval_voucher {s : VoucherStmt} {a : s.Res} (hs : VoucherUsed s)
    (h : (SyncStmt.voucher s).eval v d = .ok (a, d')) :
    d'.sessions = d.sessions ∧ d'.packages = d.packages ∧ (d'.vouchers = d.vouchers ∨
      ∃ p status, d' = { d with toVoucherStore := d.setStatus p status } ∧
        (status = .expired → s.query = .expire_vouchers ∧ p = (·.isDue v.now))) := by
  obtain ⟨caller, q⟩ := s
  simp only [SyncStmt.eval] at h
  cases hq : q.eval v.toEnv d.toVoucherStore with
  | error e =>
      rw [hq] at h
      cases h
  | ok r =>
      rw [hq] at h
      cases h
      cases q with
      | base q =>
          obtain ⟨x, hx, hd⟩ := VoucherQuery.eval_base hq
          have hsame {T : Table} (hT : T ∉ [Table.radcheck, .radreply]) : x.Same d.toStore T :=
            Stmt.eval_same (fun h => hT (hs T h)) hx
          have hvouchers : x.vouchers = d.vouchers := hsame (T := .vouchers) (by decide)
          have hpackages : x.packages = d.packages := hsame (T := .packages) (by decide)
          rw [hd]
          exact ⟨rfl, hpackages, .inl hvouchers⟩
      | revoke_voucher voucher_id tenant_id =>
          cases hq
          exact ⟨rfl, rfl, .inr ⟨_, _, rfl, fun h => by cases h⟩⟩
      | activate_voucher voucher_id tenant_id =>
          cases hq
          exact ⟨rfl, rfl, .inr ⟨_, _, rfl, fun h => by cases h⟩⟩
      | expire_vouchers =>
          cases hq
          exact ⟨rfl, rfl, .inr ⟨_, _, rfl, fun _ => ⟨rfl, rfl⟩⟩⟩
      | _ =>
          cases hq
          exact ⟨rfl, rfl, .inl rfl⟩

theorem eval_upsert (h : SyncStmt.upsert_sessions.eval v d = .ok ((), d')) :
    ∃ proposed, (d.accounted v.now).mapM (fun x =>
        x.1.toSession (v.session_id x.1.acctuniqueid) x.2) = .ok proposed ∧
      SyncStmt.upsert d proposed = .ok d' := by
  simp only [SyncStmt.eval, Except.bind_eq_ok, pure, Except.pure, Except.ok.injEq,
    Prod.mk.injEq] at h
  obtain ⟨proposed, hproposed, d₁, hd, -, rfl⟩ := h
  exact ⟨proposed, hproposed, hd⟩

theorem upsert_eq_ok {proposed : List Session} : SyncStmt.upsert d proposed = .ok d' ↔
    (proposed.map (·.acct_unique_id)).Nodup ∧
      ((d.sessions ++ proposed.filter fun x =>
        d.sessions.all fun y => y.acct_unique_id != x.acct_unique_id).map (·.id)).Nodup ∧
      { d with sessions := d.sessions.map (·.refreshed proposed) ++ proposed.filter fun x =>
        d.sessions.all fun y => y.acct_unique_id != x.acct_unique_id } = d' := by
  simp only [SyncStmt.upsert, Except.bind_eq_ok, check_eq_ok, decide_eq_true_eq, pure, Except.pure,
    Except.ok.injEq]
  constructor
  · rintro ⟨_, hn, _, hids, hd⟩
    exact ⟨hn, hids, hd⟩
  · rintro ⟨hn, hids, hd⟩
    exact ⟨(), hn, (), hids, hd⟩

theorem eval_update_live {bytes_in bytes_out : ℤ} {voucher_id : UUID} {login : String} :
    (SyncStmt.update_live bytes_in bytes_out voucher_id login).eval v d = .ok ((), d') ↔
      (isBigint bytes_in && isBigint bytes_out) = true ∧
      d.reported bytes_in bytes_out voucher_id = d' := by
  simp only [SyncStmt.eval, Except.bind_eq_ok, check_eq_ok, pure, Except.pure, Except.ok.injEq,
    Prod.mk.injEq, true_and]
  constructor
  · rintro ⟨_, h⟩
    exact h
  · intro h
    exact ⟨(), h⟩

theorem eval_activate : SyncStmt.activate_vouchers.eval v d = .ok ((), d') ↔
    (∀ w ∈ d.vouchers, ∀ t, d.clock w = some t → t.2 < endTimestamp) ∧
      { d with vouchers := d.vouchers.map d.started } = d' := by
  simp only [SyncStmt.eval, Except.bind_eq_ok, check_eq_ok, List.all_eq_true, Option.all_eq_true,
    decide_eq_true_eq, pure, Except.pure, Except.ok.injEq, Prod.mk.injEq, true_and]
  constructor
  · rintro ⟨_, h⟩
    exact h
  · intro h
    exact ⟨(), h⟩

/-- The other statements write packages, if anything. -/
theorem eval_other {s : SyncStmt} {a : s.Res} (hs : (∀ q, s ≠ .voucher q) ∧ s ≠ .upsert_sessions ∧
    (∀ i o u l, s ≠ .update_live i o u l) ∧ s ≠ .activate_vouchers)
    (h : s.eval v d = .ok (a, d')) : d'.vouchers = d.vouchers ∧ d'.sessions = d.sessions ∧
      d'.packages.map (·.id) = d.packages.map (·.id) := by
  have hids (p : Package → Bool) (f : Package → Package) (hf : ∀ x, (f x).id = x.id) :
      (updateRows p f d.packages).map (·.id) = d.packages.map (·.id) := by
    simp only [updateRows, List.map_map]
    apply List.map_congr_left
    intro x _
    by_cases hp : p x = true <;> simp [hp, hf]
  cases s with
  | voucher q => exact absurd rfl (hs.1 q)
  | upsert_sessions => exact absurd rfl hs.2.1
  | update_live i o u l => exact absurd rfl (hs.2.2.1 i o u l)
  | activate_vouchers => exact absurd rfl hs.2.2.2
  | update_package data tenant_id package_id =>
      simp only [SyncStmt.eval, Except.bind_eq_ok, pure, Except.pure, Except.ok.injEq,
        Prod.mk.injEq] at h
      obtain ⟨_, -, _, -, _, -, _, -, _, -, _, -, -, rfl⟩ := h
      exact ⟨rfl, rfl, hids _ _ fun _ => rfl⟩
  | deactivate_package tenant_id package_id =>
      cases h
      exact ⟨rfl, rfl, hids _ _ fun _ => rfl⟩
  | _ =>
      cases h
      exact ⟨rfl, rfl, rfl⟩

end Effects

end SessionSync

end FrixelConnect
