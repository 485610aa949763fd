import FrixelConnect.SessionSteps

/-!
# The usage of a session

The counters of a session come from its accounting row and from the live reports of the routers.
The upsert writes the counters of the accounting row over those that are stored, and a live report
raises all open sessions of its voucher. So the counters of an open session never fall, and a
report changes no other session than that of its login, as long as every upsert meets open
sessions whose counters their accounting rows have reached, and every report reaches the open
session of its own login only.
-/

namespace FrixelConnect

open Interleaving

namespace SessionSync

/-- The session of an accounting row has its id, cut to what the column holds. -/
def AccountedBy (r : AcctRow) (x : Session) : Prop :=
  ∃ acct_unique_id, varchar 50 r.acctuniqueid = .ok acct_unique_id ∧
    x.acct_unique_id = some acct_unique_id

/-- The accounting rows change, and their own counters never decrease. -/
structure Grows (d d' : SyncStore) : Prop where
  sessions : d'.sessions = d.sessions
  octets : ∀ r ∈ d.radacct, ∀ r' ∈ d'.radacct, r'.acctuniqueid = r.acctuniqueid →
    r.acctinputoctets.getD 0 ≤ r'.acctinputoctets.getD 0 ∧
      r.acctoutputoctets.getD 0 ≤ r'.acctoutputoctets.getD 0

/-- Runs of all calls, with anything that the routers may report. -/
def growing : SyncRules where
  edit := Grows

/-- The upsert meets no open session whose counters are above those of its accounting row. -/
def CaughtUp (d : SyncStore) (v : SyncEnv) : Prop :=
  ∀ a ∈ d.accounted v.now, ∀ x ∈ d.sessions, AccountedBy a.1 x → x.ended_at = none →
    x.bytes_uploaded ≤ a.1.acctinputoctets.getD 0 ∧
      x.bytes_downloaded ≤ a.1.acctoutputoctets.getD 0

/-- The other open sessions of the voucher have counted at least what is reported. -/
def Above (d : SyncStore) (bytes_in bytes_out : ℤ) (voucher_id : UUID) (login : String) : Prop :=
  ∀ x ∈ d.sessions, x.voucher_id = voucher_id → x.ended_at = none →
    x.acct_unique_id ≠ some login → bytes_in ≤ x.bytes_uploaded ∧ bytes_out ≤ x.bytes_downloaded

/-- The runs in which the accounting rows have caught up at every upsert, and every report is about
one open session. -/
def keeping : SyncRules where
  stmt s c d := match s, c with
    | .upsert_sessions, .run v => CaughtUp d v
    | .update_live bytes_in bytes_out voucher_id login, .run _ =>
        Above d bytes_in bytes_out voucher_id login
    | _, _ => True
  edit := Grows

/-- The session is open. -/
def OpenIn (id : UUID) (s : SyncState) : Prop :=
  ∃ x ∈ s.store.sessions, x.id = id ∧ x.ended_at = none

/-- The run from one state to another, during which the session is open. -/
def WhileOpen (ρ : SyncRules) (id : UUID) : SyncState → SyncState → Prop :=
  Relation.ReflTransGen fun s s' => Step syncSystem ρ s s' ∧ OpenIn id s

/-- The counters of a session do not fall while it is open, and a live report changes no other
session of its voucher than that of its login. -/
structure UsageKept (ρ : SyncRules) (s : SyncState) : Prop where
  monotone : ∀ id s', WhileOpen ρ id s s' → ∀ x ∈ s.store.sessions, x.id = id →
    ∀ x' ∈ s'.store.sessions, x'.id = id →
      x.bytes_uploaded ≤ x'.bytes_uploaded ∧ x.bytes_downloaded ≤ x'.bytes_downloaded
  own : ∀ bytes_in bytes_out voucher_id login v s',
    ρ.stmt (.update_live bytes_in bytes_out voucher_id login) (.run v) s.store →
    Executes syncSystem (.update_live bytes_in bytes_out voucher_id login) v s s' →
    ∀ x ∈ s.store.sessions, x.voucher_id = voucher_id → x.acct_unique_id ≠ some login →
      x ∈ s'.store.sessions

variable {d d' : SyncStore} {v : SyncEnv}

/-- An open session after a step. -/
def Rises (x x' : Session) : Prop := x'.id = x.id ∧ (x.ended_at = none →
  x.bytes_uploaded ≤ x'.bytes_uploaded ∧ x.bytes_downloaded ≤ x'.bytes_downloaded)

theorem Rises.refl (x : Session) : Rises x x := ⟨rfl, fun _ => ⟨le_rfl, le_rfl⟩⟩

/-- What one statement does to the sessions that are there. -/
structure Kept (d d' : SyncStore) : Prop where
  ids : (d.sessions.map (·.id)).Nodup → (d'.sessions.map (·.id)).Nodup
  rises : ∀ x ∈ d.sessions, ∃ x' ∈ d'.sessions, Rises x x'

theorem Kept.of_sessions (h : d'.sessions = d.sessions) : Kept d d' where
  ids hd := by rwa [h]
  rises x hx := ⟨x, by rwa [h], .refl x⟩

theorem refreshed_rises {proposed : List Session} {x : Session}
    (h : ∀ y ∈ proposed, y.acct_unique_id = x.acct_unique_id → x.ended_at = none →
      x.bytes_uploaded ≤ y.bytes_uploaded ∧ x.bytes_downloaded ≤ y.bytes_downloaded) :
    Rises x (x.refreshed proposed) := by
  unfold Session.refreshed
  split
  · next y hy =>
    have hkey : y.acct_unique_id = x.acct_unique_id := by simpa using List.find?_some hy
    exact ⟨rfl, h y (List.mem_of_find?_eq_some hy) hkey⟩
  · exact .refl x

/-- The upsert raises the open sessions when the accounting rows have caught up. -/
theorem kept_upsert (hcaught : CaughtUp d v)
    (h : SyncStmt.upsert_sessions.eval v d = .ok ((), d')) : Kept d d' := by
  obtain ⟨proposed, hproposed, hd⟩ := eval_upsert h
  obtain ⟨-, hids, rfl⟩ := upsert_eq_ok.mp hd
  constructor
  · intro _
    have hkeep : (d.sessions.map (·.refreshed proposed)).map (·.id) = d.sessions.map (·.id) := by
      rw [List.map_map]
      apply List.map_congr_left
      intro x _
      dsimp only [Function.comp_apply, Session.refreshed]
      split <;> rfl
    rwa [List.map_append, hkeep, ← List.map_append]
  · intro x hx
    refine ⟨_, List.mem_append_left _ (List.mem_map_of_mem hx), refreshed_rises ?_⟩
    intro y hy hkey hopen
    obtain ⟨a, ha, hconvert⟩ := (mem_mapM hproposed).mp hy
    obtain ⟨mac_address, acct_unique_id, started_at, -, hid, -, rfl⟩ := toSession_eq_ok.mp hconvert
    exact hcaught a ha x hx ⟨acct_unique_id, hid, hkey.symm⟩ hopen

theorem kept_reported {bytes_in bytes_out : ℤ} {voucher_id : UUID} :
    Kept d (d.reported bytes_in bytes_out voucher_id) where
  ids hd := by
    have hkeep : (d.reported bytes_in bytes_out voucher_id).sessions.map (·.id) =
        d.sessions.map (·.id) := by
      simp only [SyncStore.reported, updateRows, List.map_map]
      apply List.map_congr_left
      intro x _
      dsimp only [Function.comp_apply]
      split <;> rfl
    rwa [hkeep]
  rises x hx := by
    refine ⟨_, List.mem_map_of_mem hx, ?_⟩
    split
    · exact ⟨rfl, fun _ => ⟨le_max_left _ _, le_max_left _ _⟩⟩
    · exact .refl x

theorem kept_stmt {s : SyncStmt} {a : s.Res} (hs : Used s) (hrule : keeping.stmt s (.run v) d)
    (h : s.eval v d = .ok (a, d')) : Kept d d' := by
  cases s with
  | voucher s => exact .of_sessions (eval_voucher hs h).1
  | upsert_sessions => exact kept_upsert hrule h
  | update_live bytes_in bytes_out voucher_id login =>
      obtain ⟨-, rfl⟩ := eval_update_live.mp h
      exact kept_reported
  | activate_vouchers =>
      obtain ⟨-, rfl⟩ := eval_activate.mp h
      exact .of_sessions rfl
  | _ => exact .of_sessions (eval_other (by simp) h).2.1

theorem kept_step {s s' : SyncState} (hp : ∀ p ∈ s.procs, p.Direct Used)
    (h : Step syncSystem keeping s s') : Kept s.store s'.store := by
  rcases (syncSystem_direct.step hp h).2 with hsame | hedit | ⟨q, v, hq, hrule, hx⟩
  · exact .of_sessions (by rw [hsame])
  · exact .of_sessions hedit.sessions
  · obtain ⟨i, p, k, a, -, -, -, he⟩ := hx
    exact kept_stmt hq hrule (SyncStmt.exec_eq_ok.mp he)

/-- The ids of the sessions differ, and no process has a transaction. -/
structure Sound (s : SyncState) : Prop where
  ids : (s.store.sessions.map (·.id)).Nodup
  procs : ∀ p ∈ s.procs, p.Direct Used

theorem Sound.step {s s' : SyncState} (hs : Sound s) (h : Step syncSystem keeping s s') :
    Sound s' where
  ids := (kept_step hs.procs h).ids hs.ids
  procs := (syncSystem_direct.step hs.procs h).1

/-- While a session is open, its counters do not fall. -/
theorem open_rises {id : UUID} {s s' : SyncState} (hs : Sound s) (h : WhileOpen keeping id s s')
    {x : Session} (hx : x ∈ s.store.sessions) (hid : x.id = id) :
    Sound s' ∧ ∃ x' ∈ s'.store.sessions, x'.id = id ∧ x.bytes_uploaded ≤ x'.bytes_uploaded ∧
      x.bytes_downloaded ≤ x'.bytes_downloaded := by
  induction h with
  | refl => exact ⟨hs, x, hx, hid, le_rfl, le_rfl⟩
  | @tail t t' _ hst ih =>
      obtain ⟨hsound, y, hy, hyid, hup, hdown⟩ := ih
      obtain ⟨hstep, z, hz, hzid, hopen⟩ := hst
      have heq : z = y := List.inj_on_of_nodup_map hsound.ids hz hy (hzid.trans hyid.symm)
      rw [heq] at hopen
      obtain ⟨y', hy', hid', hrises⟩ := (kept_step hsound.procs hstep).rises y hy
      obtain ⟨hup', hdown'⟩ := hrises hopen
      exact ⟨hsound.step hstep, y', hy', hid'.trans hyid, hup.trans hup', hdown.trans hdown'⟩

/-- A report about one open session changes no other session of its voucher. -/
theorem reported_own {bytes_in bytes_out : ℤ} {voucher_id : UUID} {login : String}
    (h : Above d bytes_in bytes_out voucher_id login) {x : Session} (hx : x ∈ d.sessions)
    (hvoucher : x.voucher_id = voucher_id) (hlogin : x.acct_unique_id ≠ some login) :
    x ∈ (d.reported bytes_in bytes_out voucher_id).sessions := by
  refine List.mem_map.mpr ⟨x, hx, ?_⟩
  split
  · next hopen =>
    have hopen : x.ended_at = none := by simpa [hvoucher] using hopen
    obtain ⟨hin, hout⟩ := h x hx hvoucher hopen hlogin
    simp only [Session.raised, max_eq_left hin, max_eq_left hout]
  · rfl

/-- In every run whose upserts and reports meet the condition, usage is kept in every state. -/
theorem usage_kept {d : SyncStore} (hd : (d.sessions.map (·.id)).Nodup) {s : SyncState}
    (hs : Reaches syncSystem keeping { store := d } s) : UsageKept keeping s := by
  have hsound : Sound s :=
    hs.invariant (I := Sound) ⟨hd, fun _ h => by cases h⟩ fun _ _ ht hst => ht.step hst
  constructor
  · intro id s' hrun x hx hid x' hx' hid'
    obtain ⟨hsound', y, hy, hyid, hup, hdown⟩ := open_rises hsound hrun hx hid
    have heq : x' = y := List.inj_on_of_nodup_map hsound'.ids hx' hy (hid'.trans hyid.symm)
    rw [heq]
    exact ⟨hup, hdown⟩
  · intro bytes_in bytes_out voucher_id login v s' hrule hx x hx' hvoucher hlogin
    obtain ⟨i, p, k, a, -, -, -, he⟩ := hx
    obtain ⟨-, hstore⟩ := eval_update_live.mp (SyncStmt.exec_eq_ok.mp he)
    rw [← hstore]
    exact reported_own hrule hx' hvoucher hlogin

section Example

variable (s : SyncStmt) (c : Choice Exn SyncEnv) (w : SyncCall) (d d' : SyncStore)

instance : Decidable (growing.stmt s c d) := .isTrue trivial

instance : Decidable (growing.spawn w d) := .isTrue trivial

noncomputable instance : Decidable (growing.edit d d') := Classical.propDecidable _

instance (r : AcctRow) (x : Session) : Decidable (AccountedBy r x) :=
  match h : varchar 50 r.acctuniqueid with
  | .ok acct_unique_id =>
      decidable_of_iff (x.acct_unique_id = some acct_unique_id) (by simp [AccountedBy, h])
  | .error e => .isFalse (by simp [AccountedBy, h])

instance (v : SyncEnv) : Decidable (CaughtUp d v) :=
  inferInstanceAs (Decidable (∀ _ ∈ _, ∀ _ ∈ _, _ → _ → _ ∧ _))

instance (bytes_in bytes_out : ℤ) (voucher_id : UUID) (login : String) :
    Decidable (Above d bytes_in bytes_out voucher_id login) :=
  inferInstanceAs (Decidable (∀ _ ∈ _, _ → _ → _ → _ ∧ _))

instance : Decidable (keeping.stmt s c d) :=
  match s, c with
  | .upsert_sessions, .run v => inferInstanceAs (Decidable (CaughtUp d v))
  | .update_live bytes_in bytes_out voucher_id login, .run _ =>
      inferInstanceAs (Decidable (Above d bytes_in bytes_out voucher_id login))
  | .upsert_sessions, .fail _ => .isTrue trivial
  | .update_live _ _ _ _, .fail _ => .isTrue trivial
  | .voucher _, _ => .isTrue trivial
  | .select_online_routers, _ => .isTrue trivial
  | .get_active_sessions _, _ => .isTrue trivial
  | .select_voucher_id _, _ => .isTrue trivial
  | .activate_vouchers, _ => .isTrue trivial
  | .select_package _ _, _ => .isTrue trivial
  | .update_package _ _ _, _ => .isTrue trivial
  | .deactivate_package _ _, _ => .isTrue trivial

instance : Decidable (keeping.spawn w d) := .isTrue trivial

noncomputable instance : Decidable (keeping.edit d d') := Classical.propDecidable _

end Example

/-- A voucher that is in use, with the accounting row of its login and a router. -/
def used : SyncStore where
  vouchers := [{ id := 8, payment_id := 7, customer_id := 4, package_id := 3, code := "KWHT2Z8MPA"
                 created_at := 0, tenant_id := 1, activated_at := some 5
                 expires_at := some 3600000005 }]
  radacct := [{ acctsessionid := "80c00003", acctuniqueid := "9e1b"
                username := some "KWHT2Z8MPA", router_ip := "10.8.0.2", acctstarttime := some 5
                acctinputoctets := some 500, acctoutputoctets := some 900 }]
  routers := [{ id := 2, host := "10.8.0.2", tenant_id := 1, status := .online }]

/-- The router is ahead of the accounting row. -/
def ahead : SyncEnv :=
  { live := [{ user := some "KWHT2Z8MPA", bytes_in := some 1000, bytes_out := some 2000
               login := "9e1b" }] }

/-- A sync in which the router raises the one session of the voucher. -/
theorem usage_kept_used : ∃ s : SyncState, UsageKept keeping s ∧
    s.store.sessions.map (·.bytes_uploaded) = [1000] := by
  obtain ⟨s, hs, hbytes⟩ := Reaches.of_moves (Y := syncSystem) (ρ := keeping) { store := used }
    (.spawn .sync :: List.replicate 5 (.step 0 (.run ahead)))
    (fun d => d.sessions.map (·.bytes_uploaded)) [1000] (by decide +kernel) (by decide +kernel)
  exact ⟨s, usage_kept (d := used) List.nodup_nil hs, hbytes⟩

/-- The upsert of the second sync puts the counters of the accounting row back. -/
theorem not_usage_kept : ¬ ∀ (d : SyncStore) (s : SyncState), (d.sessions.map (·.id)).Nodup →
    Reaches syncSystem growing { store := d } s → UsageKept growing s := by
  intro h
  obtain ⟨s, s', hs, hstep, hbefore, hafter⟩ := Reaches.of_moves_step (Y := syncSystem)
    (ρ := growing) { store := used }
    (.spawn .sync :: List.replicate 5 (.step 0 (.run ahead)) ++ [.spawn .sync])
    (.step 1 (.run ahead))
    (fun d => d.sessions.map fun x => (x.id, x.ended_at, x.bytes_uploaded))
    [(0, none, 1000)] [(0, none, 500)] (by decide +kernel) (by decide +kernel) (by decide +kernel)
  have hmem {b : ℤ} {t : SyncState} (ht : t.store.sessions.map
      (fun x => (x.id, x.ended_at, x.bytes_uploaded)) = [(0, none, b)]) :
      ∃ x ∈ t.store.sessions, x.id = 0 ∧ x.ended_at = none ∧ x.bytes_uploaded = b := by
    have hx : (0, none, b) ∈ t.store.sessions.map
        (fun x => (x.id, x.ended_at, x.bytes_uploaded)) := by
      rw [ht]
      exact List.mem_singleton_self _
    obtain ⟨x, hx, heq⟩ := List.mem_map.mp hx
    simp only [Prod.mk.injEq] at heq
    exact ⟨x, hx, heq⟩
  obtain ⟨x, hx, hid, hopen, hup⟩ := hmem hbefore
  obtain ⟨x', hx', hid', -, hup'⟩ := hmem hafter
  obtain ⟨hle, -⟩ := (h used s List.nodup_nil hs).monotone 0 s'
    (.single ⟨hstep, x, hx, hid, hopen⟩) x hx hid x' hx' hid'
  rw [hup, hup'] at hle
  exact absurd hle (by decide)

end SessionSync

end FrixelConnect
