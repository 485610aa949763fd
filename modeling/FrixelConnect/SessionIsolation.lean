import FrixelConnect.VoucherClock
import FrixelConnect.VoucherWithdrawal
import FrixelConnect.Interleaving.Fated

/-!
# What one accounting row does to the sync of all others

The upsert converts every accounting row or none, and one handler stands around the whole sync. So
a run does its work for the other rows and vouchers when every row that it looks at can be
converted and no expiry time is beyond what the column holds; otherwise it does nothing that was
not done before. Routers may answer or fail in any way.
-/

namespace FrixelConnect

open Calendar Interleaving

namespace SessionSync

/-- The calls to a router, which may fail. -/
def mayFail : SyncStmt → Bool
  | .get_active_sessions _ => true
  | .voucher { query := .remove_active_hotspot_session _ _, .. } => true
  | _ => false

/-- What the environment chooses for the statements of one run; the database answers. -/
structure World where
  fate : Solo.Fate SyncStmt Exn SyncEnv
  up : ∀ s, mayFail s = false → (fate.stmt s).isRun = true

namespace World

variable (w : World)

def env (s : SyncStmt) : SyncEnv :=
  match w.fate.stmt s with
  | .run v => v
  | .fail _ => {}

/-- The time at which the accounting rows are read. -/
def synced : Timestamptz := (w.env .upsert_sessions).now

/-- The time at which the vouchers expire. -/
def expired : Timestamptz := (w.env (.voucher ⟨.sync, .expire_vouchers⟩)).now

/-- The store after the run. -/
def run (d : SyncStore) : SyncStore :=
  (Solo.outcome syncMachine w.fate sync_radius_sessions_cron d {}).2.1

/-- The ids that are generated are new. -/
structure Fresh (d : SyncStore) : Prop where
  differ : ∀ a ∈ d.accounted w.synced, ∀ a' ∈ d.accounted w.synced,
    (w.env .upsert_sessions).session_id a.1.acctuniqueid =
      (w.env .upsert_sessions).session_id a'.1.acctuniqueid →
        a.1.acctuniqueid = a'.1.acctuniqueid
  new : ∀ x ∈ d.sessions, ∀ a ∈ d.accounted w.synced,
    x.id ≠ (w.env .upsert_sessions).session_id a.1.acctuniqueid

end World

/-- The row has a start time, and its texts are not too long. -/
structure WellFormed (r : AcctRow) : Prop where
  start : r.acctstarttime ≠ none
  station : ∀ s ∈ r.callingstationid, s.length ≤ 17
  id : r.acctuniqueid.length ≤ 50

/-- The session has what the accounting row says; a router may have reported more bytes. -/
structure Mirrors (r : AcctRow) (x : Session) : Prop where
  id : x.acct_unique_id = some r.acctuniqueid
  mac_address : x.mac_address = r.callingstationid
  ip_address : x.ip_address = r.framedipaddress
  ended_at : x.ended_at = r.acctstoptime
  uploaded : r.acctinputoctets.getD 0 ≤ x.bytes_uploaded
  downloaded : r.acctoutputoctets.getD 0 ≤ x.bytes_downloaded

/-- What a run at the times `t` and `t'` is there for: the well-formed rows have their sessions, the
vouchers with a session have their times, and what is due has expired without RADIUS rows. -/
structure InSync (t t' : Timestamptz) (d d' : SyncStore) : Prop where
  upserted : ∀ a ∈ d.accounted t, WellFormed a.1 → ∃ x ∈ d'.sessions, Mirrors a.1 x
  activated : ∀ w ∈ d'.vouchers, (∃ x ∈ d'.sessions, x.voucher_id = w.id) →
    w.activated_at ≠ none ∧ w.expires_at ≠ none
  expired : ∀ w ∈ d.vouchers, (w.status = .active ∨ w.status = .used) → ∀ w' ∈ d'.vouchers,
    w'.id = w.id → (∃ e, w'.expires_at = some e ∧ e ≤ t') → w'.status = .expired ∧
      VoucherWithdrawal.Bare d'.toStore w'

/-- The text fits into a column of type `VARCHAR(n)`. -/
def FitsIn (n : ℕ) (s : String) : Prop := ∃ s', varchar n s = .ok s'

/-- The accounting row can be converted. -/
structure Fits (r : AcctRow) : Prop where
  start : r.acctstarttime ≠ none
  station : ∀ s ∈ r.callingstationid, FitsIn 17 s
  id : FitsIn 50 r.acctuniqueid

/-- The id that the session of an accounting row has. -/
def sessionKey (r : AcctRow) : Option String := (varchar 50 r.acctuniqueid).toOption

/-- Every accounting row that the run looks at can be converted, and no two are for one session. -/
structure Accepted (t : Timestamptz) (d : SyncStore) : Prop where
  rows : ∀ a ∈ d.accounted t, Fits a.1
  keys : ((d.accounted t).map fun a => sessionKey a.1).Nodup

/-- The voucher has a session that starts then, or will have it by the upsert. -/
def StartsAt (t : Timestamptz) (d : SyncStore) (w : Voucher) (start : Timestamptz) : Prop :=
  (∃ x ∈ d.sessions, x.voucher_id = w.id ∧ x.started_at = start) ∨
    ∃ a ∈ d.accounted t, a.2.id = w.id ∧ a.1.acctstarttime = some start ∧
      ∀ x ∈ d.sessions, x.acct_unique_id ≠ sessionKey a.1

/-- Vouchers that start their clock have a start whose end TIMESTAMPTZ can hold. -/
def InRange (t : Timestamptz) (d : SyncStore) : Prop :=
  ∀ w ∈ d.vouchers, w.activated_at = none → ∀ p ∈ d.packages, p.id = w.package_id →
    (∃ start, StartsAt t d w start) →
      ∃ start, StartsAt t d w start ∧ start + p.duration_minutes * minute < endTimestamp

variable {w : World} {d d' : SyncStore} {t t' : Timestamptz}

section Conversion

theorem varchar_of_le {n : ℕ} {s : String} (h : s.length ≤ n) : varchar n s = .ok s := by
  rw [varchar, if_pos h]
  rfl

/-- A row is converted exactly when it fits. -/
theorem converts_iff (id : UUID) {r : AcctRow} {v : Voucher} :
    (∃ x, r.toSession id v = .ok x) ↔ Fits r := by
  have hstation : (∃ m, r.callingstationid.mapM (varchar 17) = .ok m) ↔
      ∀ s ∈ r.callingstationid, FitsIn 17 s := by
    cases r.callingstationid with
    | none => simp [pure, Except.pure]
    | some s =>
        cases h : varchar 17 s with
        | ok m => simp [FitsIn, h, Functor.map, Except.map]
        | error e => simp [FitsIn, h, Functor.map, Except.map]
  constructor
  · rintro ⟨x, hx⟩
    obtain ⟨mac_address, acct_unique_id, started_at, hmac, hid, hstart, -⟩ := toSession_eq_ok.mp hx
    exact ⟨by simp [hstart], hstation.mp ⟨_, hmac⟩, _, hid⟩
  · rintro ⟨hstart, hmac, acct_unique_id, hid⟩
    obtain ⟨mac_address, hmac⟩ := hstation.mpr hmac
    obtain ⟨started_at, hstart⟩ := Option.ne_none_iff_exists'.mp hstart
    exact ⟨_, toSession_eq_ok.mpr ⟨_, _, _, hmac, hid, hstart, rfl⟩⟩

end Conversion

section Upsert

theorem World.fate_run {s : SyncStmt} (h : mayFail s = false) : w.fate.stmt s = .run (w.env s) := by
  have hup := w.up s h
  rw [World.env]
  cases hs : w.fate.stmt s with
  | run v => rfl
  | fail e =>
      rw [hs] at hup
      cases hup

/-- A statement that answers. -/
theorem World.direct_ok {s : SyncStmt} {a : s.Res} {x : SyncStore} (h : mayFail s = false)
    (he : s.eval (w.env s) d = .ok (a, x)) :
    syncMachine.direct s (w.fate.stmt s) d = (.ok a, x) := by
  rw [w.fate_run h]
  exact SyncStmt.exec_eq_ok.mpr he

theorem World.direct_error {s : SyncStmt} {e : Exn} (h : mayFail s = false)
    (he : s.eval (w.env s) d = .error e) :
    syncMachine.direct s (w.fate.stmt s) d = (.error e, d) := by
  rw [w.fate_run h]
  change s.exec (w.env s) d = _
  rw [SyncStmt.exec, he]

/-- Columns of converted rows. -/
theorem map_mapM {ε α β γ : Type} {f : α → Except ε β} {l : List α} {ys : List β}
    (h : l.mapM f = .ok ys) {g : β → γ} {g' : α → γ} (hg : ∀ x ∈ l, ∀ y, f x = .ok y → g y = g' x) :
    ys.map g = l.map g' := by
  induction l generalizing ys with
  | nil =>
      cases h
      rfl
  | cons x l ih =>
      simp only [List.mapM_cons, Except.bind_eq_ok, pure, Except.pure, Except.ok.injEq] at h
      obtain ⟨y, hy, ys₀, hys, rfl⟩ := h
      rw [List.map_cons, List.map_cons, hg x List.mem_cons_self y hy,
        ih hys fun x hx => hg x (List.mem_cons_of_mem _ hx)]

/-- The proposed rows that have no session yet. -/
def inserted (d : SyncStore) (proposed : List Session) : List Session :=
  proposed.filter fun x => d.sessions.all fun y => y.acct_unique_id != x.acct_unique_id

/-- The store after the upsert. -/
def upserted (d : SyncStore) (proposed : List Session) : SyncStore :=
  { d with sessions := d.sessions.map (·.refreshed proposed) ++ inserted d proposed }

/-- The rows that the upsert proposes. -/
def Proposes (w : World) (d : SyncStore) (proposed : List Session) : Prop :=
  (d.accounted w.synced).mapM (fun x => x.1.toSession
    ((w.env .upsert_sessions).session_id x.1.acctuniqueid) x.2) = .ok proposed

variable {proposed : List Session}

theorem Proposes.keys (h : Proposes w d proposed) : proposed.map (·.acct_unique_id) =
    (d.accounted w.synced).map fun a => sessionKey a.1 := by
  apply map_mapM h
  intro a _ y hy
  obtain ⟨_, acct_unique_id, _, -, hid, -, rfl⟩ := toSession_eq_ok.mp hy
  rw [sessionKey, hid]
  rfl

theorem Proposes.ids (h : Proposes w d proposed) : proposed.map (·.id) =
    (d.accounted w.synced).map fun a => (w.env .upsert_sessions).session_id a.1.acctuniqueid := by
  apply map_mapM h
  intro a _ y hy
  obtain ⟨_, _, _, -, -, -, rfl⟩ := toSession_eq_ok.mp hy
  rfl

/-- The ids of the sessions differ after the upsert. -/
theorem Proposes.nodup (h : Proposes w d proposed) (hkeys : (proposed.map (·.acct_unique_id)).Nodup)
    (hids : (d.sessions.map (·.id)).Nodup) (hfresh : w.Fresh d) :
    ((d.sessions ++ inserted d proposed).map (·.id)).Nodup := by
  rw [h.keys] at hkeys
  have hproposed : (proposed.map (·.id)).Nodup := by
    rw [h.ids]
    apply List.Nodup.map_on _ hkeys.of_map
    intro a ha a' ha' heq
    apply List.inj_on_of_nodup_map hkeys ha ha'
    rw [sessionKey, sessionKey, hfresh.differ a ha a' ha' heq]
  rw [List.map_append]
  apply List.Nodup.append hids (hproposed.sublist (List.filter_sublist.map _))
  rw [List.disjoint_left]
  intro id hid hid'
  obtain ⟨x, hx, rfl⟩ := List.mem_map.mp hid
  obtain ⟨y, hy, heq⟩ := List.mem_map.mp hid'
  have hy : y.id ∈ proposed.map (·.id) := List.mem_map_of_mem (List.mem_of_mem_filter hy)
  rw [h.ids] at hy
  obtain ⟨a, ha, hya⟩ := List.mem_map.mp hy
  exact hfresh.new x hx a ha (heq.symm.trans hya.symm)

/-- The upsert goes through exactly when the accounting rows are accepted. -/
theorem upsert_cases (hids : (d.sessions.map (·.id)).Nodup) (hfresh : w.Fresh d) :
    (Accepted w.synced d ∧ ∃ proposed, Proposes w d proposed ∧
      (proposed.map (·.acct_unique_id)).Nodup ∧
      SyncStmt.upsert_sessions.eval (w.env .upsert_sessions) d = .ok ((), upserted d proposed)) ∨
    ¬ Accepted w.synced d ∧
      ∃ e, SyncStmt.upsert_sessions.eval (w.env .upsert_sessions) d = .error e := by
  cases he : SyncStmt.upsert_sessions.eval (w.env .upsert_sessions) d with
  | ok r =>
      left
      obtain ⟨⟨⟩, d'⟩ := r
      obtain ⟨proposed, hproposed, hd⟩ := eval_upsert he
      have hproposes : Proposes w d proposed := hproposed
      obtain ⟨hkeys, -, hd⟩ := upsert_eq_ok.mp hd
      have hrows := mapM_eq_ok_iff.mp ⟨proposed, hproposed⟩
      refine ⟨⟨fun a ha => (converts_iff _).mp (hrows a ha), hproposes.keys ▸ hkeys⟩, proposed,
        hproposes, hkeys, ?_⟩
      rw [upserted, inserted, hd]
  | error e =>
      right
      refine ⟨fun haccepted => ?_, e, rfl⟩
      obtain ⟨proposed, hproposed⟩ := mapM_eq_ok_iff.mpr fun a ha =>
        (converts_iff ((w.env .upsert_sessions).session_id a.1.acctuniqueid)).mpr
          (haccepted.rows a ha)
      have hproposes : Proposes w d proposed := hproposed
      have hkeys : (proposed.map (·.acct_unique_id)).Nodup := by
        rw [hproposes.keys]
        exact haccepted.keys
      have hok := upsert_eq_ok.mpr ⟨hkeys, hproposes.nodup hkeys hids hfresh, rfl⟩
      have hok : SyncStmt.upsert_sessions.eval (w.env .upsert_sessions) d =
          .ok ((), upserted d proposed) := by
        simp only [SyncStmt.eval]
        change ((d.accounted w.synced).mapM _ >>= _) = _
        rw [hproposed]
        change (SyncStmt.upsert d proposed >>= _) = _
        rw [hok]
        rfl
      rw [hok] at he
      cases he

/-- Refreshing changes neither the voucher nor the start of a session. -/
theorem refreshed_key (proposed : List Session) (x : Session) :
    (x.refreshed proposed).voucher_id = x.voucher_id ∧
    (x.refreshed proposed).started_at = x.started_at := by
  rw [Session.refreshed]
  split <;> exact ⟨rfl, rfl⟩

/-- A well-formed row has its session after the upsert. -/
theorem mirrors_upserted (h : Proposes w d proposed)
    (hkeys : (proposed.map (·.acct_unique_id)).Nodup) {a : AcctRow × Voucher}
    (ha : a ∈ d.accounted w.synced) (hform : WellFormed a.1) :
    ∃ x ∈ (upserted d proposed).sessions, Mirrors a.1 x := by
  obtain ⟨y, hy⟩ := (converts_iff ((w.env .upsert_sessions).session_id a.1.acctuniqueid)
    (v := a.2)).mpr ⟨hform.start,
      fun s hs => ⟨s, varchar_of_le (hform.station s hs)⟩, _, varchar_of_le hform.id⟩
  have hmem : y ∈ proposed := (mem_mapM h).mpr ⟨a, ha, hy⟩
  obtain ⟨mac_address, acct_unique_id, started_at, hmac, hid, -, rfl⟩ := toSession_eq_ok.mp hy
  have hid : acct_unique_id = a.1.acctuniqueid :=
    Except.ok.inj (hid.symm.trans (varchar_of_le hform.id))
  have hmac : mac_address = a.1.callingstationid := by
    cases hstation : a.1.callingstationid with
    | none =>
        rw [hstation] at hmac
        cases hmac
        rfl
    | some s =>
        rw [hstation] at hmac
        simp only [Option.mapM_some, varchar_of_le (hform.station s (by simp [hstation])), Functor.map,
          Except.map, Except.ok.injEq] at hmac
        exact hmac.symm
  subst hid hmac
  by_cases hthere : ∃ x ∈ d.sessions, x.acct_unique_id = some a.1.acctuniqueid
  · obtain ⟨x, hx, hxid⟩ := hthere
    refine ⟨_, List.mem_append_left _ (List.mem_map_of_mem hx), ?_⟩
    cases hfind : proposed.find? fun y => y.acct_unique_id == x.acct_unique_id with
    | none =>
        rw [List.find?_eq_none] at hfind
        exact absurd (beq_iff_eq.mpr hxid.symm) (hfind _ hmem)
    | some z =>
        have hz : z.acct_unique_id = x.acct_unique_id := by simpa using List.find?_some hfind
        have heq := List.inj_on_of_nodup_map hkeys (List.mem_of_find?_eq_some hfind) hmem
          (hz.trans hxid)
        rw [Session.refreshed, hfind, heq]
        exact ⟨hxid, rfl, rfl, rfl, le_rfl, le_rfl⟩
  · refine ⟨_, List.mem_append_right _ (List.mem_filter.mpr ⟨hmem, ?_⟩), rfl, rfl, rfl, rfl,
      le_rfl, le_rfl⟩
    rw [List.all_eq_true]
    intro x hx
    exact bne_iff_ne.mpr fun heq => hthere ⟨x, hx, heq⟩

/-- The starts of the sessions of a voucher after the upsert. -/
theorem starts_upserted (h : Proposes w d proposed) {u : Voucher} {start : Timestamptz} :
    (∃ x ∈ (upserted d proposed).sessions, x.voucher_id = u.id ∧ x.started_at = start) ↔
      StartsAt w.synced d u start := by
  constructor
  · rintro ⟨x, hx, hid, hstart⟩
    rcases List.mem_append.mp hx with hx | hx
    · obtain ⟨y, hy, rfl⟩ := List.mem_map.mp hx
      obtain ⟨hvoucher, hstarted⟩ := refreshed_key proposed y
      exact .inl ⟨y, hy, hvoucher ▸ hid, hstarted ▸ hstart⟩
    · obtain ⟨hx, hnew⟩ := List.mem_filter.mp hx
      obtain ⟨a, ha, hconvert⟩ := (mem_mapM h).mp hx
      obtain ⟨_, acct_unique_id, started_at, -, hkey, hstarted, rfl⟩ :=
        toSession_eq_ok.mp hconvert
      refine .inr ⟨a, ha, hid, by rw [hstarted]; exact congrArg some hstart, fun y hy heq => ?_⟩
      rw [sessionKey, hkey] at heq
      exact bne_iff_ne.mp (List.all_eq_true.mp hnew y hy) heq
  · rintro (⟨x, hx, hid, hstart⟩ | ⟨a, ha, hid, hstart, hnew⟩)
    · obtain ⟨hvoucher, hstarted⟩ := refreshed_key proposed x
      exact ⟨_, List.mem_append_left _ (List.mem_map_of_mem hx), hvoucher.trans hid,
        hstarted.trans hstart⟩
    · obtain ⟨y, hy⟩ := mapM_eq_ok_iff.mp ⟨proposed, h⟩ a ha
      have hmem : y ∈ proposed := (mem_mapM h).mpr ⟨a, ha, hy⟩
      obtain ⟨_, acct_unique_id, started_at, -, hkey, hstarted, rfl⟩ := toSession_eq_ok.mp hy
      refine ⟨_, List.mem_append_right _ (List.mem_filter.mpr ⟨hmem, ?_⟩), hid,
        Option.some.inj (hstarted.symm.trans hstart)⟩
      rw [List.all_eq_true]
      intro x hx
      apply bne_iff_ne.mpr
      intro heq
      rw [sessionKey, hkey] at hnew
      exact hnew x hx heq

end Upsert

section Live

/-- A session after reports of the routers. -/
structure RaisedRow (x x' : Session) : Prop where
  voucher_id : x'.voucher_id = x.voucher_id
  started_at : x'.started_at = x.started_at
  acct_unique_id : x'.acct_unique_id = x.acct_unique_id
  mac_address : x'.mac_address = x.mac_address
  ip_address : x'.ip_address = x.ip_address
  ended_at : x'.ended_at = x.ended_at
  uploaded : x.bytes_uploaded ≤ x'.bytes_uploaded
  downloaded : x.bytes_downloaded ≤ x'.bytes_downloaded

/-- The store after reports of the routers. -/
structure Raised (d d' : SyncStore) : Prop where
  others : d'.toVoucherStore = d.toVoucherStore
  forth : ∀ x ∈ d.sessions, ∃ x' ∈ d'.sessions, RaisedRow x x'
  back : ∀ x' ∈ d'.sessions, ∃ x ∈ d.sessions, RaisedRow x x'

theorem RaisedRow.refl (x : Session) : RaisedRow x x := ⟨rfl, rfl, rfl, rfl, rfl, rfl, le_rfl, le_rfl⟩

theorem RaisedRow.trans {x y z : Session} (h : RaisedRow x y) (h' : RaisedRow y z) :
    RaisedRow x z where
  voucher_id := h'.voucher_id.trans h.voucher_id
  started_at := h'.started_at.trans h.started_at
  acct_unique_id := h'.acct_unique_id.trans h.acct_unique_id
  mac_address := h'.mac_address.trans h.mac_address
  ip_address := h'.ip_address.trans h.ip_address
  ended_at := h'.ended_at.trans h.ended_at
  uploaded := h.uploaded.trans h'.uploaded
  downloaded := h.downloaded.trans h'.downloaded

theorem Raised.refl (d : SyncStore) : Raised d d where
  others := rfl
  forth x hx := ⟨x, hx, .refl x⟩
  back x hx := ⟨x, hx, .refl x⟩

theorem Raised.reported (h : Raised d d') (bytes_in bytes_out : ℤ) (voucher_id : UUID) :
    Raised d (d'.reported bytes_in bytes_out voucher_id) where
  others := h.others
  forth x hx := by
    obtain ⟨y, hy, hrow⟩ := h.forth x hx
    refine ⟨_, List.mem_map_of_mem hy, hrow.trans ?_⟩
    split
    · exact ⟨rfl, rfl, rfl, rfl, rfl, rfl, le_max_left _ _, le_max_left _ _⟩
    · exact .refl y
  back x hx := by
    obtain ⟨y, hy, rfl⟩ := List.mem_map.mp hx
    obtain ⟨z, hz, hrow⟩ := h.back y hy
    refine ⟨z, hz, hrow.trans ?_⟩
    split
    · exact ⟨rfl, rfl, rfl, rfl, rfl, rfl, le_max_left _ _, le_max_left _ _⟩
    · exact .refl y

/-- The statements of the loop over the routers. -/
def Live : SyncStmt → Prop
  | .get_active_sessions _ => True
  | .select_voucher_id _ => True
  | .update_live _ _ _ _ => True
  | _ => False

theorem raised_direct {s : SyncStmt} (hs : Live s) {c : Choice Exn SyncEnv} (h : Raised d d') :
    Raised d (syncMachine.direct s c d').2 := by
  cases c with
  | fail e => exact h
  | run v =>
      rcases syncMachine_restores s v d' with ⟨a, d'', hx⟩ | ⟨e, hx⟩
      · change Raised d (syncMachine.exec s v d').2
        rw [hx]
        have he : s.eval v d' = .ok (a, d'') := SyncStmt.exec_eq_ok.mp hx
        cases s with
        | get_active_sessions router =>
            cases he
            exact h
        | select_voucher_id code =>
            cases he
            exact h
        | update_live bytes_in bytes_out voucher_id login =>
            obtain ⟨-, rfl⟩ := eval_update_live.mp he
            exact h.reported _ _ _
        | _ => exact hs.elim
      · change Raised d (syncMachine.exec s v d').2
        rw [hx]
        exact h

/-- The loop over the routers ends, whatever they answer. -/
theorem ends_routers {routers : List Router} : Solo.Ends syncMachine w.fate
    (fun r d' => r = .ok () ∧ Raised d d') (Prog.forEach routers sync_router) d := by
  have hbody : ∀ r ∈ routers, ∀ d', Raised d d' → Solo.Ends syncMachine w.fate
      (fun r d'' => r = .ok () ∧ Raised d d'' ∧ True ∧ ∀ _ : Router, True → True)
      (sync_router r) d' := by
    intro r _ d' h
    apply Solo.Ends.absorb
    have hplain : (run (.get_active_sessions r) >>= fun active_sessions =>
        Prog.forEach active_sessions sync_login).Plain Live := by
      apply Prog.Plain.bind ((Prog.plain_exec _).mpr trivial)
      intro active_sessions
      exact Prog.Plain.forEach fun s_mk _ =>
        login_plain (fun _ => trivial) (fun _ _ _ _ => trivial) s_mk
    apply (Solo.ends_of_plain (P := Raised d) hplain (fun s hs d' h => raised_direct hs h) h).mono
    intro _ d'' h'
    exact ⟨rfl, h', trivial, fun _ _ => trivial⟩
  apply (Solo.ends_forEach (P := fun _ _ => True) (.refl d) hbody).mono
  rintro r d' ⟨hr, hraised, -⟩
  exact ⟨hr, hraised⟩

end Live

section Activation

variable {proposed : List Session} {d₂ : SyncStore}

/-- The starts of the sessions after the upsert and the reports. -/
theorem starts_raised (h : Proposes w d proposed) (hr : Raised (upserted d proposed) d₂)
    {u : Voucher} {start : Timestamptz} :
    (∃ x ∈ d₂.sessions, x.voucher_id = u.id ∧ x.started_at = start) ↔
      StartsAt w.synced d u start := by
  rw [← starts_upserted h]
  constructor
  · rintro ⟨x, hx, hid, hstart⟩
    obtain ⟨y, hy, hrow⟩ := hr.back x hx
    exact ⟨y, hy, hrow.voucher_id.symm.trans hid, hrow.started_at.symm.trans hstart⟩
  · rintro ⟨x, hx, hid, hstart⟩
    obtain ⟨y, hy, hrow⟩ := hr.forth x hx
    exact ⟨y, hy, hrow.voucher_id.trans hid, hrow.started_at.trans hstart⟩

/-- The first start is one of the starts, and none is earlier. -/
theorem first_start_eq_some {id : UUID} {start : Timestamptz} :
    d.first_start id = some start ↔
      (∃ x ∈ d.sessions, x.voucher_id = id ∧ x.started_at = start) ∧
        ∀ x ∈ d.sessions, x.voucher_id = id → start ≤ x.started_at := by
  rw [SyncStore.first_start, List.min?_eq_some_iff]
  simp only [List.mem_map, List.mem_filter, beq_iff_eq]
  constructor
  · rintro ⟨⟨x, ⟨hx, hid⟩, hstart⟩, hleast⟩
    exact ⟨⟨x, hx, hid, hstart⟩, fun y hy hyid => hleast _ ⟨y, ⟨hy, hyid⟩, rfl⟩⟩
  · rintro ⟨⟨x, hx, hid, hstart⟩, hleast⟩
    refine ⟨⟨x, ⟨hx, hid⟩, hstart⟩, ?_⟩
    rintro _ ⟨y, ⟨hy, hyid⟩, rfl⟩
    exact hleast y hy hyid

/-- The activation goes through exactly when the expiry times are in range. -/
theorem activates_iff (hkeys : Keys d) (h : Proposes w d proposed)
    (hr : Raised (upserted d proposed) d₂) :
    (∀ u ∈ d₂.vouchers, ∀ c, d₂.clock u = some c → c.2 < endTimestamp) ↔ InRange w.synced d := by
  have hothers : d₂.toVoucherStore = d.toVoucherStore := hr.others
  have hvouchers : d₂.vouchers = d.vouchers := by rw [hothers]
  have hpackages : d₂.packages = d.packages := by rw [hothers]
  rw [hvouchers]
  constructor
  · intro hall u hu hunset p hp hpid hstarts
    obtain ⟨start, hstart⟩ := hstarts
    obtain ⟨x, hx, hid, -⟩ := (starts_raised h hr).mpr hstart
    cases hfirst : d₂.first_start u.id with
    | none => exact absurd hid (first_start_eq_none.mp hfirst x hx)
    | some first =>
        refine ⟨first, (starts_raised h hr).mp (first_start_eq_some.mp hfirst).1, ?_⟩
        have hfind : d₂.packages.find? (fun p => p.id == u.package_id) = some p := by
          rw [hpackages, List.find?_eq_some_iff_append]
          obtain ⟨before, after, hsplit⟩ := List.append_of_mem hp
          refine ⟨by simp [hpid], before, after, hsplit, fun q hq => ?_⟩
          have hne : q.id ≠ p.id := by
            have hnodup := hkeys.packages
            rw [hsplit, List.map_append, List.map_cons, List.nodup_append] at hnodup
            exact hnodup.2.2 _ (List.mem_map_of_mem hq) _ List.mem_cons_self
          simp [← hpid, hne]
        exact hall u hu (first, first + p.duration_minutes * minute)
          (clock_eq_some.mpr ⟨hunset, hfirst, p, hfind, rfl⟩)
  · intro hrange u hu c hc
    obtain ⟨hunset, hfirst, p, hp, hend⟩ := clock_eq_some.mp hc
    have hp' : p ∈ d.packages := by
      rw [← hpackages]
      exact List.mem_of_find?_eq_some hp
    have hpid : p.id = u.package_id := by simpa using List.find?_some hp
    obtain ⟨hthere, hleast⟩ := first_start_eq_some.mp hfirst
    obtain ⟨start, hstart, hlt⟩ := hrange u hu hunset p hp' hpid
      ⟨_, (starts_raised h hr).mp hthere⟩
    obtain ⟨x, hx, hid, rfl⟩ := (starts_raised h hr).mpr hstart
    have hle := hleast x hx hid
    rw [hend]
    linarith

end Activation

section Expiry

/-- The expiry of one voucher leaves the vouchers and the sessions alone, and deletes its RADIUS
rows. -/
structure Withdrawing (d d' : SyncStore) : Prop where
  vouchers : d'.vouchers = d.vouchers
  sessions : d'.sessions = d.sessions

/-- A query of the loop. -/
theorem ends_query {α : Type} {Q : Except Exn α → SyncStore → Prop} {q : VoucherQuery}
    {f : q.Res → VoucherM α} {a : q.Res} {x : VoucherStore}
    (hup : mayFail (.voucher ⟨.sync, q⟩) = false)
    (he : q.eval (w.env (.voucher ⟨.sync, q⟩)).toEnv d.toVoucherStore = .ok (a, x))
    (h : Solo.Ends syncMachine w.fate Q (vouchers (f a)) { d with toVoucherStore := x }) :
    Solo.Ends syncMachine w.fate Q (vouchers (query .sync q >>= f)) d := by
  change Solo.Ends syncMachine w.fate Q (Prog.embed SyncStmt.voucher (query .sync q >>= f)) d
  rw [Prog.embed_bind]
  refine Solo.ends_exec_bind (w.direct_ok (a := a) hup ?_) h
  simp only [SyncStmt.eval, he]
  rfl

/-- A query that only reads. -/
theorem ends_reads {α : Type} {Q : Except Exn α → SyncStore → Prop} {q : VoucherQuery}
    {f : q.Res → VoucherM α} (hup : mayFail (.voucher ⟨.sync, q⟩) = false)
    (hq : ∀ v x, ∃ a, q.eval v x = .ok (a, x))
    (h : ∀ a, Solo.Ends syncMachine w.fate Q (vouchers (f a)) d) :
    Solo.Ends syncMachine w.fate Q (vouchers (query .sync q >>= f)) d := by
  obtain ⟨a, ha⟩ := hq (w.env (.voucher ⟨.sync, q⟩)).toEnv d.toVoucherStore
  exact ends_query hup ha (h a)

variable {Q : Except Exn Unit → SyncStore → Prop}

theorem ends_remove (router : Option Router) (code : String) (hQ : Q (.ok ()) d) :
    Solo.Ends syncMachine w.fate Q (vouchers (remove_session .sync router code)) d := by
  change Solo.Ends syncMachine w.fate Q (Prog.embed SyncStmt.voucher (Prog.handle
    (query .sync (.remove_active_hotspot_session router code)) _)) d
  rw [Prog.embed_handle]
  apply Solo.Ends.handle (B := fun _ d' => d' = d)
  · refine Solo.ends_exec (R := SyncStmt.Res)
      (s := .voucher ⟨.sync, .remove_active_hotspot_session router code⟩) ?_
    cases w.fate.stmt (.voucher ⟨.sync, .remove_active_hotspot_session router code⟩) with
    | run v => rfl
    | fail e => rfl
  · rintro r d' rfl
    cases r with
    | ok a => exact Solo.ends_ret hQ
    | error e => exact Solo.ends_ret hQ

/-- The router is looked up. -/
theorem ends_lookup {host : Option String} {router_id : Option UUID} :
    Solo.Ends syncMachine w.fate (fun r d' => r.isOk = true ∧ d' = d)
      (vouchers (find_router host router_id)) d := by
  have hid : Solo.Ends syncMachine w.fate (fun r d' => r.isOk = true ∧ d' = d)
      (vouchers (find_router none router_id)) d := by
    cases router_id with
    | none => exact Solo.ends_ret ⟨rfl, rfl⟩
    | some router_id =>
        refine Solo.ends_exec (R := SyncStmt.Res)
          (s := .voucher ⟨.sync, .select_router_id router_id⟩) ?_
        rw [w.direct_ok (x := d) rfl rfl]
        exact ⟨rfl, rfl⟩
  cases host with
  | none => exact hid
  | some host =>
      refine ends_reads (q := .select_router_host host) rfl (fun _ _ => ⟨_, rfl⟩) fun by_host => ?_
      cases by_host with
      | none => exact hid
      | some router => exact Solo.ends_ret ⟨rfl, rfl⟩

theorem ends_find_router {f : Option Router → VoucherM Unit} {host : Option String}
    {router_id : Option UUID} (h : ∀ r, Solo.Ends syncMachine w.fate Q (vouchers (f r)) d) :
    Solo.Ends syncMachine w.fate Q (vouchers (find_router host router_id >>= f)) d := by
  change Solo.Ends syncMachine w.fate Q
    (Prog.embed SyncStmt.voucher (find_router host router_id >>= f)) d
  rw [Prog.embed_bind]
  apply Solo.Ends.bind ends_lookup
  · rintro router d' ⟨-, rfl⟩
    exact h router
  · rintro e d' ⟨h, -⟩
    cases h

/-- The session of an expired voucher is looked for, and nothing in the database changes. -/
theorem ends_disconnect (u : Voucher) (hQ : Q (.ok ()) d) :
    Solo.Ends syncMachine w.fate Q (vouchers (disconnect_expired u)) d := by
  apply ends_reads rfl (fun _ _ => ⟨_, rfl⟩)
  intro active_session
  cases active_session with
  | none =>
      apply ends_reads rfl (fun _ _ => ⟨_, rfl⟩)
      intro last_session
      exact ends_find_router fun router => ends_remove router _ hQ
  | some active_session =>
      apply ends_reads rfl (fun _ _ => ⟨_, rfl⟩)
      intro coa_success
      cases coa_success with
      | true => exact Solo.ends_ret hQ
      | false => exact ends_find_router fun router => ends_remove router _ hQ

/-- The rows of the voucher in one of the tables are deleted. -/
theorem ends_delete {α : Type} {Q : Except Exn α → SyncStore → Prop} {t : RadiusTable}
    {code : String} {tenant_id : UUID} {f : Unit → VoucherM α}
    (h : Solo.Ends syncMachine w.fate Q (vouchers (f ()))
      { d with toVoucherStore := VoucherWithdrawal.deleted d.toVoucherStore t code tenant_id }) :
    Solo.Ends syncMachine w.fate Q (vouchers (delete_expired t code (some tenant_id) >>= f)) d :=
  ends_query (q := .base (.delete_radius t code tenant_id)) rfl rfl h

open VoucherWithdrawal in
theorem bare_deleted {x : VoucherStore} {u : Voucher} {t : RadiusTable} {code : String}
    {tenant_id : UUID} (h : Bare x.toStore u) : Bare (deleted x t code tenant_id).toStore u := by
  intro r
  by_contra hrows
  exact (credentials_deleted hrows).1 (h r)

open VoucherWithdrawal in
/-- Once the rows of both tables are deleted, none is left. -/
theorem bare_twice {x : VoucherStore} {u : Voucher} :
    Bare (deleted (deleted x .radcheck u.code u.tenant_id) .radreply u.code u.tenant_id).toStore
      u := by
  intro r
  by_contra hrows
  obtain ⟨hrows', hreply⟩ := credentials_deleted hrows
  obtain ⟨-, hcheck⟩ := credentials_deleted hrows'
  cases r with
  | radcheck => exact hcheck rfl
  | radreply => exact hreply rfl

open VoucherWithdrawal in
/-- The loop of the expiry step, for one voucher. -/
theorem ends_withdraw {u : Voucher} (hids : (d.vouchers.map (·.id)).Nodup)
    (hu : ∃ u₀ ∈ d.vouchers, u₀.id = u.id ∧ u₀.tenant_id = u.tenant_id) :
    Solo.Ends syncMachine w.fate (fun r d' => r = .ok () ∧ Withdrawing d d' ∧ Bare d'.toStore u ∧
      ∀ u', Bare d.toStore u' → Bare d'.toStore u') (vouchers (withdraw_expired u)) d := by
  obtain ⟨u₀, hu₀, hid, htenant⟩ := hu
  have htenant' : ∀ v : Env, (fetchrow v.pick (fun x => x.id == u.id) d.vouchers).map
      (·.tenant_id) = some u.tenant_id := by
    intro v
    cases hrow : fetchrow v.pick (fun x => x.id == u.id) d.vouchers with
    | none => exact absurd (beq_iff_eq.mpr hid) (fetchrow_eq_none.mp hrow u₀ hu₀)
    | some u₁ =>
        obtain ⟨hu₁, hid₁⟩ := fetchrow_eq_some hrow
        have heq := List.inj_on_of_nodup_map hids hu₁ hu₀ ((beq_iff_eq.mp hid₁).trans hid.symm)
        rw [Option.map_some, heq, htenant]
  refine ends_query (q := .select_tenant u.id) (a := some u.tenant_id) (x := d.toVoucherStore) rfl
    ?_ ?_
  · simp only [VoucherQuery.eval, htenant']
    rfl
  · apply ends_delete
    apply ends_delete
    apply ends_disconnect
    refine ⟨rfl, ⟨?_, rfl⟩, bare_twice, fun _ h => bare_deleted (bare_deleted h)⟩
    exact vouchers_deleted.trans vouchers_deleted

end Expiry

section Run

open VoucherWithdrawal in
/-- The vouchers whose time is over are withdrawn. -/
theorem ends_expiry (hids : (d.vouchers.map (·.id)).Nodup) : Solo.Ends syncMachine w.fate
    (fun _ d' => d'.sessions = d.sessions ∧
      d'.vouchers = (d.setStatus (·.isDue w.expired) .expired).vouchers ∧
      ∀ u ∈ d.vouchers, u.isDue w.expired = true →
        Bare d'.toStore { u with status := .expired })
    (vouchers (query .sync .expire_vouchers) >>= fun expired_vouchers =>
      Prog.forEach expired_vouchers fun u => vouchers (withdraw_expired u)) d := by
  let d₁ : SyncStore := { d with toVoucherStore := d.setStatus (·.isDue w.expired) .expired }
  let list := (d.vouchers.filter (·.isDue w.expired)).map fun u => { u with status := .expired }
  have hids₁ : (d₁.vouchers.map (·.id)).Nodup := by
    change ((d.toVoucherStore.setStatus _ _).vouchers.map _).Nodup
    rwa [ids_setStatus]
  have hbody : ∀ u ∈ list, ∀ d', Withdrawing d₁ d' → Solo.Ends syncMachine w.fate
      (fun r d'' => r = .ok () ∧ Withdrawing d₁ d'' ∧ Bare d''.toStore u ∧
        ∀ u', Bare d'.toStore u' → Bare d''.toStore u') (vouchers (withdraw_expired u)) d' := by
    intro u hu d' h
    obtain ⟨u₀, hu₀, rfl⟩ := List.mem_map.mp hu
    obtain ⟨hmem, hdue⟩ := List.mem_filter.mp hu₀
    have hthere : { u₀ with status := .expired } ∈ d₁.vouchers :=
      List.mem_map.mpr ⟨u₀, hmem, by rw [if_pos hdue]⟩
    apply (ends_withdraw (h.vouchers ▸ hids₁) ⟨_, h.vouchers ▸ hthere, rfl, rfl⟩).mono
    rintro r d'' ⟨hr, h', hbare, hkeep⟩
    exact ⟨hr, ⟨h'.vouchers.trans h.vouchers, h'.sessions.trans h.sessions⟩, hbare, hkeep⟩
  refine Solo.ends_exec_bind (R := SyncStmt.Res) (s := .voucher ⟨.sync, .expire_vouchers⟩)
    (w.direct_ok (a := list) (x := d₁) rfl rfl) ?_
  apply (Solo.ends_forEach (I := Withdrawing d₁) (P := fun u d' => Bare d'.toStore u)
    ⟨rfl, rfl⟩ hbody).mono
  rintro r d' ⟨-, h, hall, -⟩
  refine ⟨h.sessions, h.vouchers, fun u hu hdue => hall _ ?_⟩
  exact List.mem_map_of_mem (List.mem_filter.mpr ⟨hu, hdue⟩)

variable {proposed : List Session} {d₂ : SyncStore}

/-- Reports keep what the upsert has done for the well-formed rows. -/
theorem mirrors_raised (h : Proposes w d proposed)
    (hkeys : (proposed.map (·.acct_unique_id)).Nodup) (hr : Raised (upserted d proposed) d₂)
    {a : AcctRow × Voucher} (ha : a ∈ d.accounted w.synced) (hform : WellFormed a.1) :
    ∃ x ∈ d₂.sessions, Mirrors a.1 x := by
  obtain ⟨x, hx, hm⟩ := mirrors_upserted h hkeys ha hform
  obtain ⟨x', hx', hrow⟩ := hr.forth x hx
  exact ⟨x', hx', hrow.acct_unique_id.trans hm.id, hrow.mac_address.trans hm.mac_address,
    hrow.ip_address.trans hm.ip_address, hrow.ended_at.trans hm.ended_at,
    hm.uploaded.trans hrow.uploaded, hm.downloaded.trans hrow.downloaded⟩

/-- A run that comes to its end has done its work. -/
theorem inSync_of_expired (hkeys : Keys d) (htogether : Together d) (h : Proposes w d proposed)
    (hunique : (proposed.map (·.acct_unique_id)).Nodup) (hr : Raised (upserted d proposed) d₂)
    {d₃ d' : SyncStore} (hd₃ : { d₂ with vouchers := d₂.vouchers.map d₂.started } = d₃)
    (hsessions : d'.sessions = d₃.sessions)
    (hvouchers : d'.vouchers = (d₃.setStatus (·.isDue w.expired) .expired).vouchers)
    (hbare : ∀ u ∈ d₃.vouchers, u.isDue w.expired = true →
      VoucherWithdrawal.Bare d'.toStore { u with status := .expired }) :
    InSync w.synced w.expired d d' := by
  have hothers : d₂.toVoucherStore = d.toVoucherStore := hr.others
  have hkeys₂ : Keys d₂ := by
    apply hkeys.of_faces
    · rw [hothers]
    · rw [hothers]
  have htogether₂ : Together d₂ := by
    apply htogether.of_faces
    rw [hothers]
  have hsessions₂ : d'.sessions = d₂.sessions := by rw [hsessions, ← hd₃]
  have hmem {u' : Voucher} (hu' : u' ∈ d'.vouchers) : ∃ u ∈ d.vouchers,
      u' = if (d₂.started u).isDue w.expired then { d₂.started u with status := .expired }
        else d₂.started u := by
    rw [hvouchers] at hu'
    obtain ⟨u₃, hu₃, rfl⟩ := List.mem_map.mp hu'
    rw [← hd₃] at hu₃
    obtain ⟨u, hu, rfl⟩ := List.mem_map.mp hu₃
    rw [hothers] at hu
    exact ⟨u, hu, rfl⟩
  constructor
  · intro a ha hform
    rw [hsessions₂]
    exact mirrors_raised h hunique hr ha hform
  · rintro u' hu' ⟨x, hx, hid⟩
    obtain ⟨u, hu, rfl⟩ := hmem hu'
    rw [hsessions₂] at hx
    have hset := started_set (d := d₂) hkeys₂ htogether₂ (w := u) (by rwa [hothers]) hx
    by_cases hdue : (d₂.started u).isDue w.expired = true
    · rw [if_pos hdue] at hid ⊢
      exact hset (hid.trans (started_key u).1)
    · rw [if_neg hdue] at hid ⊢
      exact hset (hid.trans (started_key u).1)
  · rintro u hu hstatus u' hu' hid ⟨e, hexpires, hle⟩
    obtain ⟨u₁, hu₁, rfl⟩ := hmem hu'
    have heq : u₁ = u := by
      apply List.inj_on_of_nodup_map hkeys.vouchers hu₁ hu
      split at hid
      · exact (started_key u₁).1.symm.trans hid
      · exact (started_key u₁).1.symm.trans hid
    subst heq
    have hdue : (d₂.started u₁).isDue w.expired = true := by
      have hexpires : (d₂.started u₁).expires_at = some e := by
        split at hexpires <;> exact hexpires
      simp only [Voucher.isDue, (started_key u₁).2.2, hexpires, Option.any_some, decide_eq_true hle,
        Bool.and_true, Bool.or_eq_true, beq_iff_eq]
      exact hstatus
    rw [if_pos hdue]
    refine ⟨rfl, hbare _ ?_ hdue⟩
    rw [← hd₃]
    refine List.mem_map_of_mem (f := d₂.started) ?_
    rwa [hothers]

/-- What follows an upsert that goes through. -/
theorem ends_after_upsert (hkeys : Keys d) (htogether : Together d) (h : Proposes w d proposed)
    (hunique : (proposed.map (·.acct_unique_id)).Nodup) : Solo.Ends syncMachine w.fate
    (fun _ d' => InSync w.synced w.expired d d' ↔ InRange w.synced d) after_upsert
      (upserted d proposed) := by
  refine Solo.ends_exec_bind (R := SyncStmt.Res) (s := .select_online_routers)
    (w.direct_ok (x := upserted d proposed) rfl rfl) ?_
  apply Solo.Ends.bind ends_routers
  · rintro _ d₂ ⟨-, hr⟩
    have hiff := activates_iff hkeys h hr
    have hothers : d₂.toVoucherStore = d.toVoucherStore := hr.others
    by_cases hrange : InRange w.synced d
    · have hactivate := eval_activate (v := w.env .activate_vouchers).mpr ⟨hiff.mpr hrange, rfl⟩
      refine Solo.ends_exec_bind (R := SyncStmt.Res) (s := .activate_vouchers)
        (w.direct_ok rfl hactivate) ?_
      have hids : ((d₂.vouchers.map d₂.started).map (·.id)).Nodup := by
        have hsame : (d₂.vouchers.map d₂.started).map (·.id) = d.vouchers.map (·.id) := by
          rw [List.map_map, hothers]
          apply List.map_congr_left
          intro u _
          exact (started_key u).1
        rw [hsame]
        exact hkeys.vouchers
      apply (ends_expiry hids).mono
      rintro _ d' ⟨hsessions, hvouchers, hbare⟩
      exact iff_of_true (inSync_of_expired hkeys htogether h hunique hr rfl hsessions hvouchers
        hbare) hrange
    · cases he : SyncStmt.activate_vouchers.eval (w.env .activate_vouchers) d₂ with
      | ok r =>
          obtain ⟨⟨⟩, d'⟩ := r
          have hactivate := eval_activate.mp he
          exact absurd (hiff.mp hactivate.1) hrange
      | error e =>
          refine Solo.ends_exec_bind_error (R := SyncStmt.Res) (s := .activate_vouchers)
            (w.direct_error rfl he) ?_
          apply iff_of_false _ hrange
          intro hsync
          apply hrange
          intro u hu hunset p hp hpid hstarts
          obtain ⟨start, hstart⟩ := hstarts
          obtain ⟨x, hx, hid, -⟩ := (starts_raised h hr).mpr hstart
          exact absurd hunset (hsync.activated u (by rwa [hothers]) ⟨x, hx, hid⟩).1
  · rintro e d' ⟨h, -⟩
    cases h

end Run

/-- A run of the sync does its work exactly when every accounting row that it looks at can be
converted and the expiry times are in range, or when a row stops it and nothing was to be done. -/
theorem run_inSync_iff {w : World} {d : SyncStore} (hkeys : Keys d) (htogether : Together d)
    (hids : (d.sessions.map (·.id)).Nodup) (hfresh : w.Fresh d) :
    InSync w.synced w.expired d (w.run d) ↔
      Accepted w.synced d ∧ InRange w.synced d ∨
        ¬ Accepted w.synced d ∧ InSync w.synced w.expired d d := by
  have hends : Solo.Ends syncMachine w.fate (fun _ d' => InSync w.synced w.expired d d' ↔
      Accepted w.synced d ∧ InRange w.synced d ∨
        ¬ Accepted w.synced d ∧ InSync w.synced w.expired d d) sync_radius_sessions_cron d := by
    apply Solo.Ends.absorb
    rcases upsert_cases (w := w) hids hfresh with
      ⟨haccepted, proposed, hproposes, hunique, he⟩ | ⟨hrefused, e, he⟩
    · refine Solo.ends_exec_bind (R := SyncStmt.Res) (s := .upsert_sessions)
        (w.direct_ok rfl he) ?_
      apply (ends_after_upsert hkeys htogether hproposes hunique).mono
      intro _ d' hiff
      rw [hiff]
      simp [haccepted]
    · refine Solo.ends_exec_bind_error (R := SyncStmt.Res) (s := .upsert_sessions)
        (w.direct_error rfl he) ?_
      simp [hrefused]
  exact hends.store

/-- Every statement answers at the same time. -/
def calm (now : Timestamptz) : World where
  fate := { stmt := fun _ => .run { now }, commit := .run {} }
  up _ _ := rfl

/-- The session of the voucher has begun. -/
theorem inSync_sold : InSync 10 10 sold ((calm 10).run sold) := by
  have hfresh : (calm 10).Fresh sold := by
    constructor
    · intro a ha a' ha' _
      rw [List.mem_singleton.mp ha, List.mem_singleton.mp ha']
    · intro x hx
      cases hx
  refine (run_inSync_iff keys_sold together_sold List.nodup_nil hfresh).mpr (.inl ⟨⟨?_, ?_⟩, ?_⟩)
  · intro a ha
    rw [List.mem_singleton.mp ha]
    refine ⟨by decide, ?_, _, varchar_of_le (by decide)⟩
    intro s hs
    cases hs
  · exact List.nodup_singleton _
  · intro u hu _ p hp _ _
    cases List.mem_singleton.mp hu
    cases List.mem_singleton.mp hp
    exact ⟨5, .inr ⟨_, List.mem_singleton_self _, rfl, rfl, fun x hx => (by cases hx)⟩, by decide⟩

/-- Beside it, the accounting row of another voucher without a start time. -/
def broken : SyncStore :=
  { sold with
    vouchers := [unused, { unused with id := 9, payment_id := 10, code := "Q2WX7RTN4H" }]
    radacct := [first_login, { acctsessionid := "80c00004", acctuniqueid := "77aa"
                               username := some "Q2WX7RTN4H", router_ip := "10.8.0.3" }] }

/-- The row without a start time keeps the session of the other voucher from being recorded. -/
theorem not_inSync : ¬ ∀ (w : World) (d : SyncStore), Keys d → Together d →
    (d.sessions.map (·.id)).Nodup → w.Fresh d → InSync w.synced w.expired d (w.run d) := by
  intro h
  have hkeys : Keys broken := by constructor <;> decide
  have htogether : Together broken := by
    intro u hu
    have hnone : u.activated_at = none ∧ u.expires_at = none := by
      revert u
      decide
    simp [hnone]
  let ids : World :=
    { fate :=
        { stmt := fun _ => .run { now := 10, session_id := fun k => if k = "77aa" then 1 else 0 }
          commit := .run {} }
      up := fun _ _ => rfl }
  have hfresh : ids.Fresh broken := by
    constructor
    · decide
    · intro x hx
      cases hx
  have hsync := h ids broken hkeys htogether List.nodup_nil hfresh
  obtain ⟨x, hx, -⟩ := hsync.upserted (first_login, unused) (by decide)
    ⟨by decide, fun s hs => (by cases hs), by decide⟩
  have hempty : (ids.run broken).sessions = [] := by decide +kernel
  rw [hempty] at hx
  cases hx

end SessionSync

end FrixelConnect
