import FrixelConnect.SessionSteps

/-!
# The clock of a voucher

The times of a voucher are set once: by the first activation that goes through and finds a session
of it, to the start of its first session and the end of what its package lasts at that moment.
Syncs, retries, revocations and edits of packages may run in any order and at the same time, while
the accounting rows change arbitrarily and vouchers are sold.
-/

namespace FrixelConnect

open Calendar Interleaving

namespace SessionSync

/-- The columns that the clock of a voucher consists of. -/
def face (w : Voucher) : UUID × UUID × Option Timestamptz × Option Timestamptz :=
  (w.id, w.package_id, w.activated_at, w.expires_at)

/-- The two times of a voucher are set together. -/
def Together (d : SyncStore) : Prop :=
  ∀ w ∈ d.vouchers, w.activated_at = none ↔ w.expires_at = none

/-- The keys of the schema. -/
structure Keys (d : SyncStore) : Prop where
  vouchers : (d.vouchers.map (·.id)).Nodup
  packages : (d.packages.map (·.id)).Nodup
  package : ∀ w ∈ d.vouchers, w.package_id ∈ d.packages.map (·.id)

/-- What happens outside of the calls: vouchers are sold and packages are created. Everything but
the vouchers and the packages that are there may change in any way. -/
def clockRules : SyncRules where
  edit d d' := Keys d' ∧ ∃ sold, d'.vouchers = d.vouchers ++ sold ∧
    ∀ w ∈ sold, w.activated_at = none ∧ w.expires_at = none

/-- A voucher keeps its package, and its times once they are set. -/
def Stays (d d' : SyncStore) : Prop := ∀ w ∈ d.vouchers, ∃ w' ∈ d'.vouchers, w'.id = w.id ∧
  w'.package_id = w.package_id ∧ (w.activated_at ≠ none → face w' = face w)

variable {d d' d'' : SyncStore} {v : SyncEnv}

theorem Stays.of_faces (h : d'.vouchers.map face = d.vouchers.map face) : Stays d d' := by
  intro w hw
  have hface : face w ∈ d'.vouchers.map face := by
    rw [h]
    exact List.mem_map_of_mem hw
  obtain ⟨w', hw', heq⟩ := List.mem_map.mp hface
  simp only [face, Prod.mk.injEq] at heq
  exact ⟨w', hw', heq.1, heq.2.1, fun _ => by simp [face, heq]⟩

theorem Stays.trans (h : Stays d d') (h' : Stays d' d'') : Stays d d'' := by
  intro w hw
  obtain ⟨w', hw', hid, hpackage, hface⟩ := h w hw
  obtain ⟨w'', hw'', hid', hpackage', hface'⟩ := h' w' hw'
  refine ⟨w'', hw'', hid'.trans hid, hpackage'.trans hpackage, fun hset => ?_⟩
  have heq := hface hset
  have hset' : w'.activated_at ≠ none := by
    simp only [face, Prod.mk.injEq] at heq
    rwa [heq.2.2.1]
  exact (hface' hset').trans heq

section Statements

theorem faces_setStatus {p : Voucher → Bool} {status : VoucherStatus} :
    (updateRows p (fun w => { w with status }) d.vouchers).map face = d.vouchers.map face := by
  simp only [updateRows, List.map_map]
  apply List.map_congr_left
  intro w _
  by_cases hp : p w = true <;> simp [hp, face]

/-- Every statement but the activation keeps the clocks. -/
theorem faces_kept {s : SyncStmt} {a : s.Res} (hs : Used s) (hne : s ≠ .activate_vouchers)
    (h : s.eval v d = .ok (a, d')) : d'.vouchers.map face = d.vouchers.map face ∧
      d'.packages.map (·.id) = d.packages.map (·.id) := by
  cases s with
  | voucher s =>
      obtain ⟨-, hpackages, hsame | ⟨p, status, rfl, -⟩⟩ := eval_voucher hs h
      · exact ⟨by rw [hsame], by rw [hpackages]⟩
      · exact ⟨faces_setStatus, rfl⟩
  | upsert_sessions =>
      obtain ⟨proposed, -, hd⟩ := eval_upsert h
      obtain ⟨-, -, rfl⟩ := upsert_eq_ok.mp hd
      exact ⟨rfl, rfl⟩
  | update_live i o u l =>
      obtain ⟨-, rfl⟩ := eval_update_live.mp h
      exact ⟨rfl, rfl⟩
  | activate_vouchers => exact absurd rfl hne
  | _ =>
      obtain ⟨hvouchers, -, hpackages⟩ := eval_other (by simp) h
      exact ⟨by rw [hvouchers], hpackages⟩

/-- The times that the activation gives. -/
theorem clock_eq_some {w : Voucher} {t : Timestamptz × Timestamptz} : d.clock w = some t ↔
    w.activated_at = none ∧ d.first_start w.id = some t.1 ∧
      ∃ p, d.packages.find? (fun p => p.id == w.package_id) = some p ∧
        t.2 = t.1 + p.duration_minutes * minute := by
  obtain ⟨t₁, t₂⟩ := t
  unfold SyncStore.clock
  constructor
  · intro h
    split at h
    · next first_start p hactivated hstart hpackage =>
        cases h
        exact ⟨hactivated, hstart, p, hpackage, rfl⟩
    · cases h
  · rintro ⟨hactivated, hstart, p, hpackage, hend⟩
    dsimp only at hstart hend
    subst hend
    simp only [hactivated, hstart, hpackage]

theorem started_of_clock {w : Voucher} {t : Timestamptz × Timestamptz} (h : d.clock w = some t) :
    d.started w = { w with activated_at := some t.1, expires_at := some t.2 } := by
  rw [SyncStore.started, h]

theorem started_of_none {w : Voucher} (h : d.clock w = none) : d.started w = w := by
  rw [SyncStore.started, h]

theorem started_key (w : Voucher) : (d.started w).id = w.id ∧
    (d.started w).package_id = w.package_id ∧ (d.started w).status = w.status := by
  cases h : d.clock w with
  | none =>
      rw [started_of_none h]
      exact ⟨rfl, rfl, rfl⟩
  | some t =>
      rw [started_of_clock h]
      exact ⟨rfl, rfl, rfl⟩

/-- A voucher that has its times keeps them. -/
theorem started_of_set {w : Voucher} (h : w.activated_at ≠ none) : d.started w = w := by
  apply started_of_none
  cases hclock : d.clock w with
  | none => rfl
  | some t => exact absurd (clock_eq_some.mp hclock).1 h

end Statements

section Steps

theorem Keys.of_faces (h : Keys d) (hfaces : d'.vouchers.map face = d.vouchers.map face)
    (hpackages : d'.packages.map (·.id) = d.packages.map (·.id)) : Keys d' where
  vouchers := by
    have hids : d'.vouchers.map (·.id) = d.vouchers.map (·.id) :=
      calc d'.vouchers.map (·.id)
        _ = (d'.vouchers.map face).map (·.1) := by rw [List.map_map]; rfl
        _ = (d.vouchers.map face).map (·.1) := by rw [hfaces]
        _ = d.vouchers.map (·.id) := by rw [List.map_map]; rfl
    rw [hids]
    exact h.vouchers
  packages := by
    rw [hpackages]
    exact h.packages
  package w hw := by
    have hface : face w ∈ d.vouchers.map face := by
      rw [← hfaces]
      exact List.mem_map_of_mem hw
    obtain ⟨w₀, hw₀, heq⟩ := List.mem_map.mp hface
    simp only [face, Prod.mk.injEq] at heq
    rw [hpackages, ← heq.2.1]
    exact h.package w₀ hw₀

theorem Together.of_faces (h : Together d) (hfaces : d'.vouchers.map face = d.vouchers.map face) :
    Together d' := by
  intro w hw
  have hface : face w ∈ d.vouchers.map face := by
    rw [← hfaces]
    exact List.mem_map_of_mem hw
  obtain ⟨w₀, hw₀, heq⟩ := List.mem_map.mp hface
  simp only [face, Prod.mk.injEq] at heq
  rw [← heq.2.2.1, ← heq.2.2.2]
  exact h w₀ hw₀

/-- What the activation does. -/
theorem activation_kept (h : Keys d) (ht : Together d) :
    Keys { d with vouchers := d.vouchers.map d.started } ∧
      Together { d with vouchers := d.vouchers.map d.started } ∧
      Stays d { d with vouchers := d.vouchers.map d.started } := by
  refine ⟨⟨?_, h.packages, ?_⟩, ?_, ?_⟩
  · have hids : (d.vouchers.map d.started).map (·.id) = d.vouchers.map (·.id) := by
      rw [List.map_map]
      apply List.map_congr_left
      intro w _
      exact (started_key w).1
    rw [hids]
    exact h.vouchers
  · intro w' hw'
    obtain ⟨w, hw, rfl⟩ := List.mem_map.mp hw'
    rw [(started_key w).2.1]
    exact h.package w hw
  · intro w' hw'
    obtain ⟨w, hw, rfl⟩ := List.mem_map.mp hw'
    cases hclock : d.clock w with
    | none =>
        rw [started_of_none hclock]
        exact ht w hw
    | some t =>
        rw [started_of_clock hclock]
        simp
  · intro w hw
    refine ⟨d.started w, List.mem_map_of_mem hw, (started_key w).1, (started_key w).2.1, ?_⟩
    intro hset
    rw [started_of_set hset]

theorem clock_rule : DirectRule syncSystem clockRules Used (fun d => Keys d ∧ Together d)
    Stays where
  toDirect := syncSystem_direct
  refl d := .of_faces rfl
  trans d d' d'' := .trans
  edit d d' h hI := by
    obtain ⟨hkeys, sold, hvouchers, hsold⟩ := h
    refine ⟨⟨hkeys, fun w hw => ?_⟩, fun w hw => ?_⟩
    · rw [hvouchers] at hw
      rcases List.mem_append.mp hw with hw | hw
      · exact hI.2 w hw
      · simp [hsold w hw]
    · refine ⟨w, ?_, rfl, rfl, fun _ => rfl⟩
      rw [hvouchers]
      exact List.mem_append_left _ hw
  stmt s v a d d' hs _ hI hx := by
    have he : s.eval v d = .ok (a, d') := SyncStmt.exec_eq_ok.mp hx
    by_cases hact : s = .activate_vouchers
    · subst hact
      obtain ⟨-, rfl⟩ := eval_activate.mp he
      obtain ⟨hkeys, htogether, hstays⟩ := activation_kept hI.1 hI.2
      exact ⟨⟨hkeys, htogether⟩, hstays⟩
    · obtain ⟨hfaces, hpackages⟩ := faces_kept hs hact he
      exact ⟨⟨hI.1.of_faces hfaces hpackages, hI.2.of_faces hfaces⟩, .of_faces hfaces⟩

/-- A voucher has a session once it has a first start. -/
theorem first_start_eq_none {id : UUID} :
    d.first_start id = none ↔ ∀ x ∈ d.sessions, x.voucher_id ≠ id := by
  simp [SyncStore.first_start, List.min?_eq_none_iff, List.filter_eq_nil_iff]

/-- The activation sets the times of a voucher with a session, or finds them set. -/
theorem started_set (hkeys : Keys d) (htogether : Together d) {w : Voucher} (hw : w ∈ d.vouchers)
    {x : Session} (hx : x ∈ d.sessions) (hid : x.voucher_id = w.id) :
    (d.started w).activated_at ≠ none ∧ (d.started w).expires_at ≠ none := by
  by_cases hset : w.activated_at = none
  · cases hstart : d.first_start w.id with
    | none => exact absurd hid (first_start_eq_none.mp hstart x hx)
    | some t =>
        have hpackage : ∃ p, d.packages.find? (fun p => p.id == w.package_id) = some p := by
          obtain ⟨p, hp, hpid⟩ := List.mem_map.mp (hkeys.package w hw)
          rw [← Option.isSome_iff_exists, List.find?_isSome]
          exact ⟨p, hp, by simp [hpid]⟩
        obtain ⟨p, hp⟩ := hpackage
        rw [started_of_clock (clock_eq_some (t := (t, t + p.duration_minutes * minute)).mpr
          ⟨hset, hstart, p, hp, rfl⟩)]
        simp
  · rw [started_of_set hset]
    exact ⟨hset, fun h => hset ((htogether w hw).mpr h)⟩

/-- An activation that goes through sets the times of every voucher with a session. -/
theorem activation_finds {s s' : SyncState} (hI : Keys s.store ∧ Together s.store)
    (hx : Executes syncSystem .activate_vouchers v s s') {w : Voucher}
    (hw : w ∈ s.store.vouchers) {x : Session} (hx' : x ∈ s.store.sessions)
    (hid : x.voucher_id = w.id) : ∃ w' ∈ s'.store.vouchers, w'.id = w.id ∧
      w'.activated_at ≠ none ∧ w'.expires_at ≠ none := by
  obtain ⟨i, p, k, a, -, -, -, he⟩ := hx
  obtain ⟨-, hstore⟩ := eval_activate.mp (SyncStmt.exec_eq_ok.mp he)
  rw [← hstore]
  exact ⟨_, List.mem_map_of_mem hw, (started_key w).1, started_set hI.1 hI.2 hw hx' hid⟩

end Steps

/-- The times of the voucher were set in the move from `a` to `b`, by an activation that found a
session of it, and no activation before had found one. -/
structure SetAt (d : SyncStore) (w : Voucher) (a b : SyncState) : Prop where
  before : Reaches syncSystem clockRules { store := d } a
  moment : ∃ v, Executes syncSystem .activate_vouchers v a b
  unset : ∃ w₀ ∈ a.store.vouchers, w₀.id = w.id ∧ w₀.activated_at = none ∧ w₀.expires_at = none
  times : ∃ first_start, a.store.first_start w.id = some first_start ∧
    w.activated_at = some first_start ∧ ∀ p ∈ a.store.packages, p.id = w.package_id →
      w.expires_at = some (first_start + p.duration_minutes * minute)
  first : ∀ a' b' v, Reaches syncSystem clockRules { store := d } a' →
    Executes syncSystem .activate_vouchers v a' b' → Reaches syncSystem clockRules b' a →
    ∀ w' ∈ a'.store.vouchers, w'.id = w.id → ∀ x ∈ a'.store.sessions, x.voucher_id ≠ w.id

section Runs

variable {s s' : SyncState}

theorem reached (hd : Keys d ∧ Together d)
    (hs : Reaches syncSystem clockRules { store := d } s) :
    (Keys s.store ∧ Together s.store) ∧ ∀ p ∈ s.procs, p.Direct Used := by
  obtain ⟨hI, -, hp⟩ := clock_rule.reaches hs (fun _ h => by cases h) hd
  exact ⟨hI, hp⟩

/-- Times that are set stay. -/
theorem times_stay (hd : Keys d ∧ Together d)
    (hs : Reaches syncSystem clockRules { store := d } s)
    (hs' : Reaches syncSystem clockRules s s') {w w' : Voucher} (hw : w ∈ s.store.vouchers)
    (hset : w.activated_at ≠ none) (hw' : w' ∈ s'.store.vouchers) (hid : w'.id = w.id) :
    face w' = face w := by
  obtain ⟨hI, hp⟩ := reached hd hs
  obtain ⟨hI', hstays, -⟩ := clock_rule.reaches hs' hp hI
  obtain ⟨w₁, hw₁, hid₁, -, hface⟩ := hstays w hw
  have heq : w' = w₁ := List.inj_on_of_nodup_map hI'.1.vouchers hw' hw₁ (hid.trans hid₁.symm)
  rw [heq]
  exact hface hset

/-- Where times come from. -/
theorem times_set (hd : Keys d ∧ Together d) (hs : Reaches syncSystem clockRules { store := d } s)
    {w : Voucher} (hw : w ∈ s.store.vouchers) (hset : w.activated_at ≠ none) :
    (∃ w₀ ∈ d.vouchers, face w₀ = face w) ∨
      ∃ a b, SetAt d w a b ∧ Reaches syncSystem clockRules b s := by
  by_cases hstart : ∃ w₀ ∈ d.vouchers, face w₀ = face w
  · exact .inl hstart
  right
  obtain ⟨a, b, ha, hstep, hb, hnot, w₁, hw₁, hface⟩ := hs.crossing
    (P := fun t => ∃ w₀ ∈ t.store.vouchers, face w₀ = face w) hstart ⟨w, hw, rfl⟩
  obtain ⟨hI, hp⟩ := reached hd ha
  rcases (syncSystem_direct.step hp hstep).2 with hsame | ⟨-, sold, hsold, hnew⟩ |
    ⟨q, v, hq, -, hx⟩
  · rw [hsame] at hw₁
    exact absurd ⟨w₁, hw₁, hface⟩ hnot
  · rw [hsold] at hw₁
    rcases List.mem_append.mp hw₁ with hw₁ | hw₁
    · exact absurd ⟨w₁, hw₁, hface⟩ hnot
    · simp only [face, Prod.mk.injEq] at hface
      rw [← hface.2.2.1] at hset
      exact absurd (hnew w₁ hw₁).1 hset
  · obtain ⟨i, p, k, x, hi, hprog, hmove, he⟩ := hx
    have he : q.eval v a.store = .ok (x, b.store) := SyncStmt.exec_eq_ok.mp he
    by_cases hact : q = .activate_vouchers
    · subst hact
      obtain ⟨-, hstore⟩ := eval_activate.mp he
      rw [← hstore] at hw₁
      obtain ⟨w₀, hw₀, rfl⟩ := List.mem_map.mp hw₁
      cases hclock : a.store.clock w₀ with
      | none =>
          rw [started_of_none hclock] at hface
          exact absurd ⟨w₀, hw₀, hface⟩ hnot
      | some t =>
          rw [started_of_clock hclock] at hface
          obtain ⟨hunset, hfirst, p₀, hp₀, hend⟩ := clock_eq_some.mp hclock
          simp only [face, Prod.mk.injEq] at hface
          obtain ⟨hid, hpackage, hactivated, hexpires⟩ := hface
          refine ⟨a, b, ⟨ha, ⟨v, i, p, k, x, hi, hprog, hmove, SyncStmt.exec_eq_ok.mpr he⟩,
            ⟨w₀, hw₀, hid, hunset, (hI.2 w₀ hw₀).mp hunset⟩, ⟨t.1, ?_, hactivated.symm, ?_⟩, ?_⟩, hb⟩
          · rw [← hid]
            exact hfirst
          · intro p' hp' hpid
            have hp₀id : p₀.id = w₀.package_id := by simpa using List.find?_some hp₀
            have heq : p' = p₀ := List.inj_on_of_nodup_map hI.1.packages hp'
              (List.mem_of_find?_eq_some hp₀) (by rw [hpid, hp₀id, hpackage])
            rw [← hexpires, heq, hend]
          · intro a' b' v' ha' hx' hrest w' hw' hid' y hy hvoucher
            obtain ⟨hI', hdirect'⟩ := reached hd ha'
            obtain ⟨w₂, hw₂, hid₂, hset₂, -⟩ := activation_finds hI' hx' hw' hy
              (hvoucher.trans hid'.symm)
            have hb' : Reaches syncSystem clockRules { store := d } b' :=
              ha'.tail (hx'.step hdirect' trivial)
            have hface := times_stay hd hb' hrest hw₂ hset₂ hw₀ (by rw [hid, hid₂, hid'])
            simp only [face, Prod.mk.injEq] at hface
            rw [hunset] at hface
            exact hset₂ hface.2.2.1.symm
    · obtain ⟨hfaces, -⟩ := faces_kept hq hact he
      have hmem : face w₁ ∈ a.store.vouchers.map face := by
        rw [← hfaces]
        exact List.mem_map_of_mem hw₁
      obtain ⟨w₀, hw₀, heq⟩ := List.mem_map.mp hmem
      exact absurd ⟨w₀, hw₀, heq.trans hface⟩ hnot

/-- Where a voucher is marked as expired. -/
theorem marked_expired (hd : Keys d ∧ Together d)
    (hs : Reaches syncSystem clockRules { store := d } s) (hstep : Step syncSystem clockRules s s')
    {w w' : Voucher} (hw : w ∈ s.store.vouchers) (hw' : w' ∈ s'.store.vouchers)
    (hid : w'.id = w.id) (hstatus : w.status ≠ .expired) (hexpired : w'.status = .expired) :
    ∃ v caller, Executes syncSystem (.voucher ⟨caller, .expire_vouchers⟩) v s s' ∧
      (w.status = .active ∨ w.status = .used) ∧ ∃ t, w.expires_at = some t ∧ t ≤ v.now := by
  obtain ⟨hI, hp⟩ := reached hd hs
  have hsame {w₀ : Voucher} (hw₀ : w₀ ∈ s.store.vouchers) (hid₀ : w₀.id = w'.id) : w₀ = w :=
    List.inj_on_of_nodup_map hI.1.vouchers hw₀ hw (hid₀.trans hid)
  have hold (hw' : w' ∈ s.store.vouchers) : False := by
    rw [hsame hw' rfl] at hexpired
    exact hstatus hexpired
  rcases (syncSystem_direct.step hp hstep).2 with hstore | ⟨hkeys, sold, hsold, -⟩ |
    ⟨q, v, hq, -, hx⟩
  · rw [hstore] at hw'
    exact (hold hw').elim
  · have hmem : w ∈ s'.store.vouchers := by
      rw [hsold]
      exact List.mem_append_left _ hw
    have heq : w' = w := List.inj_on_of_nodup_map hkeys.vouchers hw' hmem hid
    rw [heq] at hexpired
    exact absurd hexpired hstatus
  · have hx' := hx
    obtain ⟨i, p, k, x, -, -, -, he⟩ := hx'
    have he : q.eval v s.store = .ok (x, s'.store) := SyncStmt.exec_eq_ok.mp he
    cases q with
    | voucher q =>
        obtain ⟨-, -, hkept | ⟨f, status, hset, hdue⟩⟩ := eval_voucher hq he
        · rw [hkept] at hw'
          exact (hold hw').elim
        · have hmem : w' ∈ updateRows f (fun w => { w with status }) s.store.vouchers := by
            rw [hset] at hw'
            exact hw'
          obtain ⟨w₀, hw₀, heq⟩ := List.mem_map.mp hmem
          by_cases hf : f w₀ = true
          · rw [if_pos hf] at heq
            have hw₀w : w₀ = w := hsame hw₀ (by rw [← heq])
            rw [← heq] at hexpired
            obtain ⟨hquery, rfl⟩ := hdue hexpired
            obtain ⟨caller, query⟩ := q
            dsimp only at hquery
            subst hquery
            rw [hw₀w] at hf
            simp only [Voucher.isDue, Bool.and_eq_true, Bool.or_eq_true, beq_iff_eq,
              Option.any_eq_true, decide_eq_true_eq] at hf
            exact ⟨v, caller, hx, hf.1, hf.2⟩
          · rw [if_neg hf] at heq
            rw [heq] at hw₀
            exact (hold hw₀).elim
    | upsert_sessions =>
        obtain ⟨proposed, -, hupsert⟩ := eval_upsert he
        obtain ⟨-, -, hset⟩ := upsert_eq_ok.mp hupsert
        rw [← hset] at hw'
        exact (hold hw').elim
    | update_live bytes_in bytes_out voucher_id login =>
        obtain ⟨-, hset⟩ := eval_update_live.mp he
        rw [← hset] at hw'
        exact (hold hw').elim
    | activate_vouchers =>
        obtain ⟨-, hset⟩ := eval_activate.mp he
        rw [← hset] at hw'
        obtain ⟨w₀, hw₀, heq⟩ := List.mem_map.mp hw'
        have hkey := started_key (d := s.store) w₀
        rw [heq] at hkey
        rw [hkey.2.2, hsame hw₀ hkey.1.symm] at hexpired
        exact absurd hexpired hstatus
    | _ =>
        rw [(eval_other (by simp) he).1] at hw'
        exact (hold hw').elim

end Runs

/-- The clock of the vouchers, in every run. -/
theorem voucher_clock {d : SyncStore} (hkeys : Keys d) (htogether : Together d) {s : SyncState}
    (hs : Reaches syncSystem clockRules { store := d } s) :
    Together s.store ∧
    (∀ w ∈ s.store.vouchers, w.activated_at ≠ none → (∃ w₀ ∈ d.vouchers, face w₀ = face w) ∨
      ∃ a b, SetAt d w a b ∧ Reaches syncSystem clockRules b s) ∧
    (∀ v s', Executes syncSystem .activate_vouchers v s s' → ∀ w ∈ s.store.vouchers,
      ∀ x ∈ s.store.sessions, x.voucher_id = w.id →
        ∃ w' ∈ s'.store.vouchers, w'.id = w.id ∧ w'.activated_at ≠ none ∧ w'.expires_at ≠ none) ∧
    (∀ s', Reaches syncSystem clockRules s s' → ∀ w ∈ s.store.vouchers, w.activated_at ≠ none →
      (∃ w' ∈ s'.store.vouchers, w'.id = w.id) ∧ ∀ w' ∈ s'.store.vouchers, w'.id = w.id →
        w'.activated_at = w.activated_at ∧ w'.expires_at = w.expires_at) ∧
    ∀ s', Step syncSystem clockRules s s' → ∀ w ∈ s.store.vouchers, ∀ w' ∈ s'.store.vouchers,
      w'.id = w.id → w.status ≠ .expired → w'.status = .expired →
        ∃ v caller, Executes syncSystem (.voucher ⟨caller, .expire_vouchers⟩) v s s' ∧
          (w.status = .active ∨ w.status = .used) ∧ ∃ t, w.expires_at = some t ∧ t ≤ v.now := by
  have hd : Keys d ∧ Together d := ⟨hkeys, htogether⟩
  obtain ⟨hI, hp⟩ := reached hd hs
  refine ⟨hI.2, fun w hw => times_set hd hs hw, ?_, ?_, ?_⟩
  · intro v s' hx w hw x hx' hid
    exact activation_finds hI hx hw hx' hid
  · intro s' hs' w hw hset
    constructor
    · obtain ⟨-, hstays, -⟩ := clock_rule.reaches hs' hp hI
      obtain ⟨w', hw', hid, -⟩ := hstays w hw
      exact ⟨w', hw', hid⟩
    · intro w' hw' hid
      have hface := times_stay hd hs hs' hw hset hw' hid
      simp only [face, Prod.mk.injEq] at hface
      exact hface.2.2
  · intro s' hstep w hw w' hw' hid
    exact marked_expired hd hs hstep hw hw' hid

section Example

variable (s : SyncStmt) (c : Choice Exn SyncEnv) (w : SyncCall) (d d' : SyncStore)

instance : Decidable (clockRules.stmt s c d) := .isTrue trivial

instance : Decidable (clockRules.spawn w d) := .isTrue trivial

noncomputable instance : Decidable (clockRules.edit d d') := Classical.propDecidable _

end Example

def hourly : Package :=
  { id := 3, name := "Hourly", price_kes := .units ⟨1000, Money.fits_1000⟩, duration_minutes := 60
    speed_mbps := 5, tenant_id := 1 }

def unused : Voucher :=
  { id := 8, payment_id := 7, customer_id := 4, package_id := 3, code := "KWHT2Z8MPA"
    created_at := 0, tenant_id := 1 }

/-- The accounting row of a login with the voucher. -/
def first_login : AcctRow :=
  { acctsessionid := "80c00003", acctuniqueid := "9e1b", username := some "KWHT2Z8MPA"
    router_ip := "10.8.0.2", acctstarttime := some 5, acctinputoctets := some 500
    acctoutputoctets := some 900 }

def sold : SyncStore where
  packages := [hourly]
  vouchers := [unused]
  radacct := [first_login]

theorem keys_sold : Keys sold := by
  constructor <;> decide

theorem together_sold : Together sold := by
  intro w hw
  cases List.mem_singleton.mp hw
  constructor <;> intro <;> rfl

/-- One sync sets the times of the voucher. -/
theorem voucher_clock_sold : ∃ s : SyncState, ∃ w ∈ s.store.vouchers,
    w.expires_at = some (5 + 60 * minute) ∧ ∃ a b, SetAt sold w a b := by
  obtain ⟨s, hs, hv⟩ := Reaches.of_moves (Y := syncSystem) (ρ := clockRules) { store := sold }
    (.spawn .sync :: List.replicate 3 (.step 0 (.run {}))) (fun d => d.vouchers)
    [{ unused with activated_at := some 5, expires_at := some (5 + 60 * minute) }]
    (by decide +kernel) (by decide +kernel)
  obtain ⟨-, horigin, -⟩ := voucher_clock keys_sold together_sold hs
  have hw : { unused with activated_at := some 5, expires_at := some (5 + 60 * minute) } ∈
      s.store.vouchers := by
    rw [hv]
    exact List.mem_singleton_self _
  rcases horigin _ hw (by decide) with ⟨w₀, hw₀, hface⟩ | ⟨a, b, hset, -⟩
  · cases List.mem_singleton.mp hw₀
    cases hface
  · exact ⟨s, _, hw, rfl, a, b, hset⟩

end SessionSync

end FrixelConnect
