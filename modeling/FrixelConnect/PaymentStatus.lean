import FrixelConnect.Specs.Tracking
import FrixelConnect.Specs.Outcome

/-!
# The status of a payment row

The status of a row leaves `pending` once, as long as every callback that updates
a row finds it as it read it: pending, or with the very status and receipt that
the callback writes. The poller repeats the check in its `WHERE`, and a failed
initiation updates a row that nobody else has found; the callbacks only check
the status when they read the row.
-/

namespace FrixelConnect

namespace PaymentStatus

open Decimals Python Interleaving Contract Knowledge

/-- A settled row has the same status and receipt in the later store. -/
def Settled (d d' : Store) : Prop :=
  ∀ t, ∀ r ∈ d.cores t, r.status ≠ .pending → ∃ r' ∈ d'.cores t, r'.id = r.id ∧
    r'.status = r.status ∧ r'.mpesa_receipt_number = r.mpesa_receipt_number

/-- A callback's update meets its row pending, or repeats what is already there. The rows that
Daraja can name are those with a checkout id. -/
def MeetsPending : Stmt → Choice Exn Env → Store → Prop
  | .confirm t receipt (.row id tenant_id), .run _, d => ∀ r ∈ d.cores t,
      (RowFilter.row id tenant_id).holds r → r.mpesa_checkout_id.isSome →
      r.status = .pending ∨ r.status = .confirmed ∧
        textParam (some 20) receipt = .ok r.mpesa_receipt_number
  | .fail t _ (.row id tenant_id), .run _, d => ∀ r ∈ d.cores t,
      (RowFilter.row id tenant_id).holds r → r.mpesa_checkout_id.isSome →
      r.status = .pending ∨ r.status = .failed
  | _, _, _ => True

/-- Any processes in any interleaving, with callbacks that meet pending rows. -/
def rules : RunRules := { stmt := MeetsPending }

theorem Settled.refl (d : Store) : Settled d d := fun _ r hr _ => ⟨r, hr, rfl, rfl, rfl⟩

theorem Settled.trans {a b c : Store} (h : Settled a b) (h' : Settled b c) : Settled a c := by
  intro t r hr hs
  obtain ⟨r₁, hr₁, hid₁, hs₁, hn₁⟩ := h t r hr hs
  obtain ⟨r₂, hr₂, hid₂, hs₂, hn₂⟩ := h' t r₁ hr₁ (hs₁ ▸ hs)
  exact ⟨r₂, hr₂, hid₂.trans hid₁, hs₂.trans hs₁, hn₂.trans hn₁⟩

theorem Settled.of_extends {d d' : Store} (h : Extends d d') : Settled d d' :=
  fun _ r hr _ => ⟨r, h.mem hr, rfl, rfl, rfl⟩

/-- An update that leaves settled rows as they are. -/
theorem Settled.updateCores {d : Store} {t : PaymentTable} {p : PaymentCore → Bool}
    {f : PaymentCore → PaymentCore} (hid : ∀ r, (f r).id = r.id)
    (h : ∀ r ∈ d.cores t, p r = true → r.status ≠ .pending →
      (f r).status = r.status ∧ (f r).mpesa_receipt_number = r.mpesa_receipt_number) :
    Settled d (d.updateCores t p f) := by
  intro t' r hr hs
  refine ⟨_, mem_cores_updateCores.mpr ⟨r, hr, rfl⟩, ?_⟩
  split
  · next hp =>
      obtain ⟨rfl, hp⟩ := hp
      obtain ⟨h₁, h₂⟩ := h r hr hp hs
      exact ⟨hid r, h₁, h₂⟩
  · exact ⟨rfl, rfl, rfl⟩

variable {d : Store} {v : Env} {t : PaymentTable} {r : PaymentCore} {w : RowFilter}

/-- A row under the filter of a process that has looked it up carries a checkout id. -/
theorem checkout_isSome (hu : UniqueIds d) (hk : Known d t r) (hw : Targets w r) {r' : PaymentCore}
    (hr' : r' ∈ d.cores t) (hp : w.holds r' = true) : r'.mpesa_checkout_id.isSome := by
  have hid : r'.id = r.id := (RowFilter.holds_id hp).trans hw.filter_id
  rw [(hk.eq hu hr' hid).2]
  exact hk.1

/-- Failing a row that was looked up. -/
theorem Settled.fail {reason : Json} {rs : Option String} (hu : UniqueIds d) (hk : Known d t r)
    (hw : Targets w r) (hrule : MeetsPending (.fail t reason w) (.run v) d) :
    Settled d (d.updateCores t w.holds (PaymentCore.failed rs v.now)) := by
  refine Settled.updateCores (fun _ => rfl) fun r' hr' hp hs => ?_
  have hc := checkout_isSome hu hk hw hr' hp
  cases w with
  | row id tenant_id =>
      have hfailed := (hrule r' hr' hp hc).resolve_left hs
      exact ⟨hfailed.symm, rfl⟩
  | pending id =>
      simp only [RowFilter.holds, Bool.and_eq_true, beq_iff_eq] at hp
      exact absurd hp.2 hs

/-- Confirming a row that was looked up. -/
theorem Settled.confirm {receipt : Json} {rc : Option String} (hu : UniqueIds d)
    (hk : Known d t r) (hw : Targets w r)
    (hrule : MeetsPending (.confirm t receipt w) (.run v) d)
    (hrc : textParam (some 20) receipt = .ok rc) :
    Settled d (d.updateCores t w.holds (PaymentCore.confirmed rc v.now)) := by
  refine Settled.updateCores (fun _ => rfl) fun r' hr' hp hs => ?_
  have hc := checkout_isSome hu hk hw hr' hp
  cases w with
  | row id tenant_id =>
      obtain ⟨hconfirmed, hreceipt⟩ := (hrule r' hr' hp hc).resolve_left hs
      rw [hrc] at hreceipt
      cases hreceipt
      exact ⟨hconfirmed.symm, rfl⟩
  | pending id =>
      simp only [RowFilter.holds, Bool.and_eq_true, beq_iff_eq] at hp
      exact absurd hp.2 hs

def tracking : Tracking where
  rules := rules
  guar := Settled
  guar_refl := Settled.refl
  guar_trans _ _ _ := Settled.trans

theorem lawful : tracking.Lawful (fun _ => True) (fun _ => True) where
  know := Iff.rfl
  query _ _ := trivial
  fail hu _ hk hw _ hrule := { inv := trivial, guar := .fail hu hk hw hrule }
  confirm hu _ hk hw hrule hrc :=
    ⟨{ inv := trivial, guar := .confirm hu hk hw hrule hrc }, trivial⟩
  extend hu _ hk hw hrule hrc :=
    { inv := trivial
      guar := (Settled.confirm hu hk hw hrule hrc).trans
        (.of_extends (.of_cores fun t => Store.cores_updateTenant _ _ _ t)) }
  enqueue _ _ _ := { inv := trivial, guar := .of_extends (.of_cores fun t => by cases t <;> rfl) }
  insert hu _ he := by
    obtain ⟨rfl, hnew, -⟩ := Stmt.eval_insert_payment he
    exact { inv := trivial, guar := .of_extends (.insert_payment hnew) }
  insert_platform hu _ he := by
    obtain ⟨rfl, hnew, -⟩ := Stmt.eval_insert_platform_payment he
    exact { inv := trivial, guar := .of_extends (.insert_platform hnew) }
  push _ he :=
    { inv := trivial
      guar := .of_extends (Tracking.Lawful.extends_of_eval (by simp [Stmt.writes])
        (by simp [Stmt.writes]) he) }
  delivered _ := .inl trivial
  failable := trivial
  store _ _ ho hw _ _ :=
    { inv := trivial, guar := .updateCores (fun _ => rfl) fun _ _ _ _ => ⟨rfl, rfl⟩ }
  store_failed _ _ := trivial
  fail_owned hu _ ho _ _ := by
    refine { inv := trivial, guar := .updateCores (fun _ => rfl) fun r hr hp hs => ?_ }
    exact absurd (ho.2 r hr (RowFilter.holds_id hp)).1 hs
  forget _ hs := hs

theorem ignores : tracking.contract.Ignores asideTables :=
  Tracking.ignores (by simp [asideTables]) (by simp [asideTables]) fun hs =>
    ⟨fun _ => trivial, fun _ _ => trivial, fun _ _ => trivial,
      .of_extends (.of_cores (cores_of_same (hs _ (by simp [asideTables]))
        (hs _ (by simp [asideTables]))))⟩

theorem serves : tracking.contract.Serves :=
  lawful.serves (fun _ _ _ _ _ => trivial) ignores fun hs _ _ he =>
    { inv := trivial, guar := .of_extends (Tracking.Lawful.extends_of_aside hs he) }

/-- A settled row never changes its status or receipt again, in any run whose callbacks meet
pending rows. -/
theorem settled_forever {d : Store} (hd : UniqueIds d) {s s' : RunState}
    (hs : Reaches system rules (FrixelConnect.idle d) s) (hs' : Reaches system rules s s') :
    Settled s.store s'.store := by
  have hedit : tracking.contract.Tolerates := fun _ _ _ _ he => he.elim
  have h₀ : tracking.contract.Holds (FrixelConnect.idle d) := .start ⟨hd, trivial⟩ trivial
  obtain ⟨h₁, -⟩ := h₀.reaches serves hedit hs
  exact (h₁.reaches serves hedit hs').2

instance (t : PaymentTable) (receipt : Json) (w : RowFilter) (c : Choice Exn Env) (d : Store) :
    Decidable (MeetsPending (.confirm t receipt w) c d) :=
  match w, c with
  | .row .., .run _ => inferInstanceAs (Decidable (∀ r ∈ d.cores t, _))
  | .row .., .fail _ => .isTrue trivial
  | .pending _, _ => .isTrue trivial

instance (t : PaymentTable) (reason : Json) (w : RowFilter) (c : Choice Exn Env) (d : Store) :
    Decidable (MeetsPending (.fail t reason w) c d) :=
  match w, c with
  | .row .., .run _ => inferInstanceAs (Decidable (∀ r ∈ d.cores t, _))
  | .row .., .fail _ => .isTrue trivial
  | .pending _, _ => .isTrue trivial

instance (s : Stmt) (c : Choice Exn Env) (d : Store) : Decidable (MeetsPending s c d) := by
  rcases s with ⟨⟩ <;> first | exact .isTrue trivial | infer_instance

instance (s : Stmt) (c : Choice Exn Env) (d : Store) : Decidable (rules.stmt s c d) :=
  inferInstanceAs (Decidable (MeetsPending s c d))

instance (w : Spawn) (d : Store) : Decidable (rules.spawn w d) := .isTrue trivial

instance (d d' : Store) : Decidable (rules.edit d d') := .isFalse not_false

/-- A callback that confirms the payment, from its start to the commit. -/
def confirmation : List RunLabel :=
  .spawn (.daraja_webhook ((Outcome.success "QK1").body "ws_CO_1")) ::
    stepsOf 4 0

theorem settled_forever_after_confirmation : ∃ s s' : RunState,
    (∃ r ∈ s.store.cores .payments, r.status = .confirmed) ∧ Settled s.store s'.store := by
  obtain ⟨s, s', hs, hs', hd, -⟩ := Reaches.of_moves_append (Y := system) (ρ := rules)
    (FrixelConnect.idle shop) confirmation
    [.spawn (.daraja_webhook (Outcome.cancelled.body "ws_CO_1")), stepOf 1 {}]
    (fun d => (d.cores .payments).map fun r => (r.id, r.status)) [(1, .confirmed)]
    [(1, .confirmed)] (by decide +kernel) rfl rfl
  obtain ⟨r, hr, hr'⟩ := List.mem_map.mp (hd ▸ List.mem_singleton_self _)
  exact ⟨s, s', ⟨r, hr, (Prod.mk.inj hr').2⟩, settled_forever uniqueIds_shop hs hs'⟩

/-- Two callbacks read the row pending; the second fails it after the first has confirmed it. -/
theorem not_settled_forever : ¬ ∀ (d : Store) (s s' : RunState), UniqueIds d →
    Reaches system (runsOf Spawn.isCallback) (FrixelConnect.idle d) s → Reaches system (runsOf Spawn.isCallback) s s' →
    Settled s.store s'.store := by
  intro h
  obtain ⟨s, s', hs, hs', hd, hd'⟩ := Reaches.of_moves_append (Y := system) (ρ := runsOf Spawn.isCallback)
    (FrixelConnect.idle shop)
    [.spawn (.daraja_webhook ((Outcome.success "QK1").body "ws_CO_1")),
      .spawn (.daraja_webhook (Outcome.cancelled.body "ws_CO_1")), stepOf 0 {},
      stepOf 1 {}, stepOf 0 {}, stepOf 0 {}, stepOf 0 {}]
    [stepOf 1 {}] (fun d => (d.cores .payments).map fun r => (r.id, r.status))
    [(1, .confirmed)] [(1, .failed)] (by decide +kernel) rfl rfl
  have hmem : (1, .confirmed) ∈ (s.store.cores .payments).map fun r => (r.id, r.status) := by
    simp [hd]
  obtain ⟨r, hr, hr'⟩ := List.mem_map.mp hmem
  obtain ⟨hid, hstatus⟩ := Prod.mk.inj hr'
  obtain ⟨r', hr', -, hstatus', -⟩ :=
    h _ s s' uniqueIds_shop hs hs' .payments r hr (by simp [hstatus])
  have hmem' : (r'.id, r'.status) ∈ [((1 : UUID), PaymentStatus.failed)] :=
    hd' ▸ List.mem_map_of_mem (f := fun r : PaymentCore => (r.id, r.status)) hr'
  rw [hstatus', hstatus] at hmem'
  simp at hmem'

end PaymentStatus

end FrixelConnect
