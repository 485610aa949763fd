import FrixelConnect.Specs.Tracking
import FrixelConnect.Specs.Outcome
import FrixelConnect.Specs.Sale

/-!
# Vouchers and the payments behind them

A voucher is made from a job, and a job is queued for a payment that was seen
confirmed. The payment stays confirmed as long as no update marks a confirmed
payment failed, and it is confirmed in the first place as long as the update of
the poller finds the row. The poller queues the job whether or not its update has
found a row.
-/

namespace FrixelConnect

namespace VoucherBacking

open Decimals Calendar Python Interleaving Contract Knowledge

/-- The payment is confirmed. -/
def PaidFor (d : Store) (id : UUID) : Prop :=
  ∃ r ∈ d.cores .payments, r.id = id ∧ r.status = .confirmed

/-- Every voucher and every queued job is for a confirmed payment. -/
structure Backed (d : Store) : Prop where
  voucher : ∀ w ∈ d.vouchers, PaidFor d w.payment_id
  job : ∀ j ∈ d.queue, PaidFor d j.payment_id

/-- An update that fails a payment does not meet a confirmed one, and an update that
confirms a payment finds it, or it is confirmed already. -/
def KeepsPaid : Stmt → Choice Exn Env → Store → Prop
  | .fail .payments _ w, .run _, d => ∀ r ∈ d.cores .payments, w.holds r → r.status ≠ .confirmed
  | .confirm .payments _ w, .run _, d =>
      ∃ r ∈ d.cores .payments, r.id = w.id ∧ (w.holds r ∨ r.status = .confirmed)
  | _, _, _ => True

/-- Any processes in any interleaving; vouchers are generated by jobs, free trials and sales. -/
def rules : RunRules where
  stmt := KeepsPaid
  spawn w _ := match w with
    | .generate_voucher .. => False
    | _ => True

variable {d d' : Store} {v : Env} {t : PaymentTable} {id : UUID} {g g' : Knowledge}
  {won : List UUID}

theorem PaidFor.extends (h : PaidFor d id) (he : Extends d d') : PaidFor d' id := by
  obtain ⟨r, hr, hid, hs⟩ := h
  exact ⟨r, he.mem hr, hid, hs⟩

/-- An update that leaves the confirmed payments confirmed. -/
theorem PaidFor.updateCores {p : PaymentCore → Bool} {f : PaymentCore → PaymentCore}
    (h : PaidFor d id) (hid : ∀ r, (f r).id = r.id)
    (hf : t = .payments → ∀ r ∈ d.cores .payments, p r → r.status = .confirmed →
      (f r).status = .confirmed) : PaidFor (d.updateCores t p f) id := by
  obtain ⟨r, hr, rfl, hs⟩ := h
  refine ⟨_, mem_cores_updateCores.mpr ⟨r, hr, rfl⟩, ?_⟩
  split
  · next hp => exact ⟨hid r, hf hp.1.symm r hr hp.2 hs⟩
  · exact ⟨rfl, hs⟩

def tracking : Tracking where
  rules := rules
  inv := Backed
  won := PaidFor

/-- A step that leaves the confirmed payments confirmed, and the vouchers and the queue alone. -/
theorem sound_of_paid (hi : Backed d) (hp : ∀ id, PaidFor d id → PaidFor d' id)
    (hv : d'.vouchers = d.vouchers) (hq : d'.queue = d.queue) : tracking.Sound d d' g g' where
  inv := ⟨fun w hw => hp _ (hi.voucher w (hv ▸ hw)), fun j hj => hp _ (hi.job j (hq ▸ hj))⟩
  won := hp
  guar := trivial

/-- An update of a payment table. -/
theorem sound_updateCores {p : PaymentCore → Bool} {f : PaymentCore → PaymentCore} (hi : Backed d)
    (hid : ∀ r, (f r).id = r.id) (hf : t = .payments → ∀ r ∈ d.cores .payments, p r →
      r.status = .confirmed → (f r).status = .confirmed) :
    tracking.Sound d (d.updateCores t p f) g g' :=
  sound_of_paid hi (fun _ h => h.updateCores hid hf) (by simp) (by simp)

/-- A new voucher or job for a confirmed payment. -/
theorem sound_of_backed (hi : Backed d) (hext : Extends d d')
    (hv : ∀ w ∈ d'.vouchers, w ∈ d.vouchers ∨ PaidFor d' w.payment_id)
    (hq : ∀ j ∈ d'.queue, j ∈ d.queue ∨ PaidFor d' j.payment_id) : tracking.Sound d d' g g' where
  inv := ⟨fun w hw => (hv w hw).elim (fun h => (hi.voucher w h).extends hext) id,
    fun j hj => (hq j hj).elim (fun h => (hi.job j h).extends hext) id⟩
  won _ h := h.extends hext
  guar := trivial

theorem sound_fail {reason : Option String} {w : RowFilter} {reason' : Json} (hi : Backed d)
    (hrule : rules.stmt (.fail t reason' w) (.run v) d) :
    tracking.Sound d (d.updateCores t w.holds (PaymentCore.failed reason v.now)) g g' := by
  refine sound_updateCores hi (fun _ => rfl) ?_
  rintro rfl r hr hw hs
  exact absurd hs (hrule r hr hw)

theorem lawful : tracking.Lawful (fun _ => True) (fun _ => True) where
  know := Iff.rfl
  query _ _ := trivial
  fail _ hi _ _ _ hrule := sound_fail hi hrule
  confirm := by
    intro d v r receipt rc w _ hi _ hw hrule _
    refine ⟨sound_updateCores hi (fun _ => rfl) fun _ _ _ _ _ => rfl, ?_⟩
    obtain ⟨r', hr', hid, hfound⟩ := hrule
    refine ⟨_, mem_cores_updateCores.mpr ⟨r', hr', rfl⟩, ?_⟩
    split
    · exact ⟨hid.trans hw.filter_id, rfl⟩
    · next hmiss => exact ⟨hid.trans hw.filter_id, hfound.resolve_left fun h => hmiss ⟨rfl, h⟩⟩
  extend := by
    intro d v r receipt rc w _ hi _ _ _ _
    refine sound_of_paid hi (fun id h => ?_) (by simp [Store.updateTenant])
      (by simp [Store.updateTenant])
    have hconfirmed : PaidFor (d.updateCores .platform_payments w.holds
        (PaymentCore.confirmed (some rc) v.now)) id := h.updateCores (fun _ => rfl) (by simp)
    exact hconfirmed.extends (.of_cores fun t => Store.cores_updateTenant _ _ _ t)
  enqueue := by
    intro d r _ hi hwon
    have hext : Extends d { d with
        queue := d.queue ++ [{ payment_id := r.id, tenant_id := r.tenant_id }] } :=
      .of_cores fun t => by cases t <;> rfl
    refine sound_of_backed hi hext (fun w hw => .inl hw) fun j hj => ?_
    refine (List.mem_append.mp hj).imp_right fun hj => ?_
    rw [List.mem_singleton.mp hj]
    exact hwon.extends hext
  insert _ hi he := by
    obtain ⟨rfl, hnew, -⟩ := Stmt.eval_insert_payment he
    exact sound_of_paid hi (fun _ h => h.extends (.insert_payment hnew)) rfl rfl
  insert_platform _ hi he := by
    obtain ⟨rfl, hnew, -⟩ := Stmt.eval_insert_platform_payment he
    exact sound_of_paid hi (fun _ h => h.extends (.insert_platform hnew)) rfl rfl
  push hi he := by
    cases he
    exact sound_of_paid hi (fun _ h => h) rfl rfl
  delivered _ := .inl trivial
  failable := trivial
  store _ hi _ _ _ _ := sound_updateCores hi (fun _ => rfl) fun _ _ _ _ hs => hs
  store_failed _ _ := trivial
  fail_owned := by
    intro d v t id tenant w push rs _ hi ho _ _
    refine sound_updateCores hi (fun _ => rfl) ?_
    rintro rfl r hr hw hs
    rw [(ho.2 r hr (RowFilter.holds_id hw)).1] at hs
    cases hs
  forget _ hs := hs

/-- The tables that backing does not depend on. -/
def otherTables : List Table :=
  [.users, .packages, .radcheck, .radreply, .last_sequence_id, .wallet_transactions]

theorem ignores : tracking.contract.Ignores otherTables := by
  refine Tracking.ignores (by simp [otherTables]) (by simp [otherTables]) fun {d d'} hs => ?_
  have hpaid (id : UUID) (h : PaidFor d id) : PaidFor d' id := h.extends (.of_cores
    (cores_of_same (hs .payments (by simp [otherTables]))
      (hs .platform_payments (by simp [otherTables]))))
  refine ⟨fun h => ?_, hpaid, fun _ h => h, trivial⟩
  have hv : d'.vouchers = d.vouchers := hs .vouchers (by simp [otherTables])
  have hq : d'.queue = d.queue := hs .queue (by simp [otherTables])
  have hsound : tracking.Sound d d' nothing nothing := sound_of_paid h hpaid hv hq
  exact hsound.inv

theorem other_neutral {Ts : List Table} {s : Stmt} (hTs : Ts ⊆ otherTables) (hs : Within Ts s) :
    tracking.contract.discipline.protocol.Neutral g s := (ignores.subset hTs).neutral hs

/-- The statements of the daily billing. -/
theorem billing_neutral {s : Stmt} (hs : s.Aside) (hv : s.writes ≠ some .vouchers)
    (hq : s.writes ≠ some .queue) : tracking.contract.discipline.protocol.Neutral g s :=
  lawful.neutral_of_aside hs fun _ hi _ he => sound_of_paid hi
    (fun _ h => h.extends (Tracking.Lawful.extends_of_aside hs he)) (Stmt.eval_same hv he)
    (Stmt.eval_same hq he)

/-- A voucher for a payment that the process has seen confirmed. -/
theorem voucher_neutral {rows : LookedUp} {payment_id customer_id package_id tenant_id : UUID}
    {code : String} {router_id : Option UUID} (hwon : payment_id ∈ won) :
    tracking.contract.discipline.protocol.Neutral (.know rows won)
      (.insert_voucher payment_id customer_id package_id code tenant_id router_id) := by
  refine lawful.neutral_of_aside ?_ fun hu hi hh he => ?_
  · refine .tables fun T hT => ?_
    cases hT
    simp [asideTables]
  · obtain ⟨w, rfl, rfl, -⟩ := Stmt.eval_insert_voucher he
    have hext : Extends _ _ := Tracking.Lawful.extends_of_eval (s := .insert_voucher w.payment_id
      customer_id package_id code tenant_id router_id) (by simp [Stmt.writes])
      (by simp [Stmt.writes]) he
    refine sound_of_backed hi hext (fun w' hw' => ?_) fun j hj => .inl hj
    refine (List.mem_append.mp hw').imp_right fun hw' => ?_
    rw [List.mem_singleton.mp hw']
    exact (hh _ hwon).extends hext

/-- A job for a payment that the process has seen confirmed. -/
theorem job_neutral {rows : LookedUp} {job : Job} (hwon : job.payment_id ∈ won) :
    tracking.contract.discipline.protocol.Neutral (.know rows won) (.enqueue_job job) := by
  refine lawful.neutral_of_aside ?_ fun hu hi hh he => ?_
  · refine .tables fun T hT => ?_
    cases hT
    simp [asideTables]
  · have hext := Tracking.Lawful.extends_of_eval (s := .enqueue_job job) (by simp [Stmt.writes])
      (by simp [Stmt.writes]) he
    cases he
    refine sound_of_backed hi hext (fun w hw => .inl hw) fun j hj => ?_
    refine (List.mem_append.mp hj).imp_right fun hj => ?_
    rw [List.mem_singleton.mp hj]
    exact (hh _ hwon).extends hext

/-- A program of statements that are neutral for what the process has seen. -/
theorem wp_seen {α : Type} {p : M α} {l : RunLocal}
    (hp : p.All (tracking.contract.discipline.protocol.Neutral (.know [] won)))
    (hl : l.txn = .none) : tracking.contract.wp (fun _ _ _ => True) p l (.know [] won) :=
  wp_neutral hp (fun _ h => h) (fun _ _ _ ho => ⟨ho.1, ho.2⟩) hl

theorem generate_voucher_neutral {payment_id tenant_id : UUID} (hwon : payment_id ∈ won) :
    (generate_voucher payment_id tenant_id).All
      (tracking.contract.discipline.protocol.Neutral (.know [] won)) :=
  (generate_voucher_framed payment_id tenant_id
    (fun _ hs => other_neutral (by simp [credentialTables, otherTables]) hs)
    fun _ _ _ _ => voucher_neutral hwon).all

theorem wp_run_job (job : Job) :
    tracking.contract.wp (fun _ _ _ => True) (run_job job) {} (.know [] [job.payment_id]) :=
  wp_seen (run_job_all job
    (fun _ hs => other_neutral (by simp [credentialTables, otherTables]) hs)
    (fun _ _ _ _ => voucher_neutral (by simp)) fun _ => job_neutral (by simp)) rfl

/-- Reconciliation queues jobs for payments that it has read confirmed. -/
theorem wp_reconcile :
    tracking.contract.wp (fun _ _ _ => True) reconcile_payments_cron {} nothing := by
  refine wp_bind (wp_exec (.inr rfl) ?_ ?_)
  · exact fun d e hb ho _ => ⟨_, .stay hb ho, trivial⟩
  · intro d v stuck d' hb ho _ he
    cases he
    refine ⟨.know [] ((d.payments.filter fun p => p.stuck d.vouchers v.now).map (·.id)), ?_,
      wp_seen (Prog.All.forEach fun p hp => (Prog.all_exec _).mpr (job_neutral ?_)) rfl⟩
    · refine .forget hb ⟨.no_rows _ _, fun id hid => ?_⟩ (.inl rfl) fun _ h => h
      obtain ⟨p, hp, rfl⟩ := List.mem_map.mp hid
      obtain ⟨hmem, hstuck⟩ := List.mem_filter.mp hp
      simp only [Payment.stuck, Bool.and_eq_true, beq_iff_eq] at hstuck
      exact ⟨p.toPaymentCore, List.mem_map_of_mem hmem, rfl, hstuck.1.1⟩
    · exact List.mem_map_of_mem hp

/-- A free trial inserts a confirmed payment before its voucher. -/
theorem wp_provision_free_trial (data : PortalFreeTrialRequest) :
    tracking.contract.wp (fun _ _ _ => True) (provision_free_trial data) {} nothing := by
  refine wp_then (wp_plain ignores (get_or_create_guest_customer_plain _ _
    (by simp [otherTables])) rfl) (fun _ _ _ _ => trivial) ?_
  rintro customer_id l g ⟨rfl, rfl⟩
  refine wp_then (wp_reads (plain_read rfl) rfl) (fun _ _ _ _ => trivial) ?_
  rintro existing_trial l g ⟨rfl, rfl⟩
  split
  · trivial
  refine wp_then (wp_plain ignores (trial_package_plain _ (by simp [otherTables])) rfl)
    (fun _ _ _ _ => trivial) ?_
  rintro package_id l g ⟨rfl, rfl⟩
  refine wp_then (wp_reads (plain_read rfl) rfl) (fun _ _ _ _ => trivial) ?_
  rintro trial_receipt l g ⟨rfl, rfl⟩
  refine wp_bind (wp_exec (.inr rfl) ?_ ?_)
  · exact fun d e hb ho _ => ⟨_, .stay hb ho, trivial⟩
  · intro d v row d' hb ho _ he
    refine ⟨.know [] [row.id], ?_, wp_seen (generate_voucher_neutral (by simp)) rfl⟩
    obtain ⟨rfl, hnew, -, -, hstatus, -⟩ := Stmt.eval_insert_payment he
    have hext := Extends.insert_payment hnew
    have hsound : tracking.Sound d { d with payments := d.payments ++ [row] } nothing
      (.know [] [row.id]) := sound_of_paid hb.2 (fun _ h => h.extends hext) rfl rfl
    refine hsound.extend hb.1 hext (.no_rows _ _) (fun id hid => ?_) nofun
    rw [List.mem_singleton.mp hid]
    exact ⟨row.toPaymentCore, by simp [Store.cores], rfl, hstatus⟩

/-- A sale commits a confirmed payment together with its voucher. -/
theorem wp_generate_reseller_voucher (data : ResellerVoucherGenerateRequest)
    (reseller_id tenant_id : UUID) : tracking.contract.wp (fun _ _ _ => True)
      (generate_reseller_voucher data reseller_id tenant_id) {} nothing := by
  refine wp_reseller_voucher fun customer package => wp_commit (Q := fun _ _ => True)
    (fun _ _ _ ho => ⟨ho.1, ho.2⟩) ?_ sell_voucher_body ?_ fun _ => trivial
  · refine sell_voucher_framed data _ _ _ _ (fun s hs _ => ?_) (fun _ _ _ _ h => by cases h)
      fun _ _ _ _ _ h => by cases h
    exact other_neutral (by simp [saleTables, otherTables]) hs
  · rintro payment_id d _ l l' hb ho ⟨s, hfits, rfl⟩
    have hext := Sale.extends_commit hfits
    have hsound : tracking.Sound d (s.commit d) nothing nothing := by
      refine sound_of_backed hb.2 hext (fun w hw => ?_) fun j hj => .inl hj
      refine (List.mem_append.mp hw).imp_right fun hw => ?_
      rw [List.mem_singleton.mp hw, hfits.voucher.payment]
      exact ⟨s.payment.toPaymentCore, by simp [Store.cores, Sale.commit], rfl, hfits.status⟩
    refine ⟨nothing, hsound.extend hb.1 hext (.no_rows _ _) (.none_won _ _ _) ?_, trivial⟩
    exact fun _ _ h => .inl h

/-- The start of a process changes at most the queue, which only loses jobs. -/
theorem starts (hb : tracking.contract.base d) (hsame : ∀ T, T ≠ .queue → d'.Same d T)
    (hq : ∀ j ∈ d'.queue, j ∈ d.queue) (hwon : ∀ id ∈ won, PaidFor d id) :
    tracking.contract.Starts d d' (.know [] won) := by
  have hext : Extends d d' := .of_cores (cores_of_same (hsame _ (by simp)) (hsame _ (by simp)))
  have hv : d'.vouchers = d.vouchers := hsame .vouchers (by simp)
  have hsound : tracking.Sound d d' nothing nothing :=
    sound_of_backed hb.2 hext (fun w hw => .inl (hv ▸ hw)) fun j hj => .inl (hq j hj)
  exact {
    base := ⟨hext.unique hb.1, hsound.inv⟩
    own := ⟨.no_rows _ _, fun id hid => (hwon id hid).extends hext⟩
    token := rfl
    stable := fun l₂ g₂ h₂ => ⟨h₂.1.extends hext, h₂.2.mono hsound.won⟩
    shared := fun _ h => h
    guar := trivial }

/-- A program that writes only tables that backing does not depend on. -/
theorem wp_ledger {p : M Unit} (hp : p.All (Within otherTables)) :
    tracking.contract.wp (fun _ _ _ => True) p {} nothing :=
  wp_seen (hp.mono fun _ hs => other_neutral (fun _ h => h) hs) rfl

theorem serves : tracking.contract.Serves := by
  intro w d d' p hb hrule hs
  have hreads (s : Stmt) (h : Within [] s) : Within otherTables s := within_mono h (by simp)
  have hseq : Within otherTables .next_sequence_id := fun T hT => by cases hT; simp [otherTables]
  have hinserts {type : TransactionType} : Enters (Within otherTables) type :=
    enters_within (by simp [otherTables]) type
  have hstart : tracking.contract.Starts d d nothing := lawful.starts hb
  cases hw : w.aside with
  | false =>
      obtain ⟨rfl, hp⟩ := lawful.wp_start hw (fun _ _ _ _ => trivial)
        (ignores.subset (by simp [otherTables])) hs
      exact ⟨nothing, hstart, hp⟩
  | true =>
      cases w with
      | daraja_webhook body => cases hw
      | poll => cases hw
      | stk_push tenant_id customer_id data => cases hw
      | hotspot_payment data => cases hw
      | platform_billing tenant_id => cases hw
      | generate_voucher payment_id tenant_id => exact hrule.elim
      | reconcile =>
          cases hs
          exact ⟨nothing, hstart, wp_reconcile⟩
      | job position keep =>
          obtain ⟨job, hjob, hs⟩ := Option.map_eq_some_iff.mp hs
          cases hs
          have hmem := List.mem_of_getElem? hjob
          refine ⟨.know [] [job.payment_id], starts hb (fun T hT => ?_) (fun j hj => ?_) ?_,
            Tracking.Lawful.wp_discard (wp_run_job job)⟩
          · exact Spawn.aside_start (w := .job position keep) (p := discard (run_job job))
              (by simp [start, hjob]) hT
          · cases keep with
            | true => exact hj
            | false => exact List.mem_of_mem_eraseIdx hj
          · intro id hid
            rw [List.mem_singleton.mp hid]
            exact hb.2.job job hmem
      | free_trial data =>
          cases hs
          exact ⟨nothing, hstart, Tracking.Lawful.wp_discard (wp_provision_free_trial data)⟩
      | reseller_voucher data reseller_id tenant_id =>
          cases hs
          exact ⟨nothing, hstart,
            Tracking.Lawful.wp_discard (wp_generate_reseller_voucher data _ _)⟩
      | tenant_billing =>
          cases hs
          refine ⟨nothing, hstart, wp_seen (tenant_billing_cron_plain (fun s hs => ?_)
            (fun _ _ _ _ => billing_neutral .push nofun nofun)
            (fun _ _ _ _ => billing_neutral .platform nofun nofun)
            fun _ => billing_neutral .suspend nofun nofun).all rfl⟩
          exact other_neutral (by simp) hs
      | c2b_webhook body =>
          cases hs
          exact ⟨nothing, hstart, wp_ledger (discard_all
            (process_daraja_c2b_webhook_all body hreads hseq hinserts))⟩
      | topup tenant_id reseller_id amount reference =>
          cases hs
          exact ⟨nothing, hstart, wp_ledger (discard_all
            (topup_wallet_plain _ _ _ _ hreads hseq hinserts).all.transaction)⟩
      | debit tenant_id reseller_id amount reference =>
          cases hs
          exact ⟨nothing, hstart, wp_ledger (discard_all
            (debit_wallet_plain _ _ _ _ hreads hseq hinserts).all.transaction)⟩

/-- In any run whose steps keep confirmed payments confirmed, every voucher and every queued job
is for a confirmed payment. -/
theorem voucher_backed {d : Store} (hd : UniqueIds d) (hb : Backed d) {s : RunState}
    (hs : Reaches system rules (FrixelConnect.idle d) s) : Backed s.store := by
  have hedit : tracking.contract.Tolerates := fun _ _ _ _ he => he.elim
  have h₀ : tracking.contract.Holds (FrixelConnect.idle d) := .start ⟨hd, hb⟩ trivial
  exact (h₀.reaches serves hedit hs).1.base.2

instance (t : PaymentTable) (receipt : Json) (w : RowFilter) (c : Choice Exn Env) (d : Store) :
    Decidable (KeepsPaid (.confirm t receipt w) c d) :=
  match t, c with
  | .payments, .run _ => inferInstanceAs (Decidable (∃ r ∈ d.cores .payments,
      r.id = w.id ∧ (w.holds r = true ∨ r.status = .confirmed)))
  | .payments, .fail _ => .isTrue trivial
  | .platform_payments, _ => .isTrue trivial

instance (t : PaymentTable) (reason : Json) (w : RowFilter) (c : Choice Exn Env) (d : Store) :
    Decidable (KeepsPaid (.fail t reason w) c d) :=
  match t, c with
  | .payments, .run _ => inferInstanceAs (Decidable (∀ r ∈ d.cores .payments,
      w.holds r = true → r.status ≠ .confirmed))
  | .payments, .fail _ => .isTrue trivial
  | .platform_payments, _ => .isTrue trivial

instance (s : Stmt) (c : Choice Exn Env) (d : Store) : Decidable (rules.stmt s c d) := by
  rcases s with ⟨⟩ <;>
    first | exact .isTrue trivial | exact inferInstanceAs (Decidable (KeepsPaid _ c d))

instance (w : Spawn) (d : Store) : Decidable (rules.spawn w d) := by
  rcases w with ⟨⟩ <;> first | exact .isTrue trivial | exact .isFalse not_false

instance (d d' : Store) : Decidable (rules.edit d d') := .isFalse not_false

theorem backed_shop : Backed shop := ⟨nofun, nofun⟩

/-- The steps of a job that makes a voucher. -/
def jobOf (i : ℕ) : List RunLabel := .spawn (.job 0 false) :: stepsOf 12 i

theorem voucher_backed_after_confirmation : ∃ s : RunState,
    s.store.vouchers.map (·.payment_id) = [1] ∧ Backed s.store := by
  obtain ⟨s, hs, hv⟩ := Reaches.of_moves (Y := system) (ρ := rules) (FrixelConnect.idle shop)
    (.spawn (.daraja_webhook ((Outcome.success "QK1").body "ws_CO_1")) :: stepsOf 5 0 ++ jobOf 1)
    (fun d => d.vouchers.map (·.payment_id)) [1] (by decide +kernel) rfl
  exact ⟨s, hv, voucher_backed uniqueIds_shop backed_shop hs⟩

/-- The poller reads the row pending, a callback fails it, and the poller queues the job although
its update finds no row. -/
theorem not_voucher_backed : ¬ ∀ (d : Store) (s : RunState), UniqueIds d → Backed d →
    Reaches system (runsOf Spawn.isSettling) (FrixelConnect.idle d) s →
    ∀ w ∈ s.store.vouchers, PaidFor s.store w.payment_id := by
  intro h
  obtain ⟨s, hs, hview⟩ := Reaches.of_moves (Y := system) (ρ := runsOf Spawn.isSettling)
    (FrixelConnect.idle shop)
    ([.spawn .poll, stepOf 0 { now := 3 * minute }, stepOf 0 {},
      stepOf 0 { query := (Outcome.success "").reply },
      .spawn (.daraja_webhook (Outcome.cancelled.body "ws_CO_1"))] ++ stepsOf 2 1 ++ stepsOf 4 0 ++
      jobOf 2)
    (fun d => (d.vouchers.map (·.payment_id), (d.cores .payments).map (·.status)))
    ([1], [.failed]) (by decide +kernel) rfl
  obtain ⟨hv, hp⟩ := Prod.mk.inj hview
  obtain ⟨w, hw, -⟩ := List.mem_map.mp (hv ▸ List.mem_singleton_self (1 : UUID))
  obtain ⟨r, hr, -, hstatus⟩ := h shop s uniqueIds_shop backed_shop hs w hw
  have hmem := List.mem_map_of_mem (f := fun r : PaymentCore => r.status) hr
  rw [hp, hstatus] at hmem
  simp at hmem

end VoucherBacking

end FrixelConnect
