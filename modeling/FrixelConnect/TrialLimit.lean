import FrixelConnect.Interleaving.StoreRule
import FrixelConnect.Specs.Footprint
import FrixelConnect.Specs.Outcome

/-!
# The limit of one free trial a day

A trial is refused when the customer has a trial of the last 24 hours whose voucher
exists. Between this read and the new payment another request can pass it, and a
trial whose voucher is still missing is not counted, although the reconciliation
completes it later. One voucher in 24 hours is all that a customer gets in every run
in which a trial is only paid for when the customer has no other trial of these hours.
-/

namespace FrixelConnect

open Calendar Contract Decimals Interleaving

/-- The payment of a free trial of the customer in the tenant. -/
def Payment.isTrialOf (customer_id tenant_id : UUID) (p : Payment) : Bool :=
  p.customer_id == customer_id && p.tenant_id == tenant_id &&
    p.mpesa_receipt_number.any fun s => s.startsWith "TRIAL-"

namespace TrialLimit

/-- The trials of a customer that were created in the 24 hours from `t` on. -/
def recentTrials (d : Store) (customer_id tenant_id : UUID) (t : Timestamptz) : List Payment :=
  d.payments.filter fun p => p.isTrialOf customer_id tenant_id &&
    decide (t ≤ p.created_at) && decide (p.created_at < t + 24 * hour)

/-- The vouchers of these trials. -/
def trialVouchers (d : Store) (customer_id tenant_id : UUID) (t : Timestamptz) : List Voucher :=
  d.vouchers.filter fun w => (recentTrials d customer_id tenant_id t).any fun p => p.id == w.payment_id

/-- The constraint of the vouchers, and two trials of a customer are 24 hours apart. -/
structure Spaced (d : Store) : Prop where
  vouchers : (d.vouchers.map (·.payment_id)).Nodup
  trials : ∀ p ∈ d.payments, ∀ q ∈ d.payments, ∀ customer_id tenant_id,
    p.isTrialOf customer_id tenant_id = true → q.isTrialOf customer_id tenant_id = true →
    p.id ≠ q.id → p.created_at + 24 * hour ≤ q.created_at ∨ q.created_at + 24 * hour ≤ p.created_at

/-- The customer has no trial, with or without a voucher, of the last 24 hours. -/
def Rested (d : Store) (customer_id tenant_id : UUID) (now : Timestamptz) : Prop :=
  ∀ p ∈ d.payments, p.isTrialOf customer_id tenant_id = true → p.created_at + 24 * hour ≤ now

/-- A statement that inserts a trial meets a customer without one. -/
def Meets (d : Store) (now : Timestamptz) : Stmt → Prop
  | .insert_payment customer_id _ _ _ _ tenant_id _ _ => Rested d customer_id tenant_id now
  | _ => True

/-- Requests for trials, runs of the reconciliation, and jobs. -/
def Spawn.isTrial : Spawn → Bool
  | .free_trial _ => true
  | .reconcile => true
  | .job .. => true
  | _ => false

/-- Runs in which a trial is inserted only for a customer without another of the last 24 hours.
The rest of the system changes everything but trials and the constraint of the vouchers. -/
def rules : RunRules where
  stmt s c d := match c with
    | .run v => Meets d v.now s
    | .fail _ => True
  spawn w _ := Spawn.isTrial w
  edit d d' := (d'.vouchers.map (·.payment_id)).Nodup ∧ ∀ p ∈ d'.payments, ∀ customer_id tenant_id,
    p.isTrialOf customer_id tenant_id = true → p ∈ d.payments

/-- Such runs without a condition on the statements. -/
def unguarded : RunRules where
  spawn w _ := Spawn.isTrial w
  edit := rules.edit

/-- The tables that matter here are `payments` and `vouchers`. -/
def otherTables : List Table := [.users, .packages, .radcheck, .radreply, .queue]

/-- The statements of these processes. -/
inductive Ours : Stmt → Prop
  | other {s : Stmt} (h : Within otherTables s) : Ours s
  | payment {customer_id package_id tenant_id : UUID} {amount : Decimal} {status : PaymentStatus}
      {phone : String} {checkout_id receipt : Option String} : Ours (.insert_payment customer_id
        package_id amount status phone tenant_id checkout_id receipt)
  | voucher {payment_id customer_id package_id tenant_id : UUID} {code : String}
      {router_id : Option UUID} : Ours (.insert_voucher payment_id customer_id package_id code
        tenant_id router_id)

variable {d d' : Store} {customer_id tenant_id : UUID}

theorem Spaced.of_trials (h : Spaced d) (hv : (d'.vouchers.map (·.payment_id)).Nodup)
    (hp : ∀ p ∈ d'.payments, ∀ customer_id tenant_id, p.isTrialOf customer_id tenant_id = true →
      p ∈ d.payments) : Spaced d' where
  vouchers := hv
  trials p hp' q hq' customer_id tenant_id hpt hqt :=
    h.trials p (hp p hp' _ _ hpt) q (hp q hq' _ _ hqt) customer_id tenant_id hpt hqt

/-- A statement on other tables. -/
theorem Spaced.same (h : Spaced d) (hv : d'.vouchers = d.vouchers)
    (hp : d'.payments = d.payments) : Spaced d' :=
  h.of_trials (hv ▸ h.vouchers) fun _ hmem _ _ _ => hp ▸ hmem

/-- A new payment of a customer without a trial of the last 24 hours. -/
theorem Spaced.insert_payment (h : Spaced d) {row : Payment} {now : Timestamptz}
    (hrow : row.created_at = now) (hrest : Rested d row.customer_id row.tenant_id now) :
    Spaced { d with payments := d.payments ++ [row] } where
  vouchers := h.vouchers
  trials := by
    have howner {customer_id tenant_id : UUID} (ht : row.isTrialOf customer_id tenant_id = true) :
        customer_id = row.customer_id ∧ tenant_id = row.tenant_id := by
      simp only [Payment.isTrialOf, Bool.and_eq_true, beq_iff_eq] at ht
      exact ⟨ht.1.1.symm, ht.1.2.symm⟩
    intro p hp q hq customer_id tenant_id hpt hqt hne
    rcases List.mem_append.mp hp with hp | hp
    · rcases List.mem_append.mp hq with hq | hq
      · exact h.trials p hp q hq customer_id tenant_id hpt hqt hne
      · rw [List.mem_singleton.mp hq] at hqt ⊢
        obtain ⟨rfl, rfl⟩ := howner hqt
        rw [hrow]
        exact .inl (hrest p hp hpt)
    · rw [List.mem_singleton.mp hp] at hpt hne ⊢
      obtain ⟨rfl, rfl⟩ := howner hpt
      rcases List.mem_append.mp hq with hq | hq
      · rw [hrow]
        exact .inr (hrest q hq hqt)
      · rw [List.mem_singleton.mp hq] at hne
        exact absurd rfl hne

theorem Spaced.insert_voucher (h : Spaced d) {w : Voucher}
    (hw : ∀ w₀ ∈ d.vouchers, w₀.payment_id ≠ w.payment_id) :
    Spaced { d with vouchers := d.vouchers ++ [w] } where
  vouchers := nodup_map_concat _ h.vouchers hw
  trials := h.trials

/-- What the processes run. -/
theorem start_all {w : Spawn} {p : M Unit} (hw : Spawn.isTrial w = true)
    (hs : start w d = some (d', p)) : p.All Ours := by
  have hother {Ts : List Table} (hsub : Ts ⊆ otherTables) (s : Stmt) (h : Within Ts s) : Ours s :=
    .other (within_mono h hsub)
  cases w with
  | free_trial data =>
      cases hs
      exact discard_all (provision_free_trial_all data
        (hother (by simp [trialTables, otherTables])) (fun _ _ _ => .payment)
        fun _ _ _ _ _ => .voucher)
  | reconcile =>
      cases hs
      exact (reconcile_payments_cron_plain (by simp [otherTables])).all.mono fun _ => .other
  | job position keep =>
      obtain ⟨job, -, hjob⟩ := Option.map_eq_some_iff.mp hs
      cases hjob
      refine discard_all (run_job_all job
        (hother (by simp [credentialTables, otherTables])) (fun _ _ _ _ => .voucher) fun n => ?_)
      refine .other fun T hT => ?_
      cases hT
      simp [otherTables]
  | _ => cases hw

/-- Every statement keeps the trials apart. -/
theorem spaced_rule : StoreRule system rules Ours Spaced where
  restores := machine_restores
  start w d d' p hw hd hs := by
    refine ⟨?_, start_all hw hs⟩
    cases w with
    | job position keep =>
        obtain ⟨job, -, hjob⟩ := Option.map_eq_some_iff.mp hs
        cases keep <;> cases hjob <;> exact hd.same rfl rfl
    | _ => cases hs; exact hd
  edit d d' he hd := hd.of_trials he.1 he.2
  stmt s v d a d' hs hr hd hx := by
    have he := Stmt.exec_eq_ok.mp hx
    cases hs with
    | other h =>
        have hsame (T : Table) (hT : T ∉ otherTables) : d'.Same d T :=
          Stmt.eval_same (fun hw => hT (h T hw)) he
        exact hd.same (hsame .vouchers (by simp [otherTables])) (hsame .payments (by simp [otherTables]))
    | payment =>
        obtain ⟨rfl, -, hcustomer, -, -, htenant, -⟩ := Stmt.eval_insert_payment he
        refine hd.insert_payment (Stmt.eval_insert_payment_created he) ?_
        rw [hcustomer, htenant]
        exact hr
    | voucher =>
        obtain ⟨w, rfl, rfl, -, -, -, -, hnew, -⟩ := Stmt.eval_insert_voucher he
        exact hd.insert_voucher hnew

/-- Trials that are 24 hours apart have one voucher in 24 hours. -/
theorem Spaced.at_most_one (h : Spaced d) (customer_id tenant_id : UUID) (t : Timestamptz) :
    (trialVouchers d customer_id tenant_id t).length ≤ 1 := by
  have hnodup : (trialVouchers d customer_id tenant_id t).Nodup := h.vouchers.of_map.filter _
  rw [← List.toFinset_card_of_nodup hnodup, Finset.card_le_one]
  intro w hw w' hw'
  rw [List.mem_toFinset, trialVouchers, List.mem_filter, List.any_eq_true] at hw hw'
  obtain ⟨hw, p, hp, hpw⟩ := hw
  obtain ⟨hw', q, hq, hqw⟩ := hw'
  simp only [recentTrials, List.mem_filter, Bool.and_eq_true, decide_eq_true_eq] at hp hq
  rw [beq_iff_eq] at hpw hqw
  have hsame : p.id = q.id := by
    by_contra hne
    rcases h.trials p hp.1 q hq.1 customer_id tenant_id hp.2.1.1 hq.2.1.1 hne with hle | hle
    · linarith [hp.2.1.2, hq.2.2]
    · linarith [hq.2.1.2, hp.2.2]
  exact List.inj_on_of_nodup_map h.vouchers hw hw' (hpw.symm.trans (hsame.trans hqw))

/-- A customer gets one trial voucher in 24 hours. -/
theorem one_trial_a_day {s : RunState} (hd : Spaced d) (h : Reaches system rules (idle d) s)
    (customer_id tenant_id : UUID) (t : Timestamptz) :
    (trialVouchers s.store customer_id tenant_id t).length ≤ 1 :=
  (spaced_rule.run h hd).at_most_one customer_id tenant_id t

section Decidable

variable (s : Stmt) (c : Choice Exn Env) (w : Spawn) (d d' : Store) (now : Timestamptz)

instance : Decidable (Rested d customer_id tenant_id now) :=
  inferInstanceAs (Decidable (∀ p ∈ d.payments, _))

instance : Decidable (Meets d now s) := by
  rcases s with ⟨⟩ <;>
    first | exact .isTrue trivial | exact inferInstanceAs (Decidable (Rested d _ _ now))

instance : Decidable (rules.stmt s c d) :=
  match c with
  | .run v => inferInstanceAs (Decidable (Meets d v.now s))
  | .fail _ => .isTrue trivial

instance : Decidable (rules.spawn w d) := inferInstanceAs (Decidable (Spawn.isTrial w = true))

noncomputable instance : Decidable (rules.edit d d') := Classical.propDecidable _

instance : Decidable (unguarded.stmt s c d) := .isTrue trivial

instance : Decidable (unguarded.spawn w d) := inferInstanceAs (Decidable (Spawn.isTrial w = true))

noncomputable instance : Decidable (unguarded.edit d d') := Classical.propDecidable _

end Decidable

/-- A tenant with a customer and a package for trials. -/
def lobby : Store :=
  { shop with packages := [{ daily with name := "Free Trial" }], payments := [] }

/-- The customer asks for a trial. -/
def request : PortalFreeTrialRequest := { phone := "254700000002", tenant_id := 1 }

/-- `n` steps of process `i`, with its own draws. -/
def trialSteps (n i : ℕ) : List RunLabel :=
  List.replicate n (stepOf i { draw := fun _ => i, uuid := .ofNat 128 (20 + i) })

theorem spaced_lobby : Spaced lobby where
  vouchers := List.nodup_nil
  trials p hp := by cases hp

/-- A request, and another one that is refused. -/
theorem one_trial_a_day_refused : ∃ s : RunState, s.store.vouchers.length = 1 ∧
    (trialVouchers s.store 2 1 0).length ≤ 1 := by
  obtain ⟨s, hs, hv⟩ := Reaches.of_moves (Y := system) (ρ := rules) (idle lobby)
    (.spawn (.free_trial request) :: trialSteps 17 0 ++
      .spawn (.free_trial request) :: trialSteps 2 1)
    (fun d => d.vouchers.length) 1 (by decide +kernel) (by decide +kernel)
  exact ⟨s, hv, one_trial_a_day spaced_lobby hs 2 1 0⟩

/-- Two requests that count the trials at the same time. -/
theorem not_one_trial_a_day : ¬ ∀ (d : Store) (s : RunState), Spaced d →
    Reaches system unguarded (idle d) s → ∀ customer_id tenant_id t,
      (trialVouchers s.store customer_id tenant_id t).length ≤ 1 := by
  intro h
  obtain ⟨s, hs, hv⟩ := Reaches.of_moves (Y := system) (ρ := unguarded) (idle lobby)
    (.spawn (.free_trial request) :: .spawn (.free_trial request) :: trialSteps 2 0 ++
      trialSteps 2 1 ++ trialSteps 15 0 ++ trialSteps 15 1)
    (fun d => (trialVouchers d 2 1 0).length) 2 (by decide +kernel) (by decide +kernel)
  have hone := h lobby s spaced_lobby hs 2 1 0
  rw [hv] at hone
  exact absurd hone (by decide)

end TrialLimit

end FrixelConnect
