import FrixelConnect.TenantAdministration
import FrixelConnect.Specs.Footprint

/-!
# A paid month is a served month

The billing run suspends a tenant whose due date is more than a week past. A
confirmed fee moves the due date by one month from the old date, however far that
lies back. The runs within one month after the payment do not suspend the tenant when
one month after the payment is less than eight days after the new due date.
-/

namespace FrixelConnect

open Calendar Contract Interleaving

namespace PaidMonth

/-- The transaction that confirms a fee of the tenant at time `t`. -/
def Confirms (tenant_id : UUID) (t : Timestamptz) (d d' : Store) : Prop :=
  ∃ receipt w v v', v.now = t ∧
    (∃ r ∈ d.cores .platform_payments, w.holds r = true ∧ r.tenant_id = tenant_id) ∧
    machine.replay [(.confirm .platform_payments receipt w, v), (.extend_tenant tenant_id, v')] d =
      some d'

/-- The old due date is recent enough for a month that starts at time `t`. -/
def Recent (tenant_id : UUID) (t : Timestamptz) (d : Store) : Prop :=
  ∀ x ∈ d.tenants, x.id = tenant_id → plusMonth t < plusMonth x.next_billing_date + 8 * day

/-- The due date allows service until `t`. -/
def Due (tenant_id : UUID) (t : Timestamptz) (d : Store) : Prop :=
  ∀ x ∈ d.tenants, x.id = tenant_id → t < x.next_billing_date + 8 * day

/-- The clock has not passed `t`. -/
def Until (t : Timestamptz) : Stmt → Choice Exn Env → Prop
  | .utc_now, .run v => v.now ≤ t
  | _, _ => True

/-- Any processes until `t`. The rest of the system does not move the due date back. -/
def rules (tenant_id : UUID) (t : Timestamptz) : AdminRules where
  stmt s c _ := Until t s c
  edit d d' := ∀ x' ∈ d'.tenants, x'.id = tenant_id →
    ∃ x ∈ d.tenants, x.id = tenant_id ∧ x.next_billing_date ≤ x'.next_billing_date

/-- What the processes read until `t`. -/
def Answers (tenant_id : UUID) (t : Timestamptz) : (s : Stmt) → s.Res → Prop
  | .select_tenants, tenants => Due tenant_id t { tenants }
  | .utc_now, now => now ≤ t
  | _, _ => True

/-- The program does not suspend the tenant, whatever it reads until `t`. -/
def Serves (tenant_id : UUID) (t : Timestamptz) (p : M Unit) : Prop :=
  p.AllUnder (Answers tenant_id t) (· ≠ .suspend_tenant tenant_id)

/-- The process is about to suspend the tenant, as only the billing run does. -/
def Suspends (tenant_id : UUID) (p : Proc Stmt Stmt.Res Frame Exn Env Unit) : Prop :=
  match p.prog with
  | .stmt (.suspend_tenant id) _ => id = tenant_id
  | _ => False

variable {tenant_id : UUID} {t : Timestamptz} {d d' : Store}

theorem Due.same (h : Due tenant_id t d) (ht : d'.tenants = d.tenants) : Due tenant_id t d' := by
  intro x hx
  exact h x (ht ▸ hx)

/-- An update that moves no due date back. -/
theorem Due.updateTenant (h : Due tenant_id t d) {id : UUID} {f : Tenant → Tenant}
    (hid : ∀ x, (f x).id = x.id) (hf : ∀ x, x.next_billing_date ≤ (f x).next_billing_date) :
    Due tenant_id t (d.updateTenant id f) := by
  intro x' hx' hx'id
  obtain ⟨x, hx, rfl⟩ := List.mem_map.mp hx'
  by_cases hxid : x.id = id
  · rw [if_pos (by simpa using hxid)] at hx'id ⊢
    rw [hid] at hx'id
    calc t < x.next_billing_date + 8 * day := h x hx hx'id
      _ ≤ (f x).next_billing_date + 8 * day := by linarith [hf x]
  · rw [if_neg (by simpa using hxid)] at hx'id ⊢
    exact h x hx hx'id

/-- The payment makes the tenant due a month later. -/
theorem Confirms.due (h : Confirms tenant_id t d d') (hrecent : Recent tenant_id t d) :
    Due tenant_id (plusMonth t) d' := by
  obtain ⟨receipt, w, v, v', -, -, hreplay⟩ := h
  obtain ⟨a, d₁, hconfirm, hrest⟩ := replay_cons.mp hreplay
  obtain ⟨a', d₂, hextend, hd⟩ := replay_cons.mp hrest
  cases hextend
  cases hd
  have hsame : d₁.tenants = d.tenants := Stmt.eval_same (T := .tenants) (by simp [Stmt.writes,
    PaymentTable.table]) hconfirm
  intro x' hx' hid
  obtain ⟨x, hx, rfl⟩ := List.mem_map.mp hx'
  rw [hsame] at hx
  by_cases hxid : x.id = tenant_id
  · rw [if_pos (by simpa using hxid)]
    exact hrecent x hx hxid
  · rw [if_neg (by simpa using hxid)] at hid
    exact absurd hid hxid

/-- The billing run suspends only tenants that it has read as overdue. -/
theorem serves_tenant_billing_cron : Serves tenant_id t tenant_billing_cron := by
  refine Prog.AllUnder.tryCatch ?_ fun _ => trivial
  refine Prog.AllUnder.exec_bind (by simp) fun tenants htenants => ?_
  refine Prog.AllUnder.exec_bind (by simp) fun now hnow => ?_
  refine Prog.All.under (Prog.All.forEach fun x hx => ?_)
  refine Prog.All.bind (by simp) fun _ => ?_
  split
  · split
    · next hactive hlate =>
        rw [Prog.all_exec]
        intro hsuspend
        have hid : x.id = tenant_id := by simpa using hsuspend
        have hdue := htenants x hx hid
        have hday : (0 : ℤ) < day := by decide
        have hweek : 8 ≤ (now - x.next_billing_date) / day := hlate
        have := (Int.le_ediv_iff_mul_le hday).mp hweek
        have hnow : now ≤ t := hnow
        linarith
    · refine Prog.All.bind (by simp) fun recent_push => ?_
      split
      · exact (bill_tenant_plain x (by simp) (by simp)).all
      · trivial
  · trivial

/-- A statement on other tables suspends nobody. -/
theorem ne_suspend {Ts : List Table} (hT : Table.tenants ∉ Ts) {s : Stmt} (h : Within Ts s) :
    s ≠ .suspend_tenant tenant_id := by
  rintro rfl
  exact hT (h .tenants rfl)

theorem read_ne_suspend {s : Stmt} (h : s.writes = none) :
    (exec s).All (· ≠ .suspend_tenant tenant_id) :=
  (plain_read h).all.mono fun _ => ne_suspend List.not_mem_nil

theorem initiation_ne_suspend {p : M PaymentCore} (h : p.All (Within initiationTables)) :
    p.All (· ≠ .suspend_tenant tenant_id) :=
  h.mono fun _ => ne_suspend (by decide)

theorem change_status_ne_suspend (id : UUID) (status : TenantStatus) (detail action : String) :
    (change_status id status detail action).All (· ≠ .suspend_tenant tenant_id) := by
  refine (read_ne_suspend rfl).bind fun row => ?_
  cases row with
  | none => trivial
  | some row =>
      dsimp only
      split
      · trivial
      · exact Prog.All.bind (by simp) fun _ => read_ne_suspend rfl

/-- The programs of the application. -/
theorem serves_start {w : Spawn} {p : M Unit} (hs : start w d = some (d', p)) :
    Serves tenant_id t p := by
  have hsettle (s : Stmt) (h : Settles s) : s ≠ .suspend_tenant tenant_id :=
    ne_suspend (by decide) h.1
  by_cases haside : w.aside = true
  · by_cases hcron : w = .tenant_billing
    · subst hcron
      cases hs
      exact serves_tenant_billing_cron
    · refine Prog.All.under ((Spawn.apart_all haside hcron hs).mono fun s hs => ?_)
      cases hs with
      | tables h => exact ne_suspend (by decide) h
      | payment => simp
  · cases w with
    | daraja_webhook body =>
        cases hs
        exact (discard_all (process_daraja_webhook_all body hsettle (by simp))).under
    | poll =>
        cases hs
        exact (poll_pending_daraja_payments_cron_all hsettle (by simp)).under
    | stk_push _ _ data =>
        cases hs
        exact (discard_all (initiation_ne_suspend (initiate_stk_push_all _ _ data))).under
    | hotspot_payment data =>
        cases hs
        exact (discard_all (initiation_ne_suspend (initiate_hotspot_payment_all data))).under
    | platform_billing id =>
        cases hs
        exact (discard_all (initiation_ne_suspend
          (initiate_platform_billing_payment_all id))).under
    | _ => exact absurd rfl haside

/-- The programs that start. -/
theorem serves_admin_start {w : AdminSpawn} {p : M Unit} (hs : w.start d = some (d', p)) :
    Serves tenant_id t p := by
  cases w with
  | base w => exact serves_start (w := w) hs
  | suspend id =>
      cases hs
      exact (change_status_ne_suspend _ _ _ _).under
  | reactivate id =>
      cases hs
      exact (change_status_ne_suspend _ _ _ _).under
  | trigger id =>
      cases hs
      refine Prog.All.under (discard_all ((read_ne_suspend rfl).bind fun row => ?_))
      cases row with
      | none => trivial
      | some row =>
          exact (initiation_ne_suspend (initiate_platform_billing_payment_all id)).bind
            fun result => (read_ne_suspend rfl).bind fun _ => trivial

/-- Until `t`, the tenant stays due and is not suspended. -/
theorem due_rule (tenant_id : UUID) (t : Timestamptz) : AnswerRule adminSystem (rules tenant_id t)
    (· ≠ .suspend_tenant tenant_id) (Answers tenant_id t) (Due tenant_id t) where
  restores := machine_restores
  start w d d' p _ hd hs :=
    ⟨hd.same (AdminSpawn.start_same hs (T := .tenants) (by simp)), serves_admin_start hs⟩
  edit d d' he hd x' hx' hid := by
    obtain ⟨x, hx, hxid, hle⟩ := he x' hx' hid
    calc t < x.next_billing_date + 8 * day := hd x hx hxid
      _ ≤ x'.next_billing_date + 8 * day := by linarith
  stmt s v d a d' hd hx := by
    cases Stmt.onTenants (Stmt.exec_eq_ok.mp hx) with
    | extend_tenant id =>
        exact hd.updateTenant (fun _ => rfl) fun x => le_plusMonth x.next_billing_date
    | suspend_tenant id => exact hd.updateTenant (fun _ => rfl) fun x => le_refl _
    | set_tenant_status id status => exact hd.updateTenant (fun _ => rfl) fun x => le_refl _
    | other hsame => exact hd.same hsame
  answer s v d a d' hr hd hx := by
    have he := Stmt.exec_eq_ok.mp hx
    cases s with
    | select_tenants =>
        cases he
        exact hd
    | utc_now =>
        cases he
        exact hr rfl
    | _ => trivial

/-- A paid month is a served month. -/
theorem paid_month_served {s₁ s : RunState} (hpaid : Confirms tenant_id t d s₁.store)
    (hrecent : Recent tenant_id t d)
    (hprocs : ∀ p ∈ s₁.procs, Serves tenant_id (plusMonth t) p.prog)
    (h : Reaches adminSystem (rules tenant_id (plusMonth t)) s₁ s) :
    ∀ p ∈ s.procs, ¬ Suspends tenant_id p := by
  intro p hp hsuspends
  have hserves := ((due_rule tenant_id (plusMonth t)).reaches h (hpaid.due hrecent) hprocs).2 p hp
  obtain ⟨l, prog⟩ := p
  cases prog with
  | ret r => exact hsuspends
  | ctl c k => exact hsuspends
  | stmt s k =>
      cases s with
      | suspend_tenant id =>
          cases hsuspends
          exact hserves.1 rfl
      | _ => exact hsuspends

section Decidable

variable (p : Proc Stmt Stmt.Res Frame Exn Env Unit) (s : Stmt) (c : Choice Exn Env)
  (w : AdminSpawn) (d d' : Store) (tenant_id : UUID) (t : Timestamptz)

instance : Decidable (Suspends tenant_id p) :=
  match p with
  | ⟨_, .ret _⟩ => .isFalse id
  | ⟨_, .ctl _ _⟩ => .isFalse id
  | ⟨_, .stmt s _⟩ => by
      rcases s with ⟨⟩ <;>
        first | exact .isFalse id | exact inferInstanceAs (Decidable (_ = tenant_id))

instance : Decidable (Recent tenant_id t d) := inferInstanceAs (Decidable (∀ x ∈ d.tenants, _))

instance : Decidable ((rules tenant_id t).stmt s c d) := by
  rcases s with ⟨⟩ <;> rcases c with e | v <;>
    first | exact .isTrue trivial | exact inferInstanceAs (Decidable (v.now ≤ t))

instance : Decidable ((rules tenant_id t).spawn w d) := .isTrue trivial

noncomputable instance : Decidable ((rules tenant_id t).edit d d') := Classical.propDecidable _

end Decidable

/-- The shop after its fee was confirmed at time `t`. -/
def paidShop (t : Timestamptz) : Store :=
  (shop.updateCores .platform_payments (RowFilter.row 4 (some 1)).holds
    (PaymentCore.confirmed (some "QK4") t)).updateTenant 1 Tenant.extended

theorem confirms_shop (t : Timestamptz) : Confirms 1 t shop (paidShop t) :=
  ⟨.str "QK4", .row 4 (some 1), { now := t }, { now := t }, rfl,
    ⟨waitingFee, by simp [shop, Store.cores], by decide, rfl⟩, rfl⟩

/-- The billing run at time `t`, until it has counted the customers of the first tenant. -/
def billingRun (t : Timestamptz) : List (Label Exn Store Env AdminSpawn) :=
  .spawn (.base .tenant_billing) :: List.replicate 3 (.step 0 (.run { now := t }))

/-- The tenant pays two days late, and the billing runs one month after the old due date. -/
theorem paid_month_served_in_time : ∃ s : RunState, s.procs.length = 1 ∧
    ∀ p ∈ s.procs, ¬ Suspends 1 p := by
  obtain ⟨s, hs, hv⟩ := Reaches.of_moves_state (Y := adminSystem)
    (ρ := rules 1 (plusMonth (2 * day))) (idle (paidShop (2 * day))) (billingRun (31 * day))
    (fun s => s.procs.length) 1 (by decide +kernel) (by decide +kernel)
  have hpaid : Confirms 1 (2 * day) shop (idle (paidShop (2 * day))).store := confirms_shop _
  exact ⟨s, hv, paid_month_served hpaid (by decide +kernel) (by simp [idle]) hs⟩

/-- The tenant pays a hundred days late, and the next billing run suspends it. -/
theorem not_paid_month_served : ¬ ∀ (tenant_id : UUID) (t : Timestamptz) (d : Store)
    (s₁ s : RunState), Confirms tenant_id t d s₁.store →
      (∀ p ∈ s₁.procs, Serves tenant_id (plusMonth t) p.prog) →
      Reaches adminSystem (rules tenant_id (plusMonth t)) s₁ s →
      ∀ p ∈ s.procs, ¬ Suspends tenant_id p := by
  intro h
  obtain ⟨s, hs, hv⟩ := Reaches.of_moves_state (Y := adminSystem)
    (ρ := rules 1 (plusMonth (100 * day))) (idle (paidShop (100 * day))) (billingRun (101 * day))
    (fun s => s.procs.any fun p => decide (Suspends 1 p)) true (by decide +kernel)
    (by decide +kernel)
  obtain ⟨p, hp, hsuspends⟩ := List.any_eq_true.mp hv
  exact h 1 (100 * day) shop (idle (paidShop (100 * day))) s (confirms_shop _) (by simp [idle]) hs
    p hp (of_decide_eq_true hsuspends)

end PaidMonth

end FrixelConnect
