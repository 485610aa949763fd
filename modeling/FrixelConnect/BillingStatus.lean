import FrixelConnect.ManualBilling

/-!
# The displayed billing status

The portal shows whether a tenant is paid up, in its days of grace, or suspended. The
display compares two timestamps, the billing run compares a number of whole days, so
that they differ at the due instant and on the eighth day after it.
-/

namespace FrixelConnect

open Calendar Interleaving

inductive BillingStatus where
  | active
  | grace
  | suspended
  deriving DecidableEq

def _billing_status (status : TenantStatus) (next_billing_date : Option Timestamptz)
    (now : Timestamptz) : BillingStatus :=
  match status with
  | .suspended => .suspended
  | .cancelled => .suspended
  | .active =>
      match next_billing_date with
      | none => .active
      | some next_billing_date =>
          if next_billing_date < now then
            if now - 7 * day ≤ next_billing_date then .grace else .suspended
          else .active

def get_tenant_by_id (tenant_id : UUID) : M (Tenant × BillingStatus) := do
  let row ← exec (.select_tenant tenant_id)
  match row with
  | none => throw (.notFound "Tenant" (str tenant_id))
  | some row =>
      let now ← exec .utc_now
      return (row, _billing_status row.status (some row.next_billing_date) now)

namespace ManualBilling

variable (w : World) (d : Store) (tenant_id : UUID)

/-- The statements of the billing run. -/
def World.billing : List Stmt := Solo.performed machine w.fate tenant_billing_cron d {}

/-- The billing run suspends the tenant. -/
def CronSuspends : Prop := .suspend_tenant tenant_id ∈ w.billing d

/-- The billing run takes its billing branch for the tenant. -/
def CronBills : Prop := .count_recent_pushes tenant_id ∈ w.billing d

/-- The display says what the billing run does. -/
structure DisplayAgrees (t : Tenant) : Prop where
  suspended : _billing_status t.status (some t.next_billing_date) w.now = .suspended ↔
    CronSuspends w d t.id
  grace : _billing_status t.status (some t.next_billing_date) w.now = .grace ↔ CronBills w d t.id
  active : _billing_status t.status (some t.next_billing_date) w.now = .active ↔
    ¬ CronSuspends w d t.id ∧ ¬ CronBills w d t.id

/-- The tenant is suspended by the billing run. -/
def Overdue (t : Tenant) : Prop := Due w t ∧ 7 < (w.now - t.next_billing_date) / day

variable {w d tenant_id} {t : Tenant} {l : RunLocal}

instance : Decidable (Overdue w t) := inferInstanceAs (Decidable (_ ∧ _))

theorem performed_read {α : Type} {s : Stmt} {a : s.Res} {f : s.Res → M α} (hl : l.txn = .none)
    (he : s.eval (w.env s) d = .ok (a, d)) :
    Solo.performed machine w.fate (exec s >>= f) d l =
      s :: Solo.performed machine w.fate (f a) d l :=
  Solo.performed_exec_bind hl (Stmt.exec_eq_ok.mpr he)

/-- The push for a fee suspends nobody and looks at no other push. -/
theorem bill_performs {s : Stmt} (hs : s ∈ Solo.performed machine w.fate (bill_tenant t) d l) :
    s ≠ .suspend_tenant tenant_id ∧ s ≠ .count_recent_pushes tenant_id := by
  have hall : (bill_tenant t).Plain fun s =>
      s ≠ .suspend_tenant tenant_id ∧ s ≠ .count_recent_pushes tenant_id := by
    apply bill_tenant_plain
    · intros
      constructor <;> simp
    · intros
      constructor <;> simp
  exact Solo.mem_performed hall.all hs

/-- The branches of the billing of one tenant. -/
theorem meter_performs (hl : l.txn = .none) :
    (.suspend_tenant tenant_id ∈ Solo.performed machine w.fate (meter_tenant w.now t) d l ↔
      t.id = tenant_id ∧ Overdue w t) ∧
    (.count_recent_pushes tenant_id ∈ Solo.performed machine w.fate (meter_tenant w.now t) d l ↔
      t.id = tenant_id ∧ Due w t ∧ ¬ Overdue w t) := by
  rw [meter_tenant, performed_read hl rfl]
  by_cases hdue : Due w t
  · rw [if_pos (show t.status = .active ∧ t.next_billing_date ≤ w.now from hdue)]
    by_cases hdays : 7 < (w.now - t.next_billing_date) / day
    · rw [if_pos hdays]
      constructor
      · simp [Prog.exec, Solo.performed, Overdue, hdue, hdays, eq_comm]
      · simp [Prog.exec, Solo.performed, Overdue, hdue, hdays]
    · rw [if_neg hdays, performed_read hl rfl]
      have hbill (s : Stmt) (recent_push : ℕ) (hs : s ∈ Solo.performed machine w.fate
          (if recent_push = 0 then bill_tenant t else pure ()) d l) :
          s ≠ .suspend_tenant tenant_id ∧ s ≠ .count_recent_pushes tenant_id := by
        split at hs
        · exact bill_performs hs
        · cases hs
      constructor
      · constructor
        · intro h
          simp only [List.mem_cons, reduceCtorEq, false_or] at h
          exact absurd rfl (hbill _ _ h).1
        · exact fun h => absurd h.2.2 hdays
      · constructor
        · intro h
          simp only [List.mem_cons, reduceCtorEq, false_or, Stmt.count_recent_pushes.injEq] at h
          rcases h with rfl | h
          · exact ⟨rfl, hdue, fun ho => hdays ho.2⟩
          · exact absurd rfl (hbill _ _ h).2
        · rintro ⟨rfl, -⟩
          simp
  · rw [if_neg (show ¬ (t.status = .active ∧ t.next_billing_date ≤ w.now) from hdue)]
    constructor
    · simp [Solo.performed, Overdue, hdue]
    · simp [Solo.performed, hdue]

/-- What the billing of all tenants performs, the billing of one of them performs. -/
theorem forEach_performs {s : Stmt} {P : Tenant → Prop}
    (hmeter : ∀ x d l, l.txn = .none →
      (s ∈ Solo.performed machine w.fate (meter_tenant w.now x) d l ↔ P x))
    {ts : List Tenant} (hl : l.txn = .none) :
    s ∈ Solo.performed machine w.fate (.forEach ts (meter_tenant w.now)) d l ↔ ∃ x ∈ ts, P x := by
  induction ts generalizing d l with
  | nil => simp [Prog.forEach, Solo.performed]
  | cons x ts ih =>
      have hclosed : (Solo.outcome machine w.fate (meter_tenant w.now x) d l).2.2.txn = .none :=
        (Solo.outcome_keeps (φ := fun _ => True) (P := fun _ => True) (meter_tenant_plain w.now x
          (fun _ _ => trivial) (fun _ _ _ _ => trivial) (fun _ _ _ => trivial) trivial).framed hl
          (fun _ _ _ _ => trivial) trivial).2
      rw [Solo.performed_forEach_cons (meter_ok w.now x hl), List.mem_append, hmeter x d l hl,
        ih hclosed]
      simp

/-- The billing run performs for one tenant what its own billing performs. -/
theorem mem_billing {s : Stmt} {P : Tenant → Prop}
    (hread : s ≠ .select_tenants ∧ s ≠ .utc_now)
    (hmeter : ∀ x d l, l.txn = .none →
      (s ∈ Solo.performed machine w.fate (meter_tenant w.now x) d l ↔ x.id = tenant_id ∧ P x))
    (hids : (d.tenants.map (·.id)).Nodup) (ht : t ∈ d.tenants) (hid : t.id = tenant_id) :
    s ∈ w.billing d ↔ P t := by
  rw [World.billing, tenant_billing_cron, Solo.performed_absorb, performed_read rfl rfl,
    performed_read rfl rfl, List.mem_cons, List.mem_cons, World.env_now,
    forEach_performs hmeter rfl]
  constructor
  · rintro (h | h | ⟨x, hx, hxid, hP⟩)
    · exact absurd h hread.1
    · exact absurd h hread.2
    · have : x = t := List.inj_on_of_nodup_map hids hx ht (hxid.trans hid.symm)
      exact this ▸ hP
  · exact fun hP => .inr (.inr ⟨t, ht, hid, hP⟩)

/-- The display of an active tenant, by the time that has passed since its due date. -/
theorem _billing_status_active {due now : Timestamptz} {x : ℤ} (hx : now - due = x) :
    (_billing_status .active (some due) now = .suspended ↔ 7 * day < x) ∧
    (_billing_status .active (some due) now = .grace ↔ 0 < x ∧ x ≤ 7 * day) ∧
    (_billing_status .active (some due) now = .active ↔ x ≤ 0) := by
  have hday : 0 < day := by decide
  simp only [_billing_status]
  split
  · next hlt =>
      have hpos : 0 < x := by linarith
      split
      · next hle =>
          have hweek : x ≤ 7 * day := by linarith
          simp [hpos, hweek, not_le.mpr hpos, not_lt.mpr hweek]
      · next hle =>
          have hweek : 7 * day < x := by linarith
          simp [hweek, not_le.mpr hpos, not_le.mpr hweek]
  · next hlt =>
      have hneg : x ≤ 0 := by linarith
      have hweek : ¬ 7 * day < x := by linarith
      simp [hneg, hweek, not_lt.mpr hneg]

/-- Two ways to cut the time line agree unless the time lies between the cuts. -/
theorem cuts_agree_iff (x : ℤ) : ((7 * day < x ↔ 8 * day ≤ x) ∧
    (0 < x ∧ x ≤ 7 * day ↔ 0 ≤ x ∧ ¬ 8 * day ≤ x) ∧
    (x ≤ 0 ↔ ¬ 8 * day ≤ x ∧ ¬ (0 ≤ x ∧ ¬ 8 * day ≤ x))) ↔
      x ≠ 0 ∧ ¬ (7 * day < x ∧ x < 8 * day) := by
  have hday : (day : ℤ) = 86400000000 := rfl
  rw [hday]
  omega

variable (hids : (d.tenants.map (·.id)).Nodup) (ht : t ∈ d.tenants)
include hids ht

theorem cronSuspends_iff : CronSuspends w d t.id ↔ Overdue w t :=
  mem_billing (by simp) (fun _ _ _ hl => (meter_performs hl).1) hids ht rfl

theorem cronBills_iff : CronBills w d t.id ↔ Due w t ∧ ¬ Overdue w t :=
  mem_billing (by simp) (fun _ _ _ hl => (meter_performs hl).2) hids ht rfl

/-- The display agrees with the billing run except at the due instant and between the seventh and
the eighth day after it. -/
theorem display_agrees_iff (hactive : t.status = .active) : DisplayAgrees w d t ↔
    w.now ≠ t.next_billing_date ∧
      ¬ (7 * day < w.now - t.next_billing_date ∧ w.now - t.next_billing_date < 8 * day) := by
  obtain ⟨x, hx⟩ : ∃ x : ℤ, w.now - t.next_billing_date = x := ⟨_, rfl⟩
  have hday : 0 < day := by decide
  have hdue : t.next_billing_date ≤ w.now ↔ 0 ≤ x := by
    rw [← hx]
    exact sub_nonneg.symm
  have hdays : 7 < x / day ↔ 8 * day ≤ x := by
    rw [Int.lt_iff_add_one_le]
    exact Int.le_ediv_iff_mul_le hday
  have hsuspends : CronSuspends w d t.id ↔ 8 * day ≤ x := by
    rw [cronSuspends_iff hids ht, Overdue, Due, hx, hdays, hdue]
    constructor
    · exact fun h => h.2
    · exact fun h => ⟨⟨hactive, by linarith⟩, h⟩
  have hbills : CronBills w d t.id ↔ 0 ≤ x ∧ ¬ 8 * day ≤ x := by
    rw [cronBills_iff hids ht, ← cronSuspends_iff hids ht, hsuspends, Due, hdue]
    simp [hactive]
  have hne : w.now ≠ t.next_billing_date ↔ x ≠ 0 := by
    rw [← hx]
    exact sub_ne_zero.symm
  obtain ⟨hsuspended, hgrace, hopen⟩ := _billing_status_active hx
  rw [hne, hx, ← cuts_agree_iff x]
  constructor
  · rintro ⟨h₁, h₂, h₃⟩
    rw [hactive, hsuspended, hsuspends] at h₁
    rw [hactive, hgrace, hbills] at h₂
    rw [hactive, hopen, hsuspends, hbills] at h₃
    exact ⟨h₁, h₂, h₃⟩
  · rintro ⟨h₁, h₂, h₃⟩
    constructor
    · rw [hactive, hsuspended, hsuspends]
      exact h₁
    · rw [hactive, hgrace, hbills]
      exact h₂
    · rw [hactive, hopen, hsuspends, hbills]
      exact h₃

omit hids ht in
/-- A tenant whose due date was one day ago. -/
theorem display_agrees_one_day : DisplayAgrees acceptingWorld (dueStore .growth)
    (dueTenant .growth) :=
  (display_agrees_iff (by decide) (List.mem_singleton_self _) rfl).mpr (by decide)

omit hids ht in
/-- Half a day into the eighth day the tenant is shown as suspended, and the billing run bills. -/
theorem not_display_agrees : ¬ ∀ (w : World) (d : Store) (t : Tenant),
    (d.tenants.map (·.id)).Nodup → t ∈ d.tenants → t.status = .active → DisplayAgrees w d t := by
  intro h
  have hagrees := h { acceptingWorld with now := 15 * day / 2 } (dueStore .growth)
    (dueTenant .growth) (by decide) (List.mem_singleton_self _) rfl
  have hsuspends := hagrees.suspended.mp (by decide)
  exact absurd ((cronSuspends_iff (by decide) (List.mem_singleton_self _)).mp hsuspends) (by decide)

end ManualBilling

end FrixelConnect
