import FrixelConnect.Subscriptions
import FrixelConnect.Interleaving.Solo

/-!
# Renewals and changes of the package

The renewal of a subscription and the charge for a change of its package both ask for the
column `duration_days`, which a migration has renamed, so that neither ever gets past its
query. What they are meant to compute is stated here, and that they never do.
-/

namespace FrixelConnect

open Calendar Interleaving

/-- What the environment chooses for the statements of one call. -/
abbrev SubscriptionFate := Solo.Fate SubscriptionStmt Exn SubscriptionEnv
abbrev SubscriptionLocal := Local SubscriptionStmt Unit SubscriptionEnv

theorem SubscriptionStmt.exec_eq_settle (s : SubscriptionStmt) (v : SubscriptionEnv)
    (d : SubscriptionStore) : s.exec v d = settle (s.query.eval v d) d := by
  rw [exec]
  cases s.query.eval v d with
  | ok r => rfl
  | error e => rfl

theorem SubscriptionStmt.exec_eq_ok {s : SubscriptionStmt} {v : SubscriptionEnv}
    {d d' : SubscriptionStore} {a : s.Res} :
    s.exec v d = (.ok a, d') ↔ s.query.eval v d = .ok (a, d') := by
  rw [exec_eq_settle, settle_eq_ok]

theorem subscriptionMachine_restores : subscriptionMachine.Restores :=
  .of_settle _ SubscriptionStmt.exec_eq_settle

namespace Subscriptions

/-- The columns after the migrations. -/
theorem duration_days_not_mem : packageColumns.contains "duration_days" = false := by
  decide

variable {fate : SubscriptionFate} {d : SubscriptionStore} {l : SubscriptionLocal}

/-- A query that names a column which the table does not have. -/
theorem select_package_raises {columns : List String} (caller : Option UUID)
    (hcolumns : "duration_days" ∈ columns) (id tenant_id : UUID)
    (c : Choice Exn SubscriptionEnv) (d : SubscriptionStore) :
    ∃ e, subscriptionMachine.direct ⟨caller, .select_package columns id tenant_id⟩ c d =
      (.error e, d) := by
  cases c with
  | fail e => exact ⟨e, rfl⟩
  | run v =>
      have hmissing : (columns.find? fun c => !packageColumns.contains c).isSome := by
        rw [List.find?_isSome]
        exact ⟨_, hcolumns, by rw [duration_days_not_mem]; rfl⟩
      obtain ⟨c, hc⟩ := Option.isSome_iff_exists.mp hmissing
      refine ⟨.database ("column \"" ++ c ++ "\" does not exist"), ?_⟩
      change SubscriptionStmt.exec ⟨caller, .select_package columns id tenant_id⟩ v d = _
      simp only [SubscriptionStmt.exec, SubscriptionQuery.eval, hc]
      rfl

/-- A program that starts with such a query ends with its exception. -/
theorem outcome_select_package {α : Type} {columns : List String}
    (hcolumns : "duration_days" ∈ columns) (hl : l.txn = .none) (caller : Option UUID)
    (id tenant_id : UUID) (f : Option Package → SubscriptionM α) :
    ∃ e, Solo.outcome subscriptionMachine fate
      (run caller (.select_package columns id tenant_id) >>= f) d l = (.error e, d, l) := by
  obtain ⟨e, he⟩ := select_package_raises caller hcolumns id tenant_id
    (fate.stmt ⟨caller, .select_package columns id tenant_id⟩) d
  exact ⟨e, Solo.outcome_exec_bind_error hl he⟩

section Renewal

/-- The subscription of the customer before the payment, if there is one. -/
def current (d : SubscriptionStore) (tenant_id customer_id : UUID) : Option Subscription :=
  d.subscriptions.find? fun s => s.customer_id == customer_id && s.tenant_id == tenant_id

/-- The period that starts where the paid time ends. -/
def extended (sub : Option Subscription) (now : Timestamptz) (pkg : Package) : Timestamptz :=
  let paid := (sub.filter fun s => s.status == .active || s.status == .grace).map
    (·.current_period_end)
  max (paid.getD now) now + pkg.duration_minutes * minute

/-- The customer's secret on the router of the customer is enabled. -/
def SecretEnabled (d : SubscriptionStore) (customer_id : UUID) : Prop :=
  ∀ u ∈ d.users, u.id = customer_id → ∀ r ∈ d.routers, u.router_id = some r.id →
    ∀ s ∈ d.secrets, s.host = r.host → s.port = r.port → s.name = u.phone → s.disabled = false

/-- The payment renews the subscription. -/
structure Renewed (d : SubscriptionStore) (tenant_id customer_id : UUID) (pkg : Package)
    (now : Timestamptz) (r : Except Exn Unit) (d' : SubscriptionStore) : Prop where
  succeeds : r = .ok ()
  extends_period : ∃ s ∈ d'.subscriptions, s.tenant_id = tenant_id ∧ s.customer_id = customer_id ∧
    s.status = .active ∧ s.current_period_end = extended (current d tenant_id customer_id) now pkg
  enables : (current d tenant_id customer_id).any (fun s => s.status == .suspended) →
    SecretEnabled d' customer_id

/-- The renewal that a call makes of the store. -/
def renewal (fate : SubscriptionFate) (d : SubscriptionStore)
    (tenant_id customer_id package_id : UUID) : Except Exn Unit × SubscriptionStore :=
  let outcome := Solo.outcome subscriptionMachine fate
    (process_renewal_payment tenant_id customer_id package_id) d {}
  (outcome.1, outcome.2.1)

/-- The query raises, and nothing has changed. -/
theorem renewal_raises (fate : SubscriptionFate) (d : SubscriptionStore)
    (tenant_id customer_id package_id : UUID) :
    ∃ e, renewal fate d tenant_id customer_id package_id = (.error e, d) := by
  obtain ⟨e, he⟩ : ∃ e, Solo.outcome subscriptionMachine fate
      (process_renewal_payment tenant_id customer_id package_id) d {} = (.error e, d, {}) :=
    outcome_select_package (by simp) rfl _ _ _ _
  exact ⟨e, by rw [renewal, he]⟩

/-- No payment renews a subscription. -/
theorem never_renewed (fate : SubscriptionFate) (d : SubscriptionStore)
    (tenant_id customer_id : UUID) (pkg : Package) (now : Timestamptz) :
    ¬ Renewed d tenant_id customer_id pkg now (renewal fate d tenant_id customer_id pkg.id).1
      (renewal fate d tenant_id customer_id pkg.id).2 := by
  obtain ⟨e, he⟩ := renewal_raises fate d tenant_id customer_id pkg.id
  rw [he]
  exact fun h => by cases h.succeeds

end Renewal

section Change

/-- The charge for the whole days that remain, at the price per day of the difference. -/
def dueCharge (sub : Subscription) (old_pkg new_pkg : Package) (now : Timestamptz) : ℚ :=
  let days_remaining : ℚ := ((sub.current_period_end - now) / day : ℤ)
  let duration_days : ℚ := (old_pkg.duration_minutes : ℚ) / 1440
  if price old_pkg < price new_pkg then
    round2 (days_remaining / duration_days * (price new_pkg - price old_pkg))
  else 0

/-- The call succeeds with the charge that is due. -/
structure Prorated (sub : Subscription) (old_pkg new_pkg : Package) (now : Timestamptz)
    (r : Except Exn Proration) : Prop where
  succeeds : ∃ charge, r = .ok charge
  due : ∀ charge, r = .ok charge →
    charge.prorated_charge_kes = dueCharge sub old_pkg new_pkg now
  nonneg : ∀ charge, r = .ok charge → 0 ≤ charge.prorated_charge_kes
  bounded : ∀ charge, r = .ok charge → price old_pkg < price new_pkg →
    sub.current_period_end - now ≤ old_pkg.duration_minutes * minute →
      charge.prorated_charge_kes ≤ price new_pkg - price old_pkg

/-- What a call answers about a change of the package. -/
def proration (fate : SubscriptionFate) (d : SubscriptionStore)
    (tenant_id subscription_id new_package_id : UUID) : Except Exn Proration :=
  (Solo.outcome subscriptionMachine fate
    (calculate_proration tenant_id subscription_id new_package_id) d {}).1

theorem get_subscription_plain (tenant_id subscription_id : UUID) :
    (get_subscription tenant_id subscription_id).Plain fun _ => True := by
  refine Prog.Plain.bind ((Prog.plain_exec _).mpr trivial) fun row => ?_
  cases row <;> trivial

/-- The subscription is not found, or the query for its package raises. -/
theorem proration_raises (fate : SubscriptionFate) (d : SubscriptionStore)
    (tenant_id subscription_id new_package_id : UUID) :
    ∃ e, proration fate d tenant_id subscription_id new_package_id = .error e := by
  have hclosed : (Solo.outcome subscriptionMachine fate
      (get_subscription tenant_id subscription_id) d {}).2.2.txn = .none :=
    (Solo.outcome_keeps (P := fun _ => True)
      (get_subscription_plain tenant_id subscription_id).framed rfl (fun _ _ _ _ => trivial)
      trivial).2
  rw [proration, calculate_proration]
  obtain ⟨x, hx⟩ : ∃ x, Solo.outcome subscriptionMachine fate
      (get_subscription tenant_id subscription_id) d {} = x := ⟨_, rfl⟩
  rw [hx] at hclosed
  obtain ⟨r, d', l'⟩ := x
  cases r with
  | error e => exact ⟨e, by rw [Solo.outcome_bind_error hx]⟩
  | ok sub =>
      rw [Solo.outcome_bind_ok hx]
      have hcolumns : "duration_days" ∈ ["price_kes", "duration_days"] := by simp
      obtain ⟨e, he⟩ := outcome_select_package hcolumns hclosed none sub.package_id tenant_id _
      exact ⟨e, by rw [he]⟩

/-- No change of the package is ever charged. -/
theorem never_prorated (fate : SubscriptionFate) (d : SubscriptionStore) (tenant_id : UUID)
    (sub : Subscription) (old_pkg new_pkg : Package) (now : Timestamptz) :
    ¬ Prorated sub old_pkg new_pkg now (proration fate d tenant_id sub.id new_pkg.id) := by
  obtain ⟨e, he⟩ := proration_raises fate d tenant_id sub.id new_pkg.id
  rw [he]
  intro h
  obtain ⟨charge, hcharge⟩ := h.succeeds
  cases hcharge

end Change

/-- Nothing fails, and the time is `now`. -/
def calm (now : Timestamptz) : SubscriptionFate where
  stmt _ := .run { now }
  commit := .run {}

/-- A package of one day. -/
def daily : Package :=
  { id := 1, name := "Daily", price_kes := .units ⟨5000, Money.fits_5000⟩, duration_minutes := 1440
    speed_mbps := 10, tenant_id := 1 }

/-- A package of one week. -/
def weekly : Package :=
  { id := 2, name := "Weekly", price_kes := .units ⟨30000, by decide⟩, duration_minutes := 10080
    speed_mbps := 10, tenant_id := 1 }

/-- A subscription whose period ends in twelve hours. -/
def endingSoon : Subscription :=
  { id := 3, tenant_id := 1, customer_id := 4, package_id := 1, current_period_end := 12 * hour
    created_at := 0 }

def subscribed : SubscriptionStore where
  subscriptions := [endingSoon]
  packages := [daily, weekly]
  users := [{ id := 4, email := "c@example.com", phone := "254700000001", hashed_password := ""
              tenant_id := 1 }]

/-- The payment of a customer is not answered by a renewal. -/
theorem not_renewed : ¬ ∀ (d : SubscriptionStore) (tenant_id customer_id : UUID) (pkg : Package)
    (now : Timestamptz), (∃ u ∈ d.users, u.id = customer_id ∧ u.tenant_id = tenant_id) →
      pkg ∈ d.packages → pkg.tenant_id = tenant_id →
        Renewed d tenant_id customer_id pkg now
          (renewal (calm now) d tenant_id customer_id pkg.id).1
          (renewal (calm now) d tenant_id customer_id pkg.id).2 := by
  intro h
  have hsucceeds := (h subscribed 1 4 daily 0 (by decide) (by decide) rfl).succeeds
  exact absurd hsucceeds (by decide)

/-- The change from the daily to the weekly package is not answered by a charge. -/
theorem not_prorated : ¬ ∀ (d : SubscriptionStore) (sub : Subscription)
    (old_pkg new_pkg : Package) (now : Timestamptz), sub ∈ d.subscriptions →
      old_pkg ∈ d.packages → old_pkg.id = sub.package_id → new_pkg ∈ d.packages →
        new_pkg.tenant_id = sub.tenant_id → now < sub.current_period_end →
          Prorated sub old_pkg new_pkg now
            (proration (calm now) d sub.tenant_id sub.id new_pkg.id) := by
  intro h
  obtain ⟨charge, hcharge⟩ := (h subscribed endingSoon daily weekly 0
    (by decide) (by decide) rfl (by decide) rfl (by decide)).succeeds
  obtain ⟨e, he⟩ := proration_raises (calm 0) subscribed 1 3 2
  exact absurd (hcharge.symm.trans he) (by simp)

end Subscriptions

end FrixelConnect
