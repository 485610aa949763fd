import FrixelConnect.TenantReads

/-!
# Isolation of the reads

Two databases with the same rows of a tenant, in which rows refer to users and packages of their
own tenant, give the same answer to every read of the tenant.

## Implementation notes

An invoice refers to the customer and the package of its payment. Several queries take the rows of
the tenant together with users, packages or payments by their ids only. They keep to the tenant
because of the references, and the other ones do so by themselves. None of them reads a session.
-/

namespace FrixelConnect

open Bags Interleaving

/-- The reference of a row names a row of the same tenant. -/
structure TenantTables.Coherent (d : TenantTables) : Prop where
  payment_customer : ∀ p ∈ d.payments, ∀ u ∈ d.users, u.id = p.customer_id →
    u.tenant_id = p.tenant_id
  payment_package : ∀ p ∈ d.payments, ∀ k ∈ d.packages, k.id = p.package_id →
    k.tenant_id = p.tenant_id
  voucher_customer : ∀ w ∈ d.vouchers, ∀ u ∈ d.users, u.id = w.customer_id →
    u.tenant_id = w.tenant_id
  voucher_package : ∀ w ∈ d.vouchers, ∀ k ∈ d.packages, k.id = w.package_id →
    k.tenant_id = w.tenant_id
  invoice_customer : ∀ i ∈ d.invoices, ∀ p ∈ d.payments, p.id = i.payment_id →
    ∀ u ∈ d.users, u.id = p.customer_id → u.tenant_id = i.tenant_id
  invoice_package : ∀ i ∈ d.invoices, ∀ p ∈ d.payments, p.id = i.payment_id →
    ∀ k ∈ d.packages, k.id = p.package_id → k.tenant_id = i.tenant_id
  subscription_customer : ∀ s ∈ d.subscriptions, ∀ u ∈ d.users, u.id = s.customer_id →
    u.tenant_id = s.tenant_id
  subscription_package : ∀ s ∈ d.subscriptions, ∀ k ∈ d.packages, k.id = s.package_id →
    k.tenant_id = s.tenant_id

/-- Two databases have the same rows of a tenant. -/
structure TenantTables.SameRows (tenant_id : UUID) (d d' : TenantTables) : Prop where
  users : Agree (fun r => r.tenant_id == tenant_id) d.users d'.users
  packages : Agree (fun r => r.tenant_id == tenant_id) d.packages d'.packages
  payments : Agree (fun r => r.tenant_id == tenant_id) d.payments d'.payments
  vouchers : Agree (fun r => r.tenant_id == tenant_id) d.vouchers d'.vouchers
  invoices : Agree (fun r => r.tenant_id == tenant_id) d.invoices d'.invoices
  subscriptions : Agree (fun r => r.tenant_id == tenant_id) d.subscriptions d'.subscriptions
  wallet_transactions : Agree (fun r => r.tenant_id == tenant_id) d.wallet_transactions
    d'.wallet_transactions

namespace TenantTables

variable {tenant_id : UUID} {d d' : TenantTables}

/-- Rows whose references stay in their tenant. -/
theorem meets_of_reference {α β : Type} {xs : Multiset α} {ys : Multiset β}
    {reference owner : α → UUID} {id owner' : β → UUID}
    (h : ∀ x ∈ xs, ∀ y ∈ ys, id y = reference x → owner' y = owner x) :
    Meets (fun x => owner x == tenant_id) (fun y => owner' y == tenant_id)
      (fun x y => reference x == id y) xs ys :=
  .of_owner fun x hx y hy hon => h x hx y hy (beq_iff_eq.mp hon).symm

namespace Coherent

variable (h : d.Coherent)

include h

/-- The payment of an invoice is of the same tenant, since its customer is. -/
theorem invoice_payment {i : InvoiceRow} (hi : i ∈ d.invoices) {p : Payment}
    (hp : p ∈ d.payments) (hid : p.id = i.payment_id) : p.tenant_id = i.tenant_id := by
  obtain ⟨u, hu, huser⟩ := Multiset.mem_map.mp (d.payments_customer_id_fkey p hp)
  rw [← h.payment_customer p hp u hu huser, h.invoice_customer i hi p hp hid u hu huser]

theorem payment_meets_user : Meets (fun p => p.tenant_id == tenant_id)
    (fun u => u.tenant_id == tenant_id) (fun p u => p.customer_id == u.id) d.payments d.users :=
  meets_of_reference h.payment_customer

theorem voucher_meets_package : Meets (fun w => w.tenant_id == tenant_id)
    (fun k => k.tenant_id == tenant_id) (fun w k => w.package_id == k.id) d.vouchers d.packages :=
  meets_of_reference h.voucher_package

theorem voucher_meets_user : Meets (fun w => w.tenant_id == tenant_id)
    (fun u => u.tenant_id == tenant_id) (fun w u => w.customer_id == u.id) d.vouchers d.users :=
  meets_of_reference h.voucher_customer

theorem invoice_meets_payment : Meets (fun i => i.tenant_id == tenant_id)
    (fun p => p.tenant_id == tenant_id) (fun i p => i.payment_id == p.id) d.invoices d.payments :=
  meets_of_reference fun _ hi _ hp => h.invoice_payment hi hp

theorem subscription_meets_package : Meets (fun s => s.tenant_id == tenant_id)
    (fun k => k.tenant_id == tenant_id) (fun s k => s.package_id == k.id) d.subscriptions
      d.packages :=
  meets_of_reference h.subscription_package

theorem subscription_meets_user : Meets (fun s => s.tenant_id == tenant_id)
    (fun u => u.tenant_id == tenant_id) (fun s u => s.customer_id == u.id) d.subscriptions
      d.users :=
  meets_of_reference h.subscription_customer

end Coherent

namespace SameRows

theorem symm (h : SameRows tenant_id d d') : SameRows tenant_id d' d where
  users := Eq.symm h.users
  packages := Eq.symm h.packages
  payments := Eq.symm h.payments
  vouchers := Eq.symm h.vouchers
  invoices := Eq.symm h.invoices
  subscriptions := Eq.symm h.subscriptions
  wallet_transactions := Eq.symm h.wallet_transactions

/-- Rows that are put together where their tenants are the same. -/
theorem payment_packages (h : SameRows tenant_id d d') :
    Agree (fun r => r.1.tenant_id == tenant_id) d.payment_packages d'.payment_packages := by
  refine h.payments.combine id h.packages ?_ ?_ <;>
    exact .of_owner fun p _ k _ hon => beq_iff_eq.mp (Bool.and_eq_true_iff.mp hon).2

theorem payment_vouchers (h : SameRows tenant_id d d') :
    Agree (fun r => r.1.tenant_id == tenant_id) d.payment_vouchers d'.payment_vouchers := by
  refine h.payments.combine orNull h.vouchers ?_ ?_ <;>
    exact .of_owner fun p _ w _ hon => beq_iff_eq.mp (Bool.and_eq_true_iff.mp hon).2

variable (hd : d.Coherent) (hd' : d'.Coherent) (h : SameRows tenant_id d d')

include hd hd' h

theorem payment_users :
    Agree (fun r => r.1.1.tenant_id == tenant_id) d.payment_users d'.payment_users := by
  refine (h.payments.combine id h.users hd.payment_meets_user hd'.payment_meets_user).combine id
    h.packages ?_ ?_ <;>
    exact .of_owner fun r _ k _ hon => beq_iff_eq.mp (Bool.and_eq_true_iff.mp hon).2

theorem voucher_packages :
    Agree (fun r => r.1.tenant_id == tenant_id) d.voucher_packages d'.voucher_packages :=
  h.vouchers.combine id h.packages hd.voucher_meets_package hd'.voucher_meets_package

theorem invoice_payments :
    Agree (fun r => r.1.tenant_id == tenant_id) d.invoice_payments d'.invoice_payments :=
  h.invoices.combine id h.payments hd.invoice_meets_payment hd'.invoice_meets_payment

theorem subscription_packages :
    Agree (fun r => r.1.tenant_id == tenant_id) d.subscription_packages d'.subscription_packages :=
  h.subscriptions.combine id h.packages hd.subscription_meets_package
    hd'.subscription_meets_package

theorem voucher_users :
    Agree (fun r => r.1.1.tenant_id == tenant_id) d.voucher_users d'.voucher_users :=
  (h.voucher_packages hd hd').combine id h.users hd.voucher_meets_user.of_fst
    hd'.voucher_meets_user.of_fst

theorem subscription_users :
    Agree (fun r => r.1.1.tenant_id == tenant_id) d.subscription_users d'.subscription_users :=
  (h.subscription_packages hd hd').combine id h.users hd.subscription_meets_user.of_fst
    hd'.subscription_meets_user.of_fst

end SameRows

end TenantTables

/-! ## One read on two databases -/

namespace TenantReads

variable {v : ReadEnv} {tenant_id : UUID} {d d' : TenantTables}

section SameRows

variable (h : d.SameRows tenant_id d')

include h

theorem get_payment_status_eq (payment_id customer_id : IdArg) :
    get_payment_status v tenant_id d payment_id customer_id =
      get_payment_status v tenant_id d' payment_id customer_id := by
  refine bind_congr fun id => ?_
  rw [h.payment_vouchers.select_eq fun r hr => (Bool.and_eq_true_iff.mp hr).2]

theorem get_customer_payments_eq (customer_id : IdArg) :
    get_customer_payments v tenant_id d customer_id =
      get_customer_payments v tenant_id d' customer_id := by
  refine bind_congr fun id => ?_
  rw [h.payment_packages.select_eq fun r hr => (Bool.and_eq_true_iff.mp hr).2]

theorem get_all_payments_eq : get_all_payments v tenant_id d = get_all_payments v tenant_id d' := by
  rw [get_all_payments, get_all_payments, h.payment_packages]

/-- The vouchers that a payment lacks are those of its tenant. -/
theorem get_stuck_payments_eq :
    get_stuck_payments v tenant_id d = get_stuck_payments v tenant_id d' := by
  have hstuck (p : Payment) (hp : (p.tenant_id == tenant_id) = true) :
      isStuck v d p = isStuck v d' p := by
    rw [isStuck, isStuck, h.vouchers.present_eq]
    intro w hw
    rw [← hp, beq_iff_eq.mp (Bool.and_eq_true_iff.mp hw).2]
  have hmine (d : TenantTables) (p : Payment)
      (hp : (p.tenant_id == tenant_id && isStuck v d p) = true) :
      (p.tenant_id == tenant_id) = true := (Bool.and_eq_true_iff.mp hp).1
  rw [get_stuck_payments, get_stuck_payments,
    h.payments.select_eq_select (hmine d) (hmine d') fun p hp => by rw [hstuck p hp]]

theorem get_my_profile_eq (user_id : IdArg) :
    get_my_profile v tenant_id d user_id = get_my_profile v tenant_id d' user_id := by
  refine bind_congr fun id => ?_
  rw [h.users.select_eq fun u hu => (Bool.and_eq_true_iff.mp hu).2]

theorem list_customers_eq (caller_role : String) (caller_id : IdArg) :
    list_customers v tenant_id d caller_role caller_id =
      list_customers v tenant_id d' caller_role caller_id := by
  rw [list_customers, list_customers]
  split
  · rw [h.users.select_eq fun u hu => (Bool.and_eq_true_iff.mp hu).1]
  · refine bind_congr fun id => ?_
    rw [h.users.select_eq fun u hu =>
      (Bool.and_eq_true_iff.mp (Bool.and_eq_true_iff.mp hu).1).1]

theorem list_all_users_eq : list_all_users v tenant_id d = list_all_users v tenant_id d' := by
  rw [list_all_users, list_all_users, h.users]

theorem export_customer_data_eq (user_id : IdArg) :
    export_customer_data v tenant_id d user_id = export_customer_data v tenant_id d' user_id := by
  refine bind_congr fun id => ?_
  rw [h.users.select_eq fun u hu => (Bool.and_eq_true_iff.mp hu).2,
    h.payments.select_eq fun p hp => (Bool.and_eq_true_iff.mp hp).2,
    h.vouchers.select_eq fun w hw => (Bool.and_eq_true_iff.mp hw).2,
    h.subscriptions.select_eq fun s hs => (Bool.and_eq_true_iff.mp hs).2]

theorem get_all_packages_eq : get_all_packages v tenant_id d = get_all_packages v tenant_id d' := by
  rw [get_all_packages, get_all_packages,
    h.packages.select_eq fun k hk => (Bool.and_eq_true_iff.mp hk).1]

theorem get_package_by_id_eq (package_id : IdArg) :
    get_package_by_id v tenant_id d package_id = get_package_by_id v tenant_id d' package_id := by
  refine bind_congr fun id => ?_
  rw [h.packages.select_eq fun k hk =>
    (Bool.and_eq_true_iff.mp (Bool.and_eq_true_iff.mp hk).1).2]

theorem ledger_eq (reseller : UUID) :
    ledger v tenant_id d reseller = ledger v tenant_id d' reseller := by
  rw [ledger, ledger, h.wallet_transactions.select_eq fun w hw => (Bool.and_eq_true_iff.mp hw).2]

theorem get_wallet_balance_eq (reseller_id : IdArg) :
    get_wallet_balance v tenant_id d reseller_id =
      get_wallet_balance v tenant_id d' reseller_id := by
  refine bind_congr fun reseller => ?_
  rw [ledger_eq h]

theorem get_wallet_transactions_eq (reseller_id : IdArg) (limit : ℤ) :
    get_wallet_transactions v tenant_id d reseller_id limit =
      get_wallet_transactions v tenant_id d' reseller_id limit := by
  refine bind_congr fun reseller => ?_
  rw [ledger_eq h]

end SameRows

section Coherent

variable (hd : d.Coherent) (hd' : d'.Coherent) (h : d.SameRows tenant_id d')

include hd hd' h

theorem get_reseller_payments_eq (reseller_id : IdArg) :
    get_reseller_payments v tenant_id d reseller_id =
      get_reseller_payments v tenant_id d' reseller_id := by
  refine bind_congr fun id => ?_
  rw [(h.payment_users hd hd').select_eq fun r hr => (Bool.and_eq_true_iff.mp hr).2]

theorem get_customer_vouchers_eq (customer_id : IdArg) :
    get_customer_vouchers v tenant_id d customer_id =
      get_customer_vouchers v tenant_id d' customer_id := by
  refine bind_congr fun id => ?_
  rw [(h.voucher_packages hd hd').select_eq fun r hr => (Bool.and_eq_true_iff.mp hr).2]

theorem get_voucher_by_id_eq (voucher_id : IdArg) :
    get_voucher_by_id v tenant_id d voucher_id = get_voucher_by_id v tenant_id d' voucher_id := by
  refine bind_congr fun id => ?_
  rw [(h.voucher_packages hd hd').select_eq fun r hr => (Bool.and_eq_true_iff.mp hr).2]

theorem get_reseller_vouchers_eq (reseller_id : IdArg) :
    get_reseller_vouchers v tenant_id d reseller_id =
      get_reseller_vouchers v tenant_id d' reseller_id := by
  refine bind_congr fun id => ?_
  rw [(h.voucher_users hd hd').select_eq fun r hr => (Bool.and_eq_true_iff.mp hr).2]

theorem get_all_vouchers_eq : get_all_vouchers v tenant_id d = get_all_vouchers v tenant_id d' := by
  rw [get_all_vouchers, get_all_vouchers, h.voucher_packages hd hd']

theorem get_invoice_by_id_eq (invoice_id : IdArg) :
    get_invoice_by_id v tenant_id d invoice_id = get_invoice_by_id v tenant_id d' invoice_id := by
  refine bind_congr fun id => ?_
  rw [(h.invoice_payments hd hd').select_eq fun r hr => (Bool.and_eq_true_iff.mp hr).2]

theorem list_invoices_eq : list_invoices v tenant_id d = list_invoices v tenant_id d' := by
  rw [list_invoices, list_invoices, h.invoice_payments hd hd']

theorem list_customer_invoices_eq (customer_id : IdArg) :
    list_customer_invoices v tenant_id d customer_id =
      list_customer_invoices v tenant_id d' customer_id := by
  refine bind_congr fun id => ?_
  rw [(h.invoice_payments hd hd').select_eq fun r hr =>
    (Bool.and_eq_true_iff.mp (Bool.and_eq_true_iff.mp hr).1).1]

theorem get_customer_invoice_by_id_eq (invoice_id customer_id : IdArg) :
    get_customer_invoice_by_id v tenant_id d invoice_id customer_id =
      get_customer_invoice_by_id v tenant_id d' invoice_id customer_id := by
  refine bind_congr fun id => bind_congr fun customer => ?_
  have hmine (r : InvoiceRow × Payment) (hr : (r.1.id == id && r.1.tenant_id == tenant_id &&
      r.2.tenant_id == tenant_id && r.2.customer_id == customer) = true) :
      (r.1.tenant_id == tenant_id) = true := by
    simp only [Bool.and_eq_true] at hr
    exact hr.1.1.2
  rw [(h.invoice_payments hd hd').select_eq hmine]

theorem get_subscription_eq (subscription_id : IdArg) :
    get_subscription v tenant_id d subscription_id =
      get_subscription v tenant_id d' subscription_id := by
  refine bind_congr fun id => ?_
  rw [(h.subscription_packages hd hd').select_eq fun r hr => (Bool.and_eq_true_iff.mp hr).2]

theorem get_customer_subscription_eq (customer_id : IdArg) :
    get_customer_subscription v tenant_id d customer_id =
      get_customer_subscription v tenant_id d' customer_id := by
  refine bind_congr fun id => ?_
  rw [(h.subscription_packages hd hd').select_eq fun r hr =>
    (Bool.and_eq_true_iff.mp (Bool.and_eq_true_iff.mp hr).1).1]

theorem list_subscriptions_admin_eq (status : Option String) :
    list_subscriptions_admin v tenant_id d status =
      list_subscriptions_admin v tenant_id d' status := by
  refine bind_congr fun status => ?_
  rw [(h.subscription_users hd hd').select_eq fun r hr => (Bool.and_eq_true_iff.mp hr).1]

end Coherent

/-! ## The charge for a change of the package -/

/-- What the charge asks of the database, for a tenant. -/
def AsksFor (tenant_id : UUID) : SubscriptionQuery → Prop
  | .select_subscription _ t => t = tenant_id
  | .select_package _ _ t => t = tenant_id
  | .utc_now => True
  | _ => False

theorem calculate_proration_plain (tenant_id subscription_id new_package_id : UUID) :
    (Subscriptions.calculate_proration tenant_id subscription_id new_package_id).Plain
      fun s => AsksFor tenant_id s.query := by
  have hsub : (Subscriptions.get_subscription tenant_id subscription_id).Plain
      fun s => AsksFor tenant_id s.query := by
    refine Prog.Plain.bind ((Prog.plain_exec _).mpr rfl) fun row => ?_
    cases row <;> trivial
  refine hsub.bind fun sub => ?_
  refine Prog.Plain.bind ((Prog.plain_exec _).mpr rfl) fun old_pkg => ?_
  refine Prog.Plain.bind ((Prog.plain_exec _).mpr rfl) fun new_pkg => ?_
  cases new_pkg with
  | none => trivial
  | some new_pkg =>
      refine Prog.Plain.bind ((Prog.plain_exec _).mpr trivial) fun now => ?_
      dsimp only
      split
      · trivial
      · cases old_pkg with
        | none => trivial
        | some old_pkg => exact Prog.Plain.bind trivial fun _ => trivial

/-- A row that two tables both have or both lack, and that no other one is like. -/
theorem fetchrow_congr {α : Type} {pick : ℕ} {p : α → Bool} {rows rows' : List α}
    (hmem : ∀ r, p r = true → (r ∈ rows ↔ r ∈ rows'))
    (hunique : ∀ r ∈ rows', ∀ r' ∈ rows', p r = true → p r' = true → r' = r) :
    fetchrow pick p rows = fetchrow pick p rows' := by
  cases hfound : fetchrow pick p rows with
  | none =>
      refine (fetchrow_eq_none.mpr fun r hr hp => ?_).symm
      exact fetchrow_eq_none.mp hfound r ((hmem r hp).mpr hr) hp
  | some r =>
      obtain ⟨hr, hp⟩ := fetchrow_eq_some hfound
      have hr' := (hmem r hp).mp hr
      exact (fetchrow_unique hr' hp fun r' hmem' hp' => hunique r hr' r' hmem' hp hp').symm

/-- Two stores give the same rows of a tenant. -/
structure SameAnswers (tenant_id : UUID) (e e' : SubscriptionStore) : Prop where
  subscription : ∀ pick id, fetchrow pick (fun s => s.id == id && s.tenant_id == tenant_id)
    e.withPackage = fetchrow pick (fun s => s.id == id && s.tenant_id == tenant_id) e'.withPackage
  package : ∀ pick id, fetchrow pick (fun k => k.id == id && k.tenant_id == tenant_id)
    e.packages = fetchrow pick (fun k => k.id == id && k.tenant_id == tenant_id) e'.packages

/-- The queries of the charge change nothing. -/
theorem SameAnswers.exec {e e' : SubscriptionStore} (h : SameAnswers tenant_id e e')
    {s : SubscriptionStmt} (hs : AsksFor tenant_id s.query) (x : SubscriptionEnv) :
    ∃ r, s.exec x e = (r, e) ∧ s.exec x e' = (r, e') := by
  obtain ⟨caller, q⟩ := s
  cases q with
  | select_subscription id t =>
      cases hs
      exact ⟨_, rfl, congrArg (fun row => (Except.ok row, e')) (h.subscription x.pick id).symm⟩
  | select_package columns id t =>
      cases hs
      cases hmissing : columns.find? fun c => !packageColumns.contains c with
      | some c =>
          refine ⟨.error (.database ("column \"" ++ c ++ "\" does not exist")), ?_, ?_⟩ <;>
            simp only [SubscriptionStmt.exec, SubscriptionQuery.eval, hmissing] <;> rfl
      | none =>
          refine ⟨.ok (fetchrow x.pick (fun k => k.id == id && k.tenant_id == tenant_id)
            e.packages), ?_, ?_⟩ <;>
            simp only [SubscriptionStmt.exec, SubscriptionQuery.eval, hmissing, h.package] <;> rfl
  | utc_now => exact ⟨_, rfl, rfl⟩
  | _ => exact hs.elim

section Scanned

variable (hd : d.Coherent) (hd' : d'.Coherent) (h : d.SameRows tenant_id d')

/-- Scanning leaves no row out. -/
theorem mem_scan {α : Type} {r : α} {rows : Multiset α} : r ∈ v.scan rows ↔ r ∈ rows := by
  conv_rhs => rw [← v.scan_eq rows]
  exact Multiset.mem_coe.symm

theorem mem_packages {k : Package} :
    k ∈ (subscriptionStore v d).packages ↔ ∃ r ∈ d.packages, r.toPackage = k := by
  rw [subscriptionStore, mem_scan, Multiset.mem_map]

theorem mem_subscriptions {s : Subscription} :
    s ∈ (subscriptionStore v d).subscriptions ↔ ∃ r ∈ d.subscriptions, r.toSubscription = s := by
  rw [subscriptionStore, mem_scan, Multiset.mem_map]

/-- The scanned packages have different ids. -/
theorem packages_unique {k k' : Package} (hk : k ∈ (subscriptionStore v d).packages)
    (hk' : k' ∈ (subscriptionStore v d).packages) (hid : k.id = k'.id) : k' = k := by
  obtain ⟨r, hr, rfl⟩ := mem_packages.mp hk
  obtain ⟨r', hr', rfl⟩ := mem_packages.mp hk'
  rw [Multiset.inj_on_of_nodup_map d.packages_pkey r hr r' hr' hid]

theorem subscriptions_unique {s s' : Subscription} (hs : s ∈ (subscriptionStore v d).subscriptions)
    (hs' : s' ∈ (subscriptionStore v d).subscriptions) (hid : s.id = s'.id) : s' = s := by
  obtain ⟨r, hr, rfl⟩ := mem_subscriptions.mp hs
  obtain ⟨r', hr', rfl⟩ := mem_subscriptions.mp hs'
  rw [Multiset.inj_on_of_nodup_map d.subscriptions_pkey r hr r' hr' hid]

include h

/-- A package of the tenant is in both stores or in none. -/
theorem mem_packages_iff {k : Package} (hk : k.tenant_id = tenant_id) :
    k ∈ (subscriptionStore v d).packages ↔ k ∈ (subscriptionStore v d').packages := by
  rw [mem_packages, mem_packages]
  refine exists_congr fun r => and_congr_left fun heq => h.packages.mem_iff ?_
  rw [beq_iff_eq, ← hk, ← heq]

theorem mem_subscriptions_iff {s : Subscription} (hs : s.tenant_id = tenant_id) :
    s ∈ (subscriptionStore v d).subscriptions ↔ s ∈ (subscriptionStore v d').subscriptions := by
  rw [mem_subscriptions, mem_subscriptions]
  refine exists_congr fun r => and_congr_left fun heq => h.subscriptions.mem_iff ?_
  rw [beq_iff_eq, ← hs, ← heq]

include hd in
/-- A subscription of the tenant keeps its package. -/
theorem withPackage_of_withPackage {s : Subscription} (hs : s.tenant_id = tenant_id)
    (hmem : s ∈ (subscriptionStore v d).withPackage) :
    s ∈ (subscriptionStore v d').withPackage := by
  obtain ⟨hsub, hpackage⟩ := List.mem_filter.mp hmem
  obtain ⟨k, hk, hid⟩ := List.any_eq_true.mp hpackage
  obtain ⟨r, hr, rfl⟩ := mem_subscriptions.mp hsub
  have htenant : k.tenant_id = tenant_id := by
    obtain ⟨row, hrow, rfl⟩ := mem_packages.mp hk
    rw [hd.subscription_package r hr row hrow (beq_iff_eq.mp hid), hs]
  exact List.mem_filter.mpr ⟨(mem_subscriptions_iff h hs).mp hsub,
    List.any_eq_true.mpr ⟨k, (mem_packages_iff h htenant).mp hk, hid⟩⟩

include hd hd'

theorem sameAnswers : SameAnswers tenant_id (subscriptionStore v d) (subscriptionStore v d') where
  subscription pick id := by
    refine fetchrow_congr (fun s hs => ?_) fun s hs s' hs' hp hp' => ?_
    · have htenant := beq_iff_eq.mp (Bool.and_eq_true_iff.mp hs).2
      exact ⟨withPackage_of_withPackage hd h htenant,
        withPackage_of_withPackage hd' h.symm htenant⟩
    · simp only [Bool.and_eq_true, beq_iff_eq] at hp hp'
      exact subscriptions_unique (List.mem_filter.mp hs).1 (List.mem_filter.mp hs').1
        (hp.1.trans hp'.1.symm)
  package pick id := by
    refine fetchrow_congr (fun k hk => ?_) fun k hk k' hk' hp hp' => ?_
    · exact mem_packages_iff h (beq_iff_eq.mp (Bool.and_eq_true_iff.mp hk).2)
    · simp only [Bool.and_eq_true, beq_iff_eq] at hp hp'
      exact packages_unique hk hk' (hp.1.trans hp'.1.symm)

theorem calculate_proration_eq (subscription_id new_package_id : UUID) :
    calculate_proration v tenant_id d subscription_id new_package_id =
      calculate_proration v tenant_id d' subscription_id new_package_id := by
  refine (Solo.outcome_congr
    (calculate_proration_plain tenant_id subscription_id new_package_id) rfl
    (sameAnswers hd hd' h) fun s hs e e' hsame => ?_).1
  obtain ⟨r, hr, hr'⟩ := hsame.exec hs { now := v.now }
  change (s.exec { now := v.now } e).1 = (s.exec { now := v.now } e').1 ∧
    SameAnswers tenant_id (s.exec { now := v.now } e).2 (s.exec { now := v.now } e').2
  rw [hr, hr']
  exact ⟨rfl, hsame⟩

end Scanned

end TenantReads

/-- Two databases with the same rows of a tenant, in which rows refer to users and packages of
their own tenant, answer every read of the tenant alike. -/
theorem tenant_reads_isolated (v : ReadEnv) (tenant_id : UUID) {d d' : TenantTables}
    (hd : d.Coherent) (hd' : d'.Coherent) (h : d.SameRows tenant_id d') (c : TenantRead) :
    c.answer v tenant_id d = c.answer v tenant_id d' := by
  cases c with
  | get_payment_status payment_id customer_id =>
      exact TenantReads.get_payment_status_eq h payment_id customer_id
  | get_customer_payments customer_id => exact TenantReads.get_customer_payments_eq h customer_id
  | get_reseller_payments reseller_id =>
      exact TenantReads.get_reseller_payments_eq hd hd' h reseller_id
  | get_all_payments => exact congrArg _ (TenantReads.get_all_payments_eq h)
  | get_stuck_payments => exact congrArg _ (TenantReads.get_stuck_payments_eq h)
  | get_customer_vouchers customer_id =>
      exact TenantReads.get_customer_vouchers_eq hd hd' h customer_id
  | get_voucher_by_id voucher_id => exact TenantReads.get_voucher_by_id_eq hd hd' h voucher_id
  | get_reseller_vouchers reseller_id =>
      exact TenantReads.get_reseller_vouchers_eq hd hd' h reseller_id
  | get_all_vouchers => exact congrArg _ (TenantReads.get_all_vouchers_eq hd hd' h)
  | get_my_profile user_id => exact TenantReads.get_my_profile_eq h user_id
  | list_customers caller_role caller_id =>
      exact TenantReads.list_customers_eq h caller_role caller_id
  | list_all_users => exact congrArg _ (TenantReads.list_all_users_eq h)
  | export_customer_data user_id => exact TenantReads.export_customer_data_eq h user_id
  | get_all_packages => exact congrArg _ (TenantReads.get_all_packages_eq h)
  | get_package_by_id package_id => exact TenantReads.get_package_by_id_eq h package_id
  | get_invoice_by_id invoice_id => exact TenantReads.get_invoice_by_id_eq hd hd' h invoice_id
  | list_invoices => exact congrArg _ (TenantReads.list_invoices_eq hd hd' h)
  | list_customer_invoices customer_id =>
      exact TenantReads.list_customer_invoices_eq hd hd' h customer_id
  | get_customer_invoice_by_id invoice_id customer_id =>
      exact TenantReads.get_customer_invoice_by_id_eq hd hd' h invoice_id customer_id
  | get_wallet_balance reseller_id => exact TenantReads.get_wallet_balance_eq h reseller_id
  | get_wallet_transactions reseller_id limit =>
      exact TenantReads.get_wallet_transactions_eq h reseller_id limit
  | get_subscription subscription_id =>
      exact TenantReads.get_subscription_eq hd hd' h subscription_id
  | get_customer_subscription customer_id =>
      exact TenantReads.get_customer_subscription_eq hd hd' h customer_id
  | list_subscriptions_admin status =>
      exact TenantReads.list_subscriptions_admin_eq hd hd' h status
  | calculate_proration subscription_id new_package_id =>
      exact TenantReads.calculate_proration_eq hd hd' h subscription_id new_package_id

namespace TenantReads

/-- A customer with an invoiced payment, of a tenant. -/
def customer (tenant_id : UUID) : UserRow :=
  { id := tenant_id + 10, email := "c@example.com", phone := "254700000001", hashed_password := ""
    tenant_id, created_at := 0 }

def package (tenant_id : UUID) : PackageRow :=
  { id := tenant_id + 20, name := "Daily", price_kes := .units ⟨5000, Money.fits_5000⟩
    duration_minutes := 1440, speed_mbps := 10, tenant_id, created_at := 0, updated_at := 0 }

def payment (tenant_id : UUID) : Payment :=
  { id := tenant_id + 30, tenant_id, amount_kes := .units ⟨5000, Money.fits_5000⟩
    status := .confirmed, phone_number := "254700000001", created_at := 0, updated_at := 0
    customer_id := tenant_id + 10, package_id := tenant_id + 20 }

def invoice (tenant_id : UUID) : InvoiceRow :=
  { id := tenant_id + 40, tenant_id, payment_id := tenant_id + 30, invoice_number := 1
    created_at := 0 }

/-- The database of the first tenant. -/
def lone : TenantTables where
  users := {customer 1}
  packages := {package 1}
  payments := {payment 1}
  invoices := {invoice 1}

/-- The same with a second tenant. -/
def shared : TenantTables where
  users := {customer 1, customer 2}
  packages := {package 1, package 2}
  payments := {payment 1, payment 2}
  invoices := {invoice 1, invoice 2}

theorem lone_coherent : lone.Coherent := by
  constructor <;> decide

theorem shared_coherent : shared.Coherent := by
  constructor <;> decide

theorem lone_sameRows_shared : lone.SameRows 1 shared where
  users := rfl
  packages := rfl
  payments := rfl
  vouchers := rfl
  invoices := rfl
  subscriptions := rfl
  wallet_transactions := rfl

/-- The rows in an order that is chosen once and for all. -/
noncomputable def anyOrder : ReadEnv where
  now := 0
  scan rows := rows.toList
  scan_eq rows := rows.coe_toList
  uuid_of_text _ := .error (.database "invalid UUID")

end TenantReads

/-- The invoices of the first tenant, with and without the second one. -/
theorem tenant_reads_isolated_invoices :
    TenantRead.list_invoices.answer TenantReads.anyOrder 1 TenantReads.lone =
      TenantRead.list_invoices.answer TenantReads.anyOrder 1 TenantReads.shared :=
  tenant_reads_isolated _ _ TenantReads.lone_coherent TenantReads.shared_coherent
    TenantReads.lone_sameRows_shared _

end FrixelConnect
