import FrixelConnect.Specs.Tracking
import FrixelConnect.Specs.Outcome
import Mathlib.Logic.Function.Iterate

/-!
# Platform fees and the billing date

A confirmed fee carries a receipt from then on, so the rows with a receipt are
those that became confirmed. The billing date of a tenant advances by one month
for each of them, as long as every update that confirms a fee finds a row that was
not confirmed before. The transaction extends the tenant whether or not its first
statement has found such a row.
-/

namespace FrixelConnect

namespace PlatformBilling

open Decimals Calendar Python Interleaving Contract Knowledge

/-- The row of the tenant became confirmed. -/
def isFee (tenant_id : UUID) (r : PaymentCore) : Bool :=
  r.tenant_id == tenant_id && r.mpesa_receipt_number.isSome

/-- How many fees of the tenant became confirmed. -/
def confirmedFees (d : Store) (tenant_id : UUID) : ℕ :=
  (d.cores .platform_payments).countP (isFee tenant_id)

/-- A fee has a receipt when it is confirmed, and none while it is pending. -/
def Receipted (d : Store) : Prop := ∀ r ∈ d.cores .platform_payments,
  (r.status = .confirmed → r.mpesa_receipt_number.isSome) ∧
    (r.status = .pending → r.mpesa_receipt_number = none)

/-- The billing date of every tenant advances by one month for each fee that became
confirmed. -/
structure Advanced (d d' : Store) : Prop where
  ids : d'.tenants.map (·.id) = d.tenants.map (·.id)
  date : ∀ x ∈ d.tenants, ∃ x' ∈ d'.tenants, x'.id = x.id ∧ ∃ n,
    confirmedFees d' x.id = confirmedFees d x.id + n ∧
      x'.next_billing_date = plusMonth^[n] x.next_billing_date

/-- An update that confirms a fee finds a row that was not confirmed before. -/
def FindsUnconfirmed : Stmt → Choice Exn Env → Store → Prop
  | .confirm .platform_payments _ w, .run _, d =>
      ∃ r ∈ d.cores .platform_payments, w.holds r ∧ r.mpesa_receipt_number = none
  | _, _, _ => True

/-- Any processes in any interleaving, with confirmations of unconfirmed fees. -/
def rules : RunRules := { stmt := FindsUnconfirmed }

variable {d d' : Store} {v : Env} {w : RowFilter} {f : PaymentCore → PaymentCore}

/-- A step that changes neither a billing date nor the number of confirmed fees. -/
theorem Advanced.of_eq {g : Tenant → Tenant} (ht : d'.tenants = d.tenants.map g)
    (hg : ∀ x, (g x).id = x.id ∧ (g x).next_billing_date = x.next_billing_date)
    (hf : ∀ id, confirmedFees d' id = confirmedFees d id) : Advanced d d' where
  ids := by
    rw [ht, List.map_map]
    exact List.map_congr_left fun x _ => (hg x).1
  date x hx := ⟨g x, ht ▸ List.mem_map_of_mem hx, (hg x).1, 0, hf x.id, (hg x).2⟩

/-- A step that leaves the tenants alone. -/
theorem Advanced.of_same (ht : d'.tenants = d.tenants)
    (hf : ∀ id, confirmedFees d' id = confirmedFees d id) : Advanced d d' :=
  .of_eq (g := fun x => x) (by simpa using ht) (fun _ => ⟨rfl, rfl⟩) hf

theorem Advanced.trans {a b c : Store} (h : Advanced a b) (h' : Advanced b c) : Advanced a c where
  ids := h'.ids.trans h.ids
  date x hx := by
    obtain ⟨x₁, hx₁, hid₁, n, hn, hdate₁⟩ := h.date x hx
    obtain ⟨x₂, hx₂, hid₂, m, hm, hdate₂⟩ := h'.date x₁ hx₁
    refine ⟨x₂, hx₂, hid₂.trans hid₁, m + n, ?_, ?_⟩
    · rw [hid₁] at hm
      omega
    · rw [hdate₂, hdate₁, Function.iterate_add_apply]

theorem confirmedFees_of_cores (h : d'.cores .platform_payments = d.cores .platform_payments)
    (id : UUID) : confirmedFees d' id = confirmedFees d id := by
  rw [confirmedFees, h, confirmedFees]

/-- An update that changes neither a tenant nor a receipt. -/
theorem confirmedFees_updateCores {t : PaymentTable} {p : PaymentCore → Bool}
    (hf : ∀ r, (f r).tenant_id = r.tenant_id ∧
      (f r).mpesa_receipt_number = r.mpesa_receipt_number) (id : UUID) :
    confirmedFees (d.updateCores t p f) id = confirmedFees d id := by
  rw [confirmedFees, Store.cores_updateCores]
  split
  · exact countP_updateRows fun r _ _ => by simp [isFee, hf r]
  · rfl

/-- Confirming a fee that was not confirmed before. -/
theorem confirmedFees_confirm {r : PaymentCore} {receipt : String} (hu : UniqueIds d)
    (hk : Known d .platform_payments r) (hw : Targets w r)
    (hfind : ∃ r' ∈ d.cores .platform_payments, w.holds r' ∧ r'.mpesa_receipt_number = none)
    (id : UUID) :
    confirmedFees (d.updateCores .platform_payments w.holds
      (PaymentCore.confirmed (some receipt) v.now)) id =
      confirmedFees d id + if id = r.tenant_id then 1 else 0 := by
  obtain ⟨r', hr', hholds, hnone⟩ := hfind
  obtain ⟨htenant, -⟩ := hk.eq hu hr' ((RowFilter.holds_id hholds).trans hw.filter_id)
  have honly : ∀ r₁ ∈ d.cores .platform_payments, w.holds r₁ = true ↔ r₁ = r' := by
    refine fun r₁ hr₁ => ⟨fun h₁ => ?_, fun h₁ => h₁ ▸ hholds⟩
    exact hu.eq hr₁ hr' ((RowFilter.holds_id h₁).trans (RowFilter.holds_id hholds).symm)
  rw [confirmedFees, Store.cores_updateCores, if_pos rfl]
  split
  · next hid =>
      refine countP_updateRows_one hr' (List.Nodup.of_map _ (hu _)) honly ?_ ?_
      · simp [isFee, hnone]
      · simp [isFee, PaymentCore.confirmed, htenant, hid]
  · next hid =>
      refine countP_updateRows fun r₁ hr₁ h₁ => ?_
      obtain rfl := (honly r₁ hr₁).mp h₁
      have hne : (r₁.tenant_id == id) = false := by
        rw [beq_eq_false_iff_ne, htenant]
        exact fun h => hid h.symm
      simp [isFee, PaymentCore.confirmed, hne]

/-- The transaction that confirms a fee and extends its tenant. -/
theorem Advanced.confirm_and_extend {r : PaymentCore} {receipt : String} (hu : UniqueIds d)
    (hk : Known d .platform_payments r) (hw : Targets w r)
    (hfind : ∃ r' ∈ d.cores .platform_payments, w.holds r' ∧ r'.mpesa_receipt_number = none) :
    Advanced d ((d.updateCores .platform_payments w.holds
      (PaymentCore.confirmed (some receipt) v.now)).updateTenant r.tenant_id Tenant.extended) := by
  have hfees (id : UUID) : confirmedFees ((d.updateCores .platform_payments w.holds
      (PaymentCore.confirmed (some receipt) v.now)).updateTenant r.tenant_id Tenant.extended) id =
      confirmedFees d id + if id = r.tenant_id then 1 else 0 := by
    rw [confirmedFees_of_cores (Store.cores_updateTenant _ _ _ _)]
    exact confirmedFees_confirm hu hk hw hfind id
  have htenants : ((d.updateCores .platform_payments w.holds (PaymentCore.confirmed (some receipt)
      v.now)).updateTenant r.tenant_id Tenant.extended).tenants =
      updateRows (fun x => x.id == r.tenant_id) Tenant.extended d.tenants := by
    simp [Store.updateTenant]
  constructor
  · rw [htenants, updateRows, List.map_map]
    apply List.map_congr_left
    intro x _
    by_cases h : x.id = r.tenant_id <;> simp [h, Tenant.extended]
  · intro x hx
    refine ⟨_, htenants ▸ mem_updateRows.mpr ⟨x, hx, rfl⟩, ?_⟩
    by_cases h : x.id = r.tenant_id
    · exact ⟨by simp [h, Tenant.extended], 1, by simp [hfees, h], by simp [h, Tenant.extended]⟩
    · exact ⟨by simp [h], 0, by simp [hfees, h], by simp [h]⟩

/-- An update that keeps the receipts in order. -/
theorem Receipted.updateCores {t : PaymentTable} {p : PaymentCore → Bool} (h : Receipted d)
    (hf : ∀ r ∈ d.cores .platform_payments, ((f r).status = .confirmed →
      (f r).mpesa_receipt_number.isSome) ∧
      ((f r).status = .pending → (f r).mpesa_receipt_number = none)) :
    Receipted (d.updateCores t p f) := by
  intro r hr
  obtain ⟨r₀, hr₀, rfl⟩ := mem_cores_updateCores.mp hr
  split
  · exact hf r₀ hr₀
  · exact h r₀ hr₀

theorem Receipted.of_cores (h : Receipted d)
    (hc : d'.cores .platform_payments = d.cores .platform_payments) : Receipted d' := by
  intro r hr
  rw [hc] at hr
  exact h r hr

def tracking : Tracking where
  rules := rules
  inv := Receipted
  guar := Advanced
  guar_refl _ := .of_same rfl fun _ => rfl
  guar_trans _ _ _ := Advanced.trans

/-- A step that touches neither the fees nor the tenants. -/
theorem sound_of_same {g g' : Knowledge} (h : Receipted d) (ht : d'.tenants = d.tenants)
    (hc : d'.cores .platform_payments = d.cores .platform_payments) :
    tracking.Sound d d' g g' :=
  { inv := h.of_cores hc, guar := .of_same ht (confirmedFees_of_cores hc) }

theorem sound_fail {g g' : Knowledge} {t : PaymentTable} {p : PaymentCore → Bool}
    {reason : Option String} (h : Receipted d) :
    tracking.Sound d (d.updateCores t p (PaymentCore.failed reason v.now)) g g' :=
  { inv := h.updateCores fun r _ => ⟨fun hs => (by cases hs), fun hs => by cases hs⟩
    guar := .of_same (by simp) (confirmedFees_updateCores fun _ => ⟨rfl, rfl⟩) }

theorem sound_insert_platform {g g' : Knowledge} {row : PaymentCore} (h : Receipted d)
    (hstatus : row.status = .pending) (hreceipt : row.mpesa_receipt_number = none) :
    tracking.Sound d { d with platform_payments := d.platform_payments ++ [row] } g g' where
  inv := by
    intro r hr
    rcases List.mem_append.mp hr with hr | hr
    · exact h r hr
    · rw [List.mem_singleton.mp hr, hstatus]
      exact ⟨fun hs => (by cases hs), fun _ => hreceipt⟩
  guar := .of_same rfl fun id => by simp [confirmedFees, Store.cores, isFee, hreceipt]

theorem lawful : tracking.Lawful (fun _ => True) (fun _ => True) where
  know := Iff.rfl
  query _ _ := trivial
  fail _ hi _ _ _ _ := sound_fail hi
  confirm _ hi _ _ _ _ := ⟨sound_of_same hi (by simp) (by simp), trivial⟩
  extend := by
    intro d v r receipt rc w hu hi hk hw hrule _
    refine { inv := ?_, guar := .confirm_and_extend hu hk hw hrule }
    have hconfirmed : Receipted (d.updateCores .platform_payments w.holds
        (PaymentCore.confirmed (some rc) v.now)) :=
      Receipted.updateCores hi fun r _ => ⟨fun _ => rfl, fun hs => by cases hs⟩
    exact hconfirmed.of_cores (by simp)
  enqueue _ hi _ := sound_of_same hi rfl rfl
  insert _ hi he := by
    obtain ⟨rfl, -⟩ := Stmt.eval_insert_payment he
    exact sound_of_same hi rfl rfl
  insert_platform _ hi he := by
    obtain ⟨rfl, -, -, hstatus, hreceipt, -⟩ := Stmt.eval_insert_platform_payment he
    exact sound_insert_platform hi hstatus hreceipt
  push hi he := by
    cases he
    exact sound_of_same hi rfl rfl
  delivered _ := .inl trivial
  failable := trivial
  store _ hi _ _ _ _ :=
    { inv := Receipted.updateCores hi fun r hr => hi r hr
      guar := .of_same (by simp) (confirmedFees_updateCores fun _ => ⟨rfl, rfl⟩) }
  store_failed _ _ := trivial
  fail_owned _ hi _ _ _ := sound_fail hi
  forget _ hs := hs

theorem ignores : tracking.contract.Ignores asideTables := by
  refine Tracking.ignores (by simp [asideTables]) (by simp [asideTables]) fun {d d'} hs => ?_
  have hcores : d'.cores .platform_payments = d.cores .platform_payments :=
    hs .platform_payments (by simp [asideTables])
  exact ⟨fun h => h.of_cores hcores, fun _ _ => trivial, fun _ _ => trivial,
    .of_same (hs .tenants (by simp [asideTables])) (confirmedFees_of_cores hcores)⟩

theorem serves : tracking.contract.Serves := by
  refine lawful.serves (fun _ _ _ _ _ => trivial) ignores ?_
  intro s v d a d' hs _ hi he
  cases hs with
  | tables hs =>
      have hsame (T : Table) (hT : T ∉ asideTables) : d'.Same d T :=
        Stmt.eval_same (fun hw => hT (hs T hw)) he
      exact sound_of_same hi (hsame .tenants (by simp [asideTables]))
        (hsame .platform_payments (by simp [asideTables]))
  | payment =>
      obtain ⟨rfl, -⟩ := Stmt.eval_insert_payment he
      exact sound_of_same hi rfl rfl
  | platform =>
      obtain ⟨rfl, -, -, hstatus, hreceipt, -⟩ := Stmt.eval_insert_platform_payment he
      exact sound_insert_platform hi hstatus hreceipt
  | push =>
      cases he
      exact sound_of_same hi rfl rfl
  | suspend =>
      cases he
      refine { inv := Receipted.of_cores hi rfl, guar := .of_eq rfl (fun x => ?_) fun _ => rfl }
      split <;> exact ⟨rfl, rfl⟩

/-- In any run whose confirmations find unconfirmed fees, every billing date advances by one
month for each fee that became confirmed. -/
theorem billing_date_advanced {d : Store} (hd : UniqueIds d) (hr : Receipted d) {s s' : RunState}
    (hs : Reaches system rules (FrixelConnect.idle d) s) (hs' : Reaches system rules s s') :
    Advanced s.store s'.store ∧ Receipted s'.store := by
  have hedit : tracking.contract.Tolerates := fun _ _ _ _ he => he.elim
  have h₀ : tracking.contract.Holds (FrixelConnect.idle d) := .start ⟨hd, hr⟩ trivial
  obtain ⟨h₁, -⟩ := h₀.reaches serves hedit hs
  obtain ⟨h₂, hadvanced⟩ := h₁.reaches serves hedit hs'
  exact ⟨hadvanced, h₂.base.2⟩

instance (t : PaymentTable) (receipt : Json) (w : RowFilter) (c : Choice Exn Env) (d : Store) :
    Decidable (FindsUnconfirmed (.confirm t receipt w) c d) :=
  match t, c with
  | .platform_payments, .run _ => inferInstanceAs (Decidable (∃ r ∈ d.cores .platform_payments,
      w.holds r = true ∧ r.mpesa_receipt_number = none))
  | .platform_payments, .fail _ => .isTrue trivial
  | .payments, _ => .isTrue trivial

instance (s : Stmt) (c : Choice Exn Env) (d : Store) : Decidable (rules.stmt s c d) := by
  rcases s with ⟨⟩ <;>
    first | exact .isTrue trivial | exact inferInstanceAs (Decidable (FindsUnconfirmed _ c d))

instance (w : Spawn) (d : Store) : Decidable (rules.spawn w d) := .isTrue trivial

instance (d d' : Store) : Decidable (rules.edit d d') := .isFalse not_false

theorem receipted_shop : Receipted shop := by
  unfold Receipted
  decide

/-- The callback of the fee, delivered a second time. -/
def feeCallback : RunLabel :=
  .spawn (.daraja_webhook ((Outcome.success "QK4").body "ws_CO_4"))

theorem billing_date_advanced_after_callback : ∃ s : RunState,
    confirmedFees s.store 1 = 1 ∧ Advanced shop s.store := by
  obtain ⟨s, hs, hfees⟩ := Reaches.of_moves (Y := system) (ρ := rules) (FrixelConnect.idle shop)
    (feeCallback :: stepsOf 6 0 ++ feeCallback :: stepsOf 2 1)
    (fun d => confirmedFees d 1) 1 (by decide +kernel) rfl
  exact ⟨s, hfees, (billing_date_advanced uniqueIds_shop receipted_shop .refl hs).1⟩

/-- Two deliveries of one callback read the fee pending, and both extend the tenant. -/
theorem not_billing_date_advanced : ¬ ∀ (d : Store) (s : RunState), UniqueIds d → Receipted d →
    Reaches system (runsOf Spawn.isCallback) (FrixelConnect.idle d) s → Advanced d s.store := by
  intro h
  obtain ⟨s, hs, hview⟩ := Reaches.of_moves (Y := system) (ρ := runsOf Spawn.isCallback)
    (FrixelConnect.idle shop)
    ([feeCallback, feeCallback] ++ stepsOf 2 0 ++ stepsOf 2 1 ++ stepsOf 4 0 ++ stepsOf 4 1)
    (fun d => (d.tenants.map fun x => x.next_billing_date, confirmedFees d 1))
    ([plusMonth (plusMonth 0)], 1) (by decide +kernel) rfl
  obtain ⟨hdates, hfees⟩ := Prod.mk.inj hview
  obtain ⟨x, hx, -, n, hn, hdate⟩ := (h shop s uniqueIds_shop receipted_shop hs).date _
    (List.mem_singleton_self _)
  have hmem := List.mem_map_of_mem (f := fun x : Tenant => x.next_billing_date) hx
  have hone : n = 1 := by
    have hzero : confirmedFees shop 1 = 0 := by decide
    change confirmedFees s.store 1 = confirmedFees shop 1 + n at hn
    omega
  rw [hdates, hdate, hone] at hmem
  revert hmem
  decide +kernel

end PlatformBilling

end FrixelConnect
