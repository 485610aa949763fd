import FrixelConnect.PackageSchemas
import FrixelConnect.Specs.Alone
import FrixelConnect.Specs.Footprint
import FrixelConnect.Effects

/-!
# The amount charged and the amount recorded

A purchase copies the price of the package to the payment row and sends its whole shillings to
Daraja. The row is meant as a snapshot of what was paid; it is one for the prices without cents.
-/

namespace FrixelConnect

namespace ChargedAmounts

open Decimals Python Interleaving Contract Alone

/-- The price column after a request with this price. -/
def storedPrice (price_kes : Decimal) : Except Exn Money := do
  let price_kes ← moneyParam (← price_must_be_positive price_kes)
  check price_kes.positive (.database "violates check constraint")
  pure price_kes

/-- The amounts that have been sent to Daraja, with the payments that they are for. -/
def sends : Journal Stmt Exn Env (List (Option UUID × ℤ)) := fun sent s _ =>
  match s with
  | .post_stk_push payment_id _ amount _ _ => some (sent ++ [(payment_id, amount)])
  | _ => some sent

/-- The amount is at least a shilling, and the row of its payment records it. -/
def Recorded (d : Store) (e : Option UUID × ℤ) : Prop :=
  1 ≤ e.2 ∧ ∃ r ∈ d.payments, e.1 = some r.id ∧ ∃ n, r.amount_kes = .units n ∧ n.1 = 100 * e.2

/-- However far the call gets, the amounts that it has sent are recorded. -/
def Charges (p : M PaymentCore) (d : Store) : Prop :=
  ∀ y, Solo.Reaches machine sends ⟨[], d, { prog := p }⟩ y → ∀ e ∈ y.journal, Recorded y.store e

/-- The package, if there is one, has the price. -/
def ForPrice (d : Store) (package_id : UUID) (price : Money) : Prop :=
  ∀ p ∈ d.packages, p.id = package_id → p.price_kes = price

/-- Both kinds of purchase of a package with this price charge what they record. -/
def ChargedAsRecorded (price : Money) : Prop := ∀ d : Store,
  (∀ tenant_id customer_id data, ForPrice d data.package_id price →
    Charges (initiate_stk_push tenant_id customer_id data) d) ∧
  ∀ data, ForPrice d data.package_id price → Charges (initiate_hotspot_payment data) d

variable {d x : Store} {j : List (Option UUID × ℤ)} {price : Money} {l : RunLocal}

/-- The invariant of a purchase. -/
def AllRecorded (j : List (Option UUID × ℤ)) (d : Store) : Prop := ∀ e ∈ j, Recorded d e

/-- Rows keep their id and their amount. -/
def KeepsAmounts (d d' : Store) : Prop :=
  ∀ r ∈ d.payments, ∃ r' ∈ d'.payments, r'.id = r.id ∧ r'.amount_kes = r.amount_kes

theorem AllRecorded.keeps {d' : Store} (h : AllRecorded j d) (hkeep : KeepsAmounts d d') :
    AllRecorded j d' := by
  intro e he
  obtain ⟨hone, r, hr, hid, n, hn, hamount⟩ := h e he
  obtain ⟨r', hr', hid', hn'⟩ := hkeep r hr
  exact ⟨hone, r', hr', hid.trans (congrArg some hid'.symm), n, hn'.trans hn, hamount⟩

/-- The statements around the push: reads, writes to `users`, and the two updates of the row. -/
inductive Quiet : Stmt → Prop
  | aside {s : Stmt} (h : Within [.users] s) : Quiet s
  | store_checkout (t : PaymentTable) (checkout_id : Json) (w : RowFilter) :
      Quiet (.store_checkout t checkout_id w)
  | fail (t : PaymentTable) (reason : Json) (w : RowFilter) : Quiet (.fail t reason w)

theorem keepsAmounts_updateCores {t : PaymentTable} {p : PaymentCore → Bool}
    {f : PaymentCore → PaymentCore} (hid : ∀ r, (f r).id = r.id)
    (hamount : ∀ r, (f r).amount_kes = r.amount_kes) : KeepsAmounts d (d.updateCores t p f) := by
  intro r hr
  cases t with
  | payments =>
      refine ⟨_, List.mem_map_of_mem hr, ?_⟩
      split
      · exact ⟨hid _, hamount _⟩
      · exact ⟨rfl, rfl⟩
  | platform_payments => exact ⟨r, hr, rfl, rfl⟩

/-- A quiet statement sends nothing. -/
theorem Quiet.sends {s : Stmt} (h : Quiet s) (c : Choice Exn Env) : sends j s c = some j := by
  cases h with
  | store_checkout t checkout_id w => rfl
  | fail t reason w => rfl
  | aside h =>
      unfold ChargedAmounts.sends
      split
      · have := h .pushes rfl
        simp at this
      · rfl

theorem Quiet.keeps {s : Stmt} (h : Quiet s) {v : Env} {a : s.Res}
    (he : s.eval v d = .ok (a, x)) : KeepsAmounts d x := by
  cases h with
  | aside h =>
      have hsame : x.payments = d.payments :=
        Stmt.eval_same (T := .payments) (fun hw => by simpa using h _ hw) he
      exact fun r hr => ⟨r, hsame ▸ hr, rfl, rfl⟩
  | store_checkout t checkout_id w =>
      obtain ⟨c, -, rfl, -⟩ := Stmt.eval_store_checkout he
      exact keepsAmounts_updateCores (fun _ => rfl) fun _ => rfl
  | fail t reason w =>
      obtain ⟨rs, rfl⟩ := Stmt.eval_fail he
      exact keepsAmounts_updateCores (fun _ => rfl) fun _ => rfl

/-- A program of quiet statements. -/
theorem always_quiet {α : Type} {p : M α} (hp : p.Plain Quiet) (hl : l.txn = .none)
    (h : AllRecorded j d) :
    Solo.Always machine sends AllRecorded (fun _ _ _ l' => l' = l) p j d l := by
  refine Solo.always_of_plain hp hl h fun s hs c j j' d hi hc => ?_
  obtain rfl : j = j' := Option.some.inj ((hs.sends c).symm.trans hc)
  cases c with
  | fail e => exact hi
  | run v =>
      change AllRecorded j (s.exec v d).2
      rcases s.exec_cases v d with ⟨a, d', he, hx⟩ | ⟨e, -, hx⟩
      · rw [hx]
        exact hi.keeps (hs.keeps he)
      · rw [hx]
        exact hi

theorem allRecorded_nil : AllRecorded [] d := fun _ h => (by cases h)

/-- The push of an amount that the row records. -/
theorem always_stk_push {id : UUID} {phone reference description : String} {amount : ℤ}
    (hl : l.txn = .none) (hrow : Recorded d (some id, amount)) : Solo.Always machine sends
      AllRecorded (fun _ _ _ l' => l' = l)
      (stk_push (some id) phone amount reference description) [] d l := by
  refine Solo.always_exec_bind (.inr hl) allRecorded_nil fun c j' hj => ?_
  cases hj
  have hsent : AllRecorded [(some id, amount)] d := by
    intro e he
    rw [List.mem_singleton.mp he]
    exact hrow
  cases c with
  | fail e => exact ⟨hsent, rfl⟩
  | run v =>
      have hkeep : KeepsAmounts d ((machine.direct (.post_stk_push (some id) phone amount
          (front 12 reference) (front 13 description)) (.run v) d).2) :=
        fun r hr => ⟨r, hr, rfl, rfl⟩
      exact ⟨hsent.keeps hkeep, rfl⟩

/-- The block of a purchase, for a row that records the whole shillings of the price. -/
theorem always_push_block {id : UUID} {tenant_id : Option UUID} {phone reference description
    message : String} {n : {n : ℤ // n.natAbs < 10 ^ 10}} (hl : l.txn = .none)
    (hrow : Recorded d (some id, n.1.tdiv 100)) : Solo.Always machine sends AllRecorded
      (fun _ _ _ _ => True) (push_block .payments id tenant_id
        (do let amount ← Prog.ofExcept (Money.toInt (.units n))
            stk_push (some id) phone amount reference description) message) [] d l := by
  refine Solo.always_inFrame.mpr (Solo.always_handle.mpr ?_)
  have hpush := @always_stk_push d { l with frames := .initiating .payments id :: l.frames } id
    phone reference description _ hl hrow
  refine Solo.Always.mono (Q := fun _ _ _ l' => l'.txn = .none) ?_ ?_
  · refine Solo.always_then hpush (fun _ _ _ _ _ h => h ▸ hl) ?_
    rintro response j d' l' hi rfl
    refine Solo.Always.mono (always_quiet ?_ hl hi) ?_
    · refine Prog.Plain.bind trivial fun checkout_id => ?_
      refine ((Prog.plain_exec _).mpr (.store_checkout _ _ _)).bind fun updated_payment => ?_
      cases updated_payment <;> trivial
    · rintro _ _ _ l' - hl'
      rw [hl']
      exact hl
  · intro r j d' l' hi hl'
    cases r with
    | ok row => exact ⟨hi, trivial⟩
    | error e =>
        refine (always_quiet ?_ hl' hi).mono fun _ _ _ _ _ _ => trivial
        exact ((Prog.plain_exec _).mpr (.fail _ _ _)).bind fun _ => trivial

/-- A purchase of a package whose price has no cents. -/
theorem always_purchase {package_id tenant_id customer_id : UUID} {tenant : Option UUID}
    {phone description message : String} {reference : UUID → String}
    {n : {n : ℤ // n.natAbs < 10 ^ 10}} (hprice : ForPrice d package_id (.units n))
    (hpos : 0 < n.1) (hwhole : 100 ∣ n.1) : Solo.Always machine sends AllRecorded
      (fun _ _ _ _ => True) (do
        let package ← purchasable package_id tenant_id
        let payment ← exec (.insert_payment customer_id package_id package.price_kes.load .pending
          phone tenant_id none none)
        push_block .payments payment.id tenant
          (do let amount ← Prog.ofExcept package.price_kes.toInt
              stk_push (some payment.id) phone amount (reference payment.id) description) message)
      [] d {} := by
  refine Solo.always_then (T := fun r j x l => j = [] ∧ l.txn = .none ∧
    ∀ package, r = .ok package → package.price_kes = .units n) ?_ (fun _ _ _ _ _ _ => trivial) ?_
  · refine Solo.always_then (T := fun r j x l => j = [] ∧ l.txn = .none ∧
      ∀ package, r = .ok (some package) → package.price_kes = .units n) ?_ ?_ ?_
    · refine (always_stmt rfl (fun c j' hj => (by cases hj; rfl)) allRecorded_nil
        (fun e => ⟨rfl, rfl, fun _ h => (by cases h)⟩) fun v a d' he => ?_)
      obtain rfl := Stmt.eval_read rfl he
      refine ⟨allRecorded_nil, rfl, rfl, fun package ha => ?_⟩
      cases ha
      have hfetch : fetchrow v.pick (fun r : Package => r.id == package_id &&
          r.tenant_id == tenant_id) d'.packages = some package :=
        congrArg Prod.fst (Except.ok.inj he)
      obtain ⟨hmem, hid⟩ := fetchrow_eq_some hfetch
      rw [Bool.and_eq_true, beq_iff_eq] at hid
      exact hprice package hmem hid.1
    · rintro e j x l - ⟨hj, hl, -⟩
      exact ⟨hj, hl, fun _ h => (by cases h)⟩
    · rintro package j x l - ⟨rfl, hl, hpackage⟩
      cases package with
      | none => exact ⟨allRecorded_nil, rfl, hl, fun _ h => (by cases h)⟩
      | some package =>
          dsimp only
          split
          · exact ⟨allRecorded_nil, rfl, hl, fun _ h => (by cases h)⟩
          · refine ⟨allRecorded_nil, rfl, hl, fun _ h => ?_⟩
            cases h
            exact hpackage package rfl
  · rintro package j x l - ⟨rfl, hl, hpackage⟩
    have hunits := hpackage package rfl
    refine always_stmt_bind hl (fun c j' hj => (by cases hj; rfl)) allRecorded_nil
      (fun _ => trivial) fun v row x' he => ?_
    obtain ⟨rfl, -, -, -, -, -, -, -, hamount, -⟩ := Stmt.eval_insert_payment he
    have hstored : row.amount_kes = .units n := by
      rw [hunits, moneyParam, Money.load, Column.store_load (by decide)] at hamount
      exact (Except.ok.inj hamount).symm
    obtain ⟨k, hk⟩ := hwhole
    have htrunc : n.1.tdiv 100 = k := by rw [hk, Int.mul_tdiv_cancel_left _ (by decide)]
    rw [hunits]
    refine always_push_block hl ⟨?_, row, List.mem_append_right _ (by simp), rfl, n, hstored, ?_⟩
    · rw [htrunc]
      omega
    · rw [htrunc, hk]

theorem charges_of_always {p : M PaymentCore}
    (h : Solo.Always machine sends AllRecorded (fun _ _ _ _ => True) p [] d {}) : Charges p d :=
  fun y hy => (Solo.always_iff.mp h y hy).1

/-- Finding or registering the customer leaves the packages alone. -/
theorem always_guest {tenant_id : UUID} {phone : String} : Solo.Always machine sends AllRecorded
    (fun _ j x l => (j = [] ∧ x.packages = d.packages) ∧ l = {})
    (get_or_create_guest_customer tenant_id phone) [] d {} := by
  have hplain : (get_or_create_guest_customer tenant_id phone).Plain (Within [.users]) :=
    get_or_create_guest_customer_plain tenant_id phone (List.mem_singleton_self _)
  have halways : Solo.Always machine sends (fun j x => j = [] ∧ x.packages = d.packages)
      (fun _ _ _ l' => l' = {}) (get_or_create_guest_customer tenant_id phone) [] d {} := by
    refine Solo.always_of_plain hplain rfl ⟨rfl, rfl⟩ fun s hs c j j' x hi hc => ?_
    obtain rfl : j = j' := Option.some.inj (((Quiet.aside hs).sends c).symm.trans hc)
    refine ⟨hi.1, ?_⟩
    cases c with
    | fail e => exact hi.2
    | run v =>
        have hsame : (s.exec v x).2.packages = x.packages :=
          Stmt.exec_same (T := .packages) (fun hw => by simpa using hs _ hw) v x
        exact hsame.trans hi.2
  refine halways.weaken fun j x h => ?_
  rw [h.1]
  exact allRecorded_nil

/-- The account reference of a purchase. -/
def account_reference (id : UUID) : String := "WIFI-" ++ front 7 (str id)

/-- What is charged for a price without cents is what is recorded. -/
theorem charged_of_whole {n : {n : ℤ // n.natAbs < 10 ^ 10}} (hpos : 0 < n.1)
    (hwhole : 100 ∣ n.1) : ChargedAsRecorded (.units n) := by
  intro d
  constructor
  · intro tenant_id customer_id data hprice
    exact charges_of_always (@always_purchase _ _ _ _ _ _ _ _ account_reference n hprice hpos hwhole)
  · intro data hprice
    refine charges_of_always (Solo.always_then always_guest (fun _ _ _ _ _ _ => trivial) ?_)
    rintro customer_id j x l - ⟨⟨rfl, hpackages⟩, rfl⟩
    refine @always_purchase _ _ _ _ _ _ _ _ account_reference n ?_ hpos hwhole
    rw [ForPrice, hpackages]
    exact hprice

/-- The package of the shop. -/
def pricedPackage (price : Money) : Package :=
  { id := 3, name := "Daily", price_kes := price, duration_minutes := 1440, speed_mbps := 5
    tenant_id := 1 }

/-- A shop with one customer and one package of the price. -/
def priced (price : Money) : Store :=
  { tenants := [{ id := 1, owner_phone := "254700000001", next_billing_date := 0 }]
    users := [{ id := 2, email := "c@example.com", phone := "254700000002", hashed_password := ""
                tenant_id := 1 }]
    packages := [pricedPackage price] }

/-- A purchase in the shop sends the whole shillings of the price. -/
theorem whole_of_charged {n : {n : ℤ // n.natAbs < 10 ^ 10}} (hpos : 0 < n.1)
    (h : ChargedAsRecorded (.units n)) : 100 ∣ n.1 := by
  have hprice : ForPrice (priced (.units n)) 3 (.units n) := by
    intro p hp _
    rw [List.mem_singleton.mp hp]
    rfl
  have hrun : Solo.Always machine sends AllRecorded (fun _ _ _ _ => True)
      (initiate_stk_push 1 2 { phone := "254700000002", package_id := 3 }) []
      (priced (.units n)) {} :=
    Solo.always_iff.mpr fun y hy => ⟨(h _).1 1 2 _ hprice y hy, fun _ _ => trivial⟩
  have hselect : (Stmt.select_package 3 1).eval {} (priced (.units n)) =
      .ok (some (pricedPackage (.units n)), priced (.units n)) := rfl
  have hrun := run (v := {}) (Solo.always_bind.mp hrun) rfl rfl hselect
  have hmoney : moneyParam (Money.load (.units n)) = .ok (.units n) := by
    rw [moneyParam, Money.load, Column.store_load (by decide)]
  have hphone : textParam (some 20) (.str "254700000002") = .ok (some "254700000002") := by
    decide +kernel
  cases hinsert : (Stmt.insert_payment 2 3 (Money.load (.units n)) .pending "254700000002" 1
      none none).eval {} (priced (.units n)) with
  | error e =>
      have hnone (k : ℕ) : textParam (some k) .null = .ok none := rfl
      simp [Stmt.eval, hmoney, hphone, hnone, check, Money.positive, hpos, priced, bind,
        Except.bind, pure, Except.pure, Store.hasUser, Store.hasPackage, Store.hasTenant,
        pricedPackage] at hinsert
  | ok r =>
      obtain ⟨row, d'⟩ := r
      obtain ⟨rfl, -, -, -, -, -, -, -, hamount, -⟩ := Stmt.eval_insert_payment hinsert
      have hrun := run (v := {}) hrun.2 rfl rfl hinsert
      have hrun := Solo.always_bind.mp (Solo.always_handle.mp (Solo.always_inFrame.mp hrun))
      have hsent := (hrun.2 (.run {}) _ rfl).inv
      obtain ⟨-, r, hr, hid, m, hm, htrunc⟩ := hsent _ (List.mem_singleton_self _)
      have hstored : row.amount_kes = .units n := (Except.ok.inj (hmoney.symm.trans hamount)).symm
      rw [show r = row from List.mem_singleton.mp hr, hstored] at hm
      cases hm
      exact ⟨_, htrunc⟩

/-- A price that is stored is a positive number. -/
theorem storedPrice_units {v : Decimal} (h : storedPrice v = .ok price) :
    ∃ n, price = .units n ∧ 0 < n.1 := by
  simp only [storedPrice, Except.bind_eq_ok, check_eq_ok, pure, Except.pure, Except.ok.injEq] at h
  obtain ⟨w, hw, m, hm, -, hpositive, rfl⟩ := h
  obtain ⟨c, e, rfl⟩ := price_finite hw
  cases m with
  | units n => exact ⟨n, rfl, by simpa [Money.positive] using hpositive⟩
  | nan =>
      simp only [moneyParam, Column.store] at hm
      split at hm
      · next heq =>
          split at heq
          · cases heq
          · split at heq
            · cases heq
              cases hm
            · cases heq
      · cases hm

/-- The form that creates a package stores the price in this way, -/
theorem row_price {data : PackageCreate} {id tenant_id : UUID} {packages : List Package}
    {p : Package} (h : data.row id tenant_id packages = .ok p) :
    storedPrice data.price_kes = .ok p.price_kes := by
  obtain ⟨data', hvalid, hinsert⟩ := Except.bind_eq_ok.mp h
  obtain ⟨hmoney, hpositive, -, -⟩ := PackageCreate.insert_eq_ok hinsert
  simp only [storedPrice, (PackageCreate.validate_eq_ok hvalid).1, bind, Except.bind, hmoney,
    check, hpositive, if_true]
  rfl

/-- and so does the form that changes one. -/
theorem update_price {data data' : PackageUpdate} {tenant_id package_id : UUID} {e : SyncEnv}
    {s s' : SyncStore} {r : Option Package} {w : Decimal} (hvalid : data.validate = .ok data')
    (hprice : data.price_kes = some w)
    (he : (SyncStmt.update_package data' tenant_id package_id).eval e s = .ok (r, s')) :
    ∀ p ∈ s.packages, p.isActiveIn tenant_id package_id = true → ∃ p' ∈ s'.packages,
      p'.id = p.id ∧ storedPrice w = .ok p'.price_kes := by
  obtain ⟨w', hw', hdata⟩ : ∃ w', price_must_be_positive w = .ok w' ∧ data'.price_kes = some w' := by
    simp only [PackageUpdate.validate, Except.bind_eq_ok, pure, Except.pure,
      Except.ok.injEq] at hvalid
    obtain ⟨name, -, price_kes, hmap, duration_minutes, -, speed_mbps, -, data_quota_mb, -, rfl⟩ :=
      hvalid
    cases hw : price_must_be_positive w with
    | ok w' =>
        simp only [hprice, Option.mapM_some, hw, Functor.map, Except.map, Except.ok.injEq] at hmap
        exact ⟨w', rfl, hmap.symm⟩
    | error e =>
        simp only [hprice, Option.mapM_some, hw, Functor.map, Except.map] at hmap
        cases hmap
  simp only [SyncStmt.eval, Except.bind_eq_ok, check_eq_ok, pure, Except.pure, Except.ok.injEq,
    Prod.mk.injEq] at he
  obtain ⟨name, -, description, -, price_kes, hmoney, _, -, _, hcheck, _, -, -, rfl⟩ := he
  cases hm : moneyParam w' with
  | error e =>
      simp only [hdata, Option.mapM_some, hm, Functor.map, Except.map] at hmoney
      cases hmoney
  | ok m =>
      simp only [hdata, Option.mapM_some, hm, Functor.map, Except.map, Except.ok.injEq] at hmoney
      subst hmoney
      intro p hp hactive
      refine ⟨_, List.mem_map_of_mem hp, ?_⟩
      rw [if_pos hactive]
      refine ⟨rfl, ?_⟩
      have hpositive : m.positive = true := by
        have hall := List.all_eq_true.mp hcheck p (List.mem_filter.mpr ⟨hp, hactive⟩)
        simp only [Bool.and_eq_true] at hall
        exact hall.1.1
      simp only [storedPrice, hw', bind, Except.bind, hm, check, hpositive, if_true]
      rfl

/-- For a price as the forms take it, what is charged is what is recorded exactly when the price,
rounded to cents, is a whole number of shillings. -/
theorem charged_iff (v : Decimal) : (∀ price, storedPrice v = .ok price → ChargedAsRecorded price) ↔
    ∀ price, storedPrice v = .ok price → 100 ∣ price.cents := by
  refine forall₂_congr fun price h => ?_
  obtain ⟨n, rfl, hpos⟩ := storedPrice_units h
  exact ⟨whole_of_charged hpos, charged_of_whole hpos⟩

/-- A package for 49.50 shillings. -/
theorem not_charged : ∃ price, storedPrice (.finite 495 (-1)) = .ok price ∧
    ¬ ChargedAsRecorded price := by
  refine ⟨.units ⟨4950, by decide⟩, by decide +kernel, fun h => ?_⟩
  have hwhole : (100 : ℤ) ∣ 4950 := whole_of_charged (by decide) h
  omega

end ChargedAmounts

end FrixelConnect
