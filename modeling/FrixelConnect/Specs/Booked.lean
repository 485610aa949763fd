import FrixelConnect.Specs.Tracking
import FrixelConnect.Interleaving.StoreRule

/-!
# What holds of the payment tables

Keys and receipts are unique in each table and the checkout ids are text, since the schema
says so; and a pending payment has no receipt, since every program leaves it so.
-/

namespace FrixelConnect

open Decimals Python Interleaving Contract Knowledge

variable {d d' : Store}

/-- The checkout id can stand in a text column. -/
def Storable (r : PaymentCore) : Prop :=
  ∀ c, r.mpesa_checkout_id = some c → Char.ofNat 0 ∉ c.toList

/-- What the schema says of the two tables: the keys are unique, the receipts are unique, and the
checkout ids are text. -/
structure Constrained (d : Store) : Prop where
  ids : UniqueIds d
  receipts : ∀ t, ∀ r ∈ d.cores t, ∀ r' ∈ d.cores t, ∀ s, r.mpesa_receipt_number = some s →
    r'.mpesa_receipt_number = some s → r.id = r'.id
  text : ∀ t, ∀ r ∈ d.cores t, Storable r

theorem Constrained.of_cores (h : Constrained d) (hc : ∀ t, d'.cores t = d.cores t) :
    Constrained d' where
  ids t := by
    rw [hc]
    exact h.ids t
  receipts t := by
    rw [hc]
    exact h.receipts t
  text t := by
    rw [hc]
    exact h.text t

theorem storable_of_param {n : Option ℕ} {x : Json} {r : PaymentCore}
    (h : textParam n x = .ok r.mpesa_checkout_id) : Storable r := by
  intro c hc
  rw [hc] at h
  obtain rfl := textParam_eq_ok h
  simp only [Option.map_some, Option.getD_some, textParam, Except.bind_eq_ok, check_eq_ok] at h
  obtain ⟨_, hnul, -⟩ := h
  simpa using hnul

/-- An update that changes neither keys nor receipts. -/
theorem Constrained.update {t : PaymentTable} {p : PaymentCore → Bool}
    {f : PaymentCore → PaymentCore} (h : Constrained d)
    (hf : ∀ r, (f r).id = r.id ∧ (f r).mpesa_receipt_number = r.mpesa_receipt_number)
    (htext : ∀ r, Storable r → Storable (f r)) : Constrained (d.updateCores t p f) where
  ids := h.ids.updateCores fun r => (hf r).1
  receipts t' := by
    have hrow {r : PaymentCore} (hr : r ∈ (d.updateCores t p f).cores t') : ∃ r₀ ∈ d.cores t',
        r.id = r₀.id ∧ r.mpesa_receipt_number = r₀.mpesa_receipt_number := by
      obtain ⟨r₀, hr₀, rfl⟩ := mem_cores_updateCores.mp hr
      refine ⟨r₀, hr₀, ?_⟩
      split
      · exact hf r₀
      · exact ⟨rfl, rfl⟩
    intro r hr r' hr' s hs hs'
    obtain ⟨x, hx, hid, hreceipt⟩ := hrow hr
    obtain ⟨x', hx', hid', hreceipt'⟩ := hrow hr'
    rw [hid, hid']
    exact h.receipts t' x hx x' hx' s (hreceipt ▸ hs) (hreceipt' ▸ hs')
  text t' r hr := by
    obtain ⟨r₀, hr₀, rfl⟩ := mem_cores_updateCores.mp hr
    split
    · exact htext r₀ (h.text t' r₀ hr₀)
    · exact h.text t' r₀ hr₀

/-- A row with a receipt that no other row has. -/
theorem Constrained.confirm {t : PaymentTable} {receipt : Json} {w : RowFilter} {v : Env} {u : Unit}
    (h : Constrained d) (he : (Stmt.confirm t receipt w).eval v d = .ok (u, d')) :
    Constrained d' := by
  simp only [Stmt.eval, Except.bind_eq_ok, pure, Except.pure, Except.ok.injEq, Prod.mk.injEq,
    Store.confirmRows, check_eq_ok] at he
  obtain ⟨rc, -, _, ⟨_, hfree, rfl⟩, -, rfl⟩ := he
  have htaken (r : PaymentCore) (hr : r ∈ d.cores t) (hw : w.holds r = true) (s : String)
      (hs : rc = some s) (r' : PaymentCore) (hr' : r' ∈ d.cores t)
      (hs' : r'.mpesa_receipt_number = some s) : w.holds r' = true := by
    rw [hs, Option.all_some, Bool.or_eq_true, Bool.not_eq_true', Bool.not_eq_true'] at hfree
    rcases hfree with hnone | htaken
    · rw [List.any_eq_false] at hnone
      exact absurd hw (hnone r hr)
    · rw [Store.receiptTaken, List.any_eq_false] at htaken
      have hrow := htaken r' hr'
      simpa [hs'] using hrow
  refine ⟨h.ids.updateCores fun _ => rfl, fun t' r hr r' hr' s hs hs' => ?_, fun t' r hr => ?_⟩
  · obtain ⟨x, hx, rfl⟩ := mem_cores_updateCores.mp hr
    obtain ⟨x', hx', rfl⟩ := mem_cores_updateCores.mp hr'
    by_cases hp : t' = t ∧ w.holds x = true
    · rw [if_pos hp] at hs ⊢
      by_cases hp' : t' = t ∧ w.holds x' = true
      · rw [if_pos hp']
        exact (RowFilter.holds_id hp.2).trans (RowFilter.holds_id hp'.2).symm
      · rw [if_neg hp'] at hs'
        obtain ⟨rfl, hw⟩ := hp
        exact absurd ⟨rfl, htaken x hx hw s hs x' hx' hs'⟩ hp'
    · rw [if_neg hp] at hs ⊢
      by_cases hp' : t' = t ∧ w.holds x' = true
      · rw [if_pos hp'] at hs'
        obtain ⟨rfl, hw⟩ := hp'
        exact absurd ⟨rfl, htaken x' hx' hw s hs' x hx hs⟩ hp
      · rw [if_neg hp'] at hs' ⊢
        exact h.receipts t' x hx x' hx' s hs hs'
  · obtain ⟨x, hx, rfl⟩ := mem_cores_updateCores.mp hr
    split
    · exact h.text t' x hx
    · exact h.text t' x hx

/-- A new row with a fresh key and a fresh receipt. -/
theorem Constrained.insert {t : PaymentTable} (h : Constrained d) (row : PaymentCore)
    (hc : ∀ t', d'.cores t' = d.cores t' ++ if t' = t then [row] else [])
    (hid : ∀ r ∈ d.cores t, r.id ≠ row.id)
    (hreceipt : ∀ s, row.mpesa_receipt_number = some s → ∀ r ∈ d.cores t,
      r.mpesa_receipt_number ≠ some s) (htext : Storable row) : Constrained d' where
  ids t' := by
    rw [hc]
    split
    · next ht =>
        subst ht
        exact nodup_map_concat _ (h.ids t') hid
    · rw [List.append_nil]
      exact h.ids t'
  receipts t' := by
    rw [hc]
    split
    · next ht =>
        subst ht
        intro r hr r' hr' s hs hs'
        rcases List.mem_append.mp hr with hold | hnew
        · rcases List.mem_append.mp hr' with hold' | hnew'
          · exact h.receipts t' r hold r' hold' s hs hs'
          · rw [List.mem_singleton.mp hnew'] at hs'
            exact absurd hs (hreceipt s hs' r hold)
        · rw [List.mem_singleton.mp hnew] at hs ⊢
          rcases List.mem_append.mp hr' with hold' | hnew'
          · exact absurd hs' (hreceipt s hs r' hold')
          · rw [List.mem_singleton.mp hnew']
    · rw [List.append_nil]
      exact h.receipts t'
  text t' := by
    rw [hc]
    split
    · next ht =>
        subst ht
        intro r hr
        rcases List.mem_append.mp hr with hr | hr
        · exact h.text t' r hr
        · obtain rfl := List.mem_singleton.mp hr
          exact htext
    · rw [List.append_nil]
      exact h.text t'

/-- A new payment has a checkout id that is text, and a receipt that no other payment has. -/
theorem insert_payment_text {customer_id package_id tenant_id : UUID} {amount : Decimal}
    {status : PaymentStatus} {phone : String} {checkout_id receipt : Option String} {row : Payment}
    {v : Env} (he : (Stmt.insert_payment customer_id package_id amount status phone tenant_id
      checkout_id receipt).eval v d = .ok (row, d')) :
    textParam (some 100) ((checkout_id.map Json.str).getD .null) = .ok checkout_id ∧
      ∀ s, receipt = some s → ∀ r ∈ d.cores .payments, r.mpesa_receipt_number ≠ some s := by
  simp only [Stmt.eval, Except.bind_eq_ok, pure, Except.pure, Except.ok.injEq, Prod.mk.injEq,
    check_eq_ok] at he
  obtain ⟨_, _, _, _, checkout, hcheckout, receipt', hreceipt, _, _, _, _, _, hfree, _⟩ := he
  refine ⟨textParam_text hcheckout ▸ hcheckout, fun s hs r hr htaken => ?_⟩
  rw [textParam_text hreceipt, hs, Option.all_some, Bool.not_eq_true', Store.receiptTaken,
    List.any_eq_false] at hfree
  exact hfree r hr (by simp [htaken])

/-- Every statement keeps what the schema says. -/
theorem constrained_rule : StoreRule system ({} : RunRules) (fun _ => True) Constrained where
  restores := machine_restores
  start w d d' p _ hd hs := by
    refine ⟨?_, p.all_true⟩
    cases w with
    | job position keep =>
        obtain ⟨job, -, hjob⟩ := Option.map_eq_some_iff.mp hs
        cases hjob
        split
        · exact hd
        · exact hd.of_cores fun t => by cases t <;> rfl
    | _ =>
        cases hs
        exact hd
  edit _ _ he := he.elim
  stmt s v d a d' _ _ hd hx := by
    have he := Stmt.exec_eq_ok.mp hx
    by_cases hw : s.writes ≠ some .payments ∧ s.writes ≠ some .platform_payments
    · exact hd.of_cores (cores_of_same (Stmt.eval_same hw.1 he) (Stmt.eval_same hw.2 he))
    · cases s with
      | confirm t receipt w => exact hd.confirm he
      | fail t reason w =>
          obtain ⟨rs, rfl⟩ := Stmt.eval_fail he
          exact hd.update (fun _ => ⟨rfl, rfl⟩) fun _ h => h
      | store_checkout t checkout_id w =>
          obtain ⟨c, hc, rfl, -⟩ := Stmt.eval_store_checkout he
          exact hd.update (fun _ => ⟨rfl, rfl⟩) fun _ _ => storable_of_param hc
      | insert_payment customer_id package_id amount status phone tenant checkout receipt =>
          obtain ⟨rfl, hid, -, -, -, -, hcheckout, hreceipt, -⟩ := Stmt.eval_insert_payment he
          obtain ⟨hparam, hfresh⟩ := insert_payment_text he
          refine hd.insert (t := .payments) a.toPaymentCore (fun t => ?_) ?_ ?_
            (storable_of_param (hcheckout ▸ hparam))
          · cases t
            · exact List.map_append
            · exact (List.append_nil _).symm
          · intro r hr
            obtain ⟨x, hx, rfl⟩ := List.mem_map.mp hr
            exact hid x hx
          · exact fun s hs => hfresh s (hreceipt ▸ hs)
      | insert_platform_payment tenant amount phone checkout =>
          obtain ⟨rfl, hid, -, -, hreceipt, hcheckout⟩ := Stmt.eval_insert_platform_payment he
          refine hd.insert (t := .platform_payments) a (fun t => ?_) hid (fun s hs => ?_)
            (storable_of_param hcheckout)
          · cases t
            · exact (List.append_nil _).symm
            · rfl
          · rw [hreceipt] at hs
            cases hs
      | delete_radius t => cases t <;> exact absurd (by simp [Stmt.writes, RadiusTable.table]) hw
      | insert_radius t => cases t <;> exact absurd (by simp [Stmt.writes, RadiusTable.table]) hw
      | _ => exact absurd (by simp [Stmt.writes]) hw

/-- A pending payment has no receipt. -/
def Blank (d : Store) : Prop :=
  ∀ t, ∀ r ∈ d.cores t, r.status = .pending → r.mpesa_receipt_number = none

theorem Blank.of_cores (h : Blank d) (hc : ∀ t, d'.cores t = d.cores t) : Blank d' := by
  intro t
  rw [hc]
  exact h t

theorem Blank.update {t : PaymentTable} {p : PaymentCore → Bool} {f : PaymentCore → PaymentCore}
    (h : Blank d) (hf : ∀ r, (f r).status = .pending →
      r.status = .pending ∧ (f r).mpesa_receipt_number = r.mpesa_receipt_number) :
    Blank (d.updateCores t p f) := by
  intro t' r hr
  obtain ⟨r₀, hr₀, rfl⟩ := mem_cores_updateCores.mp hr
  split
  · intro hs
    obtain ⟨hpending, hreceipt⟩ := hf r₀ hs
    rw [hreceipt]
    exact h t' r₀ hr₀ hpending
  · exact h t' r₀ hr₀

/-- A new row that is not pending, or has no receipt. -/
theorem Blank.insert {t : PaymentTable} (h : Blank d) (row : PaymentCore)
    (hc : ∀ t', d'.cores t' = d.cores t' ++ if t' = t then [row] else [])
    (hrow : row.status = .pending → row.mpesa_receipt_number = none) : Blank d' := by
  intro t' r hr
  rw [hc] at hr
  rcases List.mem_append.mp hr with hr | hr
  · exact h t' r hr
  · split at hr
    · rw [List.mem_singleton.mp hr]
      exact hrow
    · cases hr

namespace Blank

def tracking : Tracking where
  rules := {}
  inv := Blank

theorem sound {g g' : Knowledge} (h : Blank d') : tracking.Sound d d' g g' :=
  { inv := h, guar := trivial }

theorem sound_failed {t : PaymentTable} {p : PaymentCore → Bool} {rs : Option String}
    {now : Calendar.Timestamptz} {g g' : Knowledge} (h : Blank d) :
    tracking.Sound d (d.updateCores t p (PaymentCore.failed rs now)) g g' :=
  sound (h.update fun _ hs => by cases hs)

theorem confirmed {t : PaymentTable} {p : PaymentCore → Bool} {rc : Option String}
    {now : Calendar.Timestamptz} (h : Blank d) :
    Blank (d.updateCores t p (PaymentCore.confirmed rc now)) :=
  h.update fun _ hs => by cases hs

theorem sound_insert {row : Payment} {g g' : Knowledge} (h : Blank d)
    (hrow : row.status = .pending → row.mpesa_receipt_number = none) :
    tracking.Sound d { d with payments := d.payments ++ [row] } g g' := by
  refine sound (h.insert (t := .payments) row.toPaymentCore (fun t => ?_) hrow)
  cases t
  · exact List.map_append
  · exact (List.append_nil _).symm

theorem sound_insert_platform {row : PaymentCore} {g g' : Knowledge} (h : Blank d)
    (hrow : row.mpesa_receipt_number = none) :
    tracking.Sound d { d with platform_payments := d.platform_payments ++ [row] } g g' := by
  refine sound (h.insert (t := .platform_payments) row (fun t => ?_) fun _ => hrow)
  cases t
  · exact (List.append_nil _).symm
  · rfl

theorem lawful : tracking.Lawful (fun _ => True) (fun _ => True) where
  know := Iff.rfl
  query _ _ := trivial
  fail _ hi _ _ _ _ := sound_failed hi
  confirm _ hi _ _ _ _ := ⟨sound (confirmed hi), trivial⟩
  extend _ hi _ _ _ _ := sound ((confirmed hi).of_cores fun _ => Store.cores_updateTenant ..)
  enqueue _ hi _ := sound (hi.of_cores fun t => by cases t <;> rfl)
  insert _ hi he := by
    obtain ⟨rfl, -, -, -, -, -, -, hreceipt, -⟩ := Stmt.eval_insert_payment he
    exact sound_insert hi fun _ => hreceipt
  insert_platform _ hi he := by
    obtain ⟨rfl, -, -, -, hreceipt, -⟩ := Stmt.eval_insert_platform_payment he
    exact sound_insert_platform hi hreceipt
  push hi he := by
    cases he
    exact sound (hi.of_cores fun t => by cases t <;> rfl)
  delivered _ := .inl trivial
  failable := trivial
  store _ hi _ _ _ _ := sound (hi.update fun _ hs => ⟨hs, rfl⟩)
  store_failed _ _ := trivial
  fail_owned _ hi _ _ _ := sound_failed hi
  forget _ hs := hs

theorem ignores : tracking.contract.Ignores asideTables := by
  refine Tracking.ignores (by simp [asideTables]) (by simp [asideTables]) fun {d d'} hs => ?_
  have hcores : ∀ t, d'.cores t = d.cores t :=
    cores_of_same (hs _ (by simp [asideTables])) (hs _ (by simp [asideTables]))
  exact ⟨fun h => Blank.of_cores h hcores, fun _ _ => trivial, fun _ _ => trivial, trivial⟩

theorem serves : tracking.contract.Serves := by
  refine lawful.serves (fun _ _ _ _ _ => trivial) ignores ?_
  intro s v d a d' hs _ hi he
  cases hs with
  | tables hs =>
      have hsame (T : Table) (hT : T ∉ asideTables) : d'.Same d T :=
        Stmt.eval_same (fun hw => hT (hs T hw)) he
      exact sound (Blank.of_cores hi
        (cores_of_same (hsame _ (by simp [asideTables])) (hsame _ (by simp [asideTables]))))
  | payment =>
      obtain ⟨rfl, -, -, -, hstatus, -⟩ := Stmt.eval_insert_payment he
      exact sound_insert hi fun hs => by rw [hstatus] at hs; cases hs
  | platform =>
      obtain ⟨rfl, -, -, -, hreceipt, -⟩ := Stmt.eval_insert_platform_payment he
      exact sound_insert_platform hi hreceipt
  | push =>
      cases he
      exact sound (Blank.of_cores hi fun t => by cases t <;> rfl)
  | suspend =>
      cases he
      exact sound (Blank.of_cores hi fun t => by cases t <;> rfl)

end Blank

/-- What holds of the payment tables. -/
structure Booked (d : Store) : Prop extends Constrained d where
  blank : Blank d

/-- It holds in every state that the system reaches. -/
theorem Booked.reaches (h : Booked d) {s : RunState}
    (hs : Reaches system ({} : RunRules) (FrixelConnect.idle d) s) : Booked s.store where
  toConstrained := constrained_rule.run hs h.toConstrained
  blank := by
    have hstart : Blank.tracking.contract.Holds (FrixelConnect.idle d) :=
      .start ⟨h.ids, h.blank⟩ trivial
    exact (hstart.reaches Blank.serves (fun _ _ _ _ he => he.elim) hs).1.base.2

end FrixelConnect
