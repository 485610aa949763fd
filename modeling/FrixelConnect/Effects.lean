import FrixelConnect.System

/-!
# Effects of single statements

One lemma for each writing statement that an invariant depends on: what has to
hold for it to go through, and the store after it.
-/

namespace FrixelConnect

open Decimals Calendar Python Interleaving

variable {v : Env} {d d' : Store} {t : PaymentTable}

theorem mem_updateRows {α : Type} {p : α → Bool} {f : α → α} {rows : List α} {r : α} :
    r ∈ updateRows p f rows ↔ ∃ r₀ ∈ rows, (if p r₀ then f r₀ else r₀) = r := List.mem_map

/-- An update that leaves `q` alone on the rows it meets. -/
theorem countP_updateRows {α : Type} {p q : α → Bool} {f : α → α} {rows : List α}
    (h : ∀ r ∈ rows, p r = true → q (f r) = q r) :
    (updateRows p f rows).countP q = rows.countP q := by
  rw [updateRows, List.countP_map]
  apply List.countP_congr
  intro r hr
  by_cases hp : p r = true
  · simp [hp, h r hr hp]
  · simp [hp]

/-- An update of one row, which satisfies `q` from then on. -/
theorem countP_updateRows_one {α : Type} {p q : α → Bool} {f : α → α} {rows : List α} {r : α}
    (hr : r ∈ rows) (hrows : rows.Nodup) (hp : ∀ r' ∈ rows, p r' = true ↔ r' = r)
    (hq : q r = false) (hf : q (f r) = true) :
    (updateRows p f rows).countP q = rows.countP q + 1 := by
  obtain ⟨before, after, rfl⟩ := List.append_of_mem hr
  have hnot : r ∉ before ++ after := by
    rw [List.nodup_middle] at hrows
    exact (List.nodup_cons.mp hrows).1
  have hkeep (rows : List α) (hsub : ∀ r' ∈ rows, r' ∈ before ++ after) :
      (updateRows p f rows).countP q = rows.countP q := by
    refine countP_updateRows fun r' hr' hpr => ?_
    have hmem := hsub r' hr'
    rw [(hp r' (by simp only [List.mem_append, List.mem_cons] at hmem ⊢; tauto)).mp hpr] at hmem
    exact absurd hmem hnot
  have hone : p r = true := (hp r hr).mpr rfl
  have happend : updateRows p f (before ++ r :: after) =
      updateRows p f before ++ f r :: updateRows p f after := by
    simp [updateRows, hone]
  rw [happend, List.countP_append, List.countP_append, List.countP_cons_of_pos hf,
    List.countP_cons_of_neg (by simp [hq]), hkeep before (by simp +contextual),
    hkeep after (by simp +contextual)]
  rfl

/-- A text column holds the text that was sent. -/
theorem textParam_eq_ok {n : Option ℕ} {x : Json} {o : Option String}
    (h : textParam n x = .ok o) : x = (o.map Json.str).getD .null := by
  cases x with
  | null =>
      cases h
      rfl
  | str s =>
      simp only [textParam, Except.bind_eq_ok, pure, Except.pure, Except.ok.injEq] at h
      obtain ⟨_, _, _, _, rfl⟩ := h
      rfl
  | bool b => cases h
  | int n => cases h
  | float repr => cases h
  | arr items => cases h
  | obj fields => cases h

theorem textParam_text {n : Option ℕ} {o o' : Option String}
    (h : textParam n ((o.map Json.str).getD .null) = .ok o') : o' = o := by
  have h' := textParam_eq_ok h
  cases o <;> cases o' <;> simp_all

/-- What is stored for a value other than `None` is not `NULL`. -/
theorem textParam_isSome {n : Option ℕ} {x : Json} {o : Option String}
    (h : textParam n x = .ok o) (hx : x ≠ .null) : ∃ s, o = some s := by
  cases o with
  | none => exact absurd (textParam_eq_ok h) hx
  | some s => exact ⟨s, rfl⟩

theorem moneyParam_eq_ok {x : Decimal} {m : Money} :
    moneyParam x = .ok m ↔ Column.store 10 2 x = some m := by
  unfold moneyParam
  cases Column.store 10 2 x <;> simp

/-- The users are the same, apart from their passwords. -/
def SameUsers (users users' : List User) : Prop :=
  users'.map (fun u => { u with hashed_password := "" }) =
    users.map fun u => { u with hashed_password := "" }

namespace Stmt

/-- What a statement writes that does not belong to a transaction. -/
theorem writes_external {s : Stmt} (h : s.inTx = false) {T : Table} (hT : s.writes = some T) :
    T = .last_sequence_id ∨ T = .queue ∨ T = .pushes := by
  cases s <;> cases hT <;> first | cases h; done | simp

theorem eval_confirm {receipt : Json} {w : RowFilter} {u : Unit}
    (h : (Stmt.confirm t receipt w).eval v d = .ok (u, d')) :
    ∃ rc, textParam (some 20) receipt = .ok rc ∧
      d' = d.updateCores t w.holds (PaymentCore.confirmed rc v.now) := by
  simp only [eval, Except.bind_eq_ok, pure, Except.pure, Except.ok.injEq, Prod.mk.injEq,
    Store.confirmRows] at h
  obtain ⟨rc, hrc, d₁, ⟨_, _, rfl⟩, _, rfl⟩ := h
  exact ⟨rc, hrc, rfl⟩

theorem eval_fail {reason : Json} {w : RowFilter} {u : Unit}
    (h : (Stmt.fail t reason w).eval v d = .ok (u, d')) :
    ∃ rs, d' = d.updateCores t w.holds (PaymentCore.failed rs v.now) := by
  simp only [eval, Except.bind_eq_ok, pure, Except.pure, Except.ok.injEq, Prod.mk.injEq] at h
  obtain ⟨rs, _, _, rfl⟩ := h
  exact ⟨rs, rfl⟩

theorem eval_store_checkout {checkout_id : Json} {w : RowFilter} {a : Option PaymentCore}
    (h : (Stmt.store_checkout t checkout_id w).eval v d = .ok (a, d')) :
    ∃ c, textParam (some 100) checkout_id = .ok c ∧
      d' = d.updateCores t w.holds (PaymentCore.pushed c v.now) ∧
      a = fetchrow v.pick w.holds (d'.cores t) := by
  simp only [eval, Except.bind_eq_ok, pure, Except.pure, Except.ok.injEq, Prod.mk.injEq] at h
  obtain ⟨c, hc, rfl, rfl⟩ := h
  exact ⟨c, hc, rfl, rfl⟩

theorem eval_insert_payment {customer_id package_id tenant_id : UUID} {amount_kes : Decimal}
    {status : PaymentStatus} {phone : String} {checkout_id receipt : Option String} {row : Payment}
    (h : (Stmt.insert_payment customer_id package_id amount_kes status phone tenant_id checkout_id
      receipt).eval v d = .ok (row, d')) :
    d' = { d with payments := d.payments ++ [row] } ∧ (∀ r ∈ d.payments, r.id ≠ row.id) ∧
      row.customer_id = customer_id ∧ row.package_id = package_id ∧ row.status = status ∧
      row.tenant_id = tenant_id ∧ row.mpesa_checkout_id = checkout_id ∧
      row.mpesa_receipt_number = receipt ∧ moneyParam amount_kes = .ok row.amount_kes ∧
      d.hasUser customer_id ∧ d.hasPackage package_id ∧ d.hasTenant tenant_id := by
  simp only [eval, Except.bind_eq_ok, pure, Except.pure, Except.ok.injEq, Prod.mk.injEq,
    check_eq_ok] at h
  obtain ⟨amount, hamount, phone', _, checkout, hcheckout, receipt', hreceipt, _, _, _, hid, _, _,
    _, hu, _, hp, _, ht, rfl, rfl⟩ := h
  simp only [List.all_eq_true, bne_iff_ne] at hid
  exact ⟨rfl, hid, rfl, rfl, rfl, rfl, textParam_text hcheckout, textParam_text hreceipt, hamount,
    hu, hp, ht⟩

/-- The id of a new payment is the one that the database draws. -/
theorem eval_insert_payment_id {customer_id package_id tenant_id : UUID} {amount_kes : Decimal}
    {status : PaymentStatus} {phone : String} {checkout_id receipt : Option String} {row : Payment}
    (h : (Stmt.insert_payment customer_id package_id amount_kes status phone tenant_id checkout_id
      receipt).eval v d = .ok (row, d')) : row.id = v.uuid := by
  simp only [eval, Except.bind_eq_ok, pure, Except.pure, Except.ok.injEq, Prod.mk.injEq] at h
  obtain ⟨_, _, _, _, _, _, _, _, _, _, _, _, _, _, _, _, _, _, _, _, rfl, _⟩ := h
  rfl

/-- A new payment is created now. -/
theorem eval_insert_payment_created {customer_id package_id tenant_id : UUID} {amount_kes : Decimal}
    {status : PaymentStatus} {phone : String} {checkout_id receipt : Option String} {row : Payment}
    (h : (Stmt.insert_payment customer_id package_id amount_kes status phone tenant_id checkout_id
      receipt).eval v d = .ok (row, d')) : row.created_at = v.now := by
  simp only [eval, Except.bind_eq_ok, pure, Except.pure, Except.ok.injEq, Prod.mk.injEq] at h
  obtain ⟨_, _, _, _, _, _, _, _, _, _, _, _, _, _, _, _, _, _, _, _, rfl, _⟩ := h
  rfl

theorem eval_insert_platform_payment {tenant_id : UUID} {amount_kes : Decimal} {phone : String}
    {checkout_id : Json} {row : PaymentCore}
    (h : (Stmt.insert_platform_payment tenant_id amount_kes phone checkout_id).eval v d =
      .ok (row, d')) :
    d' = { d with platform_payments := d.platform_payments ++ [row] } ∧
      (∀ r ∈ d.platform_payments, r.id ≠ row.id) ∧ row.tenant_id = tenant_id ∧
      row.status = .pending ∧ row.mpesa_receipt_number = none ∧
      textParam (some 100) checkout_id = .ok row.mpesa_checkout_id := by
  simp only [eval, Except.bind_eq_ok, pure, Except.pure, Except.ok.injEq, Prod.mk.injEq,
    check_eq_ok] at h
  obtain ⟨amount, _, phone', _, checkout, hcheckout, _, _, _, hid, _, _, rfl, rfl⟩ := h
  simp only [List.all_eq_true, bne_iff_ne] at hid
  exact ⟨rfl, hid, rfl, rfl, rfl, hcheckout⟩

theorem eval_insert_platform_payment_id {tenant_id : UUID} {amount_kes : Decimal} {phone : String}
    {checkout_id : Json} {row : PaymentCore}
    (h : (Stmt.insert_platform_payment tenant_id amount_kes phone checkout_id).eval v d =
      .ok (row, d')) : row.id = v.uuid := by
  simp only [eval, Except.bind_eq_ok, pure, Except.pure, Except.ok.injEq, Prod.mk.injEq,
    check_eq_ok] at h
  obtain ⟨amount, _, phone', _, checkout, _, _, _, _, _, _, _, rfl, rfl⟩ := h
  rfl

theorem eval_insert_voucher {payment_id customer_id package_id tenant_id : UUID} {code : String}
    {router_id : Option UUID} {u : Unit}
    (h : (Stmt.insert_voucher payment_id customer_id package_id code tenant_id router_id).eval v d =
      .ok (u, d')) :
    ∃ w : Voucher, d' = { d with vouchers := d.vouchers ++ [w] } ∧ w.payment_id = payment_id ∧
      w.customer_id = customer_id ∧ w.package_id = package_id ∧ w.code = code ∧
      w.tenant_id = tenant_id ∧ (∀ w₀ ∈ d.vouchers, w₀.payment_id ≠ payment_id) ∧
      ∀ w₀ ∈ d.vouchers, w₀.code ≠ code := by
  simp only [eval, Except.bind_eq_ok, pure, Except.pure, Except.ok.injEq, Prod.mk.injEq,
    check_eq_ok] at h
  obtain ⟨_, _, _, _, _, hp, _, hc, _, _, _, _, _, _, _, _, _, rfl⟩ := h
  simp only [List.all_eq_true, bne_iff_ne] at hp hc
  exact ⟨_, rfl, rfl, rfl, rfl, rfl, rfl, hp, hc⟩

theorem eval_set_hashed_password {hashed_password : String} {id tenant_id : UUID} {u : Unit}
    (h : (Stmt.set_hashed_password hashed_password id tenant_id).eval v d = .ok (u, d')) :
    ∃ users, SameUsers d.users users ∧ d' = { d with users } := by
  cases h
  refine ⟨_, ?_, rfl⟩
  rw [SameUsers, updateRows, List.map_map]
  apply List.map_congr_left
  intro r _
  dsimp only [Function.comp_apply]
  split <;> rfl

/-- A payment that is found with its package. -/
theorem eval_select_payment_package {id tenant_id : UUID} {p : Payment} {pkg : Package}
    (h : (Stmt.select_payment_package id tenant_id).eval v d = .ok (some (p, pkg), d')) :
    p ∈ d.payments ∧ p.id = id ∧ p.tenant_id = tenant_id ∧ pkg ∈ d.packages ∧
      pkg.id = p.package_id ∧ pkg.tenant_id = tenant_id := by
  simp only [eval, pure, Except.pure, Except.ok.injEq, Prod.mk.injEq] at h
  obtain ⟨hfetch, -⟩ := h
  obtain ⟨hmem, hp⟩ := fetchrow_eq_some hfetch
  simp only [List.mem_flatMap, List.mem_map, List.mem_filter, Bool.and_eq_true, beq_iff_eq,
    Prod.mk.injEq] at hmem hp
  obtain ⟨p, hp', pkg, ⟨hpkg, h₁, h₂⟩, rfl, rfl⟩ := hmem
  exact ⟨hp', hp.1, hp.2, hpkg, h₁, h₂⟩

theorem eval_insert_radius {t : RadiusTable} {row : RadiusRow} {u : Unit}
    (h : (Stmt.insert_radius t row).eval v d = .ok (u, d')) :
    d' = d.setRadius t (d.radius t ++ [row]) := by
  simp only [eval, Except.bind_eq_ok, pure, Except.pure, Except.ok.injEq, Prod.mk.injEq,
    check_eq_ok] at h
  obtain ⟨_, _, _, rfl⟩ := h
  rfl

theorem eval_insert_wallet_transaction {sequence_id : ℕ} {tenant_id reseller_id : UUID}
    {type : TransactionType} {amount_kes balance_after : Decimal} {reference : Json}
    {row : WalletTransaction}
    (h : (Stmt.insert_wallet_transaction sequence_id tenant_id reseller_id type amount_kes
      balance_after reference).eval v d = .ok (row, d')) :
    d' = { d with wallet_transactions := d.wallet_transactions ++ [row] } ∧
      row.sequence_id = sequence_id ∧ row.tenant_id = tenant_id ∧ row.reseller_id = reseller_id ∧
      row.type = type ∧ Column.store 10 2 amount_kes = some row.amount_kes ∧
      Column.store 10 2 balance_after = some row.balance_after ∧
      .str row.reference = reference := by
  simp only [eval, Except.bind_eq_ok, pure, Except.pure, Except.ok.injEq, Prod.mk.injEq,
    check_eq_ok] at h
  obtain ⟨amount, hamount, balance, hbalance, o, ho, reference', href, _, _, _, _, _, _, _, _,
    rfl, rfl⟩ := h
  refine ⟨rfl, rfl, rfl, rfl, rfl, ?_, ?_, ?_⟩
  · exact moneyParam_eq_ok.mp hamount
  · exact moneyParam_eq_ok.mp hbalance
  · cases o with
    | none => cases href
    | some s =>
        cases href
        exact (textParam_eq_ok ho).symm

/-- When an entry of the ledger is inserted. -/
theorem eval_insert_wallet_transaction_iff {sequence_id : ℕ} {tenant_id reseller_id : UUID}
    {type : TransactionType} {amount_kes balance_after : Decimal} {reference : Json}
    {row : WalletTransaction} :
    (Stmt.insert_wallet_transaction sequence_id tenant_id reseller_id type amount_kes
      balance_after reference).eval v d = .ok (row, d') ↔
    ∃ amount balance text, moneyParam amount_kes = .ok amount ∧
      moneyParam balance_after = .ok balance ∧ textParam (some 100) reference = .ok (some text) ∧
      (∀ e ∈ d.wallet_transactions, e.id ≠ v.uuid ∧ e.reference ≠ text) ∧
      d.hasTenant tenant_id ∧ d.hasUser reseller_id ∧
      row = { sequence_id, id := v.uuid, tenant_id, reseller_id, type, amount_kes := amount
              balance_after := balance, reference := text, created_at := v.now } ∧
      d' = { d with wallet_transactions := d.wallet_transactions ++ [row] } := by
  simp only [eval, Except.bind_eq_ok, pure, Except.pure, Except.ok.injEq, Prod.mk.injEq,
    check_eq_ok, List.all_eq_true, bne_iff_ne]
  constructor
  · rintro ⟨amount, hamount, balance, hbalance, o, ho, text, htext, _, hid, _, href, _, htenant,
      _, huser, rfl, rfl⟩
    cases o with
    | none => cases htext
    | some _ =>
        cases htext
        exact ⟨amount, balance, text, hamount, hbalance, ho, fun e he => ⟨hid e he, href e he⟩,
          htenant, huser, rfl, rfl⟩
  · rintro ⟨amount, balance, text, hamount, hbalance, ho, hclear, htenant, huser, rfl, rfl⟩
    exact ⟨amount, hamount, balance, hbalance, some text, ho, text, rfl, (),
      fun e he => (hclear e he).1, (), fun e he => (hclear e he).2, (), htenant, (), huser,
      rfl, rfl⟩

/-- What a statement does to the users. The unique columns of an inserted row are new. -/
inductive OnUsers (v : Env) (d : Store) : Stmt → Store → Prop
  | insert_guest (email phone hashed_password : String) (tenant_id : UUID)
      (hid : ∀ u ∈ d.users, u.id ≠ v.uuid) (hemail : ∀ u ∈ d.users, u.email ≠ email)
      (hphone : ∀ u ∈ d.users, u.phone ≠ phone) :
      OnUsers v d (.insert_guest email phone hashed_password tenant_id)
        { d with users := d.users ++ [{ id := v.uuid, email, phone, hashed_password, tenant_id }] }
  | insert_user (email phone hashed_password : String) (role : Role) (reseller_id : Option UUID)
      (tenant_id : UUID) (wallet_reference : Option String)
      (hid : ∀ u ∈ d.users, u.id ≠ v.uuid) (hemail : ∀ u ∈ d.users, u.email ≠ email)
      (hphone : ∀ u ∈ d.users, u.phone ≠ phone)
      (hwallet : ∀ w, wallet_reference = some w → ∀ u ∈ d.users, u.wallet_reference ≠ some w)
      (hreseller : reseller_id.all d.hasUser = true) :
      OnUsers v d
        (.insert_user email phone hashed_password role reseller_id tenant_id wallet_reference)
        { d with users := d.users ++ [{
            id := v.uuid, email, phone, hashed_password, role, reseller_id, tenant_id
            wallet_reference }] }
  | set_hashed_password (hashed_password : String) (id tenant_id : UUID) :
      OnUsers v d (.set_hashed_password hashed_password id tenant_id)
        { d with
          users := updateRows (fun u => u.id == id && u.tenant_id == tenant_id)
            (fun u => { u with hashed_password }) d.users }
  | set_contact (c : Contact) (value : String) (id tenant_id : UUID) :
      OnUsers v d (.set_contact c value id tenant_id)
        { d with
          users := updateRows (fun u => u.id == id && u.tenant_id == tenant_id) (c.set value)
            d.users }
  | other {s : Stmt} {d' : Store} (h : d'.users = d.users) : OnUsers v d s d'

theorem onUsers {s : Stmt} {a : s.Res} (h : s.eval v d = .ok (a, d')) : OnUsers v d s d' := by
  by_cases hw : s.writes = some .users
  · cases s with
    | insert_guest email phone hashed_password tenant_id =>
        simp only [eval, Except.bind_eq_ok, check_eq_ok, List.all_eq_true, bne_iff_ne] at h
        obtain ⟨_, -, _, -, _, hid, _, hemail, _, hphone, _, -, hrow⟩ := h
        cases hrow
        exact .insert_guest email phone hashed_password tenant_id hid hemail hphone
    | insert_user email phone hashed_password role reseller_id tenant_id wallet_reference =>
        simp only [eval, Except.bind_eq_ok, check_eq_ok, List.all_eq_true, bne_iff_ne] at h
        obtain ⟨_, -, _, -, _, hid, _, hemail, _, hphone, _, hwallet, _, hreseller, _, -, hrow⟩ := h
        cases hrow
        refine .insert_user email phone hashed_password role reseller_id tenant_id wallet_reference
          hid hemail hphone (fun w hw => ?_) hreseller
        simpa [hw] using hwallet
    | set_hashed_password hashed_password id tenant_id =>
        cases h
        exact .set_hashed_password hashed_password id tenant_id
    | set_contact c value id tenant_id =>
        simp only [eval, Except.bind_eq_ok] at h
        obtain ⟨_, -, _, -, hrow⟩ := h
        cases hrow
        exact .set_contact c value id tenant_id
    | confirm t _ _ => cases t <;> cases hw
    | fail t _ _ => cases t <;> cases hw
    | store_checkout t _ _ => cases t <;> cases hw
    | delete_radius t _ _ => cases t <;> cases hw
    | insert_radius t _ => cases t <;> cases hw
    | _ => cases hw
  · exact .other (eval_same (T := .users) hw h)

/-- What a statement does to the tenants. -/
inductive OnTenants (d : Store) : Stmt → Store → Prop
  | extend_tenant (id : UUID) :
      OnTenants d (.extend_tenant id) (d.updateTenant id Tenant.extended)
  | suspend_tenant (id : UUID) :
      OnTenants d (.suspend_tenant id) (d.updateTenant id fun t => { t with status := .suspended })
  | set_tenant_status (id : UUID) (status : TenantStatus) :
      OnTenants d (.set_tenant_status id status) (d.updateTenant id fun t => { t with status })
  | other {s : Stmt} {d' : Store} (h : d'.tenants = d.tenants) : OnTenants d s d'

theorem onTenants {s : Stmt} {a : s.Res} (h : s.eval v d = .ok (a, d')) : OnTenants d s d' := by
  by_cases hw : s.writes = some .tenants
  · cases s with
    | extend_tenant id =>
        cases h
        exact .extend_tenant id
    | suspend_tenant id =>
        cases h
        exact .suspend_tenant id
    | set_tenant_status id status =>
        cases h
        exact .set_tenant_status id status
    | confirm t _ _ => cases t <;> cases hw
    | fail t _ _ => cases t <;> cases hw
    | store_checkout t _ _ => cases t <;> cases hw
    | delete_radius t _ _ => cases t <;> cases hw
    | insert_radius t _ => cases t <;> cases hw
    | _ => cases hw
  · exact .other (eval_same (T := .tenants) hw h)

end Stmt

end FrixelConnect
