import FrixelConnect.Specs.Knowledge

/-!
# What a reseller's sale commits

`Sale.commit` is the store after a sale: the debit, the confirmed payment, the
voucher and its credentials, all at once. `sell_voucher_body` shows that a sale
commits such a store or nothing.
-/

namespace FrixelConnect

open Decimals Python Interleaving Contract

/-- The RADIUS credentials of a voucher. -/
structure Credentials where
  username : String
  password : String
  speed_mbps : ℤ
  duration_minutes : ℤ
  tenant_id : UUID
  data_quota_mb : Option ℤ

namespace Credentials

variable (c : Credentials)

def check : RadiusRow :=
  { username := c.username, attr := "Cleartext-Password", op := ":=", value := c.password,
    tenant_id := c.tenant_id }

def replies : List RadiusRow :=
  [{ username := c.username, attr := "Mikrotik-Rate-Limit", op := ":=",
     value := toString c.speed_mbps ++ "M", tenant_id := c.tenant_id },
   { username := c.username, attr := "Session-Timeout", op := ":=",
     value := toString (c.duration_minutes * 60), tenant_id := c.tenant_id }] ++
  match c.data_quota_mb with
  | some quota => if quota ≠ 0 then
      [{ username := c.username, attr := "Mikrotik-Total-Limit", op := ":=",
         value := toString (quota * 1024 * 1024), tenant_id := c.tenant_id }] else []
  | none => []

/-- The rows of other users or other tenants. -/
def others (rows : List RadiusRow) : List RadiusRow :=
  rows.filter fun r => !(r.username == c.username && r.tenant_id == c.tenant_id)

/-- The store with the credentials in place of any older ones. -/
def install (d : Store) : Store :=
  { d with
    radcheck := c.others d.radcheck ++ [c.check]
    radreply := c.others d.radreply ++ c.replies }

end Credentials

section Triples

variable {P : Store → Prop} {I : Store → Store → Prop}

/-- A statement of a transaction. -/
theorem body_stmt {s : Stmt} {J : s.Res → Store → Store → Prop} (hs : s.inTx = true)
    (h : ∀ v a d₁ view view', P d₁ → I d₁ view → s.eval v view = .ok (a, view') →
      ∀ d d' a' d'', P d → I d d' → s.eval v d' = .ok (a', d'') → J a d d'') :
    Body machine P I (exec s) J := by
  refine Body.exec hs fun v a d₁ view hd₁ hview ha d d' a' d'' hd hI he => ?_
  have hview' : s.eval v view = .ok (a, (s.exec v view).2) :=
    Stmt.exec_eq_ok.mp (Prod.ext ha rfl)
  exact h v a d₁ view _ hd₁ hview hview' d d' a' d'' hd hI (Stmt.exec_eq_ok.mp he)

/-- A statement of a transaction that only reads. -/
theorem body_select {s : Stmt} {J : s.Res → Store → Store → Prop} (hs : s.inTx = true)
    (hw : s.writes = none) (h : ∀ v a d₁ view view', P d₁ → I d₁ view →
      s.eval v view = .ok (a, view') → ∀ d d', P d → I d d' → J a d d') :
    Body machine P I (exec s) J := by
  refine body_stmt hs fun v a d₁ view view' hd₁ hview ha d d' a' d'' hd hI he => ?_
  obtain rfl := Stmt.eval_read hw he
  exact h v a d₁ view view' hd₁ hview ha d d'' hd hI

/-- A read whose answer does not matter. -/
theorem body_skip {s : Stmt} (hs : s.inTx = true) (hw : s.writes = none) :
    Body machine P I (exec s) fun _ => I :=
  body_select hs hw fun _ _ _ _ _ _ _ _ _ _ _ hI => hI

/-- A program of reads and of statements outside the transaction. -/
theorem body_of_reads {α : Type} {p : M α} (hp : p.Plain (Within [])) :
    Body machine P I p fun _ => I := by
  refine Body.of_framed hp.framed fun s hs _ v d d' a d'' _ hI he => ?_
  obtain rfl := Store.ext_same fun T =>
    Stmt.eval_same (fun hw => by simpa using hs T hw) (Stmt.exec_eq_ok.mp he)
  exact hI

/-- A statement with one effect on every store. -/
theorem body_effect {s : Stmt} {f : Store → Store} (hs : s.inTx = true)
    (h : ∀ v d a d', s.eval v d = .ok (a, d') → d' = f d) :
    Body machine P I (exec s) fun _ d d' => ∃ d₁, I d d₁ ∧ d' = f d₁ :=
  body_stmt hs fun v _ _ _ _ _ _ _ _ d' a' d'' _ hI he => ⟨d', hI, h v d' a' d'' he⟩

/-- Provisioning installs the credentials. -/
theorem body_provision (c : Credentials) :
    Body machine P I (_provision_radius_credentials c.username c.password c.speed_mbps
      c.duration_minutes c.tenant_id c.data_quota_mb)
      fun _ d d' => ∃ d₁, I d d₁ ∧ d' = c.install d₁ := by
  have hdelete (t : RadiusTable) (I : Store → Store → Prop) : Body machine P I
      (exec (.delete_radius t c.username c.tenant_id)) fun _ d d' => ∃ d₁, I d d₁ ∧
        d' = d₁.setRadius t (c.others (d₁.radius t)) :=
    body_effect rfl fun v d a d' he => by cases he; rfl
  have hinsert (t : RadiusTable) (row : RadiusRow) (I : Store → Store → Prop) : Body machine P I
      (exec (.insert_radius t row)) fun _ d d' => ∃ d₁, I d d₁ ∧
        d' = d₁.setRadius t (d₁.radius t ++ [row]) :=
    body_effect rfl fun v d a d' he => Stmt.eval_insert_radius he
  refine (hdelete _ _).bind fun _ => (hdelete _ _).bind fun _ => (hinsert _ _ _).bind fun _ =>
    (hinsert _ _ _).bind fun _ => (hinsert _ _ _).bind fun _ => ?_
  cases hq : c.data_quota_mb with
  | none =>
      refine Body.pure ?_
      rintro d d' - ⟨_, ⟨_, ⟨_, ⟨_, ⟨d₁, hI, rfl⟩, rfl⟩, rfl⟩, rfl⟩, rfl⟩
      refine ⟨d₁, hI, ?_⟩
      simp [Credentials.install, Credentials.check, Credentials.replies, hq, Store.setRadius,
        Store.radius]
  | some quota =>
      dsimp only
      split
      · next hne =>
          refine (hinsert _ _ _).conseq (fun _ _ _ h => h) ?_
          rintro _ d d' - ⟨_, ⟨_, ⟨_, ⟨_, ⟨_, ⟨d₁, hI, rfl⟩, rfl⟩, rfl⟩, rfl⟩, rfl⟩, rfl⟩
          refine ⟨d₁, hI, ?_⟩
          simp [Credentials.install, Credentials.check, Credentials.replies, hq, hne,
            Store.setRadius, Store.radius]
      · next hne =>
          refine Body.pure ?_
          rintro d d' - ⟨_, ⟨_, ⟨_, ⟨_, ⟨d₁, hI, rfl⟩, rfl⟩, rfl⟩, rfl⟩, rfl⟩
          refine ⟨d₁, hI, ?_⟩
          simp [Credentials.install, Credentials.check, Credentials.replies, hq, hne,
            Store.setRadius, Store.radius]

theorem body_welcome_guest {user : Option User} {code : String} {customer_id tenant_id : UUID} :
    Body machine P I (welcome_guest user code customer_id tenant_id) fun _ d d' =>
      ∃ d₁ users, I d d₁ ∧ SameUsers d₁.users users ∧ d' = { d₁ with users } := by
  unfold welcome_guest
  split
  · refine (Body.external rfl fun _ _ _ _ hI => hI).bind fun hashed_password => ?_
    refine (body_stmt rfl fun v _ _ _ _ _ _ _ _ d' _ d'' _ hI he => ?_).bind fun _ =>
      Body.external_swallow rfl fun _ _ _ _ hJ => hJ
    obtain ⟨users, hsame, rfl⟩ := Stmt.eval_set_hashed_password he
    exact ⟨d', users, hI, hsame, rfl⟩
  · exact Body.pure fun d d' _ hI => ⟨d', d'.users, hI, rfl, rfl⟩

/-- A ledger entry of a debit. -/
structure DebitOf (entry : WalletTransaction) (tenant_id reseller_id : UUID) (amount : Decimal) :
    Prop where
  tenant_id : entry.tenant_id = tenant_id
  reseller_id : entry.reseller_id = reseller_id
  type : entry.type = .debit
  amount_kes : Column.store 10 2 amount = some entry.amount_kes

theorem body_debit_wallet {tenant_id reseller_id : UUID} {amount : Decimal} {reference : Json} :
    Body machine P I (debit_wallet tenant_id reseller_id amount reference) fun _ d d' =>
      ∃ d₁ entry, I d d₁ ∧ DebitOf entry tenant_id reseller_id amount ∧
        d' = { d₁ with wallet_transactions := d₁.wallet_transactions ++ [entry] } := by
  refine (body_skip rfl rfl).bind fun locked => ?_
  split
  · exact Body.throw
  refine Body.bind (body_of_reads (get_wallet_balance_plain _ _)) fun balance => ?_
  refine (Body.ofExcept fun _ _ _ _ _ hI => hI).bind fun insufficient => ?_
  split
  · exact Body.throw
  refine (Body.ofExcept fun _ _ _ _ _ hI => hI).bind fun new_balance => ?_
  refine (Body.external rfl fun _ _ _ _ hI => hI).bind fun sequence_id => ?_
  refine body_stmt rfl fun v _ _ _ _ _ _ _ d d' row d'' _ hI he => ?_
  obtain ⟨rfl, -, htenant, hreseller, htype, hamount, -, -⟩ :=
    Stmt.eval_insert_wallet_transaction he
  exact ⟨d', row, hI, ⟨htenant, hreseller, htype, hamount⟩, rfl⟩

/-- The voucher is for the payment with these fields, and neither it nor its code was there
before. -/
structure VoucherFor (d : Store) (w : Voucher) (payment_id customer_id package_id tenant_id : UUID)
    (code : String) : Prop where
  payment : w.payment_id = payment_id
  customer : w.customer_id = customer_id
  package : w.package_id = package_id
  tenant : w.tenant_id = tenant_id
  code_eq : w.code = code
  fresh : ∀ w₀ ∈ d.vouchers, w₀.payment_id ≠ payment_id
  fresh_code : ∀ w₀ ∈ d.vouchers, w₀.code ≠ code

/-- Generation inside a transaction, for a payment that only one row has the id of. -/
theorem body_generate_voucher {payment_id tenant_id customer_id package_id : UUID}
    (hone : ∀ d d', P d → I d d' → ∀ p ∈ d'.payments, p.id = payment_id →
      p.customer_id = customer_id ∧ p.package_id = package_id) :
    Body machine P I (generate_voucher payment_id tenant_id) fun code d d' =>
      ∃ d₁, ∃ c : Credentials, ∃ w users, I d d₁ ∧ c.username = code ∧ c.tenant_id = tenant_id ∧
        VoucherFor d₁ w payment_id customer_id package_id tenant_id code ∧
        SameUsers d₁.users users ∧
        d' = { c.install d₁ with vouchers := d₁.vouchers ++ [w], users } := by
  refine Body.inFrame _ ?_
  have hselect : Body machine P I (exec (.select_payment_package payment_id tenant_id))
      fun a d d' => I d d' ∧ ∀ p pkg, a = some (p, pkg) →
        p.customer_id = customer_id ∧ p.package_id = package_id := by
    refine body_select rfl rfl fun v a d₁ view view' hd₁ hview ha d d' _ hI => ⟨hI, ?_⟩
    rintro p pkg rfl
    obtain ⟨hp, hid, -⟩ := Stmt.eval_select_payment_package ha
    exact hone d₁ view hd₁ hview p hp hid
  refine hselect.bind fun row => ?_
  cases row with
  | none => exact Body.throw
  | some row =>
      obtain ⟨p, pkg⟩ := row
      refine (body_skip rfl rfl).bind fun user_row => ?_
      refine Body.bind (body_of_reads (draw_code_plain _)) fun code => ?_
      let credentials : Credentials := {
        username := code, password := code, speed_mbps := pkg.speed_mbps
        duration_minutes := pkg.duration_minutes, tenant_id, data_quota_mb := pkg.data_quota_mb }
      refine (body_provision credentials).bind fun _ => ?_
      refine Body.bind (J := fun _ d d' => ∃ d₁, ∃ c : Credentials, ∃ w, I d d₁ ∧
        c.username = code ∧ c.tenant_id = tenant_id ∧
        VoucherFor d₁ w payment_id customer_id package_id tenant_id code ∧
        d' = { c.install d₁ with vouchers := d₁.vouchers ++ [w] }) (body_stmt rfl ?_) fun _ => ?_
      · intro v _ _ _ _ _ _ _ d d' _ d'' _ hI he
        obtain ⟨d₁, ⟨hI, hrow⟩, rfl⟩ := hI
        obtain ⟨hcustomer, hpackage⟩ := hrow p pkg rfl
        obtain ⟨w, rfl, h₁, h₂, h₃, h₄, h₅, h₆, h₇⟩ := Stmt.eval_insert_voucher he
        exact ⟨d₁, credentials, w, hI, rfl, rfl,
          ⟨h₁, h₂.trans hcustomer, h₃.trans hpackage, h₅, h₄, h₆, h₇⟩, rfl⟩
      · refine body_welcome_guest.bind fun _ => Body.pure ?_
        rintro d d' - ⟨_, users, ⟨d₁, c, w, hI, h₁, h₂, h₃, rfl⟩, hsame, rfl⟩
        exact ⟨d₁, c, w, users, hI, h₁, h₂, h₃, hsame, rfl⟩

end Triples

/-- The debit and the payment of a sale, on this store. -/
structure Paid (entry : WalletTransaction) (row : Payment) (data : ResellerVoucherGenerateRequest)
    (reseller_id tenant_id : UUID) (price : Money) (d : Store) : Prop where
  debit : DebitOf entry tenant_id reseller_id price.load
  amount : row.amount_kes = entry.amount_kes
  status : row.status = .confirmed
  customer : row.customer_id = data.customer_id
  package : row.package_id = data.package_id
  tenant : row.tenant_id = tenant_id
  checkout : ∃ voucher_id, row.mpesa_checkout_id = some ("WALLET-" ++ front 20 (str voucher_id))
  fresh : ∀ r ∈ d.payments, r.id ≠ row.id
  hasUser : d.hasUser data.customer_id
  hasPackage : d.hasPackage data.package_id
  hasTenant : d.hasTenant tenant_id

/-- What one sale adds to the store. -/
structure Sale where
  entry : WalletTransaction
  payment : Payment
  credentials : Credentials
  voucher : Voucher
  users : List User

namespace Sale

/-- The store after the sale. -/
def commit (s : Sale) (d : Store) : Store :=
  { s.credentials.install d with
    wallet_transactions := d.wallet_transactions ++ [s.entry]
    payments := d.payments ++ [s.payment]
    vouchers := d.vouchers ++ [s.voucher]
    users := s.users }

/-- The sale is one of this package by this reseller, on this store. -/
structure Fits (s : Sale) (data : ResellerVoucherGenerateRequest) (reseller_id tenant_id : UUID)
    (price : Money) (d : Store) : Prop
    extends Paid s.entry s.payment data reseller_id tenant_id price d where
  credentials : s.credentials.tenant_id = tenant_id
  voucher : VoucherFor d s.voucher s.payment.id data.customer_id data.package_id tenant_id
    s.credentials.username
  users : SameUsers d.users s.users

theorem extends_commit {s : Sale} {d : Store} {data : ResellerVoucherGenerateRequest}
    {reseller_id tenant_id : UUID} {price : Money} (h : s.Fits data reseller_id tenant_id price d) :
    Extends d (s.commit d) :=
  (Extends.insert_payment h.fresh).trans (.of_cores fun t => by cases t <;> rfl)

end Sale

/-- A sale commits everything at once. -/
theorem sell_voucher_body {P : Store → Prop} {data : ResellerVoucherGenerateRequest}
    {reseller_id tenant_id : UUID} {customer : User} {package : Package} :
    Body machine P (fun d d' => d' = d)
      (sell_voucher data reseller_id tenant_id customer package) fun _ d d' =>
      ∃ s : Sale, s.Fits data reseller_id tenant_id package.price_kes d ∧ d' = s.commit d := by
  refine (Body.external rfl fun _ _ _ _ hI => hI).bind fun voucher_id => ?_
  refine body_debit_wallet.bind fun _ => ?_
  refine (Body.external rfl fun _ _ _ _ hI => hI).bind fun receipt => ?_
  -- The answer of the insert comes from another store, but its id is the one that is drawn.
  refine Body.bind (J := fun a d d' => ∃ entry row, row.id = a.id ∧
    Paid entry row data reseller_id tenant_id package.price_kes d ∧
    d' = { d with wallet_transactions := d.wallet_transactions ++ [entry],
                  payments := d.payments ++ [row] }) (body_stmt rfl ?_)
    fun payment => ?_
  · rintro v a d₁ view view' - - ha d _ row d'' - ⟨_, entry, rfl, hdebit, rfl⟩ he
    have hid := (Stmt.eval_insert_payment_id he).trans (Stmt.eval_insert_payment_id ha).symm
    obtain ⟨rfl, hfresh, h₁, h₂, h₃, h₄, h₅, -, hamount, h₆, h₇, h₈⟩ := Stmt.eval_insert_payment he
    have hsame : row.amount_kes = entry.amount_kes := by
      have h := (moneyParam_eq_ok.mp hamount).symm.trans hdebit.amount_kes
      exact Option.some.inj h
    exact ⟨entry, row, hid, ⟨hdebit, hsame, h₃, h₁, h₂, h₄, ⟨voucher_id, h₅⟩, hfresh, h₆, h₇, h₈⟩,
      rfl⟩
  · have hone : ∀ d d', P d → (∃ entry row, row.id = payment.id ∧
        Paid entry row data reseller_id tenant_id package.price_kes d ∧
        d' = { d with wallet_transactions := d.wallet_transactions ++ [entry],
                      payments := d.payments ++ [row] }) →
        ∀ p ∈ d'.payments, p.id = payment.id →
          p.customer_id = data.customer_id ∧ p.package_id = data.package_id := by
      rintro d _ - ⟨entry, row, hid, hpaid, rfl⟩ p hp hpid
      rcases List.mem_append.mp hp with hp | hp
      · exact absurd (hpid.trans hid.symm) (hpaid.fresh p hp)
      · rw [List.mem_singleton.mp hp]
        exact ⟨hpaid.customer, hpaid.package⟩
    refine (body_generate_voucher hone).bind fun code => Body.pure ?_
    rintro d d' - ⟨d₁, c, w, users, ⟨entry, row, hid, hpaid, rfl⟩, rfl, htenant, hw, husers, rfl⟩
    rw [← hid] at hw
    exact ⟨⟨entry, row, c, w, users⟩, ⟨hpaid, htenant, ⟨hw.payment, hw.customer, hw.package,
      hw.tenant, hw.code_eq, hw.fresh, hw.fresh_code⟩, husers⟩, rfl⟩

/-- A sale keeps a contract that its transaction keeps. -/
theorem Contract.wp_reseller_voucher {G T : Type} {𝒞 : Contract G T} {g : G}
    {Q : Except Exn UUID → G → Prop} {data : ResellerVoucherGenerateRequest}
    {reseller_id tenant_id : UUID}
    (hsale : ∀ customer package, 𝒞.wp (fun r l' g' => l'.txn = .none ∧ Q r g')
      (Prog.transaction (sell_voucher data reseller_id tenant_id customer package)) {} g) :
    𝒞.wp (fun _ _ _ => True) (generate_reseller_voucher data reseller_id tenant_id) {} g := by
  refine wp_then (wp_reads (plain_read rfl) rfl) (fun _ _ _ _ => trivial) ?_
  rintro customer l g ⟨rfl, rfl⟩
  split
  · trivial
  refine wp_then (wp_reads (plain_read rfl) rfl) (fun _ _ _ _ => trivial) ?_
  rintro package l g ⟨rfl, rfl⟩
  cases package with
  | none => trivial
  | some package =>
      dsimp only
      split
      · trivial
      refine wp_then (hsale _ package) (fun _ _ _ _ => trivial) ?_
      rintro payment_id l g ⟨hl, -⟩
      refine wp_then (wp_reads (plain_read rfl) hl) (fun _ _ _ _ => trivial) ?_
      rintro voucher_row l g ⟨rfl, rfl⟩
      cases voucher_row <;> trivial

end FrixelConnect
