import FrixelConnect.Specs.Sale
import FrixelConnect.Specs.Outcome

/-!
# The reseller's sale as a whole

A run of sales and top-ups changes the store by complete sales only: the debit,
the confirmed payment, its voucher and the credentials are committed together.
So the debits of a tenant add up to its wallet payments, and each of these has
exactly one voucher.
-/

namespace FrixelConnect

namespace ResellerSale

open Decimals Python Interleaving Contract

/-- `SUM(amount_kes)` in cents; a NaN among the amounts makes the sum NaN. -/
def total (amounts : List Money) : Option ℤ :=
  amounts.foldl (fun sum m => match sum, m with
    | some n, .units k => some (n + k)
    | _, _ => none) (some 0)

theorem total_concat {as bs : List Money} (h : total as = total bs) (m : Money) :
    total (as ++ [m]) = total (bs ++ [m]) := by
  simp only [total, List.foldl_append, List.foldl_cons, List.foldl_nil] at h ⊢
  rw [h]

/-- The payment was made by a sale. -/
def isWallet (p : Payment) : Bool :=
  p.mpesa_checkout_id.any fun c => "WALLET-".toList.isPrefixOf c.toList

/-- The stored debits of a tenant. -/
def debits (d : Store) (tenant_id : UUID) : List Money :=
  (d.wallet_transactions.filter fun e => e.tenant_id == tenant_id && e.type == .debit).map
    (·.amount_kes)

/-- The amounts of the tenant's payments that were made by sales. -/
def sales (d : Store) (tenant_id : UUID) : List Money :=
  (d.payments.filter fun p => p.tenant_id == tenant_id && isWallet p).map (·.amount_kes)

/-- The credentials of the voucher are installed. -/
def Provisioned (d : Store) (w : Voucher) : Prop :=
  ∀ t : RadiusTable, ∃ r ∈ d.radius t, r.username = w.code ∧ r.tenant_id = w.tenant_id

/-- The payment is confirmed and has exactly one voucher, with its credentials. -/
structure Delivered (d : Store) (p : Payment) : Prop where
  status : p.status = .confirmed
  one : (d.vouchers.countP fun w => w.payment_id == p.id) = 1
  provisioned : ∀ w ∈ d.vouchers, w.payment_id = p.id → w.tenant_id = p.tenant_id ∧ Provisioned d w

structure Conserved (d : Store) : Prop where
  sums : ∀ tenant_id, total (debits d tenant_id) = total (sales d tenant_id)
  delivered : ∀ p ∈ d.payments, isWallet p → Delivered d p

/-- Nothing of a sale is touched. -/
structure Untouched (d d' : Store) : Prop where
  payments : d'.payments = d.payments
  vouchers : d'.vouchers = d.vouchers
  radius : ∀ t, d'.radius t = d.radius t
  debits : d'.wallet_transactions.filter (·.type == .debit) =
    d.wallet_transactions.filter (·.type == .debit)

/-- The store changes by complete sales. -/
inductive Trading : Store → Store → Prop
  | refl (d : Store) : Trading d d
  | aside {d d₁ d₂ : Store} (h : Trading d d₁) (hs : Untouched d₁ d₂) : Trading d d₂
  | sale {d d₁ : Store} (h : Trading d d₁) (s : Sale) {data : ResellerVoucherGenerateRequest}
      {reseller_id tenant_id : UUID} {price : Money}
      (hs : s.Fits data reseller_id tenant_id price d₁) : Trading d (s.commit d₁)

theorem Trading.trans {a b c : Store} (h : Trading a b) (h' : Trading b c) : Trading a c := by
  induction h' with
  | refl => exact h
  | aside _ hs ih => exact ih.aside hs
  | sale _ s hs ih => exact ih.sale s hs

variable {d d' : Store}

theorem Conserved.untouched (h : Conserved d) (hs : Untouched d d') : Conserved d' := by
  have hdebits (tenant_id : UUID) : debits d' tenant_id = debits d tenant_id := by
    have hsplit (rows : List WalletTransaction) : (rows.filter fun e =>
        e.tenant_id == tenant_id && e.type == .debit) =
        (rows.filter (·.type == .debit)).filter (·.tenant_id == tenant_id) := by
      rw [List.filter_filter]
    rw [debits, debits, hsplit, hsplit, hs.debits]
  constructor
  · intro tenant_id
    rw [hdebits, sales, hs.payments]
    exact h.sums tenant_id
  · intro p hp hw
    obtain ⟨hstatus, hone, hprov⟩ := h.delivered p (hs.payments ▸ hp) hw
    refine ⟨hstatus, by rw [hs.vouchers]; exact hone, fun w hmem hid => ?_⟩
    obtain ⟨htenant, hrows⟩ := hprov w (hs.vouchers ▸ hmem) hid
    exact ⟨htenant, fun t => by rw [hs.radius]; exact hrows t⟩

/-- Installing credentials keeps those of every other voucher. -/
theorem provisioned_install {s : Sale} {w : Voucher} (h : Provisioned d w)
    (hw : w.code ≠ s.credentials.username) : Provisioned (s.commit d) w := by
  have hkeep {rows : List RadiusRow} {r : RadiusRow} (hr : r ∈ rows) (hcode : r.username = w.code) :
      r ∈ s.credentials.others rows := by
    refine List.mem_filter.mpr ⟨hr, ?_⟩
    simp [hcode, hw]
  intro t
  obtain ⟨r, hr, hcode, htenant⟩ := h t
  refine ⟨r, ?_, hcode, htenant⟩
  cases t <;> exact List.mem_append_left _ (hkeep hr hcode)

/-- The credentials of a sale belong to its voucher. -/
theorem provisioned_own {s : Sale} {w : Voucher} (hcode : w.code = s.credentials.username)
    (htenant : w.tenant_id = s.credentials.tenant_id) : Provisioned (s.commit d) w := by
  intro t
  cases t with
  | radcheck =>
      exact ⟨s.credentials.check, List.mem_append_right _ (List.mem_singleton_self _),
        hcode.symm, htenant.symm⟩
  | radreply =>
      refine ⟨_, List.mem_append_right _ (List.mem_append_left _ (List.mem_cons_self ..)), ?_, ?_⟩
      · exact hcode.symm
      · exact htenant.symm

variable {s : Sale} {data : ResellerVoucherGenerateRequest} {reseller_id tenant_id : UUID}
  {price : Money}

/-- The payment of a sale counts as a sale. -/
theorem isWallet_sale (h : s.Fits data reseller_id tenant_id price d) : isWallet s.payment := by
  obtain ⟨voucher_id, hc⟩ := h.checkout
  simp [isWallet, hc]

theorem Conserved.sale (h : Conserved d) (hs : s.Fits data reseller_id tenant_id price d) :
    Conserved (s.commit d) := by
  have hwallet := isWallet_sale hs
  have hfresh (p : Payment) (hp : p ∈ d.payments) : s.voucher.payment_id ≠ p.id := by
    rw [hs.voucher.payment]
    exact (hs.fresh p hp).symm
  constructor
  · intro tenant
    have hdebits : debits (s.commit d) tenant =
        debits d tenant ++ if tenant_id = tenant then [s.entry.amount_kes] else [] := by
      by_cases ht : tenant_id = tenant <;>
        simp [debits, Sale.commit, hs.debit.tenant_id, hs.debit.type, ht]
    have hsales : sales (s.commit d) tenant =
        sales d tenant ++ if tenant_id = tenant then [s.payment.amount_kes] else [] := by
      by_cases ht : tenant_id = tenant <;>
        simp [sales, Sale.commit, hs.tenant, hwallet, ht]
    rw [hdebits, hsales, hs.amount]
    split
    · exact total_concat (h.sums tenant) _
    · simpa using h.sums tenant
  · intro p hp hw
    rcases List.mem_append.mp hp with hp | hp
    · obtain ⟨hstatus, hone, hprov⟩ := h.delivered p hp hw
      refine ⟨hstatus, ?_, fun w hmem hid => ?_⟩
      · have hnot : (s.voucher.payment_id == p.id) = false := by simpa using hfresh p hp
        simp only [Sale.commit, List.countP_append, hone, List.countP_singleton, hnot]
        rfl
      · rcases List.mem_append.mp hmem with hmem | hmem
        · obtain ⟨htenant, hrows⟩ := hprov w hmem hid
          exact ⟨htenant, provisioned_install hrows (hs.voucher.fresh_code w hmem)⟩
        · rw [List.mem_singleton.mp hmem] at hid
          exact absurd hid (hfresh p hp)
    · obtain rfl := List.mem_singleton.mp hp
      refine ⟨hs.status, ?_, fun w hmem hid => ?_⟩
      · have hzero : (d.vouchers.countP fun w => w.payment_id == s.payment.id) = 0 := by
          rw [List.countP_eq_zero]
          intro w hw
          simpa using hs.voucher.fresh w hw
        simp [Sale.commit, List.countP_append, hzero, hs.voucher.payment]
      · rcases List.mem_append.mp hmem with hmem | hmem
        · exact absurd hid (hs.voucher.fresh w hmem)
        · rw [List.mem_singleton.mp hmem]
          exact ⟨hs.voucher.tenant.trans hs.tenant.symm, provisioned_own hs.voucher.code_eq
            (hs.voucher.tenant.trans hs.credentials.symm)⟩

/-- The tables that a sale writes or that tell of one. -/
def tradedTables : List Table :=
  [.payments, .vouchers, .radcheck, .radreply, .wallet_transactions]

theorem Untouched.of_same (h : ∀ T ∈ tradedTables, d'.Same d T) : Untouched d d' where
  payments := h .payments (by simp [tradedTables])
  vouchers := h .vouchers (by simp [tradedTables])
  radius t := by
    cases t
    · exact h .radcheck (by simp [tradedTables])
    · exact h .radreply (by simp [tradedTables])
  debits := congrArg _ (h .wallet_transactions (by simp [tradedTables]))

/-- Sales, top-ups and Paybill callbacks in any interleaving, with any edit of the other tables. -/
def rules : RunRules where
  spawn w _ := match w with
    | .reseller_voucher .. => True
    | .topup .. => True
    | .c2b_webhook _ => True
    | _ => False
  edit d d' := ∀ T ∈ tradedTables, d'.Same d T

def contract : Contract Unit Empty where
  rules := rules
  base := Conserved
  guar := Trading
  guar_refl := .refl
  guar_trans _ _ _ := .trans

theorem moves_of_untouched {ks : List UUID} {l l' : RunLocal} (hb : Conserved d)
    (hs : Untouched d d') : contract.Moves ks d d' l () l' () :=
  .intro (hb.untouched hs) trivial (fun _ _ _ _ => trivial) nofun (fun _ _ => trivial)
    (.aside (.refl d) hs)

/-- A statement that writes neither a traded table nor the ledger. -/
theorem neutral_of_writes {s : Stmt} (hs : ∀ T ∈ tradedTables, s.writes ≠ some T) :
    contract.discipline.protocol.Neutral () s :=
  neutral_of_moves fun _ _ _ _ _ hb _ _ he => moves_of_untouched hb
    (.of_same fun T hT => Stmt.eval_same (hs T hT) he)

theorem read_neutral (s : Stmt) (hs : Within [] s) :
    contract.discipline.protocol.Neutral () s :=
  neutral_of_writes fun T _ hw => by simpa using hs T hw

theorem sequence_neutral : contract.discipline.protocol.Neutral () .next_sequence_id :=
  neutral_of_writes fun T hT hw => by cases hw; simp [tradedTables] at hT

/-- A top-up is no debit. -/
theorem topup_neutral : Enters (contract.discipline.protocol.Neutral ()) .topup := by
  intro sequence_id tenant_id reseller_id amount balance reference
  refine neutral_of_moves fun d l v row d' hb _ _ he => ?_
  obtain ⟨rfl, -, -, -, htype, -⟩ := Stmt.eval_insert_wallet_transaction he
  exact moves_of_untouched hb ⟨rfl, rfl, fun t => by cases t <;> rfl, by simp [htype]⟩

theorem wp_generate_reseller_voucher (data : ResellerVoucherGenerateRequest)
    (reseller_id tenant_id : UUID) : contract.wp (fun _ _ _ => True)
      (generate_reseller_voucher data reseller_id tenant_id) {} () := by
  refine wp_reseller_voucher fun customer package => wp_commit (Q := fun _ _ => True)
    (fun _ _ _ ho => ho) ?_ sell_voucher_body ?_ fun _ => trivial
  · refine sell_voucher_framed data _ _ _ _ (fun s hs hout => ?_) nofun nofun
    refine neutral_of_writes fun T hT hw => ?_
    rcases Stmt.writes_external hout hw with rfl | rfl | rfl <;> simp [tradedTables] at hT
  · rintro payment_id d _ l l' hb _ ⟨s, hfits, rfl⟩
    exact ⟨(), .intro (hb.sale hfits) trivial (fun _ _ _ _ => trivial) nofun
      (fun _ _ => trivial) (.sale (.refl d) s hfits), trivial⟩

theorem serves : contract.Serves := by
  intro w d d' p hb hrule hs
  have hstart : contract.Starts d d () :=
    ⟨hb, trivial, rfl, fun _ _ _ => trivial, fun _ _ => trivial, .refl d⟩
  have hneutral {p : M Unit} (hp : p.All (contract.discipline.protocol.Neutral ())) :
      contract.wp (fun _ _ _ => True) p {} () :=
    wp_neutral hp (fun _ h => h) (fun _ _ _ ho => ho) rfl
  cases w with
  | reseller_voucher data reseller_id tenant_id =>
      cases hs
      exact ⟨(), hstart, wp_then (wp_generate_reseller_voucher data _ _) (fun _ _ _ _ => trivial)
        fun _ _ _ _ => trivial⟩
  | topup tenant_id reseller_id amount reference =>
      cases hs
      exact ⟨(), hstart, hneutral (discard_all (topup_wallet_plain _ _ _ _ read_neutral
        sequence_neutral topup_neutral).all.transaction)⟩
  | c2b_webhook body =>
      cases hs
      exact ⟨(), hstart, hneutral (discard_all (process_daraja_c2b_webhook_all body read_neutral
        sequence_neutral topup_neutral))⟩
  | _ => exact hrule.elim

/-- Sales change the store as a whole or not at all, so the debits of every tenant add up to its
wallet payments, each of which has exactly one voucher. -/
theorem sale_atomic {d : Store} (hd : Conserved d) {s : RunState}
    (hs : Reaches system rules (FrixelConnect.idle d) s) :
    Trading d s.store ∧ Conserved s.store := by
  have hedit : contract.Tolerates := by
    intro d d' ls hi he
    have hm := Untouched.of_same he
    exact ⟨⟨hi.base.untouched hm, fun _ _ => trivial, hi.apart, trivial⟩, .aside (.refl d) hm⟩
  have h₀ : contract.Holds (FrixelConnect.idle d) := .start hd trivial
  obtain ⟨h, htrading⟩ := h₀.reaches serves hedit hs
  exact ⟨htrading, h.base⟩

instance (s : Stmt) (c : Choice Exn Env) (d : Store) : Decidable (rules.stmt s c d) :=
  .isTrue trivial

instance (w : Spawn) (d : Store) : Decidable (rules.spawn w d) := by
  cases w <;> first | exact .isTrue trivial | exact .isFalse not_false

instance (d d' : Store) : Decidable (rules.edit d d') :=
  inferInstanceAs (Decidable (∀ T ∈ tradedTables, d'.Same d T))

theorem conserved_kiosk : Conserved kiosk where
  sums tenant_id := by
    have hdebits : debits kiosk tenant_id = [] := by simp [debits, kiosk, deposit]
    have hsales : sales kiosk tenant_id = [] := by simp [sales, kiosk, shop, isWallet, waiting]
    rw [hdebits, hsales]
  delivered p hp hw := by
    obtain rfl := List.mem_singleton.mp hp
    exact absurd hw (by decide)

/-- A sale of the package of the shop. -/
def saleOf (payment_id : UUID) : List RunLabel :=
  .spawn (.reseller_voucher { customer_id := 2, package_id := 3 } 5 1) :: stepsOf 3 0 ++
    stepOf 0 { uuid := 7 } :: stepsOf 3 0 ++ stepOf 0 { uuid := 9 } :: stepOf 0 {} ::
    stepOf 0 { uuid := payment_id } :: stepsOf 14 0

theorem sale_atomic_once : ∃ s : RunState, s.store.vouchers.map (·.payment_id) = [8] ∧
    Trading kiosk s.store ∧ Conserved s.store := by
  obtain ⟨s, hs, hv⟩ := Reaches.of_moves (Y := system) (ρ := rules) (FrixelConnect.idle kiosk)
    (saleOf 8) (fun d => d.vouchers.map (·.payment_id)) [8] (by decide +kernel) rfl
  exact ⟨s, hv, sale_atomic conserved_kiosk hs⟩

end ResellerSale

end FrixelConnect
