import FrixelConnect.Specs.Generation
import FrixelConnect.Specs.Outcome
import FrixelConnect.Specs.Sale

/-!
# Vouchers agree with their payments

A voucher repeats the customer, the package and the tenant of its payment. The
program that makes it has read the payment in an earlier statement, outside any
transaction, so it holds a fact about a table that others go on writing: no
statement takes such a fact back, since the updates of a payment leave its
owner alone.
-/

namespace FrixelConnect

/-- The id of a payment, and whom and what it is for. -/
structure Purchase where
  payment_id : UUID
  customer_id : UUID
  package_id : UUID
  tenant_id : UUID
  deriving DecidableEq

def Payment.purchase (p : Payment) : Purchase :=
  { payment_id := p.id, customer_id := p.customer_id, package_id := p.package_id
    tenant_id := p.tenant_id }

def Voucher.purchase (w : Voucher) : Purchase :=
  { payment_id := w.payment_id, customer_id := w.customer_id, package_id := w.package_id
    tenant_id := w.tenant_id }

namespace VoucherPayments

open Decimals Python Interleaving Contract

variable {d d' : Store} {v : Env} {g : List Purchase} {s : Stmt}

def purchases (d : Store) : List Purchase := d.payments.map Payment.purchase

/-- Every voucher is for a payment, and says about it what the payment says. -/
structure Agrees (d : Store) : Prop where
  payments : (d.payments.map (·.id)).Nodup
  vouchers : (d.vouchers.map (·.payment_id)).Nodup
  codes : (d.vouchers.map (·.code)).Nodup
  voucher : ∀ w ∈ d.vouchers, w.purchase ∈ purchases d

/-- Any processes in any interleaving. Outside of them vouchers may be deleted, and everything
may change but what the payments are for and what the vouchers repeat. -/
def rules : RunRules where
  edit d d' := purchases d' = purchases d ∧
    (d'.vouchers.map fun w => (w.purchase, w.code)).Sublist
      (d.vouchers.map fun w => (w.purchase, w.code))

/-- The contract of the processes: each knows of payments that are there. -/
def contract : Contract (List Purchase) Unit where
  rules := rules
  base := Agrees
  own d _ g := g ⊆ purchases d

/-- The payment that the store says the purchase is. -/
theorem Agrees.payment (h : Agrees d) {w : Voucher} (hw : w ∈ d.vouchers) :
    ∃ p ∈ d.payments, p.purchase = w.purchase ∧
      ∀ p' ∈ d.payments, p'.id = w.payment_id → p' = p := by
  obtain ⟨p, hp, heq⟩ := List.mem_map.mp (h.voucher w hw)
  refine ⟨p, hp, heq, fun p' hp' hid => ?_⟩
  exact List.inj_on_of_nodup_map h.payments hp' hp
    (hid.trans (congrArg Purchase.payment_id heq).symm)

/-- An update of the payments leaves alone what they are for. -/
theorem purchases_updateCores {t : PaymentTable} {p : PaymentCore → Bool}
    {f : PaymentCore → PaymentCore} (hid : ∀ r, (f r).id = r.id)
    (htenant : ∀ r, (f r).tenant_id = r.tenant_id) :
    purchases (d.updateCores t p f) = purchases d := by
  cases t with
  | platform_payments => rfl
  | payments =>
      rw [purchases, purchases, Store.updateCores, updateRows, List.map_map]
      apply List.map_congr_left
      intro r _
      dsimp only [Function.comp_apply]
      split
      · simp [Payment.purchase, Payment.withCore, hid, htenant]
      · rfl

theorem ids_of_purchases (h : purchases d' = purchases d) :
    d'.payments.map (·.id) = d.payments.map (·.id) := by
  have hids (d : Store) : d.payments.map (·.id) = (purchases d).map (·.payment_id) := by
    rw [purchases, List.map_map]
    rfl
  rw [hids, hids, h]

/-- What any statement but the insert of a voucher does to payments and vouchers. -/
structure Grows (d d' : Store) : Prop where
  payments : purchases d' = purchases d ∨
    ∃ row, d'.payments = d.payments ++ [row] ∧ ∀ r ∈ d.payments, r.id ≠ row.id
  vouchers : d'.vouchers = d.vouchers

theorem Grows.subset (h : Grows d d') : purchases d ⊆ purchases d' := by
  rcases h.payments with hp | ⟨row, hp, -⟩
  · rw [hp]
    exact List.Subset.refl _
  · rw [purchases, purchases, hp, List.map_append]
    exact List.subset_append_left _ _

theorem Grows.agrees (hg : Grows d d') (h : Agrees d) : Agrees d' where
  payments := by
    rcases hg.payments with hp | ⟨row, hp, hnew⟩
    · rw [ids_of_purchases hp]
      exact h.payments
    · rw [hp]
      exact nodup_map_concat _ h.payments hnew
  vouchers := hg.vouchers ▸ h.vouchers
  codes := hg.vouchers ▸ h.codes
  voucher w hw := hg.subset (h.voucher w (hg.vouchers ▸ hw))

/-- Every statement but the insert of a voucher. -/
theorem grows_eval {a : s.Res} (hs : s.writes ≠ some .vouchers) (h : s.eval v d = .ok (a, d')) :
    Grows d d' := by
  refine ⟨?_, Stmt.eval_same hs h⟩
  by_cases hp : s.writes = some .payments
  · cases s with
    | confirm t receipt w =>
        obtain ⟨_, _, rfl⟩ := Stmt.eval_confirm h
        exact .inl (purchases_updateCores (fun _ => rfl) fun _ => rfl)
    | fail t reason w =>
        obtain ⟨_, rfl⟩ := Stmt.eval_fail h
        exact .inl (purchases_updateCores (fun _ => rfl) fun _ => rfl)
    | store_checkout t checkout_id w =>
        obtain ⟨_, _, rfl, _⟩ := Stmt.eval_store_checkout h
        exact .inl (purchases_updateCores (fun _ => rfl) fun _ => rfl)
    | insert_payment =>
        obtain ⟨rfl, hnew, -⟩ := Stmt.eval_insert_payment h
        exact .inr ⟨_, rfl, hnew⟩
    | delete_radius t => cases t <;> cases hp
    | insert_radius t => cases t <;> cases hp
    | _ => cases hp
  · have hsame : d'.payments = d.payments := Stmt.eval_same hp h
    exact .inl (by rw [purchases, hsame]; rfl)

/-- Such a statement is neutral, whatever the process knows. -/
theorem neutral (hs : s.writes ≠ some .vouchers) :
    contract.discipline.protocol.Neutral g s := by
  apply neutral_of_moves
  intro d l v a d' hb ho _ he
  have hg := grows_eval hs he
  exact .intro (hg.agrees hb) (List.Subset.trans ho hg.subset)
    (fun _ _ h₂ _ => List.Subset.trans h₂ hg.subset) (fun _ ht => .inl ht) (fun _ h => h) trivial

/-- A voucher for a payment that the process knows. -/
theorem voucher_neutral {payment_id customer_id package_id tenant_id : UUID} {code : String}
    {router_id : Option UUID} (hg : ⟨payment_id, customer_id, package_id, tenant_id⟩ ∈ g) :
    contract.discipline.protocol.Neutral g
      (.insert_voucher payment_id customer_id package_id code tenant_id router_id) := by
  apply neutral_of_moves
  intro d l v a d' hb ho _ he
  obtain ⟨w, rfl, rfl, rfl, rfl, rfl, rfl, hnew, hcode⟩ := Stmt.eval_insert_voucher he
  refine .intro ⟨hb.payments, nodup_map_concat _ hb.vouchers hnew,
    nodup_map_concat _ hb.codes hcode, fun w' hw' => ?_⟩ ho (fun _ _ h₂ _ => h₂)
    (fun _ ht => .inl ht) (fun _ h => h) trivial
  rcases List.mem_append.mp hw' with hw' | hw'
  · exact hb.voucher w' hw'
  · rw [List.mem_singleton.mp hw']
    exact ho hg

theorem wp_select {payment_id tenant_id : UUID} {l : RunLocal} (hl : l.txn = .none) :
    contract.wp (fun r l' g' => l' = l ∧ ∀ p pkg, r = .ok (some (p, pkg)) →
      ⟨payment_id, p.customer_id, p.package_id, tenant_id⟩ ∈ g')
      (exec (.select_payment_package payment_id tenant_id)) l g := by
  refine wp_exec (.inr hl) ?_ ?_
  · exact fun d e hb ho _ => ⟨g, .stay hb ho, rfl, fun _ _ h => by cases h⟩
  · intro d v row d' hb ho _ he
    obtain rfl := Stmt.eval_read rfl he
    cases row with
    | none => exact ⟨g, .stay hb ho, rfl, fun _ _ h => by cases h⟩
    | some row =>
        obtain ⟨p, pkg⟩ := row
        obtain ⟨hp, rfl, rfl, -⟩ := Stmt.eval_select_payment_package he
        refine ⟨p.purchase :: g, .forget hb ?_ (.inl rfl) fun _ h => h, rfl, fun _ _ h => ?_⟩
        · exact List.cons_subset.mpr ⟨List.mem_map_of_mem hp, ho⟩
        · cases h
          exact List.mem_cons_self

/-- The payment is read before the voucher is made, and what was read stays true. -/
theorem wp_generate_voucher (payment_id tenant_id : UUID) {l : RunLocal} (hl : l.txn = .none) :
    contract.wp (fun _ l' _ => l'.txn = .none) (generate_voucher payment_id tenant_id) l g := by
  refine wp_inFrame (fun d hb ho => .stay hb ho) (wp_mono (B := fun _ l' _ => l'.txn = .none) ?_
    fun r l g h => ⟨g, fun d hb ho => .stay hb ho, h⟩)
  refine wp_then (wp_select hl) (fun _ _ _ h => h.1 ▸ hl) ?_
  rintro row l g ⟨rfl, hrow⟩
  cases row with
  | none => exact hl
  | some row =>
      have hknown := hrow row.1 row.2 rfl
      refine wp_mono (Protocol.wp_of_plain (P := contract.discipline.protocol) ?_ hl)
        fun _ _ _ h => h.1 ▸ hl
      have hplain {α : Type} {p : M α} (hp : p.Plain (Within credentialTables)) :
          p.Plain (contract.discipline.protocol.Neutral g) :=
        hp.mono fun s hs => neutral fun hw => by simpa [credentialTables] using hs _ hw
      refine (hplain (plain_read rfl)).bind fun user_row =>
        (hplain (draw_code_plain _)).bind fun code => ?_
      refine (hplain (_provision_radius_credentials_plain _ _ _ _ _ _ (by simp [credentialTables])
        (by simp [credentialTables]))).bind fun _ => ?_
      refine Prog.Plain.bind ((Prog.plain_exec _).mpr (voucher_neutral hknown)) fun _ => ?_
      refine (hplain (welcome_guest_plain _ _ _ _ (by simp [credentialTables]))).bind fun _ => ?_
      trivial

/-- A sale commits a payment and the voucher for it. -/
theorem wp_generate_reseller_voucher (data : ResellerVoucherGenerateRequest)
    (reseller_id tenant_id : UUID) : contract.wp (fun _ _ _ => True)
      (generate_reseller_voucher data reseller_id tenant_id) {} g := by
  refine wp_reseller_voucher fun customer package => wp_commit (Q := fun _ _ => True)
    (fun _ _ _ ho => ho) ?_ sell_voucher_body ?_ fun _ => trivial
  · refine sell_voucher_framed data _ _ _ _ (fun s hs _ => ?_) (fun _ _ _ _ h => by cases h)
      fun _ _ _ _ _ h => by cases h
    exact neutral fun hw => by simpa [saleTables] using hs _ hw
  · rintro payment_id d _ l l' hb ho ⟨s, hfits, rfl⟩
    have hsub : purchases d ⊆ purchases (s.commit d) := by simp [purchases, Sale.commit]
    have hw := hfits.voucher
    refine ⟨g, .intro ⟨nodup_map_concat _ hb.payments hfits.fresh,
      nodup_map_concat _ hb.vouchers fun w h => hw.payment ▸ hw.fresh w h,
      nodup_map_concat _ hb.codes fun w h => hw.code_eq ▸ hw.fresh_code w h, fun w h => ?_⟩
      (List.Subset.trans ho hsub) (fun _ _ h₂ _ => List.Subset.trans h₂ hsub) (fun _ ht => .inl ht)
      (fun _ h => h) trivial, trivial⟩
    rcases List.mem_append.mp h with h | h
    · exact hsub (hb.voucher w h)
    · rw [List.mem_singleton.mp h]
      refine List.mem_map.mpr ⟨s.payment, by simp [Sale.commit], ?_⟩
      simp [Payment.purchase, Voucher.purchase, hw.payment, hw.customer, hw.package, hw.tenant,
        hfits.customer, hfits.package, hfits.tenant]

theorem generates : contract.Generates [] where
  free _ _ _ _ ho := ho
  outside g s hs := neutral <| by
    cases hs with
    | tables h => exact fun hw => h _ hw (by simp [generationTables])
    | guest => exact nofun
  starts d d' hb hq := by
    have hp : d'.payments = d.payments := hq .payments (by simp)
    have hg : Grows d d' := ⟨.inl (by rw [purchases, hp]; rfl), hq .vouchers (by simp)⟩
    exact ⟨hg.agrees hb, List.nil_subset _, rfl, fun _ _ h => List.Subset.trans h hg.subset,
      fun _ h => h, trivial⟩
  generate payment_id tenant_id _ _ hl := wp_generate_voucher payment_id tenant_id hl
  sale := wp_generate_reseller_voucher

theorem tolerates : contract.Tolerates := by
  rintro d d' ls hi ⟨hp, hv⟩
  have hcolumn {β : Type} (f : Purchase × String → β) (d : Store) :
      d.vouchers.map (fun w => f (w.purchase, w.code)) =
        (d.vouchers.map fun w => (w.purchase, w.code)).map f := by
    rw [List.map_map]
    rfl
  refine ⟨⟨⟨?_, ?_, ?_, fun w hw => ?_⟩, fun x hx => ?_, hi.apart, trivial⟩, trivial⟩
  · rw [ids_of_purchases hp]
    exact hi.base.payments
  · have hsub := hv.map fun x => x.1.payment_id
    rw [← hcolumn, ← hcolumn] at hsub
    exact hi.base.vouchers.sublist hsub
  · have hsub := hv.map Prod.snd
    rw [← hcolumn, ← hcolumn] at hsub
    exact hi.base.codes.sublist hsub
  · obtain ⟨w₀, hw₀, heq⟩ := List.mem_map.mp (hv.subset (List.mem_map_of_mem hw))
    rw [hp, ← (Prod.mk.inj heq).1]
    exact hi.base.voucher w₀ hw₀
  · have ho : x.2 ⊆ purchases d := hi.own x hx
    change x.2 ⊆ purchases d'
    rwa [hp]

/-- In every run, each voucher is for exactly one payment, with the same customer, package and
tenant, and no payment has two vouchers. -/
theorem vouchers_agree {d : Store} (hd : Agrees d) {s : RunState}
    (hs : Reaches system rules (FrixelConnect.idle d) s) :
    (∀ w ∈ s.store.vouchers, ∃! p, p ∈ s.store.payments ∧ p.purchase = w.purchase) ∧
      ∀ w ∈ s.store.vouchers, ∀ w' ∈ s.store.vouchers,
        w.payment_id = w'.payment_id ∨ w.code = w'.code → w = w' := by
  have h₀ : contract.Holds (FrixelConnect.idle d) := .start hd trivial
  have h := (h₀.reaches generates.serves tolerates hs).1.base
  refine ⟨fun w hw => ?_, fun w hw w' hw' heq => ?_⟩
  · obtain ⟨p, hp, heq, honly⟩ := h.payment hw
    exact ⟨p, ⟨hp, heq⟩, fun p' hp' => honly p' hp'.1 (congrArg Purchase.payment_id hp'.2)⟩
  · rcases heq with heq | heq
    · exact List.inj_on_of_nodup_map h.vouchers hw hw' heq
    · exact List.inj_on_of_nodup_map h.codes hw hw' heq

instance (s : Stmt) (c : Choice Exn Env) (d : Store) : Decidable (rules.stmt s c d) :=
  .isTrue trivial

instance (w : Spawn) (d : Store) : Decidable (rules.spawn w d) := .isTrue trivial

instance (d d' : Store) : Decidable (rules.edit d d') :=
  inferInstanceAs (Decidable (purchases d' = purchases d ∧
    (d'.vouchers.map fun w => (w.purchase, w.code)).Sublist
      (d.vouchers.map fun w => (w.purchase, w.code))))

theorem agrees_shop : Agrees shop :=
  ⟨List.nodup_singleton _, List.nodup_nil, List.nodup_nil, nofun⟩

theorem vouchers_agree_after_confirmation : ∃ s : RunState,
    s.store.vouchers.map Voucher.purchase = [⟨1, 2, 3, 1⟩] ∧
    (∀ w ∈ s.store.vouchers, ∃! p, p ∈ s.store.payments ∧ p.purchase = w.purchase) ∧
      ∀ w ∈ s.store.vouchers, ∀ w' ∈ s.store.vouchers,
        w.payment_id = w'.payment_id ∨ w.code = w'.code → w = w' := by
  obtain ⟨s, hs, hv⟩ := Reaches.of_moves (Y := system) (ρ := rules) (FrixelConnect.idle shop)
    (.spawn (.daraja_webhook ((Outcome.success "QK1").body "ws_CO_1")) :: stepsOf 5 0 ++
      .spawn (.job 0 false) :: stepsOf 12 1)
    (fun d => d.vouchers.map Voucher.purchase) [⟨1, 2, 3, 1⟩] (by decide +kernel) rfl
  exact ⟨s, hv, vouchers_agree agrees_shop hs⟩

end VoucherPayments

end FrixelConnect
