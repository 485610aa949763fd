import FrixelConnect.Specs.Ledger
import FrixelConnect.Specs.Outcome

/-!
# The running balance of a wallet

Every entry of a wallet, in the order of the sequence, stores the balance before it
plus or minus its stored amount. Top-ups of any decimal scale keep this up to one
case: `current_balance + amount` is rounded to the precision of the context, and
where that reaches the next half cent, the stored balance gains a cent that the
stored amount does not have.
-/

namespace FrixelConnect

namespace WalletLedger

open Decimals Python Interleaving Contract

/-- The stored amount in cents, negative for a debit. -/
def signed (e : WalletTransaction) : ℤ :=
  if e.type = .debit then -e.amount_kes.cents else e.amount_kes.cents

/-- The sum of stored top-ups minus the sum of stored debits. -/
def total (rows : List WalletTransaction) : ℤ := (rows.map signed).sum

/-- Each balance is the one before it plus or minus the stored amount. -/
def Consistent : ℤ → List WalletTransaction → Prop
  | _, [] => True
  | b, e :: es => e.type ≠ .adjustment ∧ e.amount_kes ≠ .nan ∧
      e.balance_after.load = .finite (b + signed e) (-2) ∧ Consistent (b + signed e) es

/-- The entries in the order of the sequence. -/
def bySequence (rows : List WalletTransaction) : List WalletTransaction :=
  rows.mergeSort fun a b => decide (a.sequence_id ≤ b.sequence_id)

/-- The entries of one wallet. -/
def wallet (rows : List WalletTransaction) (reseller_id tenant_id : UUID) :
    List WalletTransaction :=
  rows.filter fun e => e.reseller_id == reseller_id && e.tenant_id == tenant_id

/-- The exact sum is carried over a half cent by the precision of the context. -/
def Straddling : Decimal → Decimal → Prop
  | .finite b _, .finite c e => defaultContext.Straddles (Context.sumCoeff b (-2) c e).natAbs
      (10 ^ Context.finer 2 e)
  | _, _ => False

/-- A positive number. -/
def Positive : Decimal → Prop
  | .finite c _ => 0 < c
  | _ => False

/-- A number of at most two decimals. -/
def Cents : Decimal → Prop
  | .finite _ e => -2 ≤ e
  | _ => False

/-- A top-up is of a positive amount, and a debit of one of at most two decimals. -/
def RegularAmount (amount : Decimal) : TransactionType → Prop
  | .topup => Positive amount
  | .debit => Positive amount ∧ Cents amount
  | .adjustment => True

/-- A wallet transaction is of a regular amount. -/
def Regular : Stmt → Prop
  | .insert_wallet_transaction _ _ _ type amount _ _ => RegularAmount amount type
  | _ => True

/-- The top-up is of an amount whose sum with the balance is carried over a half cent. -/
def Carried : Stmt → Store → Prop
  | .insert_wallet_transaction _ tenant_id reseller_id type amount _ _, d =>
      type = .topup ∧ Straddling (walletBalance (d.balance reseller_id tenant_id)) amount
  | _, _ => False

/-- Regular wallet transactions in any interleaving, alone or inside a sale, with any edit of the
other tables. -/
def regular : RunRules where
  stmt s c _ := c.isRun = true → Regular s
  spawn w _ := LedgerLaw.Spawn.isLedger w
  edit d d' := ∀ T, T ∉ ledgerFree → d'.Same d T

/-- Regular runs without a top-up that is carried over a half cent. -/
def rules : RunRules :=
  { regular with stmt := fun s c d => c.isRun = true → Regular s ∧ ¬ Carried s d }

/-- Every wallet is consistent, and none is overdrawn. -/
def law : LedgerLaw where
  rules := rules
  inv rows := ∀ reseller_id tenant_id, Consistent 0 (wallet rows reseller_id tenant_id) ∧
    0 ≤ total (wallet rows reseller_id tenant_id)

variable {rows : List WalletTransaction} {e : WalletTransaction}

@[simp] theorem total_append (rows rows' : List WalletTransaction) :
    total (rows ++ rows') = total rows + total rows' := by simp [total]

theorem consistent_append {b : ℤ} {rows' : List WalletTransaction} :
    Consistent b (rows ++ rows') ↔ Consistent b rows ∧ Consistent (b + total rows) rows' := by
  induction rows generalizing b with
  | nil => simp [Consistent, total]
  | cons e rows ih =>
      have hsum : b + total (e :: rows) = b + signed e + total rows := by
        simp [total]
        ring
      simp only [List.cons_append, Consistent, ih, hsum, and_assoc]

/-- The last balance of a consistent wallet is its total. -/
theorem balance_of_consistent (hc : Consistent 0 rows)
    (hsorted : rows.Pairwise (·.sequence_id < ·.sequence_id)) :
    walletBalance ((lastEntry rows).map (·.balance_after)) = .finite (total rows) (-2) := by
  rcases List.eq_nil_or_concat' rows with rfl | ⟨rows, e, rfl⟩
  · rfl
  · rw [List.pairwise_append] at hsorted
    obtain ⟨-, -, hload, -⟩ := (consistent_append.mp hc).2
    rw [lastEntry_concat fun e' he' => hsorted.2.2 e' he' e (List.mem_singleton_self _)]
    simp only [Option.map_some, walletBalance, hload, total_append]
    simp [total]

/-- The balance is a value that a column holds. -/
theorem total_lt (hc : Consistent 0 rows) : (total rows).natAbs < 10 ^ 10 := by
  rcases List.eq_nil_or_concat' rows with rfl | ⟨rows, e, rfl⟩
  · simp [total]
  · obtain ⟨-, -, hload, -⟩ := (consistent_append.mp hc).2
    cases hb : e.balance_after with
    | nan => rw [hb] at hload; cases hload
    | units n =>
        obtain ⟨n, hn⟩ := n
        rw [hb] at hload
        injection hload with hvalue
        change n = _ at hvalue
        have htotal : total (rows ++ [e]) = n := by
          rw [total_append, hvalue]
          simp [total]
        rwa [htotal]

theorem holds_default : defaultContext.Holds 10 2 := ⟨by decide, by decide, by decide⟩

/-- A top-up stores the sum of the stored values. -/
theorem topup_consistent {b : ℤ} {amount new_balance : Decimal} (hb : 0 ≤ b)
    (hlt : b.natAbs < 10 ^ 10) (htype : e.type = .topup) (hpos : Positive amount)
    (hs : ¬ Straddling (.finite b (-2)) amount)
    (hadd : defaultContext.add (.finite b (-2)) amount = .ok new_balance)
    (hamount : Column.store 10 2 amount = some e.amount_kes)
    (hbalance : Column.store 10 2 new_balance = some e.balance_after) :
    Consistent b [e] ∧ 0 ≤ b + signed e := by
  cases amount with
  | infinity _ => cases hpos
  | nan => cases hpos
  | snan => cases hpos
  | finite c exp =>
      obtain ⟨-, hround⟩ := Context.halfAway_sumCoeff (s := 2) (e := exp) hb hpos
      obtain ⟨hsum, -⟩ := Context.halfAway_sumCoeff (s := 2) (e := exp) hb hpos
      obtain ⟨hn, hstored⟩ := Context.store_sum holds_default hlt hamount hadd hbalance hs
      obtain ⟨-, hc, hunits⟩ := Column.store_finite_eq_some hamount
      have hsigned : signed e = roundUnits 2 c exp := by
        rw [signed, htype, hunits]
        rfl
      have hvalue : e.balance_after.load = .finite (b + signed e) (-2) := by
        rw [hstored, hsigned, ← hround]
        simp only [Money.load, Column.load, Int.sign_eq_one_of_pos hsum, one_mul]
        rfl
      refine ⟨⟨by simp [htype], by simp [hunits], hvalue, trivial⟩, ?_⟩
      rw [hsigned, ← hround]
      positivity

/-- A debit stores the difference of the stored values. -/
theorem debit_consistent {b : ℤ} {amount new_balance : Decimal} (hlt : b.natAbs < 10 ^ 10)
    (htype : e.type = .debit) (hpos : Positive amount) (hcents : Cents amount)
    (hle : Decimal.lt (.finite b (-2)) amount = .ok false)
    (hsub : defaultContext.sub (.finite b (-2)) amount = .ok new_balance)
    (hamount : Column.store 10 2 amount = some e.amount_kes)
    (hbalance : Column.store 10 2 new_balance = some e.balance_after) :
    Consistent b [e] ∧ 0 ≤ b + signed e := by
  cases amount with
  | infinity _ => cases hpos
  | nan => cases hpos
  | snan => cases hpos
  | finite c exp =>
      have hc0 : 0 < c := hpos
      have hexp : -2 ≤ exp := hcents
      obtain ⟨hmin, hc, hunits⟩ := Column.store_finite_eq_some hamount
      have hneg : Column.store 10 2 (.finite (-c) exp) =
          some (.units ⟨roundUnits 2 (-c) exp, by rwa [roundUnits_neg, Int.natAbs_neg]⟩) := by
        rw [Column.store, if_neg (by omega), dif_pos]
      obtain ⟨hj, hsum⟩ : Context.finer 2 exp = 0 ∧
          Context.sumCoeff b (-2) (-c) exp = b + roundUnits 2 (-c) exp :=
        Context.sumCoeff_coarse hcents
      have hsigned : signed e = roundUnits 2 (-c) exp := by
        rw [signed, htype, hunits, roundUnits_neg]
        rfl
      have hnonneg : 0 ≤ b + roundUnits 2 (-c) exp := by
        have hmin : min (-2) exp = -2 := min_eq_left hcents
        simp only [Decimal.lt, hmin, sub_self, Int.toNat_zero, pow_zero, mul_one, Except.ok.injEq,
          decide_eq_false_iff_not, not_lt, sub_neg_eq_add] at hle
        have hround : roundUnits 2 c exp = c * 10 ^ (exp + 2).toNat := by
          rw [roundUnits, if_pos (by exact_mod_cast (by omega : 0 ≤ exp + 2))]
          rfl
        rw [roundUnits_neg, hround]
        omega
      have hexact : ¬ Straddling (.finite b (-2)) (.finite (-c) exp) := by
        rw [Straddling, hj, hsum]
        refine Context.not_straddles_one ((digits_le_iff (by decide)).mpr ?_)
        have hneg : roundUnits 2 (-c) exp ≤ 0 := by
          rw [roundUnits, if_pos (by exact_mod_cast (by omega : 0 ≤ exp + 2)), neg_mul]
          have : 0 ≤ c * 10 ^ (exp + (2 : ℕ)).toNat := by positivity
          omega
        have : defaultContext.prec = 28 := rfl
        rw [this]
        omega
      obtain ⟨hn, hstored⟩ := Context.store_sum holds_default hlt hneg hsub hbalance hexact
      have hvalue : e.balance_after.load = .finite (b + signed e) (-2) := by
        rw [hstored, hsigned]
        simp only [Money.load, Column.load, hj, pow_zero, halfAway_one, Int.sign_mul_natAbs]
        exact congrArg (Decimal.finite · (-2)) hsum
      exact ⟨⟨by simp [htype], by simp [hunits], hvalue, trivial⟩, hsigned ▸ hnonneg⟩

/-- The balance of a wallet that is consistent and in the order of the sequence. -/
theorem balance_eq {d : Store} {reseller_id tenant_id : UUID} (hn : Numbered d)
    (hc : Consistent 0 (d.ledger reseller_id tenant_id)) :
    walletBalance (d.balance reseller_id tenant_id) =
      .finite (total (d.ledger reseller_id tenant_id)) (-2) :=
  balance_of_consistent hc (hn.increasing reseller_id tenant_id)

theorem lawful : law.Lawful := by
  intro d d' v n tenant_id reseller_id type amount new_balance reference row hn hi hnew hrule he _
    r t
  obtain ⟨rfl, -, htenant, hreseller, htype, hamount, hbalance, -⟩ :=
    Stmt.eval_insert_wallet_transaction he
  obtain ⟨hc, hpos⟩ := hi r t
  change Consistent 0 (Store.ledger _ r t) ∧ 0 ≤ total (Store.ledger _ r t)
  rw [ledger_append (d := d) rfl]
  split
  · next hw =>
      obtain ⟨rfl, rfl⟩ := hw
      have hread := balance_eq hn hc
      have hlt := total_lt hc
      rw [hreseller, htenant] at hc hpos hread hlt ⊢
      rw [hread] at hnew
      have hentry : Consistent (total (d.ledger reseller_id tenant_id)) [row] ∧
          0 ≤ total (d.ledger reseller_id tenant_id) + signed row := by
        cases type with
        | topup =>
            obtain ⟨hp, hs⟩ := hrule rfl
            rw [Carried, hread] at hs
            exact topup_consistent hpos hlt htype hp (fun h => hs ⟨rfl, h⟩) hnew hamount hbalance
        | debit =>
            obtain ⟨⟨hp, hcents⟩, -⟩ := hrule rfl
            exact debit_consistent hlt htype hp hcents hnew.1 hnew.2 hamount hbalance
        | adjustment => exact hnew.elim
      rw [consistent_append, zero_add, total_append]
      exact ⟨⟨hc, hentry.1⟩, by simpa [total] using hentry.2⟩
  · rw [List.append_nil]
    exact ⟨hc, hpos⟩

/-- In any run of regular wallet transactions, every wallet stays consistent in the order of its
sequence numbers, and its balance is the sum of its stored entries. -/
theorem ledger_consistent {d : Store} (hn : Numbered d)
    (hd : ∀ reseller_id tenant_id, Consistent 0 (d.ledger reseller_id tenant_id) ∧
      0 ≤ total (d.ledger reseller_id tenant_id)) {s : RunState}
    (hs : Reaches system rules (FrixelConnect.idle d) s) (reseller_id tenant_id : UUID) :
    Consistent 0 (bySequence (s.store.ledger reseller_id tenant_id)) ∧
      walletBalance (s.store.balance reseller_id tenant_id) =
        .finite (total (s.store.ledger reseller_id tenant_id)) (-2) := by
  obtain ⟨hn', hi⟩ := law.reaches lawful (fun _ _ h => h) (fun _ _ h => h) hn hd hs
  have hc : Consistent 0 (s.store.ledger reseller_id tenant_id) := (hi reseller_id tenant_id).1
  have hsorted : bySequence (s.store.ledger reseller_id tenant_id) =
      s.store.ledger reseller_id tenant_id := by
    apply List.mergeSort_of_pairwise
    refine (hn'.increasing reseller_id tenant_id).imp fun h => ?_
    simpa using h.le
  exact ⟨hsorted.symm ▸ hc, balance_eq hn' hc⟩

instance (x y : Decimal) : Decidable (Straddling x y) := by
  unfold Straddling
  split <;> infer_instance

instance (x : Decimal) : Decidable (Positive x) := by
  unfold Positive
  split <;> infer_instance

instance (x : Decimal) : Decidable (Cents x) := by
  unfold Cents
  split <;> infer_instance

instance (amount : Decimal) (type : TransactionType) : Decidable (RegularAmount amount type) := by
  unfold RegularAmount
  split <;> infer_instance

instance (s : Stmt) : Decidable (Regular s) := by
  rcases s with ⟨⟩ <;>
    first | exact .isTrue trivial | exact inferInstanceAs (Decidable (RegularAmount _ _))

instance (s : Stmt) (d : Store) : Decidable (Carried s d) := by
  rcases s with ⟨⟩ <;>
    first | exact .isFalse id | exact inferInstanceAs (Decidable (_ ∧ Straddling _ _))

instance (s : Stmt) (c : Choice Exn Env) (d : Store) : Decidable (regular.stmt s c d) :=
  inferInstanceAs (Decidable (_ = true → Regular s))

instance (s : Stmt) (c : Choice Exn Env) (d : Store) : Decidable (rules.stmt s c d) :=
  inferInstanceAs (Decidable (_ = true → Regular s ∧ ¬ Carried s d))

instance (w : Spawn) (d : Store) : Decidable (regular.spawn w d) :=
  inferInstanceAs (Decidable (_ = true))

instance (w : Spawn) (d : Store) : Decidable (rules.spawn w d) :=
  inferInstanceAs (Decidable (_ = true))

theorem numbered_kiosk : Numbered kiosk where
  bound e he := by
    obtain rfl := List.mem_singleton.mp he
    exact le_rfl
  increasing reseller_id tenant_id :=
    (List.pairwise_singleton _ deposit).sublist List.filter_sublist

theorem consistent_kiosk (reseller_id tenant_id : UUID) :
    Consistent 0 (kiosk.ledger reseller_id tenant_id) ∧
      0 ≤ total (kiosk.ledger reseller_id tenant_id) := by
  have hrows : kiosk.ledger reseller_id tenant_id = [deposit] ∨
      kiosk.ledger reseller_id tenant_id = [] := by
    rw [Store.ledger, kiosk, List.filter_singleton]
    cases deposit.reseller_id == reseller_id && deposit.tenant_id == tenant_id <;> simp
  rcases hrows with h | h
  · rw [h]
    exact ⟨⟨by decide, by decide, rfl, trivial⟩, by decide⟩
  · rw [h]
    exact ⟨trivial, le_rfl⟩

instance (d d' : Store) : Decidable (regular.edit d d') :=
  inferInstanceAs (Decidable (∀ T, T ∉ ledgerFree → d'.Same d T))

instance (d d' : Store) : Decidable (rules.edit d d') :=
  inferInstanceAs (Decidable (∀ T, T ∉ ledgerFree → d'.Same d T))

/-- A payment to the reseller of the kiosk. -/
def paybill (trans_id amount : String) : Json :=
  .obj [("TransactionType", .str "Pay Bill"), ("BillRefNumber", .str "WSABCDE"),
    ("TransID", .str trans_id), ("TransAmount", .str amount)]

/-- The steps of a Paybill callback. -/
def paybillRun (trans_id amount : String) : List RunLabel :=
  .spawn (.c2b_webhook (paybill trans_id amount)) :: stepsOf 5 0 ++
    [stepOf 0 { uuid := 9 }, stepOf 0 {}]

theorem ledger_consistent_after_topup : ∃ s : RunState,
    (s.store.ledger 5 1).map (·.amount_kes.cents) = [8000, 2000] ∧
      Consistent 0 (bySequence (s.store.ledger 5 1)) ∧
      walletBalance (s.store.balance 5 1) = .finite (total (s.store.ledger 5 1)) (-2) := by
  obtain ⟨s, hs, hv⟩ := Reaches.of_moves (Y := system) (ρ := rules) (FrixelConnect.idle kiosk)
    (paybillRun "QK7" "20.00") (fun d => (d.ledger 5 1).map (·.amount_kes.cents)) [8000, 2000]
    (by decide +kernel) rfl
  exact ⟨s, hv, ledger_consistent numbered_kiosk consistent_kiosk hs 5 1⟩

/-- The sum 80.0049999… has more digits than the context, is 80.005 there, and is stored as 80.01
next to an amount of 0.00. -/
theorem not_ledger_consistent : ¬ ∀ (d : Store), Numbered d →
    (∀ reseller_id tenant_id, Consistent 0 (d.ledger reseller_id tenant_id) ∧
      0 ≤ total (d.ledger reseller_id tenant_id)) →
    ∀ s : RunState, Reaches system regular (FrixelConnect.idle d) s →
    ∀ reseller_id tenant_id, Consistent 0 (bySequence (s.store.ledger reseller_id tenant_id)) ∧
      walletBalance (s.store.balance reseller_id tenant_id) =
        .finite (total (s.store.ledger reseller_id tenant_id)) (-2) := by
  intro h
  obtain ⟨s, hs, hv⟩ := Reaches.of_moves (Y := system) (ρ := regular) (FrixelConnect.idle kiosk)
    (paybillRun "QK7" "0.00499999999999999999999999999999999")
    (fun d => (decide (walletBalance (d.balance 5 1) = .finite 8001 (-2)), total (d.ledger 5 1)))
    (true, 8000) (by decide +kernel) rfl
  obtain ⟨hbalance, htotal⟩ := Prod.mk.inj hv
  have := (h kiosk numbered_kiosk consistent_kiosk s hs 5 1).2
  rw [of_decide_eq_true hbalance, htotal] at this
  cases this

end WalletLedger

end FrixelConnect
