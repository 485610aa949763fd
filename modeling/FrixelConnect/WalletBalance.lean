import FrixelConnect.WalletLedger

/-!
# The sign of a wallet balance

A debit is refused when it exceeds the balance. A Paybill callback tops up by
any number that it carries, so a negative one can overdraw the wallet, and a NaN
replaces the balance for good. In every other run all balances are finite and
not negative.
-/

namespace FrixelConnect

namespace WalletBalance

open Decimals Python Interleaving Contract WalletLedger

/-- A finite number that is not negative. -/
def NonNegative : Decimal → Prop
  | .finite c _ => 0 ≤ c
  | _ => False

/-- The exact sum is negative, and it is not rounded to zero. -/
def Overdrawing : Decimal → Decimal → Prop
  | .finite b _, .finite c e => Context.sumCoeff b (-2) c e < 0 ∧ 10 ^ Context.finer 2 e ≤
      2 * (Context.sumCoeff b (-2) c e).natAbs +
        defaultContext.slack (Context.sumCoeff b (-2) c e).natAbs
  | _, _ => False

/-- The top-up is of a NaN, or of a negative number that overdraws the wallet. -/
def Harmful : Stmt → Store → Prop
  | .insert_wallet_transaction _ tenant_id reseller_id type amount _ _, d =>
      type = .topup ∧
        (amount = .nan ∨ Overdrawing (walletBalance (d.balance reseller_id tenant_id)) amount)
  | _, _ => False

/-- A sale of a reseller or a Paybill callback. -/
def Spawn.isTrade : Spawn → Bool
  | .reseller_voucher .. => true
  | .c2b_webhook _ => true
  | _ => false

/-- Sales and Paybill callbacks in any interleaving, with any edit of the other tables. -/
def trading : RunRules where
  spawn w _ := Spawn.isTrade w
  edit d d' := ∀ T, T ∉ ledgerFree → d'.Same d T

/-- Runs without a harmful top-up. -/
def rules : RunRules :=
  { trading with stmt := fun s c d => c.isRun = true → ¬ Harmful s d }

/-- No wallet is overdrawn. -/
def law : LedgerLaw where
  rules := rules
  inv rows := ∀ reseller_id tenant_id, NonNegative
    (walletBalance ((lastEntry (wallet rows reseller_id tenant_id)).map (·.balance_after)))

theorem load_finite {b : Money} {c e : ℤ} (h : b.load = .finite c e) :
    c.natAbs < 10 ^ 10 ∧ e = -2 := by
  cases b with
  | nan => cases h
  | units n =>
      cases h
      exact ⟨n.property, rfl⟩

/-- A balance is a number that a column holds. -/
theorem walletBalance_finite {balance : Option Money} {c e : ℤ}
    (h : walletBalance balance = .finite c e) : c.natAbs < 10 ^ 10 ∧ e = -2 := by
  cases balance with
  | none =>
      cases h
      exact ⟨by decide, rfl⟩
  | some balance => exact load_finite h

section Entry

variable {x amount new_balance : Decimal} {stored : Money} {balance : Money} {b : ℤ}

/-- A top-up that is not harmful leaves the wallet with a balance that is not negative. -/
theorem topup_nonneg (hlt : b.natAbs < 10 ^ 10)
    (hrule : ¬ (amount = .nan ∨ Overdrawing (.finite b (-2)) amount))
    (hadd : defaultContext.add (.finite b (-2)) amount = .ok new_balance)
    (hamount : Column.store 10 2 amount = some stored)
    (hbalance : Column.store 10 2 new_balance = some balance) : NonNegative balance.load := by
  cases amount with
  | infinity _ => cases hamount
  | nan => exact absurd (.inl rfl) hrule
  | snan => cases hadd
  | finite c e =>
      obtain ⟨n, rfl⟩ := Context.store_sum_finite holds_default hlt hamount hadd hbalance
      by_contra hneg
      have hn : n.val < 0 := not_le.mp hneg
      exact hrule (.inr
        ((Context.store_sum_neg_iff holds_default hlt hamount hadd hbalance).mp hn))

/-- A debit that the balance covers leaves a balance that is not negative. -/
theorem debit_nonneg (hlt : b.natAbs < 10 ^ 10)
    (hle : Decimal.lt (.finite b (-2)) amount = .ok false)
    (hsub : defaultContext.sub (.finite b (-2)) amount = .ok new_balance)
    (hamount : Column.store 10 2 amount = some stored)
    (hbalance : Column.store 10 2 new_balance = some balance) : NonNegative balance.load := by
  cases amount with
  | infinity _ => cases hamount
  | nan => cases hle
  | snan => cases hle
  | finite c e =>
      obtain ⟨hmin, hc, -⟩ := Column.store_finite_eq_some hamount
      have hneg : Column.store 10 2 (.finite (-c) e) =
          some (.units ⟨roundUnits 2 (-c) e, by rwa [roundUnits_neg, Int.natAbs_neg]⟩) := by
        rw [Column.store, if_neg (by omega), dif_pos]
      have hsum : 0 ≤ Context.sumCoeff b (-2) (-c) e := by
        simp only [Decimal.lt, Except.ok.injEq, decide_eq_false_iff_not, not_lt] at hle
        rw [Context.sumCoeff, neg_mul]
        omega
      refine topup_nonneg hlt ?_ hsub hneg hbalance
      rintro (hnan | ⟨hover, -⟩)
      · cases hnan
      · omega

end Entry

theorem lawful : law.Lawful := by
  intro d d' v n tenant_id reseller_id type amount new_balance reference row hn hi hnew hrule he
    hlast r t
  obtain ⟨rfl, hseq, htenant, hreseller, -, hamount, hbalance, -⟩ :=
    Stmt.eval_insert_wallet_transaction he
  change NonNegative (walletBalance ((lastEntry (Store.ledger _ r t)).map (·.balance_after)))
  rw [ledger_append (d := d) rfl]
  split
  · next hw =>
      obtain ⟨rfl, rfl⟩ := hw
      rw [hreseller, htenant]
      rw [lastEntry_concat fun e' he' => hseq ▸ hlast e' he']
      change NonNegative row.balance_after.load
      have hb : NonNegative (walletBalance (d.balance reseller_id tenant_id)) :=
        hi reseller_id tenant_id
      cases hread : walletBalance (d.balance reseller_id tenant_id) with
      | infinity _ => rw [hread] at hb; exact hb.elim
      | nan => rw [hread] at hb; exact hb.elim
      | snan => rw [hread] at hb; exact hb.elim
      | finite b e =>
          obtain ⟨hlt, rfl⟩ := walletBalance_finite hread
          rw [hread] at hnew
          cases type with
          | topup =>
              refine topup_nonneg hlt (fun h => hrule rfl ⟨rfl, ?_⟩) hnew hamount hbalance
              rwa [hread]
          | debit => exact debit_nonneg hlt hnew.1 hnew.2 hamount hbalance
          | adjustment => exact hnew.elim
  · rw [List.append_nil]
    exact hi r t

theorem isLedger_of_isTrade {w : Spawn} (h : Spawn.isTrade w) : LedgerLaw.Spawn.isLedger w := by
  cases w <;> first | rfl | cases h

/-- In any run of sales and Paybill callbacks without a harmful top-up, the balance of every
wallet is a finite number that is not negative. -/
theorem balance_nonneg {d : Store} (hn : Numbered d)
    (hd : ∀ reseller_id tenant_id, NonNegative (walletBalance (d.balance reseller_id tenant_id)))
    {s : RunState} (hs : Reaches system rules (FrixelConnect.idle d) s)
    (reseller_id tenant_id : UUID) :
    NonNegative (walletBalance (s.store.balance reseller_id tenant_id)) :=
  (law.reaches lawful (fun _ _ h => isLedger_of_isTrade h) (fun _ _ h => h) hn hd hs).2
    reseller_id tenant_id

instance (x : Decimal) : Decidable (NonNegative x) := by
  rcases x with ⟨⟩ <;> first | exact .isFalse id | exact inferInstanceAs (Decidable (0 ≤ _))

instance (x y : Decimal) : Decidable (Overdrawing x y) := by
  rcases x with ⟨⟩ <;> rcases y with ⟨⟩ <;>
    first | exact .isFalse id | exact inferInstanceAs (Decidable (_ < 0 ∧ _ ≤ _))

instance (s : Stmt) (d : Store) : Decidable (Harmful s d) := by
  rcases s with ⟨⟩ <;>
    first | exact .isFalse id | exact inferInstanceAs (Decidable (_ ∧ (_ ∨ Overdrawing _ _)))

instance (s : Stmt) (c : Choice Exn Env) (d : Store) : Decidable (trading.stmt s c d) :=
  .isTrue trivial

instance (s : Stmt) (c : Choice Exn Env) (d : Store) : Decidable (rules.stmt s c d) :=
  inferInstanceAs (Decidable (_ = true → ¬ Harmful s d))

instance (w : Spawn) (d : Store) : Decidable (trading.spawn w d) :=
  inferInstanceAs (Decidable (_ = true))

instance (w : Spawn) (d : Store) : Decidable (rules.spawn w d) :=
  inferInstanceAs (Decidable (_ = true))

instance (d d' : Store) : Decidable (trading.edit d d') :=
  inferInstanceAs (Decidable (∀ T, T ∉ ledgerFree → d'.Same d T))

instance (d d' : Store) : Decidable (rules.edit d d') :=
  inferInstanceAs (Decidable (∀ T, T ∉ ledgerFree → d'.Same d T))

theorem nonneg_kiosk (reseller_id tenant_id : UUID) :
    NonNegative (walletBalance (kiosk.balance reseller_id tenant_id)) := by
  obtain ⟨hc, hpos⟩ := consistent_kiosk reseller_id tenant_id
  rw [balance_eq numbered_kiosk hc]
  exact hpos

theorem balance_nonneg_after_refund : ∃ s : RunState,
    (s.store.ledger 5 1).map (·.amount_kes.cents) = [8000, -3000] ∧
      NonNegative (walletBalance (s.store.balance 5 1)) := by
  obtain ⟨s, hs, hv⟩ := Reaches.of_moves (Y := system) (ρ := rules) (FrixelConnect.idle kiosk)
    (paybillRun "QK7" "-30.00") (fun d => (d.ledger 5 1).map (·.amount_kes.cents)) [8000, -3000]
    (by decide +kernel) rfl
  exact ⟨s, hv, balance_nonneg numbered_kiosk nonneg_kiosk hs 5 1⟩

theorem not_balance_nonneg : ¬ ∀ (d : Store), Numbered d →
    (∀ reseller_id tenant_id, NonNegative (walletBalance (d.balance reseller_id tenant_id))) →
    ∀ s : RunState, Reaches system trading (FrixelConnect.idle d) s →
    ∀ reseller_id tenant_id, NonNegative (walletBalance (s.store.balance reseller_id tenant_id)) := by
  intro h
  obtain ⟨s, hs, hv⟩ := Reaches.of_moves (Y := system) (ρ := trading) (FrixelConnect.idle kiosk)
    (paybillRun "QK7" "-100.00") (fun d => decide (NonNegative (walletBalance (d.balance 5 1))))
    false (by decide +kernel) rfl
  exact of_decide_eq_false hv (h kiosk numbered_kiosk nonneg_kiosk s hs 5 1)

end WalletBalance

end FrixelConnect
