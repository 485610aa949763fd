import FrixelConnect.WalletBalance

/-!
# Acknowledged Paybill confirmations

An acknowledged confirmation is not sent again. The callback acknowledges every
one whose account number is known, also when its top-up has raised. Where no
top-up raises but for the reference of an earlier one, the wallet holds exactly
one entry for every confirmation that was acknowledged.
-/

namespace FrixelConnect

namespace PaybillCredit

open Decimals Python Interleaving Contract WalletLedger

/-- A confirmation of a payment, as the callback reads it. -/
structure Confirmation where
  bill_ref : String
  trans_id : Json
  amount : Decimal

/-- The confirmation that a body carries. -/
def confirmation (body : Json) : Option Confirmation :=
  match body.get "TransactionType", body.get "BillRefNumber", body.get "TransID",
      body.get "TransAmount" with
  | .ok trans_type, .ok (.str bill_ref), .ok trans_id, .ok trans_amount =>
      if trans_type.eqText "Pay Bill Validation" || !trans_id.truthy then none
      else trans_amount.decimal.map fun amount =>
        { bill_ref := String.ofList (upper (strip bill_ref.toList)), trans_id, amount }
  | _, _, _, _ => none

/-- The entry is a top-up of the wallet under the reference. -/
def IsTopup (reseller_id tenant_id : UUID) (reference : String) (e : WalletTransaction) : Prop :=
  e.type = .topup ∧ e.reseller_id = reseller_id ∧ e.tenant_id = tenant_id ∧
    e.reference = reference

instance (reseller_id tenant_id : UUID) (reference : String) :
    DecidablePred (IsTopup reseller_id tenant_id reference) :=
  fun _ => inferInstanceAs (Decidable (_ ∧ _))

/-- How often the wallet is topped up under the reference. -/
def credits (d : Store) (reseller_id tenant_id : UUID) (reference : String) : ℕ :=
  d.wallet_transactions.countP fun e => IsTopup reseller_id tenant_id reference e

/-- `UNIQUE (reference)`. -/
def UniqueReferences (d : Store) : Prop := (d.wallet_transactions.map (·.reference)).Nodup

/-- What the schema says about the accounts: the tenant of a user exists, and a wallet reference
names one user. -/
structure Accounts (d : Store) : Prop where
  tenant : ∀ u ∈ d.users, d.hasTenant u.tenant_id
  wallet : ∀ u ∈ d.users, ∀ u' ∈ d.users, ∀ bill_ref, u.wallet_reference = some bill_ref →
    u'.wallet_reference = some bill_ref → u = u'

/-- The new entry gets an unused id, and its reference is unused but for a top-up of the same
wallet. -/
def Clear (v : Env) (d : Store) (reseller_id tenant_id : UUID) (reference : Json) : Prop :=
  ∀ e ∈ d.wallet_transactions, e.id ≠ v.uuid ∧
    (reference.eqText e.reference → IsTopup reseller_id tenant_id e.reference e)

/-- The amount and the reference of a top-up can be stored. -/
def Storable (amount : Decimal) (reference : Json) : Prop :=
  (moneyParam amount).isOk ∧ (textParam (some 100) reference >>= notNull).isOk

/-- A positive top-up meets a clear ledger. -/
def Unhindered (v : Env) (d : Store) : Stmt → Prop
  | .insert_wallet_transaction _ tenant_id reseller_id _ amount _ reference =>
      Positive amount → Clear v d reseller_id tenant_id reference
  | _ => True

/-- The balance after a positive top-up can be stored. -/
def Fits : Stmt → Prop
  | .insert_wallet_transaction _ _ _ _ amount new_balance _ =>
      Positive amount → (moneyParam new_balance).isOk
  | _ => True

/-- The statement draws a number for an entry. -/
def isSequence : Stmt → Bool
  | .next_sequence_id => true
  | _ => false

section Decidable

instance (v : Env) (d : Store) (reseller_id tenant_id : UUID) (reference : Json) :
    Decidable (Clear v d reseller_id tenant_id reference) :=
  inferInstanceAs (Decidable (∀ e ∈ _, _))

instance (amount : Decimal) (reference : Json) : Decidable (Storable amount reference) :=
  inferInstanceAs (Decidable (_ ∧ _))

instance (v : Env) (d : Store) (s : Stmt) : Decidable (Unhindered v d s) := by
  rcases s with ⟨⟩ <;>
    first | exact .isTrue trivial | exact inferInstanceAs (Decidable (Positive _ → Clear v d _ _ _))

instance (s : Stmt) : Decidable (Fits s) := by
  rcases s with ⟨⟩ <;>
    first
    | exact .isTrue trivial
    | exact inferInstanceAs (Decidable (Positive _ → (moneyParam _).isOk = true))

end Decidable

/-- Any bodies of Paybill callbacks in any interleaving, with any edit that leaves the accounts and
the ledger alone. -/
def callbacks : RunRules where
  spawn w _ := ∃ body, w = .c2b_webhook body
  edit d d' := ∀ T ∈ [Table.users, .tenants, .wallet_transactions], d'.Same d T

/-- No top-up raises but for the reference of an earlier one: no statement of its transaction and
no commit fails, and what it stores can be stored and does not clash. -/
def rules : RunRules where
  stmt s c d := match c with
    | .fail _ => isSequence s = false
    | .run v => Unhindered v d s
  inner s c d := match c with
    | .fail _ => false
    | .run v => decide (Fits s ∧ Unhindered v d s)
  lossy := false
  spawn w _ := ∃ body, w = .c2b_webhook body ∧ ∀ c, confirmation body = some c →
    Positive c.amount → Storable c.amount c.trans_id
  edit := callbacks.edit

/-- How far a top-up has come. -/
inductive CreditStage where
  | free
  | locked (reseller_id : UUID)
  | fresh (reseller_id tenant_id : UUID) (reference : String)
  | credited (reseller_id tenant_id : UUID) (reference : String)

namespace CreditStage

/-- The reseller whose row is locked. -/
def token : CreditStage → Option UUID
  | .free => none
  | .locked id => some id
  | .fresh id _ _ => some id
  | .credited _ _ _ => none

/-- What the stage says about the store. -/
def Fact (d : Store) (l : RunLocal) : CreditStage → Prop
  | .free => True
  | .locked id => id ∈ machine.held l
  | .fresh id tenant_id reference => id ∈ machine.held l ∧
      ∀ e ∈ d.ledger id tenant_id, e.reference ≠ reference
  | .credited id tenant_id reference =>
      ∃ e ∈ d.wallet_transactions, IsTopup id tenant_id reference e

theorem Fact.held {d : Store} {l : RunLocal} {g : CreditStage} {id : UUID} (h : g.Fact d l)
    (ht : g.token = some id) : id ∈ machine.held l := by
  cases g with
  | free => cases ht
  | locked _ => cases ht; exact h
  | fresh _ _ _ => cases ht; exact h.1
  | credited _ _ _ => cases ht

/-- New entries of other wallets keep what the stage says. -/
theorem Fact.append {d d' : Store} {l : RunLocal} {g : CreditStage}
    {rows : List WalletTransaction} (h : g.Fact d l)
    (hd : d'.wallet_transactions = d.wallet_transactions ++ rows)
    (hother : ∀ e ∈ rows, g.token ≠ some e.reseller_id) : g.Fact d' l := by
  cases g with
  | free => trivial
  | locked _ => exact h
  | fresh id tenant_id reference =>
      refine ⟨h.1, fun e he => h.2 e ?_⟩
      obtain ⟨hmem, hwallet⟩ := List.mem_filter.mp he
      rw [hd] at hmem
      rcases List.mem_append.mp hmem with hmem | hmem
      · exact List.mem_filter.mpr ⟨hmem, hwallet⟩
      · simp only [Bool.and_eq_true, beq_iff_eq] at hwallet
        exact absurd (congrArg some hwallet.1.symm) (hother e hmem)
  | credited id tenant_id reference =>
      obtain ⟨e, he, htopup⟩ := h
      exact ⟨e, hd ▸ List.mem_append_left _ he, htopup⟩

end CreditStage

/-- The accounts stay, and no reference is used twice. -/
def contract (d₀ : Store) : Contract CreditStage UUID where
  rules := rules
  base d := d.users = d₀.users ∧ d.tenants = d₀.tenants ∧ UniqueReferences d
  own d l g := g.Fact d l
  token := CreditStage.token

variable {d₀ d d' : Store} {l l' : RunLocal} {g : CreditStage} {ks : List UUID} {u : User}
  {amount new_balance : Decimal} {reference : Json} {n : ℕ}

theorem isOk_iff {α : Type} {x : Except Exn α} : x.isOk = true ↔ ∃ a, x = .ok a := by
  cases x <;> simp [Except.isOk, Except.toBool]

/-- What is stored for a storable top-up. -/
theorem Storable.stored (h : Storable amount reference) :
    (∃ a, moneyParam amount = .ok a) ∧ ∃ text, textParam (some 100) reference = .ok (some text) := by
  obtain ⟨hamount, hreference⟩ := h
  refine ⟨isOk_iff.mp hamount, ?_⟩
  obtain ⟨text, htext⟩ := isOk_iff.mp hreference
  obtain ⟨o, ho, htext⟩ := Except.bind_eq_ok.mp htext
  cases o with
  | none => cases htext
  | some s => exact ⟨s, ho⟩

/-- Giving up whatever the top-up has reached. -/
theorem moves_free (hb : (contract d₀).base d) : (contract d₀).Moves ks d d l g l' .free :=
  .forget hb trivial (.inl rfl) fun _ _ => trivial

/-- A statement that goes through on the store of the transaction cannot raise there. -/
theorem not_raises {log : List (Stmt × Env)} {s : Stmt} {e : Exn} {view : Store}
    (hview : machine.replay log d = some view)
    (hok : ∀ v, (Fits s ∧ Unhindered v d s) → ∃ a d', s.eval v view = .ok (a, d')) :
    ¬ (contract d₀).discipline.Raises log s d e := by
  rintro ⟨c, hinner, herr⟩
  cases c with
  | fail _ => cases hinner
  | run v =>
      obtain ⟨a, d', he⟩ := hok v (of_decide_eq_true hinner)
      have hraise := herr v view rfl hview
      change (s.exec v view).1 = .error e at hraise
      rw [Stmt.exec_eq_ok.mpr he] at hraise
      cases hraise

/-- The statements of a top-up before its entry. -/
def readLog (u : User) (v v' : Env) : List (Stmt × Env) :=
  [(.lock_user u.id u.tenant_id, v), (.select_balance u.id u.tenant_id, v')]

theorem replay_readLog (u : User) (v v' : Env) (d : Store) :
    machine.replay (readLog u v v') d = some d := rfl

/-- The reseller is found, and the row is locked. -/
theorem wp_lock_user (hu : u ∈ d₀.users) (hl : l.txn = .active []) : (contract d₀).wp
    (fun r l' g' => ∃ row, r = .ok (some row) ∧ g' = .locked u.id ∧
      ∃ v, l'.txn = .active [(.lock_user u.id u.tenant_id, v)])
    (exec (.lock_user u.id u.tenant_id)) l .free := by
  refine wp_logged rfl hl (fun d e _ _ hr => ?_) ?_
  · exact absurd hr (not_raises (show _ = some d from rfl) fun v _ => ⟨_, _, rfl⟩)
  intro d v view a d' hb _ hview he
  cases hview
  have hheld : u.id ∈ machine.held
      { l with txn := .active [(Stmt.lock_user u.id u.tenant_id, v)] } := by
    simp [Machine.held, machine, Stmt.locks]
  refine ⟨.locked u.id, .intro hb hheld (fun _ _ h₂ _ => h₂) ?_ (fun _ h => h) trivial, ?_⟩
  · intro t ht
    cases ht
    exact .inr fun l₂ g₂ h₂ hfree ht₂ =>
      hfree u.id (List.mem_singleton_self _) (CreditStage.Fact.held h₂ ht₂)
  · cases a with
    | some row => exact ⟨row, rfl, rfl, v, rfl⟩
    | none =>
        have hnone := congrArg Prod.fst (Except.ok.inj he)
        have := fetchrow_eq_none.mp hnone u (hb.1 ▸ hu)
        simp at this

theorem wp_get_wallet_balance {v : Env}
    (hl : l.txn = .active [(.lock_user u.id u.tenant_id, v)]) : (contract d₀).wp
    (fun r l' g' => ∃ balance v', r = .ok (walletBalance balance) ∧ g' = .locked u.id ∧
      l'.txn = .active (readLog u v v'))
    (get_wallet_balance u.id u.tenant_id) l (.locked u.id) := by
  refine wp_bind (wp_logged rfl hl (fun d e _ _ hr => ?_) ?_)
  · exact absurd hr (not_raises (show _ = some d from rfl) fun v _ => ⟨_, _, rfl⟩)
  intro d v' view a d' hb ho hview he
  refine ⟨.locked u.id, .stay hb ?_, ?_⟩
  · change u.id ∈ machine.held _
    simp [Machine.held, machine, Stmt.locks]
  · refine ⟨a, v', ?_, rfl, rfl⟩
    cases a <;> rfl

theorem wp_next_sequence_id : (contract d₀).wp
    (fun r l' g' => ∃ n, r = .ok n ∧ l' = l ∧ g' = g) (exec .next_sequence_id) l g := by
  refine wp_exec (.inl rfl) (fun d e _ _ hr => ?_) ?_
  · rcases hr with hr | ⟨v, -, he⟩
    · cases hr
    · cases he
  · intro d v n d' hb ho _ he
    cases he
    exact ⟨g, .intro hb (ho.append (List.append_nil _).symm (by simp))
      (fun l₂ g₂ h₂ _ => h₂.append (List.append_nil _).symm (by simp)) (fun _ h => .inl h)
      (fun _ h => h) trivial, d.last_sequence_id + 1, rfl, rfl, rfl⟩

/-- The wallet has its top-up under the reference, when the amount is positive. -/
def Credited (u : User) (amount : Decimal) (reference : Json) (g : CreditStage) : Prop :=
  Positive amount → ∃ text, reference = .str text ∧ g = .credited u.id u.tenant_id text

/-- The entry has been inserted. -/
def Entered (u : User) (amount : Decimal) (reference : Json) (l : RunLocal) (g : CreditStage) :
    Prop :=
  ∃ n new_balance text v v' v'' a b, g = .fresh u.id u.tenant_id text ∧
    moneyParam amount = .ok a ∧ moneyParam new_balance = .ok b ∧
    textParam (some 100) reference = .ok (some text) ∧
    l.txn = .active (LedgerLaw.entryLog u.id u.tenant_id
      (.insert_wallet_transaction n u.tenant_id u.id .topup amount new_balance reference) v v' v'')

theorem hasUser_of_mem (hb : (contract d₀).base d) (hu : u ∈ d₀.users) : d.hasUser u.id := by
  rw [Store.hasUser, hb.1]
  exact List.any_eq_true.mpr ⟨u, hu, by simp⟩

theorem hasTenant_of_mem (h₀ : Accounts d₀) (hb : (contract d₀).base d) (hu : u ∈ d₀.users) :
    d.hasTenant u.tenant_id := by
  have := h₀.tenant u hu
  rwa [Store.hasTenant, hb.2.1]

/-- A positive top-up that raises at its entry has its reference in the wallet already. -/
theorem credited_of_raises (h₀ : Accounts d₀) (hu : u ∈ d₀.users) {e : Exn} {v v' : Env}
    (hb : (contract d₀).base d) (hpos : Positive amount) (hstore : Storable amount reference)
    (hr : (contract d₀).discipline.Raises (readLog u v v')
      (.insert_wallet_transaction n u.tenant_id u.id .topup amount new_balance reference) d e) :
    ∃ text, reference = .str text ∧
      ∃ e ∈ d.wallet_transactions, IsTopup u.id u.tenant_id text e := by
  obtain ⟨⟨a, ha⟩, text, htext⟩ := hstore.stored
  refine ⟨text, textParam_eq_ok htext, ?_⟩
  by_contra hnone
  refine not_raises (replay_readLog u v v' d) (fun w hw => ?_) hr
  obtain ⟨hfits, hclear⟩ := hw
  obtain ⟨b, hb'⟩ := isOk_iff.mp (hfits hpos)
  refine ⟨_, _, Stmt.eval_insert_wallet_transaction_iff.mpr ⟨a, b, text, ha, hb', htext, ?_,
    hasTenant_of_mem h₀ hb hu, hasUser_of_mem hb hu, rfl, rfl⟩⟩
  intro e he
  refine ⟨(hclear hpos e he).1, fun href => hnone ⟨e, he, ?_⟩⟩
  have := (hclear hpos e he).2
  rw [textParam_eq_ok htext] at this
  exact href ▸ this (by simp [Json.eqText, href])

/-- The entry of a top-up: it is inserted, or an earlier one has its reference. -/
theorem wp_insert_wallet_transaction (h₀ : Accounts d₀) (hu : u ∈ d₀.users) {v v' : Env}
    (hstore : Positive amount → Storable amount reference)
    (hl : l.txn = .active (readLog u v v')) : (contract d₀).wp
    (fun r l' g' => match r with
      | .ok _ => Entered u amount reference l' g'
      | .error _ => Credited u amount reference g')
    (insert_wallet_transaction u.tenant_id u.id .topup amount new_balance reference) l
    (.locked u.id) := by
  refine wp_bind (wp_mono wp_next_sequence_id ?_)
  rintro _ l' _ ⟨n, rfl, rfl, rfl⟩
  refine wp_logged rfl hl (fun d e hb _ hr => ?_) ?_
  · by_cases hpos : Positive amount
    · obtain ⟨text, hreference, hfact⟩ := credited_of_raises h₀ hu hb hpos (hstore hpos) hr
      exact ⟨.credited u.id u.tenant_id text, .forget hb hfact (.inl rfl) fun _ h => h,
        fun _ => ⟨text, hreference, rfl⟩⟩
    · exact ⟨.free, moves_free hb, fun h => absurd h hpos⟩
  · intro d w view a d' hb ho hview he
    obtain rfl := Option.some.inj ((replay_readLog u v v' d).symm.trans hview)
    obtain ⟨a, b, text, ha, hb', htext, hclear, -⟩ :=
      Stmt.eval_insert_wallet_transaction_iff.mp he
    refine ⟨.fresh u.id u.tenant_id text, .intro hb ⟨?_, ?_⟩ (fun _ _ h₂ _ => h₂)
      (fun _ h => .inl h) (fun _ h => h) trivial, n, new_balance, text, v, v', w, a, b, rfl, ha,
      hb', htext, rfl⟩
    · simp [Machine.held, machine, Stmt.locks, readLog]
    · exact fun e he => (hclear e (List.mem_filter.mp he).1).2

/-- The sum of a balance and a positive storable number is a number. -/
theorem add_ok (hpos : Positive amount) (hstore : Storable amount reference)
    (balance : Option Money) :
    ∃ sum, defaultContext.add (walletBalance balance) amount = .ok sum := by
  cases amount with
  | infinity _ => exact hpos.elim
  | nan => exact hpos.elim
  | snan => exact hpos.elim
  | finite c e =>
      obtain ⟨⟨a, ha⟩, -⟩ := hstore.stored
      obtain ⟨he, hc, -⟩ := Column.store_finite_eq_some (moneyParam_eq_ok.mp ha)
      cases hb : walletBalance balance with
      | infinity _ => exact ⟨_, rfl⟩
      | nan => exact ⟨_, rfl⟩
      | snan =>
          rcases balance with _ | _ | _ <;> cases hb
      | finite b e' =>
          obtain ⟨hlt, rfl⟩ := WalletBalance.walletBalance_finite hb
          obtain ⟨r, e'', hadd, -⟩ := Context.store_add holds_default hlt hc he
          exact ⟨_, hadd⟩

theorem wp_topup_wallet (h₀ : Accounts d₀) (hu : u ∈ d₀.users)
    (hstore : Positive amount → Storable amount reference) (hl : l.txn = .active []) :
    (contract d₀).wp (fun r l' g' => match r with
      | .ok _ => Entered u amount reference l' g'
      | .error _ => Credited u amount reference g')
      (topup_wallet u.tenant_id u.id amount reference) l .free := by
  refine wp_bind (wp_mono (wp_lock_user hu hl) ?_)
  rintro _ l _ ⟨row, rfl, rfl, v, hl⟩
  simp only [Option.isNone_some, Bool.false_eq_true, if_false]
  refine wp_bind (wp_mono (wp_get_wallet_balance hl) ?_)
  rintro _ l _ ⟨balance, v', rfl, rfl, hl⟩
  refine wp_bind (wp_ofExcept ?_)
  cases hadd : defaultContext.add (walletBalance balance) amount with
  | ok new_balance => exact wp_insert_wallet_transaction h₀ hu hstore hl
  | error e =>
      intro hpos
      obtain ⟨sum, hsum⟩ := add_ok hpos (hstore hpos) balance
      rw [hadd] at hsum
      cases hsum

/-- A top-up that raises is given up, unless the wallet is credited already. -/
theorem moves_credited (hb : (contract d₀).base d) (ho : (contract d₀).own d l g)
    (hc : Credited u amount reference g) :
    ∃ g', (contract d₀).Moves ks d d l g { l with txn := .none } g' ∧
      Credited u amount reference g' := by
  by_cases hpos : Positive amount
  · obtain ⟨text, hreference, rfl⟩ := hc hpos
    exact ⟨_, .stay hb ho, fun _ => ⟨text, hreference, rfl⟩⟩
  · exact ⟨.free, moves_free hb, fun h => absurd h hpos⟩

/-- Inserting the entry credits the wallet, of which no other process has the lock. -/
theorem moves_entered {text : String} {v : Env} {row : WalletTransaction}
    (hb : (contract d₀).base d) (htext : textParam (some 100) reference = .ok (some text))
    (he : (Stmt.insert_wallet_transaction n u.tenant_id u.id .topup amount new_balance
      reference).eval v d = .ok (row, d')) :
    (contract d₀).Moves ks d d' l (.fresh u.id u.tenant_id text) l'
      (.credited u.id u.tenant_id text) := by
  obtain ⟨a, b, text', -, -, htext', hclear, -, -, hrow, rfl⟩ :=
    Stmt.eval_insert_wallet_transaction_iff.mp he
  obtain rfl : text = text' := by
    rw [htext] at htext'
    exact Option.some.inj (Except.ok.inj htext')
  have hreference : row.reference = text := by rw [hrow]
  refine .intro ⟨hb.1, hb.2.1, ?_⟩ ?_ ?_ nofun (fun _ h => h) trivial
  · have hnodup : (d.wallet_transactions.map (·.reference)).Nodup := hb.2.2
    exact nodup_map_concat _ hnodup fun e he => hreference ▸ (hclear e he).2
  · refine ⟨row, List.mem_append_right _ (List.mem_singleton_self _), ?_⟩
    rw [hrow]
    exact ⟨rfl, rfl, rfl, rfl⟩
  · intro l₂ g₂ h₂ hne
    refine h₂.append rfl fun e he => ?_
    obtain rfl := List.mem_singleton.mp he
    rw [hrow]
    exact hne u.id rfl

/-- A top-up that was entered commits: nobody else can use its reference in the wallet. -/
theorem replay_entered (h₀ : Accounts d₀) (hu : u ∈ d₀.users) {text : String} {v v' v'' : Env}
    {a b : Money} (hb : (contract d₀).base d)
    (ho : (contract d₀).own d l (.fresh u.id u.tenant_id text)) (hpos : Positive amount)
    (ha : moneyParam amount = .ok a) (hbalance : moneyParam new_balance = .ok b)
    (htext : textParam (some 100) reference = .ok (some text))
    (hallow : rules.allowsLog machine (LedgerLaw.entryLog u.id u.tenant_id
      (.insert_wallet_transaction n u.tenant_id u.id .topup amount new_balance reference)
      v v' v'') d) :
    ∃ d', machine.replay (LedgerLaw.entryLog u.id u.tenant_id
      (.insert_wallet_transaction n u.tenant_id u.id .topup amount new_balance reference)
      v v' v'') d = some d' := by
  have hclear : Clear v'' d u.id u.tenant_id reference := hallow.2.2.1 hpos
  refine ⟨_, replay_cons.mpr ⟨_, _, rfl, replay_cons.mpr ⟨_, _, rfl, replay_cons.mpr
    ⟨_, _, Stmt.eval_insert_wallet_transaction_iff.mpr ⟨a, b, text, ha, hbalance, htext, ?_,
      hasTenant_of_mem h₀ hb hu, hasUser_of_mem hb hu, rfl, rfl⟩, rfl⟩⟩⟩⟩
  intro e he
  refine ⟨(hclear e he).1, fun href => ?_⟩
  have htopup := (hclear e he).2
  rw [textParam_eq_ok htext] at htopup
  obtain ⟨-, hreseller, htenant, -⟩ := htopup (by simp [Json.eqText, href])
  exact ho.2 e (List.mem_filter.mpr ⟨he, by simp [hreseller, htenant]⟩) href

theorem wp_topup_transaction (h₀ : Accounts d₀) (hu : u ∈ d₀.users)
    (hstore : Positive amount → Storable amount reference) :
    (contract d₀).wp (fun _ _ g' => Credited u amount reference g')
      (Prog.transaction (topup_wallet u.tenant_id u.id amount reference)) l .free := by
  refine wp_transaction (fun d hb _ => moves_free hb)
    (wp_mono (wp_topup_wallet h₀ hu hstore rfl) ?_)
  rintro (e | row) l g hr
  · exact ⟨fun d e _ _ hb ho => moves_credited hb ho hr, nofun⟩
  obtain ⟨n, new_balance, text, v, v', v'', a, b, rfl, ha, hbalance, htext, htxn⟩ := hr
  constructor
  · intro d e _ hrefuses hb ho
    refine ⟨.free, moves_free hb, fun hpos => ?_⟩
    rcases hrefuses row _ rfl htxn with hlossy | ⟨hallow, hnone⟩
    · cases hlossy
    · obtain ⟨d', hd'⟩ := replay_entered h₀ hu hb ho hpos ha hbalance htext hallow
      change machine.replay _ _ = none at hnone
      rw [hd'] at hnone
      cases hnone
  · intro _ _ log hlog d d' hb ho hr _
    rw [htxn] at hlog
    cases hlog
    obtain ⟨_, d₁, he₁, hr₁⟩ := replay_cons.mp hr
    obtain ⟨_, d₂, he₂, hr₂⟩ := replay_cons.mp hr₁
    obtain ⟨row', d₃, he, hr₃⟩ := replay_cons.mp hr₂
    obtain rfl := Option.some.inj hr₃
    rw [Stmt.eval_read rfl he₂, Stmt.eval_read rfl he₁] at he
    exact ⟨_, moves_entered hb htext he, fun _ => ⟨text, textParam_eq_ok htext, rfl⟩⟩

/-- A positive number is no empty value. -/
theorem truthy_of_positive {x : Json} (hx : x.decimal = some amount) (hpos : Positive amount) :
    x.truthy = true := by
  cases x with
  | null => cases hx
  | bool _ => cases hx
  | int n =>
      cases hx
      have : (0 : ℤ) < n := hpos
      simp only [Json.truthy, bne_iff_ne]
      omega
  | float repr =>
      simp only [Json.truthy, Bool.and_eq_true, bne_iff_ne]
      constructor
      · rintro rfl
        obtain rfl : Decimal.finite 0 (-1) = amount := Option.some.inj hx
        exact absurd hpos (by decide)
      · rintro rfl
        obtain rfl : Decimal.finite 0 (-1) = amount := Option.some.inj hx
        exact absurd hpos (by decide)
  | str s =>
      simp only [Json.truthy, bne_iff_ne]
      rintro rfl
      cases hx
  | arr _ => cases hx
  | obj _ => cases hx

/-- The wallet that a positive confirmation names has its top-up. -/
def Acknowledged (d₀ : Store) (body : Json) (g : CreditStage) : Prop :=
  ∀ c, confirmation body = some c → Positive c.amount → ∀ u ∈ d₀.users, u.role = .reseller →
    u.wallet_reference = some c.bill_ref →
    ∃ text, c.trans_id = .str text ∧ g = .credited u.id u.tenant_id text

theorem wp_select_reseller {bill_ref : String} (hl : l.txn = .none) : (contract d₀).wp
    (fun r l' g' => l' = l ∧ g' = g ∧ ∀ u, r = .ok (some u) →
      u ∈ d₀.users ∧ u.wallet_reference = some bill_ref)
    (exec (.select_reseller bill_ref)) l g := by
  refine wp_exec (.inr hl) (fun d e hb ho _ => ⟨g, .stay hb ho, rfl, rfl, nofun⟩) ?_
  intro d v a d' hb ho _ he
  obtain rfl := Stmt.eval_read rfl he
  refine ⟨g, .stay hb ho, rfl, rfl, fun u hu => ?_⟩
  cases hu
  obtain ⟨_, -, he⟩ := Except.bind_eq_ok.mp he
  obtain ⟨hmem, hp⟩ := fetchrow_eq_some (congrArg Prod.fst (Except.ok.inj he))
  simp only [Bool.and_eq_true, beq_iff_eq] at hp
  exact ⟨hb.1 ▸ hmem, hp.1⟩

theorem wp_process_daraja_c2b_webhook (h₀ : Accounts d₀) {body : Json}
    (hstore : ∀ c, confirmation body = some c → Positive c.amount →
      Storable c.amount c.trans_id) : (contract d₀).wp
    (fun r _ g => ∀ ack, r = .ok ack → ack.ResultCode = 0 → Acknowledged d₀ body g)
    (process_daraja_c2b_webhook body) {} .free := by
  refine wp_get (fun _ _ => nofun) fun trans_type htype => ?_
  refine wp_get (fun _ _ => nofun) fun bill_ref hbill => ?_
  refine wp_get (fun _ _ => nofun) fun trans_id hid => ?_
  refine wp_get (fun _ _ => nofun) fun trans_amount hamount => ?_
  split
  · rintro _ ⟨⟩ ⟨⟩
  cases bill_ref with
  | str s =>
      have hconfirms : confirmation body = if trans_type.eqText "Pay Bill Validation" ||
          !trans_id.truthy then none else trans_amount.decimal.map fun amount =>
            { bill_ref := String.ofList (upper (strip s.toList)), trans_id, amount } := by
        simp only [confirmation, htype, hbill, hid, hamount]
      change (contract d₀).wp _ (exec (.select_reseller (String.ofList (upper (strip s.toList))))
        >>= _) {} .free
      refine wp_bind (wp_mono (wp_select_reseller rfl) ?_)
      rintro (e | reseller) _ _ ⟨rfl, rfl, hreseller⟩
      · exact fun _ => nofun
      cases reseller with
      | none => rintro _ ⟨⟩ ⟨⟩
      | some reseller =>
          obtain ⟨hmem, hwallet⟩ := hreseller reseller rfl
          dsimp only
          split
          · next hvalidation =>
              intro _ _ _ c hc
              rw [hconfirms, if_pos (by simp [hvalidation])] at hc
              cases hc
          split
          · next hmissing =>
              intro _ _ _ c hc hpos
              rw [hconfirms] at hc
              split at hc
              · cases hc
              · next hpresent =>
                  obtain ⟨amount, hdecimal, rfl⟩ := Option.map_eq_some_iff.mp hc
                  have := truthy_of_positive hdecimal hpos
                  simp_all
          split
          · exact fun _ => nofun
          · next hvalidation hpresent _ amount hdecimal =>
              have hc : confirmation body = some
                  ⟨String.ofList (upper (strip s.toList)), trans_id, amount⟩ := by
                rw [hconfirms, if_neg (by simp_all), hdecimal]
                rfl
              have hcredit : (contract d₀).wp (fun _ _ g => Acknowledged d₀ body g)
                  (Prog.transaction (topup_wallet reseller.tenant_id reseller.id amount trans_id))
                  {} .free := by
                refine wp_mono (wp_topup_transaction h₀ hmem (hstore _ hc)) ?_
                intro _ _ g hg c hc' hpos u hu _ huser
                rw [hc] at hc'
                cases hc'
                obtain rfl := h₀.wallet u hu reseller hmem _ huser hwallet
                exact hg hpos
              refine wp_mono (wp_swallow (I := fun _ g => Acknowledged d₀ body g)
                (wp_then hcredit (fun _ _ _ h => h) fun _ _ _ h => h)) ?_
              exact fun _ _ _ h _ _ _ => h
  | _ => exact fun _ => nofun

/-- A callback that keeps its body with its answer. -/
def answer (body : Json) : M (Json × Ack) := do
  let ack ← process_daraja_c2b_webhook body
  return (body, ack)

/-- The system of the callbacks. -/
def answering : System Stmt Stmt.Res Frame Exn Store Env UUID (Json × Ack) Spawn :=
  { machine with start := fun w d => match w with
      | .c2b_webhook body => some (d, answer body)
      | _ => none }

/-- The bodies that have been answered, with their answers. -/
def answers (s : State Stmt Stmt.Res Frame Exn Store Env (Json × Ack)) : List (Json × Ack) :=
  s.procs.filterMap fun p => match p.prog with
    | .ret (.ok a) => some a
    | _ => none

/-- What an answered callback has achieved. -/
def Settled (d₀ : Store) (r : Except Exn (Json × Ack)) (g : CreditStage) : Prop :=
  ∀ body ack, r = .ok (body, ack) → ack.ResultCode = 0 → Acknowledged d₀ body g

theorem valid_of_reaches {d : Store} (h₀ : Accounts d) (hr : UniqueReferences d)
    {s : State Stmt Stmt.Res Frame Exn Store Env (Json × Ack)}
    (hs : Reaches answering rules { store := d } s) :
    Valid (contract d).discipline.protocol (fun r _ g => Settled d r g) s := by
  have hstart : Valid (A := Json × Ack) (contract d).discipline.protocol
      (fun r _ g => Settled d r g) { store := d } :=
    Valid.start (.empty ⟨rfl, rfl, hr⟩ trivial)
  refine (Valid.reaches rfl hstart ?_ ?_ hs).1
  · rintro w d₁ d' p ls hi ⟨body, rfl, hstore⟩ hp
    cases hp
    have hstarts : (contract d).Starts d₁ d₁ .free :=
      ⟨hi.base, trivial, rfl, fun _ _ h => h, fun _ h => h, trivial⟩
    refine ⟨.free, hstarts.keeps hi, ?_⟩
    change (contract d).wp (fun r _ g => Settled d r g) (answer body) {} .free
    refine wp_then (wp_process_daraja_c2b_webhook h₀ hstore) (fun _ _ _ _ => nofun) ?_
    rintro ack l g hack body' ack' ⟨⟩
    exact hack ack rfl
  · intro d₁ d' ls hi he
    have hsame : d'.wallet_transactions = d₁.wallet_transactions := he .wallet_transactions (by simp)
    refine ⟨⟨⟨?_, ?_, ?_⟩, fun x hx => ?_, hi.apart, trivial⟩, trivial⟩
    · exact (he .users (by simp)).trans hi.base.1
    · exact (he .tenants (by simp)).trans hi.base.2.1
    · rw [UniqueReferences, hsame]
      exact hi.base.2.2
    · exact (hi.own x hx).append (hsame.trans (List.append_nil _).symm) (by simp)

/-- A reference that is used is used once. -/
theorem credits_eq_one {d : Store} {reseller_id tenant_id : UUID} {reference : String}
    (hr : UniqueReferences d)
    (h : ∃ e ∈ d.wallet_transactions, IsTopup reseller_id tenant_id reference e) :
    credits d reseller_id tenant_id reference = 1 := by
  obtain ⟨e, he, htopup⟩ := h
  have hpos : 0 < credits d reseller_id tenant_id reference :=
    List.countP_pos_iff.mpr ⟨e, he, by simpa using htopup⟩
  have hle : credits d reseller_id tenant_id reference ≤
      (d.wallet_transactions.map (·.reference)).count reference := by
    rw [List.count, List.countP_map]
    refine List.countP_mono_left fun e' _ h' => ?_
    simpa using (of_decide_eq_true h').2.2.2
  have hone := List.nodup_iff_count_le_one.mp hr reference
  omega

/-- In any run whose top-ups raise for nothing but the reference of an earlier one, an acknowledged
confirmation of a positive amount to the wallet of a reseller is credited there exactly once. -/
theorem credited_once {d : Store} (h₀ : Accounts d) (hr : UniqueReferences d)
    {s : State Stmt Stmt.Res Frame Exn Store Env (Json × Ack)}
    (hs : Reaches answering rules { store := d } s) {body : Json} {ack : Ack}
    (hanswer : (body, ack) ∈ answers s) (hack : ack.ResultCode = 0) {c : Confirmation}
    (hc : confirmation body = some c) (hpos : Positive c.amount) {u : User}
    (hu : u ∈ s.store.users) (hrole : u.role = .reseller)
    (hwallet : u.wallet_reference = some c.bill_ref) :
    ∃ reference, c.trans_id = .str reference ∧
      credits s.store u.id u.tenant_id reference = 1 := by
  obtain ⟨ann, hann, hi, hwp⟩ := valid_of_reaches h₀ hr hs
  obtain ⟨p, hp, hret⟩ := List.mem_filterMap.mp hanswer
  obtain ⟨⟨p, g⟩, hmem, rfl⟩ := List.mem_map.mp (hann ▸ hp)
  have hprog : p.prog = .ret (.ok (body, ack)) := by
    split at hret
    · next hprog => rw [hprog, Option.some.inj hret]
    · cases hret
  have hsettled : Settled d (.ok (body, ack)) g := by
    have := hwp _ hmem
    simp only [hprog] at this
    exact this
  obtain ⟨reference, hreference, rfl⟩ := hsettled body ack rfl hack c hc hpos u (hi.base.1 ▸ hu)
    hrole hwallet
  refine ⟨reference, hreference, credits_eq_one hi.base.2.2 ?_⟩
  exact hi.own (p.loc, _) (Multiset.mem_coe.mpr (List.mem_map_of_mem hmem))

section Decidable

variable (s : Stmt) (c : Choice Exn Env) (w : Spawn) (d d' : Store)

instance : Decidable (callbacks.stmt s c d) := .isTrue trivial

instance : Decidable (callbacks.spawn w d) :=
  match w with
  | .c2b_webhook body => .isTrue ⟨body, rfl⟩
  | .daraja_webhook .. | .poll | .reconcile | .job .. | .generate_voucher .. | .stk_push ..
  | .hotspot_payment .. | .free_trial .. | .platform_billing .. | .tenant_billing
  | .reseller_voucher .. | .topup .. | .debit .. => .isFalse nofun

instance : Decidable (callbacks.edit d d') :=
  inferInstanceAs (Decidable (∀ T ∈ _, _))

instance : Decidable (rules.stmt s c d) :=
  match c with
  | .fail _ => inferInstanceAs (Decidable (_ = false))
  | .run v => inferInstanceAs (Decidable (Unhindered v d s))

instance : Decidable (rules.spawn w d) :=
  match w with
  | .c2b_webhook body =>
      decidable_of_iff (∀ c ∈ confirmation body, Positive c.amount →
        Storable c.amount c.trans_id) (by simp [rules])
  | .daraja_webhook .. | .poll | .reconcile | .job .. | .generate_voucher .. | .stk_push ..
  | .hotspot_payment .. | .free_trial .. | .platform_billing .. | .tenant_billing
  | .reseller_voucher .. | .topup .. | .debit .. => .isFalse nofun

instance : Decidable (rules.edit d d') := inferInstanceAs (Decidable (callbacks.edit d d'))

end Decidable

theorem accounts_kiosk : Accounts kiosk where
  tenant := by decide
  wallet u hu u' hu' bill_ref h h' := by
    simp only [kiosk, List.mem_cons, List.not_mem_nil, or_false] at hu hu'
    rcases hu with rfl | rfl
    · cases h
    · rcases hu' with rfl | rfl
      · cases h'
      · rfl

theorem uniqueReferences_kiosk : UniqueReferences kiosk := List.nodup_singleton _

/-- A confirmation that is sent twice. -/
theorem credited_once_after_repetition : ∃ s,
    answers s = [(paybill "QK7" "20.00", completed), (paybill "QK7" "20.00", completed)] ∧
      credits s.store 5 1 "QK7" = 1 := by
  obtain ⟨s, hs, hv⟩ := Reaches.of_moves_state (Y := answering) (ρ := rules) { store := kiosk }
    (paybillRun "QK7" "20.00" ++ .spawn (.c2b_webhook (paybill "QK7" "20.00")) :: stepsOf 5 1 ++
      [stepOf 1 { uuid := 10 }, stepOf 1 {}])
    (fun s => (answers s, s.store.users))
    ([(paybill "QK7" "20.00", completed), (paybill "QK7" "20.00", completed)],
      [customer, reseller]) (by decide +kernel) rfl
  obtain ⟨hanswers, husers⟩ := Prod.mk.inj hv
  obtain ⟨reference, hreference, hcredits⟩ := credited_once accounts_kiosk uniqueReferences_kiosk hs
    (hanswers ▸ List.mem_cons_self) rfl (c := ⟨"WSABCDE", .str "QK7", .finite 2000 (-2)⟩) rfl
    (by decide) (u := reseller) (by simp [husers]) rfl rfl
  cases hreference
  exact ⟨s, hanswers, hcredits⟩

/-- The reseller's row cannot be locked, and the confirmation is acknowledged all the same. -/
theorem not_credited_once : ¬ ∀ (d : Store), Accounts d → UniqueReferences d →
    ∀ s, Reaches answering callbacks { store := d } s → ∀ body ack, (body, ack) ∈ answers s →
    ack.ResultCode = 0 → ∀ c, confirmation body = some c → Positive c.amount →
    ∀ u ∈ s.store.users, u.role = .reseller → u.wallet_reference = some c.bill_ref →
    ∃ reference, c.trans_id = .str reference ∧
      credits s.store u.id u.tenant_id reference = 1 := by
  intro h
  obtain ⟨s, hs, hv⟩ := Reaches.of_moves_state (Y := answering) (ρ := callbacks)
    { store := kiosk }
    (.spawn (.c2b_webhook (paybill "QK7" "20.00")) :: stepsOf 2 0 ++
      [.step 0 (.fail (.database "connection was closed")), stepOf 0 {}])
    (fun s => (answers s, s.store.users, credits s.store 5 1 "QK7"))
    ([(paybill "QK7" "20.00", completed)], [customer, reseller], 0) (by decide +kernel) rfl
  obtain ⟨hanswers, hrest⟩ := Prod.mk.inj hv
  obtain ⟨husers, hcredits⟩ := Prod.mk.inj hrest
  obtain ⟨reference, hreference, hone⟩ := h kiosk accounts_kiosk uniqueReferences_kiosk s hs _ _
    (hanswers ▸ List.mem_cons_self) rfl ⟨"WSABCDE", .str "QK7", .finite 2000 (-2)⟩ rfl (by decide)
    reseller (by simp [husers]) rfl rfl
  cases hreference
  exact absurd (hcredits.symm.trans hone) (by decide)

end PaybillCredit

end FrixelConnect
