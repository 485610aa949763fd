import FrixelConnect.Specs.Sale

/-!
# The discipline of the wallet ledger

A wallet transaction locks the reseller's row, reads the balance, draws a sequence
number and inserts its entry. Nobody else writes to the wallet while the row is
locked, so at the commit the balance is still the one that was read, and the
number is above every number of the wallet.
-/

namespace FrixelConnect

open Decimals Python Interleaving Contract

/-- `balance_after` of the last entry of a wallet. -/
def Store.balance (d : Store) (reseller_id tenant_id : UUID) : Option Money :=
  (lastEntry (d.ledger reseller_id tenant_id)).map (·.balance_after)

/-- The balance that `get_wallet_balance` returns for the last entry. -/
def walletBalance : Option Money → Decimal
  | some balance => balance.load
  | none => .finite 0 (-2)

/-- How far a wallet transaction has come. -/
inductive WalletStage where
  | free
  | locked (reseller_id : UUID)
  | read (reseller_id tenant_id : UUID) (balance : Option Money)
  | drawn (reseller_id tenant_id : UUID) (balance : Option Money) (sequence_id : ℕ)

namespace WalletStage

/-- The reseller whose row is locked. -/
def token : WalletStage → Option UUID
  | .free => none
  | .locked id => some id
  | .read id _ _ => some id
  | .drawn id _ _ _ => some id

/-- What the stage says about the store. -/
def Fact (d : Store) (l : RunLocal) : WalletStage → Prop
  | .free => True
  | .locked id => id ∈ machine.held l
  | .read id tenant_id balance => id ∈ machine.held l ∧ d.balance id tenant_id = balance
  | .drawn id tenant_id balance n => id ∈ machine.held l ∧ d.balance id tenant_id = balance ∧
      (∀ e ∈ d.ledger id tenant_id, e.sequence_id < n) ∧ n ≤ d.last_sequence_id

/-- The process holds the lock that its stage names. -/
theorem Fact.held {d : Store} {l : RunLocal} {g : WalletStage} {id : UUID} (h : g.Fact d l)
    (ht : g.token = some id) : id ∈ machine.held l := by
  cases g with
  | free => cases ht
  | locked _ => cases ht; exact h
  | read _ _ _ => cases ht; exact h.1
  | drawn _ _ _ _ => cases ht; exact h.1

/-- Holding more keys keeps what the stage says. -/
theorem Fact.grow {d : Store} {l l' : RunLocal} {g : WalletStage} (h : g.Fact d l)
    (hl : ∀ k ∈ machine.held l, k ∈ machine.held l') : g.Fact d l' := by
  cases g with
  | free => trivial
  | locked _ => exact hl _ h
  | read _ _ _ => exact ⟨hl _ h.1, h.2⟩
  | drawn _ _ _ _ => exact ⟨hl _ h.1, h.2⟩

/-- What the stage says depends on the wallet and on the numbers drawn. -/
theorem Fact.mono {d d' : Store} {l : RunLocal} {g : WalletStage} (h : g.Fact d l)
    (hledger : ∀ id tenant_id, g.token = some id →
      d'.ledger id tenant_id = d.ledger id tenant_id)
    (hseq : d.last_sequence_id ≤ d'.last_sequence_id) : g.Fact d' l := by
  cases g with
  | free => trivial
  | locked _ => exact h
  | read id tenant_id balance =>
      refine ⟨h.1, ?_⟩
      rw [Store.balance, hledger id tenant_id rfl]
      exact h.2
  | drawn id tenant_id balance n =>
      refine ⟨h.1, ?_, ?_, h.2.2.2.trans hseq⟩
      · rw [Store.balance, hledger id tenant_id rfl]
        exact h.2.1
      · rw [hledger id tenant_id rfl]
        exact h.2.2.1

end WalletStage

/-- The numbers of the ledger: each wallet is in their order, and none is above the last one
drawn. -/
structure Numbered (d : Store) : Prop where
  bound : ∀ e ∈ d.wallet_transactions, e.sequence_id ≤ d.last_sequence_id
  increasing : ∀ reseller_id tenant_id,
    (d.ledger reseller_id tenant_id).Pairwise (·.sequence_id < ·.sequence_id)

/-- The new balance is computed from the balance and the amount. -/
def Computed (type : TransactionType) (balance amount new_balance : Decimal) : Prop :=
  match type with
  | .topup => defaultContext.add balance amount = .ok new_balance
  | .debit => balance.lt amount = .ok false ∧ defaultContext.sub balance amount = .ok new_balance
  | .adjustment => False

/-- A fold that keeps its best row or takes the next one ends with one of them. -/
theorem mem_of_foldl_choose {f : Option WalletTransaction → WalletTransaction →
      Option WalletTransaction} (hf : ∀ acc w, f acc w = acc ∨ f acc w = some w)
    {rows : List WalletTransaction} {acc : Option WalletTransaction} {best : WalletTransaction}
    (h : rows.foldl f acc = some best) : acc = some best ∨ best ∈ rows := by
  induction rows generalizing acc with
  | nil => exact .inl h
  | cons w rows ih =>
      rcases ih h with hacc | hmem
      · rcases hf acc w with heq | heq
        · exact .inl (heq.symm.trans hacc)
        · have hw : w = best := Option.some.inj (heq.symm.trans hacc)
          exact .inr (hw ▸ List.mem_cons_self)
      · exact .inr (List.mem_cons_of_mem _ hmem)

theorem lastEntry_concat {rows : List WalletTransaction} {e : WalletTransaction}
    (h : ∀ e' ∈ rows, e'.sequence_id < e.sequence_id) : lastEntry (rows ++ [e]) = some e := by
  have hlast : ∀ best, lastEntry rows = some best → best ∈ rows := by
    intro best hb
    refine (mem_of_foldl_choose ?_ hb).resolve_left (by simp)
    intro acc w
    cases acc with
    | none => exact .inr rfl
    | some b =>
        by_cases hlt : b.sequence_id < w.sequence_id
        · exact .inr (if_pos hlt)
        · exact .inl (if_neg hlt)
  cases hb : lastEntry rows with
  | none =>
      rw [lastEntry] at hb
      rw [lastEntry, List.foldl_append, hb]
      rfl
  | some best =>
      have hlt := h best (hlast best hb)
      rw [lastEntry] at hb
      rw [lastEntry, List.foldl_append, hb]
      exact if_pos hlt

/-- A new entry belongs to one wallet. -/
theorem ledger_append {d d' : Store} {e : WalletTransaction}
    (h : d'.wallet_transactions = d.wallet_transactions ++ [e]) (reseller_id tenant_id : UUID) :
    d'.ledger reseller_id tenant_id = d.ledger reseller_id tenant_id ++
      if e.reseller_id = reseller_id ∧ e.tenant_id = tenant_id then [e] else [] := by
  simp only [Store.ledger, h, List.filter_append]
  by_cases he : e.reseller_id = reseller_id ∧ e.tenant_id = tenant_id
  · simp [he]
  · rw [if_neg he, List.filter_cons_of_neg (by simpa using he), List.filter_nil]

/-- An entry above all numbers of its wallet, and below the last one drawn. -/
theorem Numbered.append {d d' : Store} {e : WalletTransaction} (hn : Numbered d)
    (h : d'.wallet_transactions = d.wallet_transactions ++ [e])
    (hseq : d'.last_sequence_id = d.last_sequence_id)
    (hlast : e.sequence_id ≤ d.last_sequence_id)
    (hnew : ∀ e' ∈ d.ledger e.reseller_id e.tenant_id, e'.sequence_id < e.sequence_id) :
    Numbered d' where
  bound e' he' := by
    rw [h] at he'
    rw [hseq]
    rcases List.mem_append.mp he' with he' | he'
    · exact hn.bound e' he'
    · rwa [List.mem_singleton.mp he']
  increasing reseller_id tenant_id := by
    rw [ledger_append h]
    split
    · next he =>
        obtain ⟨rfl, rfl⟩ := he
        rw [List.pairwise_append]
        exact ⟨hn.increasing _ _, List.pairwise_singleton _ _, by simpa using hnew⟩
    · rw [List.append_nil]
      exact hn.increasing _ _

/-- The tables apart from the ledger and its sequence. -/
def ledgerFree : List Table :=
  [.tenants, .users, .packages, .payments, .platform_payments, .vouchers, .radcheck, .radreply,
    .queue, .pushes]

/-- A property of all wallets: the rules of the runs, and an invariant of the ledger. -/
structure LedgerLaw where
  rules : RunRules
  inv : List WalletTransaction → Prop

namespace LedgerLaw

variable (𝓛 : LedgerLaw)

def contract : Contract WalletStage UUID where
  rules := 𝓛.rules
  base d := Numbered d ∧ 𝓛.inv d.wallet_transactions
  own d l g := g.Fact d l
  token := WalletStage.token

/-- What has to be shown for one law: an entry that is computed from the balance keeps it. -/
def Lawful : Prop := ∀ {d d' : Store} {v : Env} {n : ℕ} {tenant_id reseller_id : UUID}
  {type : TransactionType} {amount new_balance : Decimal} {reference : Json}
  {row : WalletTransaction}, Numbered d → 𝓛.inv d.wallet_transactions →
  Computed type (walletBalance (d.balance reseller_id tenant_id)) amount new_balance →
  𝓛.rules.stmt (.insert_wallet_transaction n tenant_id reseller_id type amount new_balance
    reference) (.run v) d →
  (Stmt.insert_wallet_transaction n tenant_id reseller_id type amount new_balance
    reference).eval v d = .ok (row, d') →
  (∀ e ∈ d.ledger reseller_id tenant_id, e.sequence_id < n) → 𝓛.inv d'.wallet_transactions

variable {𝓛} {d d' : Store} {l l' : RunLocal} {g : WalletStage} {ks : List UUID}
  {reseller_id tenant_id : UUID} {balance : Option Money} {n : ℕ}

/-- A step that leaves the ledger and the sequence alone. -/
theorem ignores : 𝓛.contract.Ignores ledgerFree := by
  have hsame {d d' : Store} (hs : ∀ T, T ∉ ledgerFree → d'.Same d T) :
      d'.wallet_transactions = d.wallet_transactions ∧
        d'.last_sequence_id = d.last_sequence_id :=
    ⟨hs .wallet_transactions (by simp [ledgerFree]), hs .last_sequence_id (by simp [ledgerFree])⟩
  constructor
  · intro d d' hs hb
    obtain ⟨hw, hq⟩ := hsame hs
    refine ⟨⟨?_, fun r t => ?_⟩, ?_⟩
    · rw [hw, hq]
      exact hb.1.bound
    · rw [Store.ledger, hw]
      exact hb.1.increasing r t
    · rw [hw]
      exact hb.2
  · intro d d' l g hs ho
    obtain ⟨hw, hq⟩ := hsame hs
    exact WalletStage.Fact.mono ho (fun _ _ _ => by rw [Store.ledger, hw, Store.ledger]) hq.ge
  · exact fun _ _ => trivial
  · exact fun _ => trivial

/-- Giving up whatever the transaction has reached. -/
theorem moves_free (hb : 𝓛.contract.base d) : 𝓛.contract.Moves ks d d l g l' .free :=
  .forget hb trivial (.inl rfl) fun _ _ => trivial

theorem grows (g : WalletStage) : 𝓛.contract.discipline.Grows g := fun _ _ _ ho hl => ho.grow hl

section Steps

/-- The row of the reseller is locked. -/
def Locked (reseller_id tenant_id : UUID) (l : RunLocal) (g : WalletStage) : Prop :=
  g = .locked reseller_id ∧ ∃ v, l.txn = .active [(.lock_user reseller_id tenant_id, v)]

/-- The balance `x` has been read. -/
def Read (reseller_id tenant_id : UUID) (x : Decimal) (l : RunLocal) (g : WalletStage) : Prop :=
  ∃ balance v v', g = .read reseller_id tenant_id balance ∧ x = walletBalance balance ∧
    l.txn = .active [(.lock_user reseller_id tenant_id, v),
      (.select_balance reseller_id tenant_id, v')]

/-- The statements of a wallet transaction. -/
def entryLog (reseller_id tenant_id : UUID) (insert : Stmt) (v v' v'' : Env) :
    List (Stmt × Env) :=
  [(.lock_user reseller_id tenant_id, v), (.select_balance reseller_id tenant_id, v'),
    (insert, v'')]

/-- The entry has been inserted. -/
def Entered (reseller_id tenant_id : UUID) (type : TransactionType) (amount : Decimal)
    (reference : Json) (l : RunLocal) (g : WalletStage) : Prop :=
  ∃ balance n new_balance v v' v'', g = .drawn reseller_id tenant_id balance n ∧
    Computed type (walletBalance balance) amount new_balance ∧
    l.txn = .active (entryLog reseller_id tenant_id (.insert_wallet_transaction n tenant_id
      reseller_id type amount new_balance reference) v v' v'')

theorem wp_lock_user (hl : l.txn = .active []) : 𝓛.contract.wp
    (fun r l' g' => ∀ a, r = .ok a → Locked reseller_id tenant_id l' g')
    (exec (.lock_user reseller_id tenant_id)) l .free := by
  refine wp_logged rfl hl (fun d e hb _ _ => ⟨.free, moves_free hb, nofun⟩) ?_
  intro d v view a d' hb _ _ _
  have hheld : reseller_id ∈ machine.held
      { l with txn := .active [(Stmt.lock_user reseller_id tenant_id, v)] } := by
    simp [Machine.held, machine, Stmt.locks]
  refine ⟨.locked reseller_id, .intro hb hheld (fun _ _ h₂ _ => h₂) ?_ (fun _ h => h) trivial,
    fun _ _ => ⟨rfl, v, rfl⟩⟩
  intro t ht
  cases ht
  exact .inr fun l₂ g₂ h₂ hfree ht₂ =>
    hfree reseller_id (List.mem_singleton_self _) (WalletStage.Fact.held h₂ ht₂)

theorem wp_get_wallet_balance (hl : Locked reseller_id tenant_id l g) : 𝓛.contract.wp
    (fun r l' g' => ∀ x, r = .ok x → Read reseller_id tenant_id x l' g')
    (get_wallet_balance reseller_id tenant_id) l g := by
  obtain ⟨rfl, v, hl⟩ := hl
  refine wp_bind (wp_logged rfl hl (fun d e hb _ _ => ⟨.free, moves_free hb, nofun⟩) ?_)
  intro d v' view a d' hb ho hview he
  obtain ⟨_, d₁, he₁, hend⟩ := replay_cons.mp hview
  cases hend
  obtain rfl := Stmt.eval_read rfl he₁
  cases he
  have hfact : (WalletStage.read reseller_id tenant_id (view.balance reseller_id tenant_id)).Fact
      view { l with txn := .active [(.lock_user reseller_id tenant_id, v),
        (.select_balance reseller_id tenant_id, v')] } := by
    refine ⟨?_, rfl⟩
    simp [Machine.held, machine, Stmt.locks]
  refine ⟨.read reseller_id tenant_id (view.balance reseller_id tenant_id), .intro hb hfact (fun _ _ h₂ _ => h₂) (fun t ht => .inl ht) (fun _ h => h) trivial,
    fun x hx => ⟨view.balance reseller_id tenant_id, v, v', rfl, ?_, rfl⟩⟩
  cases hx
  rw [Store.balance]
  generalize Option.map _ _ = balance
  cases balance <;> rfl

theorem wp_next_sequence_id {x : Decimal} (hl : Read reseller_id tenant_id x l g) : 𝓛.contract.wp
    (fun r l' g' => ∀ n, r = .ok n → l' = l ∧ ∃ balance, x = walletBalance balance ∧
      g' = .drawn reseller_id tenant_id balance n) (exec .next_sequence_id) l g := by
  obtain ⟨balance, v, v', rfl, hx, hl⟩ := hl
  refine wp_exec (.inl rfl) (fun d e hb ho _ => ⟨_, .stay hb ho, nofun⟩) ?_
  intro d v n d' hb ho _ he
  cases he
  refine ⟨.drawn reseller_id tenant_id balance (d.last_sequence_id + 1), .intro ?_ ?_ ?_
    (fun t ht => .inl ht) (fun _ h => h) trivial, fun n hn => ⟨rfl, balance, hx, ?_⟩⟩
  · exact ⟨⟨fun e he => (hb.1.bound e he).trans (Nat.le_succ _), hb.1.increasing⟩, hb.2⟩
  · refine ⟨ho.1, ho.2, fun e he => ?_, le_rfl⟩
    exact Nat.lt_succ_of_le (hb.1.bound e (List.mem_filter.mp he).1)
  · exact fun l₂ g₂ h₂ _ => WalletStage.Fact.mono h₂ (fun _ _ _ => rfl) (Nat.le_succ _)
  · cases hn
    rfl

theorem wp_insert_wallet_transaction {type : TransactionType} {x amount new_balance : Decimal}
    {reference : Json} (hl : Read reseller_id tenant_id x l g)
    (hnew : Computed type x amount new_balance) : 𝓛.contract.wp
    (fun r l' g' => ∀ a, r = .ok a → Entered reseller_id tenant_id type amount reference l' g')
    (insert_wallet_transaction tenant_id reseller_id type amount new_balance reference) l g := by
  obtain ⟨v, v', htxn⟩ : ∃ v v', l.txn = .active [(.lock_user reseller_id tenant_id, v),
      (.select_balance reseller_id tenant_id, v')] := by
    obtain ⟨_, v, v', -, -, h⟩ := hl
    exact ⟨v, v', h⟩
  refine wp_bind (wp_mono (wp_next_sequence_id hl) ?_)
  rintro (e | n) l' g' hn
  · exact nofun
  obtain ⟨rfl, balance, rfl, rfl⟩ := hn n rfl
  refine wp_logged rfl htxn (fun d e hb _ _ => ⟨.free, moves_free hb, nofun⟩) ?_
  intro d v'' view a d' hb ho hview he
  have hgrows : 𝓛.contract.discipline.Grows (.drawn reseller_id tenant_id balance n) := grows _
  refine ⟨_, .stay hb (hgrows _ _ _ ho fun k hk => ?_), fun a _ =>
    ⟨balance, n, new_balance, v, v', v'', rfl, hnew, rfl⟩⟩
  simp only [Machine.held, htxn] at hk
  simp only [Machine.held, List.flatMap_append, List.mem_append]
  exact .inl hk

theorem wp_topup_wallet {amount : Decimal} {reference : Json} (hl : l.txn = .active []) :
    𝓛.contract.wp (fun r l' g' => ∀ a, r = .ok a →
      Entered reseller_id tenant_id .topup amount reference l' g')
      (topup_wallet tenant_id reseller_id amount reference) l .free := by
  refine wp_then (wp_lock_user hl) (fun _ _ _ _ => nofun) fun locked l g hlocked => ?_
  split
  · exact nofun
  refine wp_then (wp_get_wallet_balance (hlocked _ rfl)) (fun _ _ _ _ => nofun)
    fun x l g hread => ?_
  refine wp_bind (wp_ofExcept ?_)
  cases hadd : defaultContext.add x amount with
  | error e => exact nofun
  | ok new_balance => exact wp_insert_wallet_transaction (hread _ rfl) hadd

theorem wp_debit_wallet {amount : Decimal} {reference : Json} (hl : l.txn = .active []) :
    𝓛.contract.wp (fun r l' g' => ∀ a, r = .ok a →
      Entered reseller_id tenant_id .debit amount reference l' g')
      (debit_wallet tenant_id reseller_id amount reference) l .free := by
  refine wp_then (wp_lock_user hl) (fun _ _ _ _ => nofun) fun locked l g hlocked => ?_
  split
  · exact nofun
  refine wp_then (wp_get_wallet_balance (hlocked _ rfl)) (fun _ _ _ _ => nofun)
    fun x l g hread => ?_
  refine wp_bind (wp_ofExcept ?_)
  cases hlt : x.lt amount with
  | error e => exact nofun
  | ok insufficient =>
      cases insufficient with
      | true => exact nofun
      | false =>
          refine wp_bind (wp_ofExcept ?_)
          cases hsub : defaultContext.sub x amount with
          | error e => exact nofun
          | ok new_balance => exact wp_insert_wallet_transaction (hread _ rfl) ⟨hlt, hsub⟩

end Steps

section Transactions

/-- Committing the entry of a wallet transaction, whatever else its transaction writes. -/
theorem moves_entered (h : 𝓛.Lawful) {type : TransactionType} {amount new_balance : Decimal}
    {reference : Json} {v : Env} {row : WalletTransaction} {d₁ : Store}
    (hb : 𝓛.contract.base d)
    (ho : 𝓛.contract.own d l (.drawn reseller_id tenant_id balance n))
    (hnew : Computed type (walletBalance balance) amount new_balance)
    (hrule : 𝓛.rules.stmt (.insert_wallet_transaction n tenant_id reseller_id type amount
      new_balance reference) (.run v) d)
    (he : (Stmt.insert_wallet_transaction n tenant_id reseller_id type amount new_balance
      reference).eval v d = .ok (row, d₁))
    (hw : d'.wallet_transactions = d₁.wallet_transactions)
    (hs : d'.last_sequence_id = d₁.last_sequence_id) :
    𝓛.contract.Moves ks d d' l (.drawn reseller_id tenant_id balance n) l' .free := by
  obtain ⟨-, hbalance, hnumber, hlast⟩ := ho
  have hinv : 𝓛.inv d₁.wallet_transactions :=
    h hb.1 hb.2 (hbalance.symm ▸ hnew) hrule he hnumber
  obtain ⟨rfl, hseq, htenant, hreseller, -⟩ := Stmt.eval_insert_wallet_transaction he
  have hentry : ∀ e' ∈ d.ledger row.reseller_id row.tenant_id,
      e'.sequence_id < row.sequence_id := by
    rw [hreseller, htenant, hseq]
    exact hnumber
  refine .intro ⟨hb.1.append hw hs (hseq ▸ hlast) hentry, hw ▸ hinv⟩ trivial ?_ nofun
    (fun _ h => h) trivial
  intro l₂ g₂ h₂ hne
  refine WalletStage.Fact.mono h₂ (fun id tenant ht => ?_) hs.ge
  have hother : ¬ (row.reseller_id = id ∧ row.tenant_id = tenant) := by
    rintro ⟨hid, -⟩
    rw [hreseller] at hid
    exact hne reseller_id rfl (hid ▸ ht)
  rw [ledger_append hw, if_neg hother, List.append_nil]

/-- A transaction that has entered its entry and goes on without touching the ledger. -/
theorem wp_rest_entered (h : 𝓛.Lawful) {α : Type} {p : M α} {type : TransactionType}
    {amount : Decimal} {reference : Json} (hp : p.Framed (Within ledgerFree))
    (hentered : Entered reseller_id tenant_id type amount reference l g) :
    𝓛.contract.wp (𝓛.contract.TxPost fun _ l' g' => l'.txn = .none ∧ g' = .free) p l g := by
  obtain ⟨balance, n, new_balance, v, v', v'', rfl, hnew, hl⟩ := hentered
  let insert : Stmt := .insert_wallet_transaction n tenant_id reseller_id type amount new_balance
    reference
  have hreplay {d d₁ : Store} (hr : machine.replay (entryLog reseller_id tenant_id insert v v' v'')
      d = some d₁) : ∃ row, insert.eval v'' d = .ok (row, d₁) := by
    obtain ⟨_, d₂, he₁, hr₁⟩ := replay_cons.mp hr
    obtain ⟨_, d₃, he₂, hr₂⟩ := replay_cons.mp hr₁
    obtain ⟨row, d₄, he₃, hend⟩ := replay_cons.mp hr₂
    rw [Stmt.eval_read rfl he₂, Stmt.eval_read rfl he₁] at he₃
    rw [replay_nil, Option.some.injEq] at hend
    exact ⟨row, hend ▸ he₃⟩
  let J : Store → Store → Prop := fun d d' => ∃ row d₁, insert.eval v'' d = .ok (row, d₁) ∧
    d'.wallet_transactions = d₁.wallet_transactions ∧ d'.last_sequence_id = d₁.last_sequence_id
  have hbody : Body machine (𝓛.contract.discipline.Meets (.drawn reseller_id tenant_id balance n))
      J p fun _ => J := by
    refine Body.of_framed hp fun s hs _ v₂ d d₁ a d₂ _ hJ he => ?_
    obtain ⟨row, d₀, he₀, hw, hq⟩ := hJ
    have hsame (T : Table) (hT : T ∉ ledgerFree) : d₂.Same d₁ T :=
      Stmt.eval_same (fun hw => hT (hs T hw)) (Stmt.exec_eq_ok.mp he)
    have hw₂ : d₂.wallet_transactions = d₁.wallet_transactions :=
      hsame .wallet_transactions (by simp [ledgerFree])
    have hq₂ : d₂.last_sequence_id = d₁.last_sequence_id :=
      hsame .last_sequence_id (by simp [ledgerFree])
    exact ⟨row, d₀, he₀, hw₂.trans hw, hq₂.trans hq⟩
  have hopen : 𝓛.contract.discipline.Open (.drawn reseller_id tenant_id balance n)
      (entryLog reseller_id tenant_id insert v v' v'') (fun _ => J) p l := by
    refine .inl ⟨[], by simpa using hl, hbody _ fun d d' _ hr => ?_⟩
    rw [List.append_nil] at hr
    obtain ⟨row, he⟩ := hreplay hr
    exact ⟨row, d', he, rfl, rfl⟩
  refine wp_rest (grows _) (hp.mono fun s hs _ => ignores.neutral hs) hopen ?_
    fun e d l hb _ => ⟨.free, moves_free hb, rfl, rfl⟩
  · rintro a d d' l hb ho hallow ⟨row, d₁, he, hw, hq⟩
    have hrule : 𝓛.rules.stmt insert (.run v'') d := by
      obtain ⟨-, hallow⟩ := hallow
      rw [show (machine.exec (.lock_user reseller_id tenant_id) v d).2 = d from
        Stmt.exec_read rfl v d] at hallow
      obtain ⟨-, hallow⟩ := hallow
      rw [show (machine.exec (.select_balance reseller_id tenant_id) v' d).2 = d from
        Stmt.exec_read rfl v' d] at hallow
      exact hallow.1
    exact ⟨.free, moves_entered h hb ho hnew hrule he hw hq, rfl, rfl⟩

theorem wp_topup_transaction (h : 𝓛.Lawful) {amount : Decimal} {reference : Json} :
    𝓛.contract.wp (fun _ l' g' => l'.txn = .none ∧ g' = .free)
      (Prog.transaction (topup_wallet tenant_id reseller_id amount reference)) l .free := by
  refine wp_transaction (fun d hb _ => moves_free hb) (wp_mono (wp_topup_wallet rfl) ?_)
  rintro (e | row) l g hentered
  · exact ⟨fun d e _ _ hb _ => ⟨.free, moves_free hb, rfl, rfl⟩, nofun⟩
  · exact wp_rest_entered h (p := .ret (.ok row)) trivial (hentered row rfl)

theorem wp_debit_transaction (h : 𝓛.Lawful) {amount : Decimal} {reference : Json} :
    𝓛.contract.wp (fun _ l' g' => l'.txn = .none ∧ g' = .free)
      (Prog.transaction (debit_wallet tenant_id reseller_id amount reference)) l .free := by
  refine wp_transaction (fun d hb _ => moves_free hb) (wp_mono (wp_debit_wallet rfl) ?_)
  rintro (e | row) l g hentered
  · exact ⟨fun d e _ _ hb _ => ⟨.free, moves_free hb, rfl, rfl⟩, nofun⟩
  · exact wp_rest_entered h (p := .ret (.ok row)) trivial (hentered row rfl)

/-- The transaction of a sale enters its debit first. -/
theorem wp_sale_transaction (h : 𝓛.Lawful) {data : ResellerVoucherGenerateRequest}
    {customer : User} {package : Package} : 𝓛.contract.wp (fun _ l' g' => l'.txn = .none ∧
      g' = .free) (Prog.transaction (sell_voucher data reseller_id tenant_id customer package)) l
      .free := by
  refine wp_transaction (fun d hb _ => moves_free hb) (wp_bind (wp_skip rfl (.inl rfl) ?_))
  have hback (e : Exn) (l : RunLocal) (g : WalletStage) : 𝓛.contract.TxPost (α := UUID)
      (fun _ l' g' => l'.txn = .none ∧ g' = .free) (.error e) l g :=
    ⟨fun d e _ _ hb _ => ⟨.free, moves_free hb, rfl, rfl⟩, nofun⟩
  rintro (e | voucher_id)
  · exact hback _ _ _
  refine wp_then (wp_debit_wallet rfl) (fun e l g _ => hback e l g) fun row l g hentered => ?_
  refine wp_rest_entered h ?_ (hentered row rfl)
  refine (plain_read rfl).framed.bind fun receipt => ?_
  refine (plain_write rfl (by simp [ledgerFree])).framed.bind fun payment => ?_
  refine Prog.Framed.bind (generate_voucher_framed _ _ (fun s hs => within_mono hs ?_)
    fun _ _ _ _ T hT => ?_) fun _ => trivial
  · simp [credentialTables, ledgerFree]
  · cases hT
    simp [ledgerFree]

end Transactions

section Serves

/-- The processes that work on wallets. -/
def Spawn.isLedger : Spawn → Bool
  | .topup .. => true
  | .debit .. => true
  | .c2b_webhook _ => true
  | .reseller_voucher .. => true
  | _ => false

theorem wp_generate_reseller_voucher (h : 𝓛.Lawful) (data : ResellerVoucherGenerateRequest) :
    𝓛.contract.wp (fun _ _ _ => True) (generate_reseller_voucher data reseller_id tenant_id) {}
      .free :=
  wp_reseller_voucher fun _ _ => wp_sale_transaction h

theorem wp_process_daraja_c2b_webhook (h : 𝓛.Lawful) (body : Json) :
    𝓛.contract.wp (fun _ _ _ => True) (process_daraja_c2b_webhook body) {} .free := by
  refine wp_get (fun _ _ => trivial) fun trans_type _ => ?_
  refine wp_get (fun _ _ => trivial) fun bill_ref _ => ?_
  refine wp_get (fun _ _ => trivial) fun trans_id _ => ?_
  refine wp_get (fun _ _ => trivial) fun trans_amount _ => ?_
  split
  · trivial
  refine wp_then (wp_reads (normalise_bill_ref_plain bill_ref) rfl) (fun _ _ _ _ => trivial) ?_
  rintro bill_ref l g ⟨rfl, rfl⟩
  refine wp_then (wp_reads (plain_read rfl) rfl) (fun _ _ _ _ => trivial) ?_
  rintro reseller l g ⟨rfl, rfl⟩
  cases reseller with
  | none => trivial
  | some reseller =>
      dsimp only
      split
      · trivial
      split
      · trivial
      split
      · trivial
      · exact wp_swallow (I := fun _ _ => True) (wp_then (wp_topup_transaction h)
          (fun _ _ _ _ => trivial) fun _ _ _ _ => trivial)

theorem serves (h : 𝓛.Lawful) (hspawn : ∀ w d, 𝓛.rules.spawn w d → Spawn.isLedger w) :
    𝓛.contract.Serves := by
  intro w d d' p hb hrule hs
  have hstart : 𝓛.contract.Starts d d .free :=
    ⟨hb, trivial, rfl, fun _ _ h => h, fun _ h => h, trivial⟩
  have hw := hspawn w d hrule
  cases w with
  | topup tenant_id reseller_id amount reference =>
      cases hs
      exact ⟨.free, hstart, wp_then (wp_topup_transaction h) (fun _ _ _ _ => trivial)
        fun _ _ _ _ => trivial⟩
  | debit tenant_id reseller_id amount reference =>
      cases hs
      exact ⟨.free, hstart, wp_then (wp_debit_transaction h) (fun _ _ _ _ => trivial)
        fun _ _ _ _ => trivial⟩
  | c2b_webhook body =>
      cases hs
      exact ⟨.free, hstart, wp_then (wp_process_daraja_c2b_webhook h body) (fun _ _ _ _ => trivial)
        fun _ _ _ _ => trivial⟩
  | reseller_voucher data reseller_id tenant_id =>
      cases hs
      exact ⟨.free, hstart, wp_then (wp_generate_reseller_voucher h data) (fun _ _ _ _ => trivial)
        fun _ _ _ _ => trivial⟩
  | _ => cases hw

/-- A law of the ledger holds along every run of wallet processes. -/
theorem reaches (h : 𝓛.Lawful) (hspawn : ∀ w d, 𝓛.rules.spawn w d → Spawn.isLedger w)
    (hedit : ∀ d d', 𝓛.rules.edit d d' → ∀ T, T ∉ ledgerFree → d'.Same d T) {s : RunState}
    (hn : Numbered d) (hi : 𝓛.inv d.wallet_transactions)
    (hs : Reaches system 𝓛.rules (FrixelConnect.idle d) s) :
    Numbered s.store ∧ 𝓛.inv s.store.wallet_transactions := by
  have htolerates : 𝓛.contract.Tolerates :=
    fun d d' _ hinv he => ignores.keeps (hedit d d' he) hinv
  have h₀ : 𝓛.contract.Holds (FrixelConnect.idle d) := .start ⟨hn, hi⟩ trivial
  exact (h₀.reaches (serves h hspawn) htolerates hs).1.base

end Serves

end LedgerLaw

end FrixelConnect
