import FrixelConnect.Invoices
import FrixelConnect.Effects
import FrixelConnect.Specs.Footprint
import FrixelConnect.Interleaving.Single
import FrixelConnect.Interleaving.StoreRule

/-!
# Resuming an invoice

The queued voucher task generates the voucher and then the invoice of its payment. A run in
which no step fails leaves the invoice complete if it was so before, or if the payment had no
invoice yet and, for the task, no voucher either: an invoice that exists is never completed,
and the task does not come to the invoice of a payment that has its voucher.

## Implementation notes

The two halves share the users, the packages and the payments. The statement with which the
task calls the invoice service stands for the program of that service.
-/

namespace FrixelConnect

open Interleaving

/-- The database with the columns of the tenants that an invoice shows, and with the invoices. -/
structure TaskStore where
  core : Store := {}
  businesses : List InvoiceTenant := []
  invoices : List Invoice := []
  deriving DecidableEq

structure TaskEnv where
  core : Env := {}
  invoice : InvoiceEnv := {}

inductive TaskStmt where
  | core (s : Stmt)
  | invoice (s : InvoiceStmt)

namespace TaskStmt

abbrev Res : TaskStmt → Type
  | .core s => s.Res
  | .invoice s => s.Res

def inTx : TaskStmt → Bool
  | .core s => s.inTx
  | .invoice s => s.inTx

def locks : TaskStmt → List UUID
  | .core s => s.locks
  | .invoice s => s.locks

end TaskStmt

/-- What the invoice service sees. -/
def TaskStore.ledger (d : TaskStore) : InvoiceStore where
  tenants := d.businesses
  users := d.core.users
  packages := d.core.packages
  payments := d.core.payments
  invoices := d.invoices

def TaskStmt.exec : (s : TaskStmt) → TaskEnv → TaskStore → Except Exn s.Res × TaskStore
  | .core s, v, d => ((s.exec v.core d.core).1, { d with core := (s.exec v.core d.core).2 })
  | .invoice s, v, d => ((s.exec v.invoice d.ledger).1,
      { d with invoices := (s.exec v.invoice d.ledger).2.invoices })

def taskMachine : Machine TaskStmt TaskStmt.Res Exn TaskStore TaskEnv UUID where
  exec := TaskStmt.exec
  inTx := TaskStmt.inTx
  locks := TaskStmt.locks
  aborted := .inFailedTransaction

/-- Programs of the task; the invoice service has no frames. -/
abbrev TaskM := Prog TaskStmt TaskStmt.Res (Option Frame) Exn

namespace InvoiceTask

open Contract

abbrev run (s : TaskStmt) : TaskM s.Res := Prog.exec s

def invoiceProgram (payment_id : UUID) : TaskM Unit :=
  (Invoices.generate_invoice_for_payment payment_id).expand (fun s => run (.invoice s))
    fun _ => none

/-- The programs that stand for the statements of the worker. -/
def unfolded : (s : Stmt) → TaskM s.Res
  | .generate_invoice payment_id => invoiceProgram payment_id
  | s => run (.core s)

/-- The runs that are considered. -/
inductive TaskCall where
  | invoice (payment_id : UUID)
  | task (job : Job)

def TaskCall.program : TaskCall → TaskM Unit
  | .invoice payment_id => invoiceProgram payment_id
  | .task job => (generate_voucher_task job >>= fun _ => pure ()).expand unfolded some

def taskSystem : System TaskStmt TaskStmt.Res (Option Frame) Exn TaskStore TaskEnv UUID Unit
    TaskCall :=
  { taskMachine with start := fun w d => some (d, w.program) }

abbrev TaskState := State TaskStmt TaskStmt.Res (Option Frame) Exn TaskStore TaskEnv Unit
abbrev TaskRules := Rules TaskStmt Exn TaskStore TaskEnv TaskCall
abbrev TaskLocal := Local TaskStmt (Option Frame) TaskEnv

/-- The keys of the payments, and the rows that they refer to. -/
structure Sound (d : TaskStore) : Prop where
  ids : (d.core.payments.map (·.id)).Nodup
  tenant : ∀ p ∈ d.core.payments, ∃ t ∈ d.businesses, t.id = p.tenant_id
  customer : ∀ p ∈ d.core.payments, ∃ u ∈ d.core.users, u.id = p.customer_id
  package : ∀ p ∈ d.core.payments, ∃ pkg ∈ d.core.packages,
    pkg.id = p.package_id ∧ pkg.tenant_id = p.tenant_id

/-- Any interleaving of runs in which any step may fail. The rest of the system keeps the keys. -/
def anyRuns : TaskRules where
  edit _ d' := Sound d'

/-- The payment has its voucher already, which the insert of another one meets. -/
def Duplicate (d : TaskStore) : TaskStmt → Prop
  | .core (.insert_voucher payment_id ..) => ∃ w ∈ d.core.vouchers, w.payment_id = payment_id
  | _ => False

/-- A run by itself in which no step fails. -/
def unfailing : TaskRules where
  stmt s c d := match c with
    | .run v => (s.exec v d).1.isOk = true ∨ Duplicate d s
    | .fail _ => False
  inner s c d := match c with
    | .run v => (s.exec v d).1.isOk
    | .fail _ => false
  lossy := false
  spawn _ _ := False

/-- The payment has an invoice that is complete. -/
def Complete (d : TaskStore) (payment_id : UUID) : Prop := ∃ i ∈ d.invoices,
  i.payment_id = payment_id ∧ i.pdf_path ≠ none ∧ i.kra_etims_qr_code ≠ none

/-- The call is for this payment. -/
def TaskCall.For (p : Payment) : TaskCall → Prop
  | .invoice payment_id => payment_id = p.id
  | .task job => job.payment_id = p.id ∧ job.tenant_id = p.tenant_id

/-- The call comes to the invoice of the payment. -/
def TaskCall.Arrives (d : TaskStore) (payment_id : UUID) : TaskCall → Prop
  | .invoice _ => True
  | .task _ => ∀ w ∈ d.core.vouchers, w.payment_id ≠ payment_id

/-- The payment has no invoice yet, and the call comes to it. -/
def Fresh (d : TaskStore) (payment_id : UUID) (call : TaskCall) : Prop :=
  (∀ i ∈ d.invoices, i.payment_id ≠ payment_id) ∧ call.Arrives d payment_id

section Keys

variable {d d' : TaskStore} {v : TaskEnv}

/-- The tables that the task writes. -/
def taskTables : List Table := [.vouchers, .users, .radcheck, .radreply]

/-- The statements of the runs. -/
def Harmless : TaskStmt → Prop
  | .core s => Within taskTables s
  | .invoice _ => True

/-- No account is deleted. -/
theorem users_kept {s : Stmt} {v : Env} {d d' : Store} {a : s.Res} (h : s.eval v d = .ok (a, d'))
    {u : User} (hu : u ∈ d.users) : ∃ u' ∈ d'.users, u'.id = u.id := by
  have hupdate {p : User → Bool} {f : User → User} (hf : ∀ u, (f u).id = u.id) :
      ∃ u' ∈ updateRows p f d.users, u'.id = u.id := by
    refine ⟨_, List.mem_map_of_mem hu, ?_⟩
    split
    · exact hf u
    · rfl
  cases Stmt.onUsers h with
  | insert_guest => exact ⟨u, List.mem_append_left _ hu, rfl⟩
  | insert_user => exact ⟨u, List.mem_append_left _ hu, rfl⟩
  | set_hashed_password => exact hupdate fun _ => rfl
  | set_contact c => exact hupdate fun _ => by cases c <;> rfl
  | other hsame => exact ⟨u, hsame ▸ hu, rfl⟩

/-- The runs change no payment, no package and no key. -/
structure Kept (d d' : TaskStore) : Prop where
  payments : d'.core.payments = d.core.payments
  packages : d'.core.packages = d.core.packages
  businesses : d'.businesses = d.businesses
  users : ∀ u ∈ d.core.users, ∃ u' ∈ d'.core.users, u'.id = u.id

theorem Sound.kept (hd : Sound d) (h : Kept d d') : Sound d' where
  ids := h.payments ▸ hd.ids
  tenant p hp := h.businesses ▸ hd.tenant p (h.payments ▸ hp)
  customer p hp := by
    obtain ⟨u, hu, hid⟩ := hd.customer p (h.payments ▸ hp)
    obtain ⟨u', hu', hid'⟩ := h.users u hu
    exact ⟨u', hu', hid'.trans hid⟩
  package p hp := h.packages ▸ hd.package p (h.payments ▸ hp)

theorem kept_core {s : Stmt} (hs : Within taskTables s) (v : Env) :
    Kept d { d with core := (s.exec v d.core).2 } := by
  have hsame (T : Table) (hT : T ∉ taskTables) : (s.exec v d.core).2.Same d.core T :=
    Stmt.exec_same (fun h => hT (hs T h)) v d.core
  refine ⟨hsame .payments (by simp [taskTables]), hsame .packages (by simp [taskTables]), rfl, ?_⟩
  intro u hu
  rcases s.exec_cases v d.core with ⟨a, d', he, hx⟩ | ⟨e, -, hx⟩
  · rw [hx]
    exact users_kept he hu
  · rw [hx]
    exact ⟨u, hu, rfl⟩

theorem sound_exec {s : TaskStmt} (hs : Harmless s) (hd : Sound d) : Sound (s.exec v d).2 := by
  cases s with
  | core s => exact hd.kept (kept_core hs v.core)
  | invoice s => exact ⟨hd.ids, hd.tenant, hd.customer, hd.package⟩

theorem invoiceProgram_all (payment_id : UUID) : (invoiceProgram payment_id).All Harmless :=
  (Prog.all_true _).expand fun _ _ => (Prog.all_exec _).mpr trivial

theorem unfolded_all {s : Stmt} (hs : Within taskTables s) : (unfolded s).All Harmless := by
  cases s with
  | generate_invoice payment_id => exact invoiceProgram_all payment_id
  | _ => exact (Prog.all_exec _).mpr hs

theorem program_all (call : TaskCall) : call.program.All Harmless := by
  cases call with
  | invoice payment_id => exact invoiceProgram_all payment_id
  | task job =>
      apply Prog.All.expand (φ := Within taskTables) _ fun _ => unfolded_all
      apply (generate_voucher_task_all job _ _).bind fun _ => Prog.all_ret _
      · exact fun s hs => within_mono hs (by simp [credentialTables, taskTables])
      · intro _ _ _ _ T hT
        cases hT
        simp [taskTables]

theorem taskMachine_restores : taskMachine.Restores := by
  intro s v d
  cases s with
  | core s =>
      rcases s.exec_cases v.core d.core with ⟨a, d', -, hx⟩ | ⟨e, -, hx⟩
      · exact .inl ⟨a, { d with core := d' }, by simp [taskMachine, TaskStmt.exec, hx]⟩
      · exact .inr ⟨e, by simp [taskMachine, TaskStmt.exec, hx]⟩
  | invoice s =>
      rcases s.exec_cases v.invoice d.ledger with ⟨a, d', -, hx⟩ | ⟨e, -, hx⟩
      · exact .inl ⟨a, { d with invoices := d'.invoices }, by simp [taskMachine, TaskStmt.exec, hx]⟩
      · refine .inr ⟨e, ?_⟩
        change ((s.exec v.invoice d.ledger).1,
          { d with invoices := (s.exec v.invoice d.ledger).2.invoices }) = _
        rw [hx]
        rfl

theorem sound_rule : StoreRule taskSystem anyRuns Harmless Sound where
  restores := taskMachine_restores
  start call d d' p _ hd hstart := by
    cases hstart
    exact ⟨hd, program_all call⟩
  edit _ _ he _ := he
  stmt s v d a d' hs _ hd hx := by
    have hexec := sound_exec (v := v) hs hd
    rw [show s.exec v d = (.ok a, d') from hx] at hexec
    exact hexec

end Keys

section Runs

variable {α : Type} {d d' : TaskStore} {l : TaskLocal}
  {Q : Except Exn α → TaskLocal → TaskStore → Prop}

/-- Every run of the program by itself, without a failing step, ends with `Q`. -/
abbrev Ends (Q : Except Exn α → TaskLocal → TaskStore → Prop) (p : TaskM α) (l : TaskLocal)
    (d : TaskStore) : Prop :=
  Single.Ends taskMachine unfailing Q p l d

/-- A statement of such a run goes through, if it does not insert another voucher. -/
theorem answers {s : TaskStmt} {c : Choice Exn TaskEnv} (hc : unfailing.stmt s c d)
    (hdup : ¬ Duplicate d s) : (taskMachine.direct s c d).1.isOk = true := by
  cases c with
  | fail e => exact hc.elim
  | run v => exact hc.resolve_right hdup

theorem ends_stmt {s : TaskStmt} {f : s.Res → TaskM α} (hl : s.inTx = false ∨ l.txn = .none)
    (hdup : ¬ Duplicate d s) (h : ∀ v a d', s.exec v d = (.ok a, d') → Ends Q (f a) l d') :
    Ends Q (run s >>= f) l d := by
  apply Single.ends_exec_bind hl
  · intro c e d' hc hx
    have hok := answers hc hdup
    rw [hx] at hok
    cases hok
  · intro c a d' hc hx
    cases c with
    | fail e => cases hx
    | run v => exact h v a d' hx

theorem ends_invoice {s : InvoiceStmt} {f : s.Res → TaskM α} (hl : s.inTx = false ∨ l.txn = .none)
    (h : ∀ v a d', s.eval v d.ledger = .ok (a, d') →
      Ends Q (f a) l { d with invoices := d'.invoices }) :
    Ends Q (run (.invoice s) >>= f) l d := by
  apply ends_stmt (s := .invoice s) hl (fun h => h)
  intro v a d' hx
  obtain ⟨ha, rfl⟩ := Prod.mk.inj hx
  exact h v.invoice a _ (InvoiceStmt.exec_eq_ok.mp (Prod.ext ha rfl))

theorem ends_core {s : Stmt} {f : s.Res → TaskM α} (hs : unfolded s = run (.core s))
    (hl : s.inTx = false ∨ l.txn = .none) (hdup : ¬ Duplicate d (.core s))
    (h : ∀ v a d', s.eval v d.core = .ok (a, d') → Ends Q (f a) l { d with core := d' }) :
    Ends Q (unfolded s >>= f) l d := by
  rw [hs]
  apply ends_stmt (s := .core s) hl hdup
  intro v a d' hx
  obtain ⟨ha, rfl⟩ := Prod.mk.inj hx
  exact h v.core a _ (Stmt.exec_eq_ok.mp (Prod.ext ha rfl))

end Runs

section Invoice

variable {d : TaskStore} {l : TaskLocal} {p : Payment}

theorem mem_joined {r : PaymentDetails} (h : r ∈ d.ledger.joined) : ∃ p ∈ d.core.payments,
    r.payment_id = p.id ∧ r.tenant_id = p.tenant_id ∧ r.status = p.status := by
  simp only [InvoiceStore.joined, TaskStore.ledger, List.mem_flatMap, List.mem_map] at h
  obtain ⟨p, hp, -, -, -, -, -, -, rfl⟩ := h
  exact ⟨p, hp, rfl, rfl, rfl⟩

/-- The payment is found with its tenant, its customer and its package. -/
theorem fetch_joined (hd : Sound d) (hp : p ∈ d.core.payments) (pick : ℕ) :
    ∃ r, fetchrow pick (fun r => r.payment_id == p.id) d.ledger.joined = some r ∧
      r.tenant_id = p.tenant_id ∧ r.status = p.status := by
  cases hrow : fetchrow pick (fun r => r.payment_id == p.id) d.ledger.joined with
  | some r =>
      obtain ⟨hmem, hid⟩ := fetchrow_eq_some hrow
      obtain ⟨p', hp', hid', htenant, hstatus⟩ := mem_joined hmem
      have hsame : p' = p := List.inj_on_of_nodup_map hd.ids hp' hp
        (hid'.symm.trans (beq_iff_eq.mp hid))
      subst hsame
      exact ⟨r, rfl, htenant, hstatus⟩
  | none =>
      obtain ⟨t, ht, htenant⟩ := hd.tenant p hp
      obtain ⟨u, hu, hcustomer⟩ := hd.customer p hp
      obtain ⟨pkg, hpkg, hpackage, -⟩ := hd.package p hp
      have hmem : ({ payment_id := p.id, tenant_id := p.tenant_id, amount := p.amount_kes
                     status := p.status, tenant_name := t.business_name
                     owner_email := t.owner_email, customer_phone := u.phone
                     package_name := pkg.name } : PaymentDetails) ∈ d.ledger.joined := by
        simp only [InvoiceStore.joined, TaskStore.ledger, List.mem_flatMap, List.mem_map,
          List.mem_filter, beq_iff_eq]
        exact ⟨p, hp, t, ⟨ht, htenant⟩, u, ⟨hu, hcustomer⟩, pkg, ⟨hpkg, hpackage⟩, rfl⟩
      exact absurd (beq_self_eq_true p.id) (fetchrow_eq_none.mp hrow _ hmem)

/-- A statement inside the transaction of the insert, which has only read so far. -/
theorem ends_inner {s : TaskStmt} {log : List (TaskStmt × TaskEnv)}
    {Q : Except Exn s.Res → TaskLocal → TaskStore → Prop} (hin : s.inTx = true)
    (hlog : taskMachine.replay log d = some d) (h : ∀ v a, (s.exec v d).1 = .ok a →
      Q (.ok a) { l with txn := .active (log ++ [(s, v)]) } d) :
    Ends Q (run s) { l with txn := .active log } d := by
  apply Single.ends_logged hin rfl hlog
  · intro c hc
    cases c with
    | fail e => cases hc
    | run v =>
        have hok : (s.exec v d).1.isOk = true := hc
        cases ha : (s.exec v d).1 with
        | ok a => exact ⟨v, a, rfl, ha⟩
        | error e =>
            rw [ha] at hok
            cases hok
  · exact h

theorem ends_inner_bind {α : Type} {s : TaskStmt} {f : s.Res → TaskM α}
    {log : List (TaskStmt × TaskEnv)} {Q : Except Exn α → TaskLocal → TaskStore → Prop}
    (hin : s.inTx = true) (hlog : taskMachine.replay log d = some d)
    (h : ∀ v a, (s.exec v d).1 = .ok a →
      Ends Q (f a) { l with txn := .active (log ++ [(s, v)]) } d) :
    Ends Q (run s >>= f) { l with txn := .active log } d :=
  Protocol.wp_bind.mpr (ends_inner hin hlog h)

/-- The insert in its transaction. -/
theorem ends_insert {Q : Except Exn (UUID × ℕ) → TaskLocal → TaskStore → Prop}
    {tenant_id payment_id : UUID} (hl : l.txn = .none)
    (hQ : ∀ i : Invoice, i.tenant_id = tenant_id → i.payment_id = payment_id →
      (∀ i ∈ d.invoices, i.payment_id ≠ payment_id) →
      Q (.ok (i.id, i.invoice_number)) l { d with invoices := d.invoices ++ [i] }) :
    Ends Q ((Invoices.insert_invoice tenant_id payment_id).expand (fun s => run (.invoice s))
      fun _ => none) l d := by
  rw [Invoices.insert_invoice, Prog.expand_transaction]
  apply Single.ends_transaction rfl
  simp only [Prog.expand_bind, Prog.expand_exec]
  apply ends_inner_bind (s := .invoice (.lock_tenant tenant_id)) rfl rfl
  intro v _ _
  apply ends_inner_bind (s := .invoice (.next_invoice_number tenant_id)) rfl rfl
  intro v₁ number _
  apply ends_inner (s := .invoice (.insert_invoice tenant_id payment_id number)) rfl rfl
  intro v₂ a ha
  constructor
  · exact fun e h => by cases h
  rintro _ ⟨⟩
  have ha : ((InvoiceStmt.insert_invoice tenant_id payment_id number).exec v₂.invoice d.ledger).1 =
    .ok a := ha
  rcases (InvoiceStmt.insert_invoice tenant_id payment_id number).exec_cases v₂.invoice
    d.ledger with
    ⟨a', d', he, hx⟩ | ⟨e, -, hx⟩
  · rw [hx] at ha
    cases ha
    have hexec : taskMachine.exec (.invoice (.insert_invoice tenant_id payment_id number)) v₂ d =
        (.ok a, { d with invoices := d'.invoices }) := by
      change (_, _) = _
      rw [hx]
    -- The replay executes the insert on the store that it was executed on.
    have hreplay : taskMachine.replay [(.invoice (.insert_invoice tenant_id payment_id number), v₂)]
        d = some { d with invoices := d'.invoices } := by
      rw [Machine.replay, hexec]
      rfl
    refine ⟨_, _, rfl, hreplay, ?_⟩
    obtain ⟨rfl, hnew⟩ := InvoiceStmt.eval_insert_invoice he
    obtain rfl := InvoiceStmt.eval_insert_invoice_answer he
    have hstay : ({ l with txn := .none } : TaskLocal) = l := by rw [← hl]
    have hQ := hQ { id := v₂.invoice.uuid, tenant_id, payment_id, invoice_number := number } rfl rfl
      hnew
    rw [← hstay] at hQ
    exact hQ
  · rw [hx] at ha
    cases ha

/-- A submission that does not fail. -/
theorem ends_submit
    {Q : Except Exn (String × String × Option String) → TaskLocal → TaskStore → Prop}
    {tin bhf_id : String} {invoice_number : ℕ} {row : PaymentDetails}
    (hQ : ∀ qr_url kra_sign text, Q (.ok (qr_url, kra_sign, some text)) l d) :
    Ends Q ((Invoices.submit tin bhf_id invoice_number row).expand (fun s => run (.invoice s))
      fun _ => none) l d := by
  rw [Invoices.submit, Prog.expand_tryCatch]
  apply Protocol.wp_tryCatch.mpr
  simp only [Prog.expand_bind, Prog.expand_exec]
  apply ends_invoice (.inl rfl)
  intro v a d' he
  cases he
  exact hQ _ _ _

/-- What a run for a payment without an invoice leaves, and one for a payment with an invoice. -/
structure Invoiced (d : TaskStore) (payment_id : UUID) (d' : TaskStore) : Prop where
  fresh : (∀ i ∈ d.invoices, i.payment_id ≠ payment_id) → Complete d' payment_id
  found : (∃ i ∈ d.invoices, i.payment_id = payment_id) → d'.invoices = d.invoices

theorem complete_congr {d' : TaskStore} {payment_id : UUID} (h : d'.invoices = d.invoices) :
    Complete d' payment_id ↔ Complete d payment_id := by
  rw [Complete, Complete, h]

theorem Invoiced.complete_iff {d' : TaskStore} {payment_id : UUID} (h : Invoiced d payment_id d') :
    Complete d' payment_id ↔
      Complete d payment_id ∨ ∀ i ∈ d.invoices, i.payment_id ≠ payment_id := by
  by_cases hnew : ∀ i ∈ d.invoices, i.payment_id ≠ payment_id
  · exact ⟨fun _ => .inr hnew, fun _ => h.fresh hnew⟩
  · have hsame : d'.invoices = d.invoices := by
      apply h.found
      simpa using hnew
    rw [complete_congr hsame]
    exact ⟨.inl, fun h => h.resolve_right hnew⟩

/-- The invoice program of a confirmed payment. -/
theorem ends_invoiceProgram (hd : Sound d) (hp : p ∈ d.core.payments)
    (hconfirmed : p.status = .confirmed)
    (hl : l.txn = .none) :
    Ends (fun _ l' d' => l'.txn = .none ∧ Invoiced d p.id d') (invoiceProgram p.id) l d := by
  unfold invoiceProgram Invoices.generate_invoice_for_payment
  simp only [Prog.expand_bind, Prog.expand_exec]
  apply ends_invoice (.inr hl)
  intro v row d' he
  obtain ⟨hrow, rfl⟩ := Prod.mk.inj (Except.ok.inj he)
  obtain ⟨r, hr, htenant, hstatus⟩ := fetch_joined hd hp v.pick
  obtain rfl : row = some r := hrow.symm.trans hr
  dsimp only
  rw [if_neg (by rw [hstatus, hconfirmed]; simp)]
  simp only [Prog.expand_bind, Prog.expand_exec]
  apply ends_invoice (.inr hl)
  intro v existing d' he
  obtain ⟨hexisting, rfl⟩ := Prod.mk.inj (Except.ok.inj he)
  cases existing with
  | some found =>
      obtain ⟨i, hfetch, -⟩ := Option.map_eq_some_iff.mp hexisting
      obtain ⟨hi, hkeys⟩ := fetchrow_eq_some hfetch
      simp only [Bool.and_eq_true, beq_iff_eq] at hkeys
      exact ⟨hl, fun hnew => absurd hkeys.1 (hnew i hi), fun _ => rfl⟩
  | none =>
      dsimp only
      rw [Prog.expand_bind]
      apply Protocol.wp_bind.mpr
      apply ends_insert hl
      intro i hitenant hpayment hnew
      dsimp only
      rw [Prog.expand_bind]
      apply Protocol.wp_bind.mpr
      apply ends_submit
      intro qr_url kra_sign text
      dsimp only
      rw [Prog.expand_bind, Prog.expand_exec]
      apply ends_invoice (.inl rfl)
      intro v pdf_path d' he
      cases he
      rw [Prog.expand_exec]
      apply Single.ends_exec (.inr hl)
      intro c hc
      cases c with
      | fail e => exact hc.elim
      | run v =>
          refine ⟨hl, fun _ => ?_, fun ⟨i, hi, hid⟩ => absurd hid (hnew i hi)⟩
          have hmem : i ∈ d.invoices ++ [i] := by simp
          refine ⟨_, List.mem_map_of_mem hmem, ?_⟩
          simp [hitenant, hpayment]

section Task

/-- The statements of the voucher generation keep these. -/
structure Untouched (d d' : TaskStore) : Prop where
  sound : Sound d'
  payments : d'.core.payments = d.core.payments
  invoices : d'.invoices = d.invoices

theorem Untouched.core {d₁ : TaskStore} {s : Stmt} (h : Untouched d d₁) (hs : Within taskTables s)
    (v : Env) : Untouched d { d₁ with core := (s.exec v d₁.core).2 } where
  sound := h.sound.kept (kept_core hs v)
  payments := (kept_core hs v).payments.trans h.payments
  invoices := h.invoices

/-- The statements of the voucher generation before and after its insert. -/
def Part : Stmt → Prop
  | .select_contact .. => True
  | .generate_voucher_code _ => True
  | .count_code .. => True
  | .delete_radius .. => True
  | .insert_radius .. => True
  | .hash_password _ => True
  | .set_hashed_password .. => True
  | .send_sms .. => True
  | _ => False

theorem Part.within {s : Stmt} (hs : Part s) : Within credentialTables s := by
  intro T hT
  cases s with
  | delete_radius t =>
      cases hT
      cases t <;> simp [credentialTables, RadiusTable.table]
  | insert_radius t =>
      cases hT
      cases t <;> simp [credentialTables, RadiusTable.table]
  | set_hashed_password =>
      cases hT
      simp [credentialTables]
  | select_contact => cases hT
  | generate_voucher_code => cases hT
  | count_code => cases hT
  | hash_password => cases hT
  | send_sms => cases hT
  | _ => exact hs.elim

theorem Part.unfolded {s : Stmt} (hs : Part s) : unfolded s = run (.core s) := by
  cases s with
  | generate_invoice => exact hs.elim
  | _ => rfl

theorem Part.not_duplicate {s : Stmt} (hs : Part s) : ¬ Duplicate d (.core s) := by
  cases s with
  | insert_voucher => exact hs.elim
  | _ => exact fun h => h

theorem draw_code_part (tenant_id : UUID) :
    (draw_code tenant_id).Plain Part ∧ (draw_code tenant_id).Returns := by
  constructor
  · apply Prog.Plain.bind ((Prog.plain_exec _).mpr trivial)
    intro code
    apply Prog.Plain.bind ((Prog.plain_exec _).mpr trivial)
    intro collision
    split
    · exact (Prog.plain_exec _).mpr trivial
    · exact Prog.plain_ret _
  · apply (Prog.returns_exec _).bind
    intro code
    apply (Prog.returns_exec _).bind
    intro collision
    split
    · exact Prog.returns_exec _
    · exact Prog.returns_pure _

theorem provision_part (username password : String) (speed_mbps duration_minutes : ℤ)
    (tenant_id : UUID) (data_quota_mb : Option ℤ) :
    (_provision_radius_credentials username password speed_mbps duration_minutes tenant_id
      data_quota_mb).Plain Part ∧
    (_provision_radius_credentials username password speed_mbps duration_minutes tenant_id
      data_quota_mb).Returns := by
  constructor
  · exact _provision_radius_credentials_touches (fun _ => trivial) fun _ _ _ _ => trivial
  · refine (Prog.returns_exec _).bind fun _ => (Prog.returns_exec _).bind fun _ =>
      (Prog.returns_exec _).bind fun _ => (Prog.returns_exec _).bind fun _ =>
      (Prog.returns_exec _).bind fun _ => ?_
    cases data_quota_mb with
    | none => exact Prog.returns_pure _
    | some quota =>
        dsimp only
        split
        · exact Prog.returns_exec _
        · exact Prog.returns_pure _

theorem welcome_guest_part (user : Option User) (code : String) (customer_id tenant_id : UUID) :
    (welcome_guest user code customer_id tenant_id).Plain Part ∧
      (welcome_guest user code customer_id tenant_id).Returns := by
  unfold welcome_guest
  split
  · constructor
    · exact Prog.Plain.bind ((Prog.plain_exec _).mpr trivial) fun _ =>
        Prog.Plain.bind ((Prog.plain_exec _).mpr trivial) fun _ =>
        Prog.Plain.tryCatch ((Prog.plain_exec _).mpr trivial) fun _ => Prog.plain_ret _
    · exact (Prog.returns_exec _).bind fun _ => (Prog.returns_exec _).bind fun _ =>
        (Prog.returns_exec _).tryCatch
  · exact ⟨Prog.plain_ret _, Prog.returns_pure _⟩

/-- A part of the voucher generation before or after its insert. -/
theorem ends_part {α : Type} {q : M α} {I : TaskStore → Prop} (hq : q.Plain Part ∧ q.Returns)
    (hl : l.txn = .none) (hd : I d)
    (hI : ∀ s v d, Within credentialTables s → I d → I { d with core := (s.exec v d.core).2 }) :
    Ends (fun r l' d' => r.isOk = true ∧ l'.txn = .none ∧ I d') (q.expand unfolded some) l d := by
  have hcore (s : Stmt) (hs : Part s) : (unfolded s).Framed fun t => ∃ s, t = .core s ∧ Part s := by
    rw [hs.unfolded]
    exact Prog.Plain.framed ((Prog.plain_exec _).mpr ⟨s, rfl, hs⟩)
  have hreturns (s : Stmt) (hs : Part s) : (unfolded s).Returns := by
    rw [hs.unfolded]
    exact Prog.returns_exec _
  apply Single.ends_returns (hq.1.framed.expand hcore) (hq.2.expand hq.1.all hreturns) hl hd
  rintro _ ⟨s, rfl, hs⟩ c d hd hc
  refine ⟨answers hc hs.not_duplicate, ?_⟩
  cases c with
  | fail e => exact hd
  | run v => exact hI s v.core d hs.within hd

/-- The payment is found with its package. -/
theorem fetch_package (hd : Sound d) (hp : p ∈ d.core.payments) {v : Env} {d' : Store}
    {row : Option (Payment × Package)}
    (h : (Stmt.select_payment_package p.id p.tenant_id).eval v d.core = .ok (row, d')) :
    d' = d.core ∧ ∃ pkg, row = some (p, pkg) := by
  obtain ⟨hfetch, rfl⟩ := Prod.mk.inj (Except.ok.inj h)
  refine ⟨rfl, ?_⟩
  cases row with
  | some found =>
      obtain ⟨hmem, hkeys⟩ := fetchrow_eq_some hfetch
      simp only [List.mem_flatMap, List.mem_map, Bool.and_eq_true, beq_iff_eq] at hmem hkeys
      obtain ⟨p', hp', pkg, -, rfl⟩ := hmem
      obtain rfl := List.inj_on_of_nodup_map hd.ids hp' hp hkeys.1
      exact ⟨pkg, rfl⟩
  | none =>
      obtain ⟨pkg, hpkg, hid, htenant⟩ := hd.package p hp
      have hnone := fetchrow_eq_none.mp hfetch (p, pkg) (by
        simp only [List.mem_flatMap, List.mem_map, List.mem_filter, Bool.and_eq_true, beq_iff_eq]
        exact ⟨p, hp, pkg, ⟨hpkg, hid, htenant⟩, rfl⟩)
      exact absurd (by simp) hnone

/-- The voucher generation goes through if and only if the payment has no voucher, and leaves the
rest as it is. -/
theorem ends_generate_voucher (hd : Sound d) (hp : p ∈ d.core.payments) (hl : l.txn = .none) :
    Ends (fun r l' d' => l'.txn = .none ∧ Untouched d d' ∧
        (r.isOk = true ↔ ∀ w ∈ d.core.vouchers, w.payment_id ≠ p.id))
      ((generate_voucher p.id p.tenant_id).expand unfolded some) l d := by
  have hstart : Untouched d d := ⟨hd, rfl, rfl⟩
  have hkeep (s : Stmt) (v : Env) (d₁ : TaskStore) (hs : Within credentialTables s)
      (h : Untouched d d₁ ∧ d₁.core.vouchers = d.core.vouchers) :
      Untouched d { d₁ with core := (s.exec v d₁.core).2 } ∧
        (s.exec v d₁.core).2.vouchers = d.core.vouchers := by
    have hvouchers : (s.exec v d₁.core).2.Same d₁.core .vouchers :=
      Stmt.exec_same (fun hw => by simpa [credentialTables] using hs _ hw) v d₁.core
    have htables : Within taskTables s := within_mono hs (by simp [credentialTables, taskTables])
    exact ⟨h.1.core htables v, hvouchers.trans h.2⟩
  rw [generate_voucher, Prog.expand_inFrame]
  apply Single.ends_inFrame
  rw [Prog.expand_bind, Prog.expand_exec]
  refine ends_core rfl (.inr ?_) (fun h => h) fun v row d' he => ?_
  · exact hl
  obtain ⟨rfl, pkg, rfl⟩ := fetch_package hd hp he
  dsimp only
  rw [Prog.expand_bind, Prog.expand_exec]
  refine ends_core rfl (.inr ?_) (fun h => h) fun v user_row d' he => ?_
  · exact hl
  obtain ⟨-, rfl⟩ := Prod.mk.inj (Except.ok.inj he)
  rw [Prog.expand_bind]
  refine Single.ends_then (ends_part (draw_code_part _) hl ⟨hstart, rfl⟩ hkeep) ?_ ?_
  · rintro e l d₁ ⟨h, -⟩
    cases h
  rintro code l₁ d₁ ⟨-, hl₁, hd₁⟩
  rw [Prog.expand_bind]
  refine Single.ends_then (ends_part (provision_part _ _ _ _ _ _) hl₁ hd₁ hkeep) ?_ ?_
  · rintro e l d₂ ⟨h, -⟩
    cases h
  rintro _ l₂ d₂ ⟨-, hl₂, hd₂, hvouchers⟩
  rw [Prog.expand_bind, Prog.expand_exec]
  -- The insert raises if and only if it meets a voucher of the payment.
  have hwithin : Within taskTables (.insert_voucher p.id p.customer_id p.package_id code p.tenant_id
      (user_row.bind (·.router_id))) := by
    intro T hT
    cases hT
    simp [taskTables]
  apply Single.ends_exec_bind (.inr hl₂)
  · intro c e d₃ hc hx
    cases c with
    | fail e => exact hc.elim
    | run v =>
        obtain ⟨herr, rfl⟩ := Prod.mk.inj hx
        refine ⟨hl₂, hd₂.core hwithin v.core, ⟨fun h => (by cases h), fun hnone => ?_⟩⟩
        rcases hc with hok | ⟨w, hw, hid⟩
        · cases (congrArg Except.isOk herr).symm.trans hok
        · exact absurd hid (hnone w (hvouchers ▸ hw))
  · intro c _ d₃ hc hx
    cases c with
    | fail e => exact hc.elim
    | run v =>
        obtain ⟨hok, rfl⟩ := Prod.mk.inj hx
        obtain ⟨w, -, -, -, -, -, -, hnone, -⟩ :=
          Stmt.eval_insert_voucher (Stmt.exec_eq_ok.mp (Prod.ext hok rfl))
        rw [hvouchers] at hnone
        rw [Prog.expand_bind]
        refine Single.ends_then (ends_part (welcome_guest_part _ _ _ _) hl₂
          (hd₂.core hwithin v.core) fun s v d hs h => ?_) ?_ ?_
        · exact h.core (within_mono hs (by simp [credentialTables, taskTables])) v
        · rintro e l d₃ ⟨h, -⟩
          cases h
        · rintro _ l₃ d₃ ⟨-, hl₃, hd₃⟩
          exact ⟨hl₃, hd₃, ⟨fun _ => hnone, fun _ => rfl⟩⟩

/-- The task of a confirmed payment. -/
theorem ends_task (hd : Sound d) (hp : p ∈ d.core.payments) (hconfirmed : p.status = .confirmed)
    (job_try : ℕ) :
    Ends (fun _ _ d' => Complete d' p.id ↔ Complete d p.id ∨
        (∀ i ∈ d.invoices, i.payment_id ≠ p.id) ∧ ∀ w ∈ d.core.vouchers, w.payment_id ≠ p.id)
      ((generate_voucher_task { payment_id := p.id, tenant_id := p.tenant_id, job_try }).expand
        unfolded some) {} d := by
  rw [generate_voucher_task, Prog.expand_bind, Prog.expand_exec]
  refine ends_core rfl (.inr rfl) (fun h => h) fun v payment d' he => ?_
  obtain ⟨hfetch, rfl⟩ := Prod.mk.inj (Except.ok.inj he)
  cases payment with
  | none =>
      have hnone := fetchrow_eq_none.mp hfetch p hp
      exact absurd (by simp) hnone
  | some payment =>
      dsimp only
      rw [Prog.expand_tryCatch, Prog.expand_bind]
      apply Protocol.wp_tryCatch.mpr
      refine Single.ends_then (ends_generate_voucher hd hp rfl) ?_ ?_
      · -- The payment has a voucher, and the invoice is not reached.
        rintro e l d₁ ⟨-, hd₁, hiff⟩
        have hvoucher : ¬ ∀ w ∈ d.core.vouchers, w.payment_id ≠ p.id := fun h => by
          cases hiff.mpr h
        have hend : Complete d₁ p.id ↔ Complete d p.id ∨
            (∀ i ∈ d.invoices, i.payment_id ≠ p.id) ∧
              ∀ w ∈ d.core.vouchers, w.payment_id ≠ p.id := by
          rw [complete_congr hd₁.invoices]
          exact ⟨.inl, fun h => h.resolve_right fun h => hvoucher h.2⟩
        dsimp only
        split
        · exact hend
        · exact hend
      · rintro code l d₁ ⟨hl, hd₁, hiff⟩
        have hvoucher : ∀ w ∈ d.core.vouchers, w.payment_id ≠ p.id := hiff.mp rfl
        rw [Prog.expand_bind, Prog.expand_tryCatch, Prog.expand_exec]
        apply Protocol.wp_bind.mpr
        apply Protocol.wp_tryCatch.mpr
        have hinvoice := ends_invoiceProgram hd₁.sound (hd₁.payments.symm ▸ hp) hconfirmed hl
        apply Protocol.wp_mono hinvoice
        rintro r l₂ d₂ ⟨-, hinvoiced⟩
        have hend : Complete d₂ p.id ↔ Complete d p.id ∨
            (∀ i ∈ d.invoices, i.payment_id ≠ p.id) ∧
              ∀ w ∈ d.core.vouchers, w.payment_id ≠ p.id := by
          rw [hinvoiced.complete_iff, complete_congr hd₁.invoices, hd₁.invoices]
          exact or_congr_right (and_iff_left hvoucher).symm
        cases r with
        | ok a => exact hend
        | error e => exact hend

end Task

end Invoice

/-- No run yet. -/
def idle (d : TaskStore) : TaskState := { store := d }

/-- After a run in which no step fails, from a store that any other runs have left, the invoice is
complete if and only if it was so before, or the payment had no invoice and the run comes to it. -/
theorem resumes_iff {d : TaskStore} (hd : Sound d) {s : TaskState}
    (hs : Reaches taskSystem anyRuns (idle d) s) {p : Payment} (hp : p ∈ s.store.core.payments)
    (hconfirmed : p.status = .confirmed) {call : TaskCall} (hcall : call.For p) {s' : TaskState}
    (hrun : Reaches taskSystem unfailing
      { store := s.store, procs := [{ prog := call.program }] } s')
    (hend : ∃ q ∈ s'.procs, q.Finished) :
    Complete s'.store p.id ↔ Complete s.store p.id ∨ Fresh s.store p.id call := by
  have hsound := sound_rule.run hs hd
  have hends : Ends (fun _ _ d' => Complete d' p.id ↔
      Complete s.store p.id ∨ Fresh s.store p.id call) call.program {} s.store := by
    cases call with
    | invoice payment_id =>
        obtain rfl : payment_id = p.id := hcall
        apply Protocol.wp_mono (ends_invoiceProgram hsound hp hconfirmed rfl)
        rintro r l d' ⟨-, hinvoiced⟩
        rw [hinvoiced.complete_iff]
        exact or_congr_right (and_iff_left trivial).symm
    | task job =>
        obtain ⟨payment_id, tenant_id, job_try⟩ := job
        obtain ⟨rfl, rfl⟩ : payment_id = p.id ∧ tenant_id = p.tenant_id := hcall
        rw [TaskCall.program, Prog.expand_bind]
        apply Protocol.wp_bind.mpr
        apply Protocol.wp_mono (ends_task hsound hp hconfirmed job_try)
        intro r l d' h
        cases r with
        | ok a => exact h
        | error e => exact h
  obtain ⟨q, hq, r, hr⟩ := hend
  exact Single.ends_run (fun _ _ h => h) (fun _ _ h => h) hends hrun hq hr

section Decidable

variable (s : TaskStmt) (c : Choice Exn TaskEnv) (w : TaskCall) (d d' : TaskStore)

instance : Decidable (Duplicate d s) := by
  unfold Duplicate
  split
  · exact inferInstanceAs (Decidable (∃ w ∈ d.core.vouchers, _))
  · exact .isFalse fun h => h

instance : Decidable (unfailing.stmt s c d) := by
  cases c with
  | run v => exact inferInstanceAs (Decidable (_ ∨ _))
  | fail e => exact .isFalse fun h => h

instance : Decidable (unfailing.spawn w d) := .isFalse fun h => h

instance : Decidable (unfailing.edit d d') := .isFalse fun h => h

instance : Decidable (anyRuns.stmt s c d) := .isTrue trivial

instance : Decidable (anyRuns.spawn w d) := .isTrue trivial

noncomputable instance : Decidable (anyRuns.edit d d') := Classical.propDecidable _

end Decidable

/-- A confirmed payment for a day. -/
def payment : Payment :=
  { id := 7, tenant_id := 1, amount_kes := .units ⟨5000, Money.fits_5000⟩, status := .confirmed
    phone_number := "254700000001", created_at := 0, updated_at := 0, customer_id := 4
    package_id := 3 }

/-- Its tenant, customer and package. -/
def bought : TaskStore where
  core := {
    tenants := [{ id := 1, owner_phone := "254700000009", next_billing_date := 0 }]
    users := [{ id := 4, email := "c@example.com", phone := "254700000001", hashed_password := ""
                tenant_id := 1 }]
    packages := [{ id := 3, name := "Daily", price_kes := .units ⟨5000, Money.fits_5000⟩
                   duration_minutes := 1440, speed_mbps := 10, tenant_id := 1 }]
    payments := [payment] }
  businesses := [{ id := 1, business_name := "Main Office", owner_email := "o@example.com" }]

theorem sound_bought : Sound bought where
  ids := by decide
  tenant := by decide
  customer := by decide
  package := by decide

/-- The call is answered. -/
def ended (q : Proc TaskStmt TaskStmt.Res (Option Frame) Exn TaskEnv Unit) : Bool :=
  match q.prog with
  | .ret _ => true
  | _ => false

theorem finished_of_ended {s : TaskState} (h : s.procs.any ended = true) :
    ∃ q ∈ s.procs, q.Finished := by
  obtain ⟨q, hq, hended⟩ := List.any_eq_true.mp h
  refine ⟨q, hq, ?_⟩
  unfold ended at hended
  split at hended
  · next r hr => exact ⟨r, hr⟩
  · cases hended

/-- A call by itself. -/
def alone (call : TaskCall) (d : TaskStore) : TaskState :=
  { store := d, procs := [{ prog := call.program }] }

/-- `n` steps of the first call. -/
def taskSteps (n : ℕ) : List (Label Exn TaskStore TaskEnv TaskCall) :=
  List.replicate n (.step 0 (.run { invoice := { uuid := 9, text := "INV-1.pdf" } }))

/-- The first attempt of the task. -/
theorem resumes_first_attempt : ∃ s : TaskState, Complete s.store 7 := by
  let call : TaskCall := .task { payment_id := 7, tenant_id := 1 }
  obtain ⟨s, hs, hv⟩ := Reaches.of_moves_state (Y := taskSystem) (ρ := unfailing)
    (alone call bought) (taskSteps 23) (fun s => s.procs.any ended) true (by decide +kernel)
    (by decide +kernel)
  have hcall : call.For payment := ⟨rfl, rfl⟩
  have hiff := resumes_iff (s := idle bought) sound_bought .refl (p := payment)
    (List.mem_singleton_self _) rfl hcall hs (finished_of_ended hv)
  have harrives : call.Arrives bought payment.id := by
    intro w hw
    cases hw
  exact ⟨s, hiff.mpr (.inr ⟨by decide, harrives⟩)⟩

/-- The invoice after a submission that failed. -/
def unsubmitted : TaskStore :=
  { bought with invoices := [{ id := 9, tenant_id := 1, payment_id := 7, invoice_number := 1
                               pdf_path := some "INV-1.pdf" }] }

/-- The submission fails in the first run, and no step in the second. -/
theorem not_resumes : ¬ ∀ (d : TaskStore) (s : TaskState) (p : Payment) (call : TaskCall)
    (s' : TaskState), Sound d → Reaches taskSystem anyRuns (idle d) s →
    p ∈ s.store.core.payments → p.status = .confirmed → call.For p →
    Reaches taskSystem unfailing (alone call s.store) s' → (∃ q ∈ s'.procs, q.Finished) →
    Complete s'.store p.id := by
  intro h
  obtain ⟨s, hs, hstore⟩ := Reaches.of_moves (Y := taskSystem) (ρ := anyRuns) (idle bought)
    (.spawn (.invoice 7) :: taskSteps 7 ++ .step 0 (.fail (.lost "eTIMS")) :: taskSteps 2)
    (fun d => d) unsubmitted (by decide +kernel) (by decide +kernel)
  obtain ⟨s', hs', hv⟩ := Reaches.of_moves_state (Y := taskSystem) (ρ := unfailing)
    (alone (.invoice 7) unsubmitted) (taskSteps 2) (fun s => (s.procs.any ended, s.store))
    (true, unsubmitted) (by decide +kernel) (by decide +kernel)
  obtain ⟨hended, hsame⟩ := Prod.mk.inj hv
  have hcomplete := h bought s payment (.invoice 7) s' sound_bought hs
    (by rw [hstore]; exact List.mem_singleton_self _) rfl rfl (by rw [hstore]; exact hs')
    (finished_of_ended hended)
  rw [hsame] at hcomplete
  obtain ⟨i, hi, -, -, hqr⟩ := hcomplete
  cases List.mem_singleton.mp hi
  exact hqr rfl

end InvoiceTask

end FrixelConnect
