import FrixelConnect.InvoiceNumbers
import FrixelConnect.Interleaving.Discipline
import Mathlib.Algebra.BigOperators.Group.Multiset.Basic
import Mathlib.Algebra.Order.Group.Multiset
import Mathlib.Tactic.Abel
import Mathlib.Tactic.GCongr

/-!
# What leaves the server for an invoice

The client of the revenue authority is called for an invoice, and its page is printed, after the
row has been inserted. Neither can be undone or is known to have happened when the answer is lost.
In every run each of the two happens once at most for an invoice, with its own number and the
amount of its payment, and never for anything that is no invoice.

## Implementation notes

The machine of the invoices is extended by what has left the server. A call that raises may have
taken effect.
-/

namespace FrixelConnect

open Interleaving

/-- The arguments of a call of `etims_client.submit_invoice`. -/
structure Submission where
  tin : String
  bhf_id : String
  invoice_number : ℕ
  amount : Money
  package_name : String
  deriving DecidableEq

/-- The tables, the calls of the client and the pages. -/
structure DispatchStore where
  ledger : InvoiceStore := {}
  submissions : List Submission := []
  prints : List PdfContents := []
  deriving DecidableEq

/-- The answer of a call that has taken effect can be lost. -/
structure DispatchEnv where
  invoice : InvoiceEnv := {}
  lost : Option Exn := none

namespace InvoiceStmt

def submitted : InvoiceStmt → List Submission
  | .submit_invoice tin bhf_id invoice_number amount package_name =>
      [{ tin, bhf_id, invoice_number, amount, package_name }]
  | _ => []

def printed : InvoiceStmt → List PdfContents
  | .generate_pdf contents => [contents]
  | _ => []

/-- The answer of the statement, unless it is lost on its way. -/
def answer {α : Type} (s : InvoiceStmt) (lost : Option Exn) (r : Except Exn α) : Except Exn α :=
  match s.inTx, lost with
  | false, some e => .error e
  | _, _ => r

def dispatch (s : InvoiceStmt) (v : DispatchEnv) (d : DispatchStore) :
    Except Exn s.Res × DispatchStore :=
  (s.answer v.lost (s.exec v.invoice d.ledger).1,
    { ledger := (s.exec v.invoice d.ledger).2
      submissions := d.submissions ++ s.submitted
      prints := d.prints ++ s.printed })

end InvoiceStmt

def dispatchMachine :
    Machine InvoiceStmt InvoiceStmt.Res Exn DispatchStore DispatchEnv UUID where
  exec := InvoiceStmt.dispatch
  inTx := InvoiceStmt.inTx
  locks := InvoiceStmt.locks
  aborted := .inFailedTransaction

namespace InvoiceDispatch

open Invoices

/-- Any number of calls, for the payments `UUID`. -/
def dispatchSystem : System InvoiceStmt InvoiceStmt.Res Unit Exn DispatchStore DispatchEnv UUID
    Unit UUID :=
  { dispatchMachine with start := fun w d => some (d, generate_invoice_for_payment w) }

abbrev DispatchState := State InvoiceStmt InvoiceStmt.Res Unit Exn DispatchStore DispatchEnv Unit
abbrev DispatchLocal := Local InvoiceStmt Unit DispatchEnv

/-- The amount of a payment. -/
def amount (d : InvoiceStore) (payment_id : UUID) : Option Money :=
  (d.payments.find? fun p => p.id == payment_id).map (·.amount_kes)

/-- Every invoice by its number and the amount of its payment. -/
def due (d : InvoiceStore) : List (ℕ × Option Money) :=
  d.invoices.map fun i => (i.invoice_number, amount d i.payment_id)

/-- The calls of the client and the pages, by the same two. -/
def submitted (d : DispatchStore) : List (ℕ × Option Money) :=
  d.submissions.map fun x => (x.invoice_number, some x.amount)

def printed (d : DispatchStore) : List (ℕ × Option Money) :=
  d.prints.map fun x => (x.invoice_number, some x.amount)

/-- The rest of the system writes no invoices, and every payment keeps its amount. -/
structure AmountsKept (d d' : DispatchStore) : Prop where
  invoices : d'.ledger.invoices = d.ledger.invoices
  ids : (d'.ledger.payments.map (·.id)).Nodup
  amounts : ∀ p ∈ d.ledger.payments, ∃ p' ∈ d'.ledger.payments, p'.id = p.id ∧
    p'.amount_kes = p.amount_kes
  submissions : d'.submissions = d.submissions
  prints : d'.prints = d.prints

/-- Any interleaving, with any failures. -/
def rules : Rules InvoiceStmt Exn DispatchStore DispatchEnv UUID where
  edit := AmountsKept

/-- Payments have their primary key, and invoices their foreign key. -/
structure Keyed (d : InvoiceStore) : Prop where
  ids : (d.payments.map (·.id)).Nodup
  payments : ∀ i ∈ d.invoices, ∃ p ∈ d.payments, p.id = i.payment_id

/-- How far a call has come: it knows the amount of its payment, it has inserted its invoice and
is to submit it, or it is to print it. -/
inductive Stage where
  | idle
  | read (payment_id : UUID) (amount : Money)
  | submits (row : ℕ × Option Money)
  | prints (row : ℕ × Option Money)

namespace Stage

def Holds (d : DispatchStore) : Stage → Prop
  | .read payment_id x => amount d.ledger payment_id = some x
  | _ => True

/-- What is still to be submitted, and what is still to be printed. -/
def toSubmit : Stage → Multiset (ℕ × Option Money)
  | .submits row => {row}
  | _ => 0

def toPrint : Stage → Multiset (ℕ × Option Money)
  | .submits row => {row}
  | .prints row => {row}
  | _ => 0

end Stage

section Discipline

variable (old : Multiset (ℕ × Option Money))

/-- What has left the server or is still to leave it, with the invoices that were there before. -/
structure Accounted (d : DispatchStore) (gs : Multiset Stage) : Prop where
  submitted : old + submitted d + (gs.map Stage.toSubmit).sum ≤ due d.ledger
  printed : old + printed d + (gs.map Stage.toPrint).sum ≤ due d.ledger

def discipline : Discipline InvoiceStmt InvoiceStmt.Res Unit Exn DispatchStore DispatchEnv UUID
    UUID Stage Unit where
  machine := dispatchMachine
  rules := rules
  base d := Keyed d.ledger
  own d _ g := g.Holds d
  shared := Accounted old

end Discipline

variable {d d' : DispatchStore} {e e' : InvoiceStore} {g g' : Stage} {l l' : DispatchLocal}
  {ks : List UUID} {old : Multiset (ℕ × Option Money)} {s : InvoiceStmt} {payment_id : UUID}
  {x : Money}

/-! ## The amounts of the payments -/

theorem amount_of_mem (hids : (e.payments.map (·.id)).Nodup) {p : Payment} (hp : p ∈ e.payments) :
    amount e p.id = some p.amount_kes := by
  rw [amount]
  cases h : e.payments.find? fun q => q.id == p.id with
  | none => simpa using List.find?_eq_none.mp h p hp
  | some q =>
      have hq : q.id = p.id := by simpa using List.find?_some h
      rw [List.inj_on_of_nodup_map hids (List.mem_of_find?_eq_some h) hp hq]
      rfl

theorem mem_of_amount (h : amount e payment_id = some x) :
    ∃ p ∈ e.payments, p.id = payment_id ∧ p.amount_kes = x := by
  obtain ⟨p, hp, rfl⟩ := Option.map_eq_some_iff.mp h
  exact ⟨p, List.mem_of_find?_eq_some hp, by simpa using List.find?_some hp, rfl⟩

theorem AmountsKept.amount_eq (h : AmountsKept d d') (hx : amount d.ledger payment_id = some x) :
    amount d'.ledger payment_id = some x := by
  obtain ⟨p, hp, rfl, rfl⟩ := mem_of_amount hx
  obtain ⟨p', hp', hid, hamount⟩ := h.amounts p hp
  rw [← hid, ← hamount]
  exact amount_of_mem h.ids hp'

theorem AmountsKept.due_eq (h : AmountsKept d d') (hd : Keyed d.ledger) :
    due d'.ledger = due d.ledger := by
  rw [due, h.invoices]
  refine List.map_congr_left fun i hi => ?_
  obtain ⟨p, hp, hid⟩ := hd.payments i hi
  have hx : amount d.ledger i.payment_id = some p.amount_kes := hid ▸ amount_of_mem hd.ids hp
  rw [hx, h.amount_eq hx]

theorem AmountsKept.keyed (h : AmountsKept d d') (hd : Keyed d.ledger) : Keyed d'.ledger where
  ids := h.ids
  payments i hi := by
    rw [h.invoices] at hi
    obtain ⟨p, hp, hid⟩ := hd.payments i hi
    obtain ⟨p', hp', hid', -⟩ := h.amounts p hp
    exact ⟨p', hp', hid'.trans hid⟩

/-- The details of a payment show its amount. -/
theorem amount_of_joined (hids : (e.payments.map (·.id)).Nodup) {row : PaymentDetails}
    (h : row ∈ e.joined) : amount e row.payment_id = some row.amount := by
  simp only [InvoiceStore.joined, List.mem_flatMap, List.mem_map] at h
  obtain ⟨p, hp, t, -, u, -, pkg, -, rfl⟩ := h
  exact amount_of_mem hids hp

/-! ## What the statements do -/

/-- A statement on the connection sends nothing, and its answer is not lost. -/
theorem dispatch_of_inTx (hs : s.inTx = true) (v : DispatchEnv) (d : DispatchStore) :
    s.dispatch v d =
      ((s.exec v.invoice d.ledger).1, { d with ledger := (s.exec v.invoice d.ledger).2 }) := by
  have hnone : s.submitted = [] ∧ s.printed = [] := by
    cases s with
    | submit_invoice => cases hs
    | generate_pdf => cases hs
    | _ => exact ⟨rfl, rfl⟩
  simp [InvoiceStmt.dispatch, InvoiceStmt.answer, hs, hnone]

theorem submitted_dispatch (v : DispatchEnv) (d : DispatchStore) :
    submitted (s.dispatch v d).2 =
      submitted d ++ s.submitted.map fun x => (x.invoice_number, some x.amount) := List.map_append

theorem printed_dispatch (v : DispatchEnv) (d : DispatchStore) :
    printed (s.dispatch v d).2 =
      printed d ++ s.printed.map fun x => (x.invoice_number, some x.amount) := List.map_append

theorem due_inserted {tenant_id : UUID} {invoice_number : ℕ} {v : InvoiceEnv} {a : UUID × ℕ}
    (h : (InvoiceStmt.insert_invoice tenant_id payment_id invoice_number).eval v e = .ok (a, e')) :
    due e' = due e ++ [(invoice_number, amount e payment_id)] := by
  obtain ⟨rfl, -⟩ := InvoiceStmt.eval_insert_invoice h
  simp [due, amount]

theorem keyed_inserted {tenant_id : UUID} {invoice_number : ℕ} {v : InvoiceEnv} {a : UUID × ℕ}
    (hd : Keyed e) (hx : amount e payment_id = some x)
    (h : (InvoiceStmt.insert_invoice tenant_id payment_id invoice_number).eval v e = .ok (a, e')) :
    Keyed e' := by
  obtain ⟨rfl, -⟩ := InvoiceStmt.eval_insert_invoice h
  refine ⟨hd.ids, fun i hi => ?_⟩
  rcases List.mem_append.mp hi with hi | hi
  · exact hd.payments i hi
  · obtain ⟨p, hp, hid, -⟩ := mem_of_amount hx
    rw [List.mem_singleton.mp hi]
    exact ⟨p, hp, hid⟩

/-- The statements that leave the numbers and the payments of the invoices alone. -/
structure Same (e e' : InvoiceStore) : Prop where
  payments : e'.payments = e.payments
  invoices : (e'.invoices.map fun i => (i.invoice_number, i.payment_id)) =
    e.invoices.map fun i => (i.invoice_number, i.payment_id)

theorem Same.refl : Same e e := ⟨rfl, rfl⟩

theorem Same.due_eq (h : Same e e') : due e' = due e := by
  have hdue (e : InvoiceStore) : due e =
      (e.invoices.map fun i => (i.invoice_number, i.payment_id)).map fun x =>
        (x.1, amount e x.2) := by
    rw [due, List.map_map]
    rfl
  have hamount : amount e' = amount e := by
    funext payment_id
    rw [amount, amount, h.payments]
  rw [hdue e', hdue e, h.invoices, hamount]

theorem Same.keyed (h : Same e e') (hd : Keyed e) : Keyed e' where
  ids := h.payments ▸ hd.ids
  payments i hi := by
    have hmem := List.mem_map_of_mem (f := fun i : Invoice => (i.invoice_number, i.payment_id)) hi
    rw [h.invoices] at hmem
    obtain ⟨i', hi', heq⟩ := List.mem_map.mp hmem
    have hpayment : i'.payment_id = i.payment_id := congrArg Prod.snd heq
    rw [h.payments, ← hpayment]
    exact hd.payments i' hi'

theorem same_completed {qr : Option String} {pdf : String} {id tenant_id : UUID} {v : InvoiceEnv}
    {a : Unit} (h : (InvoiceStmt.update_invoice qr pdf id tenant_id).eval v e = .ok (a, e')) :
    Same e e' := by
  cases h
  refine ⟨rfl, ?_⟩
  rw [updateRows, List.map_map]
  refine List.map_congr_left fun i _ => ?_
  dsimp only [Function.comp]
  split <;> rfl

/-! ## The steps of a call -/

/-- A step that adds the rows `new` to what is due, and sends no more than it was to send. -/
theorem moves (new : Multiset (ℕ × Option Money)) (hb : Keyed d'.ledger)
    (hpayments : d'.ledger.payments = d.ledger.payments) (hown : g'.Holds d')
    (hdue : (due d'.ledger : Multiset (ℕ × Option Money)) = due d.ledger + new)
    (hsubmit : (submitted d' : Multiset (ℕ × Option Money)) + g'.toSubmit ≤
      submitted d + g.toSubmit + new)
    (hprint : (printed d' : Multiset (ℕ × Option Money)) + g'.toPrint ≤
      printed d + g.toPrint + new) :
    (discipline old).Moves ks d d' l g l' g' where
  base := hb
  own := hown
  stable _ g₂ h _ := by
    change g₂.Holds d'
    cases g₂ with
    | read payment_id x =>
        change amount d'.ledger payment_id = some x
        rw [amount, hpayments]
        exact h
    | _ => trivial
  token _ h := by cases h
  shared gs h := by
    have hsum {a a' b b' rest D : Multiset (ℕ × Option Money)} (hle : a' + b' ≤ a + b + new)
        (h : old + a + (b + rest) ≤ D) : old + a' + (b' + rest) ≤ D + new :=
      calc old + a' + (b' + rest) = old + (a' + b') + rest := by abel
        _ ≤ old + (a + b + new) + rest := by gcongr
        _ = old + a + (b + rest) + new := by abel
        _ ≤ D + new := by gcongr
    have hs := h.submitted
    have hp := h.printed
    rw [Multiset.map_cons, Multiset.sum_cons] at hs hp
    constructor
    · rw [Multiset.map_cons, Multiset.sum_cons, hdue]
      exact hsum hsubmit hs
    · rw [Multiset.map_cons, Multiset.sum_cons, hdue]
      exact hsum hprint hp
  guar := trivial

/-- A step that sends nothing, and forgets what is still to be sent or not. -/
theorem moves_quiet (hd : Keyed d.ledger) (hsame : Same d.ledger e) (hown : g'.Holds d)
    (hsubmit : g'.toSubmit ≤ g.toSubmit) (hprint : g'.toPrint ≤ g.toPrint) :
    (discipline old).Moves ks d { d with ledger := e } l g l' g' := by
  have hown' : g'.Holds { d with ledger := e } := by
    cases g' with
    | read payment_id x =>
        change amount e payment_id = some x
        rw [amount, hsame.payments]
        exact hown
    | _ => trivial
  refine moves 0 (hsame.keyed hd) hsame.payments hown' ?_ ?_ ?_
  · rw [hsame.due_eq, add_zero]
  · rw [add_zero]
    exact add_le_add le_rfl hsubmit
  · rw [add_zero]
    exact add_le_add le_rfl hprint

theorem moves_idle (hd : Keyed d.ledger) : (discipline old).Moves ks d d l g l' .idle :=
  moves_quiet hd .refl trivial (Multiset.zero_le _) (Multiset.zero_le _)

/-- The commit of an invoice. -/
theorem moves_insert {tenant_id : UUID} {n : ℕ} {v : InvoiceEnv} {a : UUID × ℕ}
    (hd : Keyed d.ledger) (hx : amount d.ledger payment_id = some x)
    (he : (InvoiceStmt.insert_invoice tenant_id payment_id n).eval v d.ledger = .ok (a, e)) :
    (discipline old).Moves ks d { d with ledger := e } l (.read payment_id x) l'
      (.submits (n, some x)) := by
  have hpayments : e.payments = d.ledger.payments := by
    obtain ⟨rfl, -⟩ := InvoiceStmt.eval_insert_invoice he
    rfl
  refine moves {(n, some x)} (keyed_inserted hd hx he) hpayments trivial ?_ ?_ ?_
  · rw [due_inserted he, hx, ← Multiset.coe_add, Multiset.coe_singleton]
  · exact add_le_add (Multiset.le_add_right _ _) le_rfl
  · exact add_le_add (Multiset.le_add_right _ _) le_rfl

/-- A statement on the connection, whose failure ends the call. -/
theorem does_query {Q : Except Exn s.Res → Stage → Prop} (hs : s.inTx = true)
    (herr : ∀ e, Q (.error e) .idle)
    (hok : ∀ d v a e, Keyed d.ledger → g.Holds d → s.eval v d.ledger = .ok (a, e) →
      ∃ g', (discipline old).Moves (F := Unit) (dispatchMachine.locks s) d { d with ledger := e }
        {} g {} g' ∧ Q (.ok a) g') :
    (discipline old).Does Q (run s) g := by
  refine Discipline.wp_atomic (.inr rfl) (fun d e hb _ _ => ?_) fun d v hb ho _ => ?_
  · exact ⟨.idle, moves_idle hb, rfl, herr e⟩
  · change ∃ g', (discipline old).Moves _ d (s.dispatch v d).2 {} g {} g' ∧
      _ ∧ Q (s.dispatch v d).1 g'
    rw [dispatch_of_inTx hs]
    rcases s.exec_cases v.invoice d.ledger with ⟨a, e, he, hx⟩ | ⟨e, -, hx⟩
    · obtain ⟨g', hm, hQ⟩ := hok d v.invoice a e hb ho he
      rw [hx]
      exact ⟨g', hm, rfl, hQ⟩
    · rw [hx]
      exact ⟨.idle, moves_idle hb, rfl, herr e⟩

/-- The transaction has inserted an invoice, with the number that it answers. -/
def Inserted (tenant_id payment_id : UUID) (x : Money) (r : Except Exn (UUID × ℕ))
    (l : DispatchLocal) (g : Stage) : Prop :=
  l.frames = [] ∧ ∀ a, r = .ok a → g = .read payment_id x ∧ ∃ v₁ v₂ v₃,
    l.txn = .active [(.lock_tenant tenant_id, v₁), (.next_invoice_number tenant_id, v₂),
      (.insert_invoice tenant_id payment_id a.2, v₃)]

variable {tenant_id : UUID}

/-- The statements of the trigger and of the insert. -/
theorem wp_trigger : (discipline old).protocol.wp (Inserted tenant_id payment_id x)
    (do run (.lock_tenant tenant_id)
        let invoice_number ← run (.next_invoice_number tenant_id)
        run (.insert_invoice tenant_id payment_id invoice_number))
    { txn := .active [] } (.read payment_id x) := by
  refine Protocol.wp_then (B := fun r l g => l.frames = [] ∧ ∀ a, r = .ok a →
    g = .read payment_id x ∧ ∃ v₁, l = { txn := .active [(.lock_tenant tenant_id, v₁)] })
    (Discipline.wp_logged rfl rfl (fun d e hb _ _ => ?_) fun d v₁ view a hb ho _ _ => ?_)
    (fun e l g h => ⟨h.1, fun _ h => by cases h⟩) fun _ l g h => ?_
  · exact ⟨.idle, moves_idle hb, rfl, fun _ h => by cases h⟩
  · exact ⟨_, .stay hb ho, rfl, fun _ _ => ⟨rfl, v₁, rfl⟩⟩
  obtain ⟨-, h⟩ := h
  obtain ⟨rfl, v₁, rfl⟩ := h _ rfl
  refine Protocol.wp_then (B := fun r l g => l.frames = [] ∧ ∀ n, r = .ok n →
    g = .read payment_id x ∧ ∃ v₂, l = { txn := .active [(.lock_tenant tenant_id, v₁),
      (.next_invoice_number tenant_id, v₂)] })
    (Discipline.wp_logged rfl rfl (fun d e hb _ _ => ?_) fun d v₂ view n hb ho _ _ => ?_)
    (fun e l g h => ⟨h.1, fun _ h => by cases h⟩) fun n l g h => ?_
  · exact ⟨.idle, moves_idle hb, rfl, fun _ h => by cases h⟩
  · exact ⟨_, .stay hb ho, rfl, fun _ _ => ⟨rfl, v₂, rfl⟩⟩
  obtain ⟨-, h⟩ := h
  obtain ⟨rfl, v₂, rfl⟩ := h n rfl
  refine Discipline.wp_logged rfl rfl (fun d e hb _ _ => ?_) fun d v₃ view a hb ho _ ha => ?_
  · exact ⟨.idle, moves_idle hb, rfl, fun _ h => by cases h⟩
  · have hnumber : a.2 = n := by
      change ((InvoiceStmt.insert_invoice tenant_id payment_id n).dispatch v₃ view).1 = .ok a at ha
      rw [dispatch_of_inTx rfl] at ha
      rcases InvoiceStmt.exec_cases (.insert_invoice tenant_id payment_id n) v₃.invoice
        view.ledger with ⟨b, e, he, hx⟩ | ⟨e, -, hx⟩
      · rw [hx] at ha
        obtain rfl := Except.ok.inj ha
        rw [InvoiceStmt.eval_insert_invoice_answer he]
      · rw [hx] at ha
        cases ha
    exact ⟨_, .stay hb ho, rfl, fun _ h => ⟨rfl, v₁, v₂, v₃, by cases h; rw [hnumber]; rfl⟩⟩

/-- The insert commits one invoice, which is to be submitted and printed then. -/
theorem does_insert : (discipline old).Does
    (fun r g => match r with
      | .ok a => g = .submits (a.2, some x)
      | .error _ => g = .idle)
    (insert_invoice tenant_id payment_id) (.read payment_id x) := by
  refine Discipline.wp_transaction (fun d hb ho => .stay hb ho)
    (Protocol.wp_mono wp_trigger fun r l g h => ?_)
  obtain ⟨frames, txn⟩ := l
  obtain ⟨rfl, hok⟩ : frames = [] ∧ _ := h
  constructor
  · exact fun d e _ _ hb _ => ⟨.idle, moves_idle hb, rfl, rfl⟩
  · intro a hr log hlog d d' hb ho hreplay _
    obtain ⟨rfl, v₁, v₂, v₃, htxn⟩ := hok a hr
    cases hlog.symm.trans htxn
    have hlast : dispatchMachine.replay ([(.lock_tenant tenant_id, v₁),
        (.next_invoice_number tenant_id, v₂)] ++
          [(.insert_invoice tenant_id payment_id a.2, v₃)]) d = some d' := hreplay
    obtain ⟨view, b, hview, hx⟩ := (Machine.replay_concat _).mp hlast
    have hsame : view = d := by
      have hread : dispatchMachine.replay [(.lock_tenant tenant_id, v₁),
          (.next_invoice_number tenant_id, v₂)] d = some
            { d with
              submissions := d.submissions ++ [] ++ []
              prints := d.prints ++ [] ++ [] } := rfl
      rw [hread] at hview
      simpa using (Option.some.inj hview).symm
    subst hsame
    change InvoiceStmt.dispatch _ v₃ view = (.ok b, d') at hx
    rw [dispatch_of_inTx rfl] at hx
    rcases InvoiceStmt.exec_cases (.insert_invoice tenant_id payment_id a.2) v₃.invoice
      view.ledger with ⟨c, e, he, hx'⟩ | ⟨e, -, hx'⟩
    · rw [hx'] at hx
      cases hx
      exact ⟨_, moves_insert hb ho he, rfl, rfl⟩
    · rw [hx'] at hx
      cases hx

/-- The client is called, and the call may raise before or after. -/
theorem does_submit {n : ℕ} {row : PaymentDetails} (tin bhf_id : String) :
    (discipline old).Does (fun r g => ∃ b, r = .ok b ∧ g = .prints (n, some row.amount))
      (submit tin bhf_id n row) (.submits (n, some row.amount)) := by
  have hcall : (discipline old).Does (fun _ g => g = .prints (n, some row.amount))
      (run (.submit_invoice tin bhf_id n row.amount row.package_name))
      (.submits (n, some row.amount)) := by
    refine Discipline.wp_atomic (.inl rfl) (fun d e hb _ _ => ?_) fun d v hb _ _ => ?_
    · exact ⟨.prints (n, some row.amount),
        moves_quiet hb .refl trivial (Multiset.zero_le _) le_rfl, rfl, rfl⟩
    · refine ⟨.prints (n, some row.amount),
        moves 0 hb rfl trivial (add_zero _).symm ?_ ?_, rfl, rfl⟩
      · change (submitted (InvoiceStmt.dispatch _ v d).2 : Multiset (ℕ × Option Money)) + 0 ≤ _
        rw [submitted_dispatch, add_zero, add_zero]
        rfl
      · change (printed (InvoiceStmt.dispatch _ v d).2 : Multiset (ℕ × Option Money)) + _ ≤ _
        rw [printed_dispatch, add_zero]
        exact le_of_eq (by simp [InvoiceStmt.printed, Stage.toPrint])
  refine Discipline.Does.tryCatch (B := fun r g => g = .prints (n, some row.amount)) ?_ ?_ ?_
  · exact Discipline.Does.bind hcall (fun _ _ h => h) fun _ _ h => Discipline.does_ret h
  · exact fun b _ h => ⟨b, rfl, h⟩
  · exact fun _ _ h => Discipline.does_ret ⟨_, rfl, h⟩

/-- A page is printed, or the call raises before or after. -/
theorem does_print {contents : PdfContents} :
    (discipline old).Does (fun _ g => g = .idle) (run (.generate_pdf contents))
      (.prints (contents.invoice_number, some contents.amount)) := by
  refine Discipline.wp_atomic (.inl rfl) (fun d e hb _ _ => ?_) fun d v hb _ _ => ?_
  · exact ⟨_, moves_idle hb, rfl, rfl⟩
  · refine ⟨.idle, moves 0 hb rfl trivial (add_zero _).symm ?_ ?_, rfl, rfl⟩
    · change (submitted (InvoiceStmt.dispatch _ v d).2 : Multiset (ℕ × Option Money)) + 0 ≤ _
      rw [submitted_dispatch, add_zero, add_zero]
      exact le_of_eq (by simp [InvoiceStmt.submitted, Stage.toSubmit])
    · change (printed (InvoiceStmt.dispatch _ v d).2 : Multiset (ℕ × Option Money)) + 0 ≤ _
      rw [printed_dispatch, add_zero, add_zero]
      rfl

theorem does_generate (payment_id : UUID) :
    (discipline old).Does (fun _ _ => True) (generate_invoice_for_payment payment_id) .idle := by
  refine Discipline.Does.bind (B := fun r g => ∀ row, r = .ok (some row) →
      g = .read row.payment_id row.amount ∧ row.payment_id = payment_id)
    (does_query rfl (fun _ _ h => by cases h) fun d v row e hb _ he => ?_) (fun _ _ _ => trivial)
    fun row g hg => ?_
  · cases he
    cases hrow : fetchrow v.pick (fun r => r.payment_id == payment_id) d.ledger.joined with
    | none => exact ⟨.idle, moves_quiet hb .refl trivial le_rfl le_rfl, fun _ h => by cases h⟩
    | some row =>
        obtain ⟨hmem, hid⟩ := fetchrow_eq_some hrow
        refine ⟨.read row.payment_id row.amount, moves_quiet hb .refl
          (amount_of_joined hb.ids hmem) le_rfl le_rfl, fun row' h => ?_⟩
        cases h
        exact ⟨rfl, by simpa using hid⟩
  cases row with
  | none => exact Discipline.does_ret trivial
  | some row =>
      obtain ⟨rfl, rfl⟩ := hg row rfl
      dsimp only
      split
      · exact Discipline.does_ret trivial
      refine Discipline.Does.bind (B := fun r g => r.isOk = true →
          g = .read row.payment_id row.amount)
        (does_query rfl (fun _ h => by cases h) fun d v a e hb ho he => ?_) (fun _ _ _ => trivial)
        fun existing g hg => ?_
      · cases he
        exact ⟨_, moves_quiet hb .refl ho le_rfl le_rfl, fun _ => rfl⟩
      obtain rfl := hg rfl
      cases existing with
      | some invoice => exact Discipline.does_ret trivial
      | none =>
          refine Discipline.Does.bind does_insert (fun _ _ _ => trivial) fun invoice g hg => ?_
          obtain rfl := hg
          refine Discipline.Does.bind (does_submit _ _) (fun _ _ _ => trivial)
            fun receipt g hg => ?_
          obtain ⟨_, -, rfl⟩ := hg
          refine Discipline.Does.bind does_print (fun _ _ _ => trivial) fun pdf_path g hg => ?_
          obtain rfl := hg
          refine does_query rfl (fun _ => trivial) fun d v a e hb _ he => ?_
          exact ⟨.idle, moves_quiet hb (same_completed he) trivial le_rfl le_rfl, trivial⟩

/-! ## The runs -/

/-- No call runs yet, and nothing has left the server. -/
def idle (d : InvoiceStore) : DispatchState := { store := { ledger := d } }

theorem valid_reaches {s s' : DispatchState}
    (h : Valid (discipline old).protocol (fun _ _ _ => True) s)
    (hs : Reaches dispatchSystem rules s s') :
    Valid (discipline old).protocol (fun _ _ _ => True) s' := by
  refine (h.reaches (Y := dispatchSystem) rfl ?_ ?_ hs).1
  · intro w d d' p ls hi _ hstart
    cases hstart
    refine ⟨.idle, hi.joins trivial rfl fun hshared => ⟨?_, ?_⟩,
      Protocol.wp_mono (does_generate w) fun _ _ _ _ => trivial⟩
    · simpa [Stage.toSubmit] using hshared.submitted
    · simpa [Stage.toPrint] using hshared.printed
  · intro d d' ls hi hedit
    have hsubmitted : submitted d' = submitted d := by rw [submitted, hedit.submissions, submitted]
    have hprinted : printed d' = printed d := by rw [printed, hedit.prints, printed]
    have hdue : due d'.ledger = due d.ledger := hedit.due_eq hi.base
    refine ⟨⟨hedit.keyed hi.base, fun x hx => ?_, hi.apart, ?_, ?_⟩, trivial⟩
    · have hown : x.2.Holds d := hi.own x hx
      change x.2.Holds d'
      revert hown
      cases x.2 with
      | read payment_id x => exact hedit.amount_eq
      | _ => exact id
    · rw [hsubmitted, hdue]
      exact hi.shared.submitted
    · rw [hprinted, hdue]
      exact hi.shared.printed

/-- In every run each invoice is submitted and printed once at most, after it was inserted, with
its own number and the amount of its payment; the invoices that were there before are not. -/
theorem dispatched_once {d : InvoiceStore} (hd : Keyed d) {s : DispatchState}
    (hs : Reaches dispatchSystem rules (idle d) s) :
    (due d + submitted s.store : Multiset (ℕ × Option Money)) ≤ due s.store.ledger ∧
      (due d + printed s.store : Multiset (ℕ × Option Money)) ≤ due s.store.ledger := by
  have hshared : Accounted (due d) { ledger := d } 0 := by
    constructor
    · simp [submitted]
    · simp [printed]
  have hinit : (discipline (due d)).Inv { ledger := d } 0 := .empty hd hshared
  obtain ⟨ann, -, hinv, -⟩ := valid_reaches (Valid.start hinit) hs
  have hsubmitted := hinv.shared.submitted
  have hprinted := hinv.shared.printed
  exact ⟨(Multiset.le_add_right _ _).trans hsubmitted, (Multiset.le_add_right _ _).trans hprinted⟩

section Decidable

variable (s : InvoiceStmt) (c : Choice Exn DispatchEnv) (w : UUID) (d d' : DispatchStore)

instance : Decidable (rules.stmt s c d) := .isTrue trivial

instance : Decidable (rules.spawn w d) := .isTrue trivial

instance : Decidable (rules.edit d d') :=
  decidable_of_iff (d'.ledger.invoices = d.ledger.invoices ∧
      (d'.ledger.payments.map (·.id)).Nodup ∧
      (∀ p ∈ d.ledger.payments, ∃ p' ∈ d'.ledger.payments, p'.id = p.id ∧
        p'.amount_kes = p.amount_kes) ∧ d'.submissions = d.submissions ∧ d'.prints = d.prints)
    ⟨fun ⟨h₁, h₂, h₃, h₄, h₅⟩ => ⟨h₁, h₂, h₃, h₄, h₅⟩,
      fun h => ⟨h.invoices, h.ids, h.amounts, h.submissions, h.prints⟩⟩

end Decidable

/-- Two calls for one payment. Both find no invoice; the answer to the submission is lost. -/
def concurrentMoves : List (Label Exn DispatchStore DispatchEnv UUID) :=
  let steps (n i : ℕ) (v : DispatchEnv) : List (Label Exn DispatchStore DispatchEnv UUID) :=
    List.replicate n (.step i (.run v))
  .spawn 4 :: .spawn 4 :: steps 2 0 {} ++ steps 2 1 {} ++ steps 5 0 { invoice := { uuid := 6 } } ++
    steps 5 1 { invoice := { uuid := 7 } } ++ steps 1 0 { lost := some (.lost "timeout") } ++
    steps 2 0 {}

/-- One of the calls inserts, submits and prints the invoice, and the other raises. -/
theorem dispatched_once_concurrent : ∃ s : DispatchState,
    (due s.store.ledger).length = 1 ∧ submitted s.store = due s.store.ledger ∧
      printed s.store = due s.store.ledger ∧
      (due InvoiceNumbers.unbilled + submitted s.store : Multiset (ℕ × Option Money)) ≤
        due s.store.ledger := by
  obtain ⟨s, hs, hv⟩ := Reaches.of_moves (Y := dispatchSystem) (ρ := rules)
    (idle InvoiceNumbers.unbilled) concurrentMoves
    (fun d => ((due d.ledger).length, decide (submitted d = due d.ledger),
      decide (printed d = due d.ledger)))
    (1, true, true) (by decide +kernel) (by decide +kernel)
  simp only [Prod.mk.injEq, decide_eq_true_eq] at hv
  obtain ⟨hlength, hsubmitted, hprinted⟩ := hv
  have hkeyed : Keyed InvoiceNumbers.unbilled := ⟨by decide, fun i hi => absurd hi List.not_mem_nil⟩
  exact ⟨s, hlength, hsubmitted, hprinted, (dispatched_once hkeyed hs).1⟩

end InvoiceDispatch

end FrixelConnect
