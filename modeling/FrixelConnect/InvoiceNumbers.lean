import FrixelConnect.Invoices
import FrixelConnect.Interleaving.Discipline

/-!
# The numbers of the invoices

The trigger of an insert holds the row of the tenant from before it reads the numbers to
the end of the transaction. So the next number is still the next one at the commit, and
the numbers of a tenant are `1` to `n` in every run.
-/

namespace FrixelConnect

open Interleaving

namespace InvoiceNumbers

open Invoices

/-- The numbers of every tenant are `1` to `n`, and each payment has at most one invoice. -/
structure Numbered (d : InvoiceStore) : Prop where
  numbers : ∀ tenant_id,
    (d.numbers tenant_id).Perm (List.range' 1 (d.numbers tenant_id).length)
  payments : (d.invoices.map (·.payment_id)).Nodup

/-- How far a call has come in its transaction. -/
inductive Stage where
  | idle
  | locked (tenant_id : UUID)
  | numbered (tenant_id : UUID) (invoice_number : ℕ)

namespace Stage

/-- What the call knows: it holds the tenant, and its number is the next one. -/
def Holds (d : InvoiceStore) (l : InvoiceLocal) : Stage → Prop
  | .idle => True
  | .locked tenant_id => tenant_id ∈ invoiceMachine.held l
  | .numbered tenant_id invoice_number => tenant_id ∈ invoiceMachine.held l ∧
      invoice_number = (d.numbers tenant_id).length + 1

/-- The tenant that the call holds. -/
def token : Stage → Option UUID
  | .idle => none
  | .locked tenant_id => some tenant_id
  | .numbered tenant_id _ => some tenant_id

end Stage

/-- Any number of calls in any interleaving, with any failures. The rest of the system creates and
deletes no invoices and deletes no tenants. -/
def rules : InvoiceRules where
  edit d d' := d'.invoices = d.invoices ∧ ∀ t ∈ d.tenants, ∃ t' ∈ d'.tenants, t'.id = t.id

def discipline : Discipline InvoiceStmt InvoiceStmt.Res Unit Exn InvoiceStore InvoiceEnv UUID UUID
    Stage UUID where
  machine := invoiceMachine
  rules := rules
  base := Numbered
  own d l g := g.Holds d l
  token := Stage.token

variable {d d' : InvoiceStore} {g g' : Stage} {l l' : InvoiceLocal} {ks : List UUID}
  {tenant_id payment_id : UUID} {n : ℕ} {row : Invoice}

theorem Stage.Holds.held (h : g.Holds d l) (ht : g.token = some tenant_id) :
    tenant_id ∈ invoiceMachine.held l := by
  cases g with
  | idle => cases ht
  | locked t =>
      cases ht
      exact h
  | numbered t n =>
      cases ht
      exact h.1

/-- The largest of the numbers. -/
theorem max_range (n : ℕ) : (List.range' 1 n).max?.getD 0 = n := by
  cases n with
  | zero => rfl
  | succ n =>
      have hmax : (List.range' 1 (n + 1)).max? = some (n + 1) := by
        apply List.max?_eq_some_iff.mpr
        constructor
        · simp [List.mem_range'_1]
        · intro m hm
          have := List.mem_range'_1.mp hm
          omega
      rw [hmax]
      rfl

/-- The largest of some numbers does not depend on their order. -/
theorem max_perm {xs ys : List ℕ} (h : xs.Perm ys) : xs.max?.getD 0 = ys.max?.getD 0 := by
  cases hx : xs.max? with
  | none =>
      rw [List.max?_eq_none_iff.mp hx] at h
      rw [List.nil_perm.mp h]
      rfl
  | some m =>
      obtain ⟨hmem, hle⟩ := List.max?_eq_some_iff.mp hx
      have hy : ys.max? = some m := List.max?_eq_some_iff.mpr
        ⟨h.mem_iff.mp hmem, fun k hk => hle k (h.mem_iff.mpr hk)⟩
      rw [hy]

/-- The trigger takes the number after the last. -/
theorem Numbered.next (h : Numbered d) :
    (d.numbers tenant_id).max?.getD 0 + 1 = (d.numbers tenant_id).length + 1 := by
  rw [max_perm (h.numbers tenant_id), max_range]

/-- The store with one more invoice. -/
def inserted (d : InvoiceStore) (row : Invoice) : InvoiceStore :=
  { d with invoices := d.invoices ++ [row] }

theorem numbers_inserted (tenant_id : UUID) : (inserted d row).numbers tenant_id =
    d.numbers tenant_id ++ if row.tenant_id = tenant_id then [row.invoice_number] else [] := by
  rw [InvoiceStore.numbers, inserted, List.filter_append, List.map_append, InvoiceStore.numbers]
  congr 1
  by_cases h : row.tenant_id = tenant_id
  · simp [h]
  · simp [h]

theorem Numbered.insert (h : Numbered d)
    (hnumber : row.invoice_number = (d.numbers row.tenant_id).length + 1)
    (hpayment : ∀ i ∈ d.invoices, i.payment_id ≠ row.payment_id) : Numbered (inserted d row) where
  numbers t := by
    rw [numbers_inserted]
    split
    · next ht =>
        subst ht
        rw [List.length_append, List.length_singleton, List.range'_concat, hnumber]
        have hlast : 1 + 1 * (d.numbers row.tenant_id).length =
            (d.numbers row.tenant_id).length + 1 := by omega
        rw [hlast]
        exact (h.numbers row.tenant_id).append_right _
    · rw [List.append_nil]
      exact h.numbers t
  payments := nodup_map_concat _ h.payments hpayment

theorem Numbered.congr (h : Numbered d)
    (hnumbers : ∀ tenant_id, d'.numbers tenant_id = d.numbers tenant_id)
    (hpayments : d'.invoices.map (·.payment_id) = d.invoices.map (·.payment_id)) : Numbered d' where
  numbers t := by
    rw [hnumbers]
    exact h.numbers t
  payments := hpayments ▸ h.payments

/-- Completing an invoice changes neither its number nor its payment. -/
theorem eval_update_invoice {v : InvoiceEnv} {qr : Option String} {pdf : String} {id : UUID}
    {a : Unit} (he : (InvoiceStmt.update_invoice qr pdf id tenant_id).eval v d = .ok (a, d')) :
    (∀ t, d'.numbers t = d.numbers t) ∧
      d'.invoices.map (·.payment_id) = d.invoices.map (·.payment_id) := by
  cases he
  constructor
  · intro t
    simp only [InvoiceStore.numbers, updateRows, List.filter_map, List.map_map]
    have hfilter : (fun i : Invoice => i.tenant_id == t) ∘ (fun i : Invoice =>
        if (i.id == id && i.tenant_id == tenant_id) = true then
          { i with kra_etims_qr_code := qr, pdf_path := some pdf } else i) =
        fun i => i.tenant_id == t := by
      funext i
      dsimp only [Function.comp]
      split <;> rfl
    rw [hfilter]
    apply List.map_congr_left
    intro i _
    dsimp only [Function.comp]
    split <;> rfl
  · simp only [updateRows, List.map_map]
    apply List.map_congr_left
    intro i _
    dsimp only [Function.comp]
    split <;> rfl

/-- A step that leaves the numbers alone. -/
theorem moves_quiet (hb : Numbered d')
    (hnumbers : ∀ tenant_id, d'.numbers tenant_id = d.numbers tenant_id) (ho : g'.Holds d' l')
    (ht : g'.token = none ∨ g'.token = g.token) : discipline.Moves ks d d' l g l' g' where
  base := hb
  own := ho
  stable l₂ g₂ h _ := by
    change g₂.Holds d' l₂
    cases g₂ with
    | idle => trivial
    | locked t => exact h
    | numbered t n => exact ⟨h.1, (hnumbers t).symm ▸ h.2⟩
  token t h := by
    rcases ht with ht | ht
    · have h : g'.token = some t := h
      rw [ht] at h
      cases h
    · exact .inl (ht.symm.trans h)
  shared _ _ := trivial
  guar := trivial

theorem moves_idle (hb : Numbered d) : discipline.Moves ks d d l g l' .idle :=
  moves_quiet hb (fun _ => rfl) trivial (.inl rfl)

/-- A call locks a tenant that no other call holds. -/
theorem moves_lock (hb : Numbered d) (hl : tenant_id ∈ invoiceMachine.held l') :
    discipline.Moves [tenant_id] d d l .idle l' (.locked tenant_id) where
  base := hb
  own := hl
  stable _ _ h _ := h
  token t ht := by
    cases ht
    exact .inr fun l₂ g₂ h₂ hfree ht₂ =>
      hfree tenant_id (List.mem_singleton_self _) (Stage.Holds.held h₂ ht₂)
  shared _ _ := trivial
  guar := trivial

/-- The commit of an invoice. The other calls hold other tenants. -/
theorem moves_insert (hb : Numbered d) (ho : (Stage.numbered row.tenant_id row.invoice_number).Holds d l)
    (hpayment : ∀ i ∈ d.invoices, i.payment_id ≠ row.payment_id) :
    discipline.Moves ks d (inserted d row) l (.numbered row.tenant_id row.invoice_number) l'
      .idle where
  base := hb.insert ho.2 hpayment
  own := trivial
  stable l₂ g₂ h hapart := by
    change g₂.Holds (inserted d row) l₂
    cases g₂ with
    | idle => trivial
    | locked t => exact h
    | numbered t n =>
        have hne : row.tenant_id ≠ t := by
          rintro rfl
          exact hapart row.tenant_id rfl rfl
        refine ⟨h.1, ?_⟩
        rw [numbers_inserted, if_neg hne, List.append_nil]
        exact h.2
  token t ht := by cases ht
  shared _ _ := trivial
  guar := trivial

/-- The transaction has inserted its invoice, with the number that it has read. -/
def Inserted (tenant_id payment_id : UUID) (r : Except Exn (UUID × ℕ)) (l : InvoiceLocal)
    (g : Stage) : Prop :=
  l.frames = [] ∧ ∀ a, r = .ok a → ∃ v₁ v₂ v₃ n, g = .numbered tenant_id n ∧
    l.txn = .active [(.lock_tenant tenant_id, v₁), (.next_invoice_number tenant_id, v₂),
      (.insert_invoice tenant_id payment_id n, v₃)]

/-- The statements of the trigger and of the insert. -/
theorem wp_trigger : discipline.protocol.wp (Inserted tenant_id payment_id)
    (do run (.lock_tenant tenant_id)
        let invoice_number ← run (.next_invoice_number tenant_id)
        run (.insert_invoice tenant_id payment_id invoice_number))
    { txn := .active [] } .idle := by
  have hheld {log : List (InvoiceStmt × InvoiceEnv)} {v : InvoiceEnv} : tenant_id ∈
      invoiceMachine.held ({ txn := .active ((.lock_tenant tenant_id, v) :: log) } : InvoiceLocal) := by
    simp [Machine.held, invoiceMachine, InvoiceStmt.locks]
  refine Protocol.wp_then (B := fun r l g => l.frames = [] ∧ ∀ a, r = .ok a →
    ∃ v₁, g = .locked tenant_id ∧ l = { txn := .active [(.lock_tenant tenant_id, v₁)] })
    (Discipline.wp_logged rfl rfl (fun d e hb _ _ => ?_) fun d v₁ view a hb _ _ _ => ?_)
    (fun e l g h => ⟨h.1, fun _ h => by cases h⟩) fun _ l g h => ?_
  · exact ⟨.idle, moves_idle hb, rfl, fun _ h => by cases h⟩
  · exact ⟨.locked tenant_id, moves_lock hb hheld, rfl, fun _ _ => ⟨v₁, rfl, rfl⟩⟩
  obtain ⟨-, h⟩ := h
  obtain ⟨v₁, rfl, rfl⟩ := h _ rfl
  refine Protocol.wp_then (B := fun r l g => l.frames = [] ∧ ∀ n, r = .ok n →
    ∃ v₂, g = .numbered tenant_id n ∧ l = { txn := .active [(.lock_tenant tenant_id, v₁),
      (.next_invoice_number tenant_id, v₂)] })
    (Discipline.wp_logged rfl rfl (fun d e hb _ _ => ?_) fun d v₂ view n hb ho hview ha => ?_)
    (fun e l g h => ⟨h.1, fun _ h => by cases h⟩) fun n l g h => ?_
  · exact ⟨.idle, moves_idle hb, rfl, fun _ h => by cases h⟩
  · cases hview
    have hn : (d.numbers tenant_id).max?.getD 0 + 1 = n := Except.ok.inj ha
    refine ⟨.numbered tenant_id n, moves_quiet hb (fun _ => rfl) ⟨hheld, ?_⟩ (.inr rfl), rfl,
      fun _ h => ?_⟩
    · rw [← hn]
      exact hb.next
    · cases h
      exact ⟨v₂, rfl, rfl⟩
  obtain ⟨-, h⟩ := h
  obtain ⟨v₂, rfl, rfl⟩ := h n rfl
  refine Discipline.wp_logged rfl rfl (fun d e hb _ _ => ?_) fun d v₃ view a hb ho hview ha => ?_
  · exact ⟨.idle, moves_idle hb, rfl, fun _ h => by cases h⟩
  · exact ⟨.numbered tenant_id n, moves_quiet hb (fun _ => rfl) ⟨hheld, ho.2⟩ (.inr rfl), rfl,
      fun _ _ => ⟨v₁, v₂, v₃, n, rfl, rfl⟩⟩

/-- The insert commits its invoice or leaves the table as it is. -/
theorem does_insert : discipline.Does (fun _ g => g = .idle)
    (insert_invoice tenant_id payment_id) .idle := by
  refine Discipline.wp_transaction (fun d hb _ => moves_idle hb)
    (Protocol.wp_mono wp_trigger fun r l g h => ?_)
  obtain ⟨frames, txn⟩ := l
  obtain ⟨rfl, hok⟩ : frames = [] ∧ _ := h
  constructor
  · exact fun d e _ _ hb _ => ⟨.idle, moves_idle hb, rfl, rfl⟩
  · intro a hr log hlog d d' hb ho hreplay _
    obtain ⟨v₁, v₂, v₃, n, rfl, htxn⟩ := hok a hr
    cases hlog.symm.trans htxn
    have hlast : invoiceMachine.replay ([(.lock_tenant tenant_id, v₁),
        (.next_invoice_number tenant_id, v₂)] ++ [(.insert_invoice tenant_id payment_id n, v₃)]) d =
        some d' := hreplay
    obtain ⟨view, b, hview, hx⟩ := (Machine.replay_concat _).mp hlast
    cases hview
    obtain ⟨rfl, hpayment⟩ := InvoiceStmt.eval_insert_invoice (InvoiceStmt.exec_eq_ok.mp hx)
    let row : Invoice := { id := v₃.uuid, tenant_id, payment_id, invoice_number := n }
    have hho : (Stage.numbered row.tenant_id row.invoice_number).Holds d { txn } := ho
    exact ⟨.idle, moves_insert hb hho hpayment, rfl, rfl⟩

/-- A statement outside the transaction that leaves the numbers and the payments alone. -/
theorem does_quiet {s : InvoiceStmt} (hs : ∀ v d a d', s.eval v d = .ok (a, d') →
    (∀ tenant_id, d'.numbers tenant_id = d.numbers tenant_id) ∧
      d'.invoices.map (·.payment_id) = d.invoices.map (·.payment_id)) :
    discipline.Does (fun _ g => g = .idle) (run s) .idle := by
  refine Discipline.does_exec invoiceMachine_restores (fun d e hb _ => ?_) fun d v a d' hb _ _ hx => ?_
  · exact ⟨.idle, moves_idle hb, rfl⟩
  · obtain ⟨hnumbers, hpayments⟩ := hs v d a d' (InvoiceStmt.exec_eq_ok.mp hx)
    exact ⟨.idle, moves_quiet (hb.congr hnumbers hpayments) hnumbers trivial (.inl rfl), rfl⟩

theorem does_submit (tin bhf_id : String) (row : PaymentDetails) :
    discipline.Does (fun _ g => g = .idle) (submit tin bhf_id n row) .idle := by
  refine Discipline.Does.tryCatch (B := fun _ g => g = .idle) ?_ (fun _ _ h => h)
    fun _ _ h => Discipline.does_ret h
  refine Discipline.Does.bind (does_quiet fun _ _ _ _ he => ?_) (fun _ _ h => h)
    fun _ _ h => Discipline.does_ret h
  cases he
  exact ⟨fun _ => rfl, rfl⟩

theorem does_generate (payment_id : UUID) :
    discipline.Does (fun _ _ => True) (generate_invoice_for_payment payment_id) .idle := by
  refine Discipline.Does.bind (does_quiet fun _ _ _ _ he => ?_) (fun _ _ _ => trivial)
    fun row g hg => ?_
  · cases he
    exact ⟨fun _ => rfl, rfl⟩
  obtain rfl := hg
  cases row with
  | none => exact Discipline.does_ret trivial
  | some row =>
      dsimp only
      split
      · exact Discipline.does_ret trivial
      refine Discipline.Does.bind (does_quiet fun _ _ _ _ he => ?_) (fun _ _ _ => trivial)
        fun existing g hg => ?_
      · cases he
        exact ⟨fun _ => rfl, rfl⟩
      obtain rfl := hg
      cases existing with
      | some invoice => exact Discipline.does_ret trivial
      | none =>
          refine Discipline.Does.bind does_insert (fun _ _ _ => trivial) fun invoice g hg => ?_
          obtain rfl := hg
          refine Discipline.Does.bind (does_submit _ _ row) (fun _ _ _ => trivial)
            fun receipt g hg => ?_
          obtain rfl := hg
          refine Discipline.Does.bind (does_quiet fun _ _ _ _ he => ?_) (fun _ _ _ => trivial)
            fun pdf_path g hg => ?_
          · cases he
            exact ⟨fun _ => rfl, rfl⟩
          obtain rfl := hg
          exact (does_quiet fun _ _ _ _ he => eval_update_invoice he).mono fun _ _ _ => trivial

/-- No call runs yet. -/
def idle (d : InvoiceStore) : InvoiceState := { store := d }

theorem valid_reaches {s s' : InvoiceState}
    (h : Valid discipline.protocol (fun _ _ _ => True) s)
    (hs : Reaches invoiceSystem rules s s') :
    Valid discipline.protocol (fun _ _ _ => True) s' := by
  refine (h.reaches (Y := invoiceSystem) rfl ?_ ?_ hs).1
  · intro w d d' p ls hi _ hstart
    cases hstart
    exact ⟨.idle, hi.joins trivial rfl fun _ => trivial,
      Protocol.wp_mono (does_generate w) fun _ _ _ _ => trivial⟩
  · rintro d d' ls hi ⟨hinvoices, -⟩
    have hnumbers (tenant_id : UUID) : d'.numbers tenant_id = d.numbers tenant_id := by
      rw [InvoiceStore.numbers, hinvoices]
      rfl
    have hquiet : discipline.Moves [] d d' {} .idle {} .idle :=
      moves_quiet (hi.base.congr hnumbers (by rw [hinvoices])) hnumbers trivial (.inl rfl)
    refine ⟨⟨hquiet.base, fun x hx => ?_, hi.apart, trivial⟩, trivial⟩
    exact hquiet.stable _ _ (hi.own x hx) fun _ h => by cases h

/-- The numbers of every tenant stay `1` to `n`, and each payment has at most one invoice, in every
run. -/
theorem invoices_numbered {d : InvoiceStore} (hd : Numbered d) {s : InvoiceState}
    (hs : Reaches invoiceSystem rules (idle d) s) :
    (∀ tenant_id, (s.store.numbers tenant_id).Perm
      (List.range' 1 (s.store.numbers tenant_id).length)) ∧
      (s.store.invoices.map (·.payment_id)).Nodup := by
  obtain ⟨ann, -, hinv, -⟩ := valid_reaches
    (Valid.start (.empty hd trivial)) hs
  exact ⟨hinv.base.numbers, hinv.base.payments⟩

section Decidable

variable (s : InvoiceStmt) (c : Choice Exn InvoiceEnv) (w : UUID) (d d' : InvoiceStore)

instance : Decidable (rules.stmt s c d) := .isTrue trivial

instance : Decidable (rules.spawn w d) := .isTrue trivial

instance : Decidable (rules.edit d d') := inferInstanceAs (Decidable (_ ∧ _))

end Decidable

/-- A confirmed payment of a customer. -/
def paid (id : UUID) : Payment :=
  { id, tenant_id := 1, amount_kes := .units ⟨5000, Money.fits_5000⟩, status := .confirmed
    phone_number := "254700000002", created_at := 0, updated_at := 0
    customer_id := 2, package_id := 3 }

/-- Two confirmed payments without invoices. -/
def unbilled : InvoiceStore where
  tenants := [{ id := 1, business_name := "Umoja WiFi", owner_email := "owner@example.com" }]
  users := [{ id := 2, email := "c@example.com", phone := "254700000002", hashed_password := ""
              tenant_id := 1 }]
  packages := [{ id := 3, name := "Daily", price_kes := .units ⟨5000, Money.fits_5000⟩
                 duration_minutes := 1440, speed_mbps := 5, tenant_id := 1 }]
  payments := [paid 4, paid 5]

/-- `n` steps of call `i`, which inserts the row with the id `id`. -/
def invoiceSteps (n i : ℕ) (id : UUID) : List (Label Exn InvoiceStore InvoiceEnv UUID) :=
  List.replicate n (.step i (.run { uuid := id }))

/-- The second call waits for the lock of the first. -/
theorem invoices_numbered_two : ∃ s : InvoiceState, s.store.numbers 1 = [1, 2] ∧
    (s.store.invoices.map (·.payment_id)).Nodup := by
  obtain ⟨s, hs, hv⟩ := Reaches.of_moves (Y := invoiceSystem) (ρ := rules) (idle unbilled)
    (.spawn 4 :: .spawn 5 :: invoiceSteps 4 0 6 ++ invoiceSteps 3 1 7 ++ invoiceSteps 3 0 6 ++
      invoiceSteps 4 1 7)
    (fun d => d.numbers 1) [1, 2] (by decide +kernel) (by decide +kernel)
  refine ⟨s, hv, (invoices_numbered ⟨fun tenant_id => ?_, ?_⟩ hs).2⟩
  · rfl
  · exact List.nodup_nil

end InvoiceNumbers

end FrixelConnect
