import FrixelConnect.Specs.Booked
import FrixelConnect.Specs.Outcome
import FrixelConnect.Interleaving.Fated

/-!
# Receipts of the poller

The poller confirms a payment under a receipt of its own, made of the last ten characters
of the checkout id. The receipts of a table are unique, and a row whose receipt is taken
is skipped. Callbacks carry the receipts of M-Pesa, which have letters and digits only.
-/

namespace FrixelConnect

namespace PollerReceipts

open Calendar Decimals Python Interleaving Contract

/-- Letters and digits, as in the receipts of M-Pesa. -/
def IsReceipt (s : String) : Prop := ∀ c ∈ s.toList, c.isAlphanum = true

/-- The receipt that the poller makes up for the row. -/
def derived (r : PaymentCore) : String := fallback_receipt (r.mpesa_checkout_id.getD "")

theorem fallback_receipt_length (checkout_id : String) :
    (fallback_receipt checkout_id).length ≤ 15 := by
  have hback : (back 10 checkout_id).length ≤ 10 := by
    simp only [back, String.length_ofList, List.length_drop]
    omega
  rw [fallback_receipt, String.length_append]
  exact Nat.add_le_add_left hback 5

/-- A receipt of M-Pesa is none of the poller. -/
theorem IsReceipt.ne_fallback {s : String} (h : IsReceipt s) (checkout_id : String) :
    s ≠ fallback_receipt checkout_id := by
  rintro rfl
  have hmem : '-' ∈ (fallback_receipt checkout_id).toList := by
    simp [fallback_receipt, String.toList_append]
  exact absurd (h '-' hmem) (by decide)

/-- The receipt of the poller fits its column. -/
theorem textParam_derived {r : PaymentCore} (h : Storable r) :
    textParam (some 20) (.str (derived r)) = .ok (some (derived r)) := by
  have hlength : (derived r).length ≤ 20 := (fallback_receipt_length _).trans (by decide)
  have hback : Char.ofNat 0 ∉ (back 10 (r.mpesa_checkout_id.getD "")).toList := by
    simp only [back, String.toList_ofList]
    intro hmem
    cases hc : r.mpesa_checkout_id with
    | none => simp [hc] at hmem
    | some c =>
        rw [hc] at hmem
        exact h c hc (List.mem_of_mem_drop hmem)
  have htext : (derived r).toList.contains (Char.ofNat 0) = false := by
    rw [List.contains_eq_mem, decide_eq_false_iff_not, derived, fallback_receipt,
      String.toList_append, List.mem_append]
    rintro (hmem | hmem)
    · revert hmem
      decide
    · exact hback hmem
  have hlimit : (Option.all (fun n => decide ((derived r).length ≤ n)) (some 20)) = true := by
    simpa using hlength
  rw [textParam, htext, hlimit]
  rfl

section Runs

/-- The answer says that the payment has been made. -/
def SucceedsAnswer (answer : Except Exn HttpResponse) : Prop :=
  match answer.bind query_result with
  | .error _ => False
  | .ok result =>
      match result.get "ResponseCode", result.get "ResultCode" with
      | .ok response_code, .ok code => response_code.eqText "pending" = false ∧ code.text = "0"
      | _, _ => False

/-- `Body.stkCallback` of a callback. -/
def stkCallback (body : Json) : Except Fault Json := do
  let outer ← body.get "Body" (.obj [])
  outer.get "stkCallback" (.obj [])

/-- `CallbackMetadata.Item` of a callback. -/
def metadataItems (stk_callback : Json) : Except Fault (List (String × Json)) := do
  let callback_metadata ← stk_callback.get "CallbackMetadata" (.obj [])
  let metadata_items ← callback_metadata.get "Item" (.arr [])
  metadata_items.elements.bind Json.metadata

/-- The callback reports a payment, and its receipt, if there is one, is real. -/
def Reports (real : String → Prop) (body : Json) : Prop :=
  ∀ stk_callback, stkCallback body = .ok stk_callback →
    (∀ code, stk_callback.get "ResultCode" = .ok code → code.eqZero = true) ∧
    ∀ items, metadataItems stk_callback = .ok items →
      ∀ receipt, items.lookup "MpesaReceiptNumber" = some receipt →
        ∃ s, receipt = .str s ∧ real s

/-- Nothing fails, the pending rows are read at the times `now`, Daraja reports every payment as
made, and the processes that start are such callbacks. -/
def rules (real : String → Prop) (now : PaymentTable → Timestamptz) : RunRules where
  stmt s c _ := match s, c with
    | .select_pending t, .run v => v.now = now t
    | .post_stk_query _, .run v => SucceedsAnswer v.query
    | _, c => c.isRun = true
  inner _ c _ := c.isRun
  lossy := false
  spawn w _ := match w with
    | .daraja_webhook body => Reports real body
    | _ => False

/-- The poller is about to run. -/
def polling (d : Store) : RunState :=
  { store := d, procs := [{ prog := poll_pending_daraja_payments_cron }] }

/-- The payment is confirmed. -/
def Confirmed (d : Store) (t : PaymentTable) (id : UUID) : Prop :=
  ∃ r ∈ d.cores t, r.id = id ∧ r.status = .confirmed

/-- The poller, with any callbacks in between, leaves every payment confirmed that was due. -/
def Confirms (now : PaymentTable → Timestamptz) (d : Store) : Prop :=
  ∀ s, Reaches system (rules IsReceipt now) (polling d) s → (∀ p ∈ s.procs, p.Finished) →
    ∀ t, ∀ r ∈ d.cores t, r.pollable (now t) = true → Confirmed s.store t r.id

/-- The receipt of a payment that is due is that of no other payment of the table, neither now nor
when the poller makes one up for it. -/
def Distinguishes (now : PaymentTable → Timestamptz) (d : Store) : Prop :=
  ∀ t, ∀ r ∈ d.cores t, r.pollable (now t) = true → ∀ r' ∈ d.cores t, r'.id ≠ r.id →
    r'.mpesa_receipt_number ≠ some (derived r) ∧
      (r'.pollable (now t) = true → derived r' ≠ derived r)

end Runs

section Callbacks

variable {real : String → Prop} {α : Type}

/-- The statements of such a callback. -/
inductive FromCallback (real : String → Prop) : Stmt → Prop
  | confirm {t : PaymentTable} {s : String} {id : UUID} {tenant_id : Option UUID} (hs : real s) :
      FromCallback real (.confirm t (.str s) (.row id tenant_id))
  | other {s : Stmt} (h : Within [.tenants, .queue] s) : FromCallback real s

theorem all_get {φ : Stmt → Prop} {x : Json} {key : String} {default : Json} {f : Json → M α}
    (h : ∀ y, x.get key default = .ok y → (f y).All φ) : (get x key default >>= f).All φ := by
  cases hx : x.get key default with
  | ok y =>
      have hget : (get x key default : M Json) = .ret (.ok y) := by rw [get, hx]; rfl
      rw [hget]
      exact h y hx
  | error e =>
      have hget : (get x key default : M Json) = .ret (.error (.fault e)) := by rw [get, hx]; rfl
      rw [hget]
      trivial

theorem callback_metadata_eq (stk_callback : Json) : callback_metadata stk_callback =
    .ofExcept ((metadataItems stk_callback).mapError .fault) := by
  unfold callback_metadata metadataItems get
  cases stk_callback.get "CallbackMetadata" (.obj []) with
  | error e => rfl
  | ok m =>
      change Prog.bind (Prog.ofExcept ((m.get "Item" (.arr [])).mapError Exn.fault)) _ =
        Prog.ofExcept (Except.mapError Exn.fault (Except.bind (m.get "Item" (.arr [])) _))
      cases m.get "Item" (.arr []) <;> rfl

theorem fromCallback_read {s : Stmt} (h : s.writes = none) : (exec s).All (FromCallback real) :=
  (plain_read h).all.mono fun _ => .other

theorem apply_callback_all {t : PaymentTable} {payment : PaymentCore}
    {stk_callback code desc : Json} (hcode : code.eqZero = true)
    (hreceipt : ∀ items, metadataItems stk_callback = .ok items → ∀ receipt,
      items.lookup "MpesaReceiptNumber" = some receipt → ∃ s, receipt = .str s ∧ real s) :
    (apply_callback t payment stk_callback code desc).All (FromCallback real) := by
  unfold apply_callback
  dsimp only
  split
  · trivial
  rw [callback_metadata_eq]
  cases hitems : metadataItems stk_callback with
  | error e => trivial
  | ok items =>
      change Prog.All _ (if !((items.lookup "MpesaReceiptNumber").getD .null).truthy then _ else _)
      cases hlookup : items.lookup "MpesaReceiptNumber" with
      | none => trivial
      | some receipt =>
          obtain ⟨s, rfl, hs⟩ := hreceipt items hitems receipt hlookup
          dsimp only [Option.getD]
          split
          · trivial
          refine Prog.All.bind (absorbUnique_all (Prog.All.transaction ?_)) fun confirmed => ?_
          · refine Prog.All.bind ⟨.confirm hs, fun _ => trivial⟩ fun _ => ?_
            split
            · exact ((plain_write rfl (by simp)).all).mono fun _ => .other
            · trivial
          · exact Prog.All.bind ((queue_voucher_plain _ _ _ (by simp)).all.mono fun _ => .other)
              fun _ => trivial

theorem process_daraja_webhook_all {body : Json} (h : Reports real body) :
    (process_daraja_webhook body).All (FromCallback real) := by
  refine all_get fun outer houter => all_get fun stk_callback hstk => ?_
  have hbody : stkCallback body = .ok stk_callback := by
    simp only [stkCallback, houter, bind, Except.bind]
    exact hstk
  obtain ⟨hcode, hreceipt⟩ := h stk_callback hbody
  refine all_get fun checkout_id _ => all_get fun code hget => all_get fun desc _ => ?_
  split
  · trivial
  refine Prog.All.bind (fromCallback_read rfl) fun payment => ?_
  cases payment with
  | some payment => exact apply_callback_all (hcode code hget) hreceipt
  | none =>
      refine Prog.All.bind (fromCallback_read rfl) fun payment => ?_
      cases payment with
      | some payment => exact apply_callback_all (hcode code hget) hreceipt
      | none => trivial

end Callbacks

section Invariant

variable {real : String → Prop} {now : PaymentTable → Timestamptz} {d₀ d d' : Store}
  {t : PaymentTable} {r r₀ : PaymentCore} {p : PaymentCore → Bool} {receipt : String}

/-- What may have become of a row: nothing, or it is confirmed, with a real receipt or with the
one that the poller has made up. -/
def Follows (real : String → Prop) (now : Timestamptz) (r₀ r : PaymentCore) : Prop :=
  r = r₀ ∨ r.id = r₀.id ∧ r.status = .confirmed ∧ ∃ s, r.mpesa_receipt_number = some s ∧
    (real s ∨ r₀.pollable now = true ∧ s = derived r₀)

/-- The rows of both tables, and what has become of them. -/
structure Follow (real : String → Prop) (now : PaymentTable → Timestamptz) (d₀ d : Store) :
    Prop where
  ids : UniqueIds d
  forth : ∀ t, ∀ r₀ ∈ d₀.cores t, ∃ r ∈ d.cores t, Follows real (now t) r₀ r
  back : ∀ t, ∀ r ∈ d.cores t, ∃ r₀ ∈ d₀.cores t, Follows real (now t) r₀ r

theorem Follows.id (h : Follows real (now t) r₀ r) : r.id = r₀.id := by
  rcases h with rfl | h
  · rfl
  · exact h.1

/-- A row that is still pending has not changed. -/
theorem Follows.eq_of_pending (h : Follows real (now t) r₀ r) (hs : r.status = .pending) :
    r = r₀ := by
  rcases h with h | ⟨-, hconfirmed, -⟩
  · exact h
  · rw [hs] at hconfirmed
    cases hconfirmed

theorem Follow.refl (h : UniqueIds d) : Follow real now d d where
  ids := h
  forth _ r hr := ⟨r, hr, .inl rfl⟩
  back _ r hr := ⟨r, hr, .inl rfl⟩

theorem Follow.of_cores (h : Follow real now d₀ d) (hc : ∀ t, d'.cores t = d.cores t) :
    Follow real now d₀ d' where
  ids t := by
    rw [hc]
    exact h.ids t
  forth t := by
    rw [hc]
    exact h.forth t
  back t := by
    rw [hc]
    exact h.back t

/-- Rows that are confirmed with an allowed receipt. -/
theorem Follow.confirm {v : Timestamptz} (h : Follow real now d₀ d)
    (hp : ∀ r₀ ∈ d₀.cores t, ∀ r, Follows real (now t) r₀ r → p r = true →
      real receipt ∨ r₀.pollable (now t) = true ∧ receipt = derived r₀) :
    Follow real now d₀ (d.updateCores t p (PaymentCore.confirmed (some receipt) v)) where
  ids := h.ids.updateCores fun _ => rfl
  forth t' r₀ hr₀ := by
    obtain ⟨r, hr, hfollows⟩ := h.forth t' r₀ hr₀
    refine ⟨_, mem_cores_updateCores.mpr ⟨r, hr, rfl⟩, ?_⟩
    split
    · next hupdated =>
        obtain ⟨rfl, hholds⟩ := hupdated
        exact .inr ⟨hfollows.id, rfl, receipt, rfl, hp r₀ hr₀ r hfollows hholds⟩
    · exact hfollows
  back t' r' hr' := by
    obtain ⟨r, hr, rfl⟩ := mem_cores_updateCores.mp hr'
    obtain ⟨r₀, hr₀, hfollows⟩ := h.back t' r hr
    refine ⟨r₀, hr₀, ?_⟩
    split
    · next hupdated =>
        obtain ⟨rfl, hholds⟩ := hupdated
        exact .inr ⟨hfollows.id, rfl, receipt, rfl, hp r₀ hr₀ r hfollows hholds⟩
    · exact hfollows

theorem Confirmed.of_cores {id : UUID} (h : Confirmed d t id) (hc : ∀ t, d'.cores t = d.cores t) :
    Confirmed d' t id := by
  rw [Confirmed, hc]
  exact h

theorem Confirmed.confirm {t' : PaymentTable} {id : UUID} {rc : Option String} {v : Timestamptz}
    (h : Confirmed d t' id) :
    Confirmed (d.updateCores t p (PaymentCore.confirmed rc v)) t' id := by
  obtain ⟨r, hr, hid, hs⟩ := h
  refine ⟨_, mem_cores_updateCores.mpr ⟨r, hr, rfl⟩, ?_⟩
  split
  · exact ⟨hid, rfl⟩
  · exact ⟨hid, hs⟩

/-- The payment was due when the poller started. -/
def Due (now : PaymentTable → Timestamptz) (d₀ : Store) (t : PaymentTable) (r : PaymentCore) :
    Prop := r ∈ d₀.cores t ∧ r.pollable (now t) = true

theorem Due.pending (h : Due now d₀ t r) : r.status = .pending := by
  have hp := h.2
  simp only [PaymentCore.pollable, Bool.and_eq_true, beq_iff_eq] at hp
  exact hp.1.1.1

/-- The update of a due payment writes a receipt of the poller to it and to no other row. -/
theorem Follow.poll {v : Timestamptz} (h : Follow real now d₀ d) (hids : UniqueIds d₀)
    (hr : Due now d₀ t r) : Follow real now d₀ (d.updateCores t (RowFilter.pending r.id).holds
      (PaymentCore.confirmed (some (derived r)) v)) := by
  apply h.confirm
  intro r₀ hr₀ r' hfollows hholds
  have hid : r'.id = r.id := RowFilter.holds_id hholds
  obtain rfl : r₀ = r := hids.eq hr₀ hr.1 (hfollows.id.symm.trans hid)
  exact .inr ⟨hr.2, rfl⟩

/-- A due payment is confirmed once the poller's update has run. -/
theorem Follow.confirmed_poll {v : Timestamptz} {rc : Option String} (h : Follow real now d₀ d)
    (hr : Due now d₀ t r) : Confirmed (d.updateCores t (RowFilter.pending r.id).holds
      (PaymentCore.confirmed rc v)) t r.id := by
  obtain ⟨r', hr', hfollows⟩ := h.forth t r hr.1
  rcases hfollows with rfl | ⟨hid, hs, -⟩
  · refine ⟨_, mem_cores_updateCores.mpr ⟨r', hr', rfl⟩, ?_⟩
    rw [if_pos ⟨rfl, by simp [RowFilter.holds, hr.pending]⟩]
    exact ⟨rfl, rfl⟩
  · exact Confirmed.confirm ⟨r', hr', hid, hs⟩

/-- No other row has the receipt of a payment that is due. -/
theorem Follow.not_taken (h : Follow real now d₀ d)
    (hreal : ∀ s, real s → ∀ c, s ≠ fallback_receipt c) (hdistinct : Distinguishes now d₀)
    (hr : Due now d₀ t r) (hpending : (d.cores t).any (RowFilter.pending r.id).holds = true) :
    d.receiptTaken t (derived r) (RowFilter.pending r.id).holds = false := by
  rw [Store.receiptTaken, List.any_eq_false]
  intro r' hr' htaken
  simp only [Bool.and_eq_true, Bool.not_eq_true', beq_iff_eq] at htaken
  obtain ⟨hholds, hreceipt⟩ := htaken
  obtain ⟨x, hx, hxholds⟩ := List.any_eq_true.mp hpending
  obtain ⟨r₀, hr₀, hfollows⟩ := h.back t r' hr'
  have hother : r₀.id ≠ r.id := by
    intro hid
    -- the pending row with this id is `r'` itself
    have hxr : r' = x := h.ids.eq hr' hx
      (hfollows.id.trans (hid.trans (RowFilter.holds_id hxholds).symm))
    rw [hxr, hxholds] at hholds
    cases hholds
  obtain ⟨hstored, hderived⟩ := hdistinct t r hr.1 hr.2 r₀ hr₀ hother
  rcases hfollows with rfl | ⟨-, -, s, hs, hallowed⟩
  · exact hstored hreceipt
  · rw [hreceipt] at hs
    cases hs
    rcases hallowed with hs | ⟨hpollable, heq⟩
    · exact hreal _ hs _ rfl
    · exact hderived hpollable heq.symm

end Invariant

section Contract

variable {real : String → Prop} {now : PaymentTable → Timestamptz} {d₀ d d' : Store}
  {t : PaymentTable} {r : PaymentCore} {l l' : RunLocal}

/-- Payments that a process has seen confirmed. -/
abbrev Seen := List (PaymentTable × UUID)

variable (real now d₀) in
/-- The poller keeps account of the confirmed payments, the callbacks do not. -/
def contract : Contract (Option Seen) Unit where
  rules := rules real now
  base := Follow real now d₀
  own d _ g := ∀ seen, g = some seen → ∀ x ∈ seen, Confirmed d x.1 x.2
  shared _ gs := ∃ seen, some seen ∈ gs

theorem moves {ks : List UUID} {g g' : Option Seen} (hb : Follow real now d₀ d')
    (ho : (contract real now d₀).own d' l' g')
    (hkeep : ∀ t id, Confirmed d t id → Confirmed d' t id) (hsome : g.isSome → g'.isSome) :
    (contract real now d₀).Moves ks d d' l g l' g' := by
  apply Moves.intro hb ho
  · intro l₂ g₂ h₂ _ seen hseen x hx
    exact hkeep _ _ (h₂ seen hseen x hx)
  · exact fun _ ht => .inl ht
  · rintro gs ⟨seen, hseen⟩
    rcases Multiset.mem_cons.mp hseen with rfl | hseen
    · obtain ⟨seen', rfl⟩ := Option.isSome_iff_exists.mp (hsome rfl)
      exact ⟨seen', Multiset.mem_cons_self _ _⟩
    · exact ⟨seen, Multiset.mem_cons_of_mem hseen⟩
  · trivial

/-- A step that leaves the payments alone. -/
theorem moves_of_cores {ks : List UUID} {g : Option Seen} (hc : ∀ t, d'.cores t = d.cores t)
    (hb : Follow real now d₀ d) (ho : (contract real now d₀).own d l g) :
    (contract real now d₀).Moves ks d d' l g l' g := by
  apply moves (hb.of_cores hc)
  · intro seen hseen x hx
    exact (ho seen hseen x hx).of_cores hc
  · exact fun _ _ h => h.of_cores hc
  · exact id

/-- What a callback does is allowed at any time. -/
theorem neutral {s : Stmt} (hs : FromCallback real s) :
    (contract real now d₀).discipline.protocol.Neutral none s := by
  apply neutral_of_moves
  intro d l v a d' hb ho _ he
  cases hs with
  | confirm hreal =>
      obtain ⟨rc, hrc, rfl⟩ := Stmt.eval_confirm he
      obtain ⟨receipt, rfl⟩ := textParam_isSome hrc (by simp)
      cases textParam_eq_ok hrc
      apply moves (Follow.confirm hb fun _ _ _ _ _ => .inl hreal)
      · exact fun _ h => by cases h
      · exact fun _ _ h => h.confirm
      · exact id
  | other h =>
      have hsame (T : Table) (hT : T ∉ [Table.tenants, .queue]) : d'.Same d T :=
        Stmt.eval_same (fun hw => hT (h T hw)) he
      exact moves_of_cores (cores_of_same (hsame _ (by simp)) (hsame _ (by simp))) hb ho

/-- A callback ends without an account. -/
theorem wp_callback {α : Type} {p : M α} (hp : p.All (FromCallback real)) :
    (contract real now d₀).wp (fun _ _ g => g = none) p {} none := by
  have hfree : (contract real now d₀).discipline.protocol.LocalFree none := by
    intro d l l' others hi
    have hm : (contract real now d₀).Moves [] d d l none l' none :=
      .stay hi.base fun _ h => by cases h
    exact (hi.moves hm (by simp)).1
  have hlog : (contract real now d₀).discipline.protocol.NeutralLog none {} :=
    fun log h => by cases h
  exact Protocol.wp_mono (Protocol.wp_of_all (hp.mono fun _ => neutral) hfree hlog)
    fun _ _ _ h => h.1

/-- What the answer to a query says of a payment that has been made. -/
def Success (result : Json) : Prop :=
  ∃ response_code code, result.get "ResponseCode" = .ok response_code ∧
    response_code.eqText "pending" = false ∧ result.get "ResultCode" = .ok code ∧ code.text = "0"

theorem SucceedsAnswer.success {answer : Except Exn HttpResponse} (h : SucceedsAnswer answer) :
    ∃ result, answer.bind query_result = .ok result ∧ Success result := by
  unfold SucceedsAnswer at h
  cases hresult : answer.bind query_result with
  | error e => rw [hresult] at h; exact h.elim
  | ok result =>
      refine ⟨result, rfl, ?_⟩
      rw [hresult] at h
      dsimp only at h
      cases hresponse : result.get "ResponseCode" with
      | error e => rw [hresponse] at h; exact h.elim
      | ok response_code =>
          rw [hresponse] at h
          cases hcode : result.get "ResultCode" with
          | error e => rw [hcode] at h; exact h.elim
          | ok code =>
              rw [hcode] at h
              exact ⟨response_code, code, hresponse, h.1, hcode, h.2⟩

theorem wp_stk_push_query {c : String} {g : Option Seen} :
    (contract real now d₀).wp (fun res l' g' => l' = l ∧ g' = g ∧
      ∃ result, res = .ok result ∧ Success result) (stk_push_query c) l g := by
  refine wp_bind (wp_exec (.inl rfl) ?_ ?_)
  · rintro d e - - (h | ⟨v, -, h⟩)
    · cases h
    · cases h
  · intro d v reply d' hb ho hrule he
    cases he
    refine ⟨g, .stay hb ho, rfl, rfl, ?_⟩
    exact SucceedsAnswer.success hrule

/-- The update of the poller for a row. -/
abbrev update (t : PaymentTable) (r : PaymentCore) : Stmt :=
  .confirm t (.str (derived r)) (.pending r.id)

/-- The update of a due payment goes through when the receipts are distinct. -/
theorem eval_update (h : Follow real now d₀ d) (hreal : ∀ s, real s → ∀ c, s ≠ fallback_receipt c)
    (hdistinct : Distinguishes now d₀) (hr : Due now d₀ t r) (htext : Storable r) (v : Env) :
    (update t r).eval v d = .ok ((), d.updateCores t (RowFilter.pending r.id).holds
      (PaymentCore.confirmed (some (derived r)) v.now)) := by
  have hfree : ((some (derived r)).all fun s => !(d.cores t).any (RowFilter.pending r.id).holds ||
      !d.receiptTaken t s (RowFilter.pending r.id).holds) = true := by
    cases hany : (d.cores t).any (RowFilter.pending r.id).holds with
    | false => rfl
    | true => simpa using h.not_taken hreal hdistinct hr hany
  simp only [Stmt.eval, textParam_derived htext, bind, Except.bind, Store.confirmRows]
  rw [hfree]
  rfl

/-- The log of the poller's transaction can be replayed when its update goes through. -/
theorem replay_update {v : Env} {rest : List (Stmt × Env)}
    (h : (update t r).eval v d = .ok ((), d'))
    (hrest : rest = [] ∨ ∃ id v', rest = [(.extend_tenant id, v')]) :
    ∃ d'', machine.replay ((update t r, v) :: rest) d = some d'' := by
  rcases hrest with rfl | ⟨id, v', rfl⟩
  · exact ⟨d', replay_cons.mpr ⟨(), d', h, rfl⟩⟩
  · have hextend : (Stmt.extend_tenant id).eval v' d' =
        .ok ((), d'.updateTenant id Tenant.extended) := rfl
    exact ⟨_, replay_cons.mpr ⟨(), d', h, replay_cons.mpr ⟨(), _, hextend, rfl⟩⟩⟩

/-- What the transaction of the poller has done at its commit. -/
theorem moves_commit {seen : Seen} {rest : List (Stmt × Env)} {v : Env} (hids : UniqueIds d₀)
    (hr : Due now d₀ t r) (hrest : rest = [] ∨ ∃ id v', rest = [(.extend_tenant id, v')])
    (hb : Follow real now d₀ d) (ho : (contract real now d₀).own d l (some seen))
    (hreplay : machine.replay ((update t r, v) :: rest) d = some d') :
    (contract real now d₀).Moves [] d d' l (some seen) l' (some ((t, r.id) :: seen)) := by
  obtain ⟨_, d₁, he, hend⟩ := replay_cons.mp hreplay
  have hcores : ∀ t, d'.cores t = d₁.cores t := by
    intro t'
    rcases hrest with rfl | ⟨id, v', rfl⟩
    · cases hend
      rfl
    · obtain ⟨_, d₂, he', hend'⟩ := replay_cons.mp hend
      cases he'
      cases hend'
      simp
  obtain ⟨rc, hrc, rfl⟩ := Stmt.eval_confirm he
  obtain ⟨receipt, rfl⟩ := textParam_isSome hrc (by simp)
  cases textParam_eq_ok hrc
  have hkeep (t' : PaymentTable) (id : UUID) (h : Confirmed d t' id) : Confirmed d' t' id :=
    h.confirm.of_cores hcores
  apply moves ((hb.poll hids hr).of_cores hcores) _ hkeep fun _ => rfl
  rintro _ ⟨rfl⟩ x hx
  rcases List.mem_cons.mp hx with rfl | hx
  · exact (hb.confirmed_poll hr).of_cores hcores
  · exact hkeep _ _ (ho seen rfl x hx)

/-- The account has grown, by the payment if the receipts are distinct. -/
def Grown (now : PaymentTable → Timestamptz) (d₀ : Store) (seen : Seen) (x : PaymentTable × UUID)
    (g : Option Seen) : Prop :=
  ∃ seen', g = some seen' ∧ seen ⊆ seen' ∧ (Distinguishes now d₀ → x ∈ seen')

theorem grown_self {seen : Seen} {x : PaymentTable × UUID} (h : ¬ Distinguishes now d₀) :
    Grown now d₀ seen x (some seen) :=
  ⟨seen, rfl, List.Subset.refl _, fun hd => absurd hd h⟩

theorem grown_cons {seen : Seen} {x : PaymentTable × UUID} :
    Grown now d₀ seen x (some (x :: seen)) :=
  ⟨_, rfl, List.subset_cons_self _ _, fun _ => List.mem_cons_self⟩

/-- The transaction confirms a due payment when the receipts are distinct. -/
theorem wp_confirm_polled {seen : Seen} (hids : UniqueIds d₀)
    (hreal : ∀ s, real s → ∀ c, s ≠ fallback_receipt c) (hr : Due now d₀ t r)
    (htext : Storable r) : (contract real now d₀).wp (fun res l' g' => l' = {} ∧
        Grown now d₀ seen (t, r.id) g' ∧ (Distinguishes now d₀ → res = .ok ()))
      (confirm_polled t (r.mpesa_checkout_id.getD "") r) {} (some seen) := by
  let Q : Except Exn Unit → RunLocal → Option Seen → Prop := fun res l' g' => l' = {} ∧
    Grown now d₀ seen (t, r.id) g' ∧ (Distinguishes now d₀ → res = .ok ())
  have hupdate {d : Store} (hb : Follow real now d₀ d) (hd : Distinguishes now d₀) (v : Env) :=
    eval_update hb hreal hd hr htext v
  have haborted (e : Exn) (log : List (Stmt × Env)) (hd : ¬ Distinguishes now d₀) :
      (contract real now d₀).TxPost Q (.error e) { txn := .aborted log } (some seen) :=
    ⟨fun d e' _ _ hb ho => ⟨some seen, .stay hb ho, rfl, grown_self hd, fun h => absurd h hd⟩,
      fun a ha => by cases ha⟩
  have hcommitted (v : Env) (rest : List (Stmt × Env))
      (hrest : rest = [] ∨ ∃ id v', rest = [(.extend_tenant id, v')]) :
      (contract real now d₀).TxPost Q (.ok ()) { txn := .active ((update t r, v) :: rest) }
        (some seen) := by
    refine ⟨fun d e _ hrefuses hb ho => ?_, fun a _ log hlog d d' hb ho hreplay _ => ?_⟩
    · have hd : ¬ Distinguishes now d₀ := by
        intro hd
        rcases hrefuses () _ rfl rfl with hlossy | ⟨-, hnone⟩
        · cases hlossy
        · obtain ⟨d', hsome⟩ := replay_update (hupdate hb hd v) hrest
          have hnone' : machine.replay ((update t r, v) :: rest) d = none := hnone
          rw [hnone'] at hsome
          cases hsome
      exact ⟨some seen, .stay hb ho, rfl, grown_self hd, fun h => absurd h hd⟩
    · cases hlog
      exact ⟨_, moves_commit hids hr hrest hb ho hreplay, rfl, grown_cons, fun _ => rfl⟩
  apply wp_transaction fun d hb ho => .stay hb ho
  refine wp_bind (wp_logged rfl rfl ?_ ?_)
  · rintro d e hb ho ⟨c, hinner, hraises⟩
    refine ⟨some seen, .stay hb ho, haborted e [] fun hd => ?_⟩
    cases c with
    | fail e' => cases hinner
    | run v =>
        have hx : ((update t r).exec v d).1 = .error e := hraises v d rfl rfl
        rw [Stmt.exec_eq_ok.mpr (hupdate hb hd v)] at hx
        cases hx
  · intro d v view a d' hb ho _ _
    refine ⟨some seen, .stay hb ho, ?_⟩
    cases t with
    | payments => exact hcommitted v [] (.inl rfl)
    | platform_payments =>
        refine wp_logged rfl rfl ?_ ?_
        · rintro d e hb ho ⟨c, hinner, hraises⟩
          refine ⟨some seen, .stay hb ho, haborted e _ fun hd => ?_⟩
          cases c with
          | fail e' => cases hinner
          | run v' =>
              obtain ⟨d', hreplay⟩ := replay_update (hupdate hb hd v) (.inl rfl)
              have hx : ((Stmt.extend_tenant r.tenant_id).exec v' d').1 = .error e :=
                hraises v' d' rfl hreplay
              cases hx
        · intro d v' view a d' hb ho _ _
          exact ⟨some seen, .stay hb ho, hcommitted v _ (.inr ⟨_, v', rfl⟩)⟩

/-- The job of a confirmed payment. -/
theorem wp_queue_voucher {confirmed : Bool} {g : Option Seen} :
    (contract real now d₀).wp (fun _ l' g' => l' = {} ∧ g' = g) (queue_voucher t r confirmed) {}
      g := by
  unfold queue_voucher
  split
  · apply wp_exec (.inl rfl)
    · exact fun d e hb ho _ => ⟨g, .stay hb ho, rfl, rfl⟩
    · intro d v a d' hb ho _ he
      cases he
      exact ⟨g, moves_of_cores (fun t => by cases t <;> rfl) hb ho, rfl, rfl⟩
  · exact ⟨rfl, rfl⟩

/-- One row of the poller. -/
theorem wp_poll_row {seen : Seen} (hids : UniqueIds d₀)
    (hreal : ∀ s, real s → ∀ c, s ≠ fallback_receipt c) (hr : Due now d₀ t r)
    (htext : Storable r) : (contract real now d₀).wp (fun res l' g' => res = .ok () ∧ l' = {} ∧
        Grown now d₀ seen (t, r.id) g') (poll_row t r) {} (some seen) := by
  let I : RunLocal → Option Seen → Prop := fun l' g' => l' = {} ∧ Grown now d₀ seen (t, r.id) g'
  suffices hbody : (contract real now d₀).wp (fun _ l' g' => I l' g') (do
      let result ← stk_push_query (r.mpesa_checkout_id.getD "")
      apply_query t r (r.mpesa_checkout_id.getD "") result) {} (some seen) by
    refine wp_catch (wp_mono hbody ?_)
    intro res l' g' h
    cases res with
    | ok a => exact ⟨rfl, h⟩
    | error e => exact ⟨rfl, h⟩
  have hqueue (confirmed : Bool) {g : Option Seen} (hg : Grown now d₀ seen (t, r.id) g) :
      (contract real now d₀).wp (fun _ l' g' => I l' g') (queue_voucher t r confirmed) {} g :=
    wp_mono wp_queue_voucher fun _ _ _ h => ⟨h.1, h.2 ▸ hg⟩
  refine wp_bind (wp_mono wp_stk_push_query ?_)
  rintro res l' g' ⟨rfl, rfl, result, rfl, response_code, code, hresponse, hpending, hcode, hzero⟩
  refine wp_get (fun e he => ?_) fun y hy => ?_
  · rw [hresponse] at he
    cases he
  obtain rfl : y = response_code := by
    rw [hresponse] at hy
    exact (Except.ok.inj hy).symm
  rw [if_neg (by simp [hpending])]
  refine wp_get (fun e he => ?_) fun y hy => ?_
  · rw [hcode] at he
    cases he
  obtain rfl : y = code := by
    rw [hcode] at hy
    exact (Except.ok.inj hy).symm
  refine wp_get (fun e he => ?_) fun desc _ => ?_
  · cases result with
    | obj fields => cases he
    | _ => cases hcode
  rw [if_pos hzero]
  refine wp_bind (wp_catch (wp_bind (wp_mono (wp_confirm_polled hids hreal hr htext) ?_)))
  rintro (e | u) l' g' ⟨rfl, hgrown, hok⟩
  · cases e with
    | uniqueViolation c => exact hqueue false hgrown
    | _ => exact ⟨rfl, hgrown⟩
  · exact hqueue true hgrown

/-- The loop of the poller. -/
theorem wp_poll_rows {rows : LookedUp} {seen : Seen} (hids : UniqueIds d₀)
    (hreal : ∀ s, real s → ∀ c, s ≠ fallback_receipt c)
    (hrows : ∀ x ∈ rows, Due now d₀ x.1 x.2 ∧ Storable x.2) :
    (contract real now d₀).wp (fun _ l' g' => l' = {} ∧ ∃ seen', g' = some seen' ∧ seen ⊆ seen' ∧
        (Distinguishes now d₀ → ∀ x ∈ rows, (x.1, x.2.id) ∈ seen'))
      (.forEach rows fun x => poll_row x.1 x.2) {} (some seen) := by
  induction rows generalizing seen with
  | nil => exact ⟨rfl, seen, rfl, List.Subset.refl _, fun _ _ h => by cases h⟩
  | cons x rows ih =>
      obtain ⟨hdue, htext⟩ := hrows x List.mem_cons_self
      refine wp_bind (wp_mono (wp_poll_row hids hreal hdue htext) ?_)
      rintro _ l' g' ⟨rfl, rfl, seen', rfl, hsub, hx⟩
      refine wp_mono (ih fun y hy => hrows y (List.mem_cons_of_mem x hy)) ?_
      rintro _ l' g' ⟨rfl, seen'', rfl, hsub', hall⟩
      refine ⟨rfl, seen'', rfl, List.Subset.trans hsub hsub', fun hd y hy => ?_⟩
      rcases List.mem_cons.mp hy with rfl | hy
      · exact hsub' (hx hd)
      · exact hall hd y hy

/-- The payments that were due are among the rows that the poller has read, or seen confirmed. -/
def Covers (now : PaymentTable → Timestamptz) (d₀ : Store) (t : PaymentTable)
    (found : List PaymentCore) (seen : Seen) : Prop :=
  (∀ r ∈ found, Due now d₀ t r) ∧ ∀ r, Due now d₀ t r → r ∈ found ∨ (t, r.id) ∈ seen

/-- One of the two queries of the poller. -/
theorem wp_select_pending {seen : Seen} : (contract real now d₀).wp (fun res l' g' => l' = {} ∧
    ∃ found seen', res = .ok found ∧ g' = some seen' ∧ seen ⊆ seen' ∧ Covers now d₀ t found seen')
      (exec (.select_pending t)) {} (some seen) := by
  apply wp_exec (.inr rfl)
  · rintro d e - - (h | ⟨v, -, h⟩)
    · cases h
    · cases h
  · intro d v found d' hb ho hnow he
    cases he
    have hv : v.now = now t := hnow
    let found := (d.cores t).filter fun r => r.pollable v.now
    let settled := ((d₀.cores t).filter fun r => r.pollable (now t) && !found.contains r).map
      fun r => (t, r.id)
    refine ⟨some (settled ++ seen), moves hb ?_ (fun _ _ h => h) fun _ => rfl, rfl, found,
      settled ++ seen, rfl, rfl, List.subset_append_right _ _, fun r hr => ?_, fun r hr => ?_⟩
    · rintro _ ⟨rfl⟩ x hx
      rcases List.mem_append.mp hx with hx | hx
      · obtain ⟨r, hr, rfl⟩ := List.mem_map.mp hx
        simp only [List.mem_filter, Bool.and_eq_true, Bool.not_eq_true', List.contains_eq_mem,
          decide_eq_false_iff_not] at hr
        obtain ⟨hr, hpollable, hmissed⟩ := hr
        obtain ⟨r', hr', hfollows⟩ := hb.forth t r hr
        rcases hfollows with rfl | ⟨hid, hs, -⟩
        · exact absurd (List.mem_filter.mpr ⟨hr', hv ▸ hpollable⟩) hmissed
        · exact ⟨r', hr', hid, hs⟩
      · exact ho seen rfl x hx
    · obtain ⟨hr, hpollable⟩ := List.mem_filter.mp hr
      obtain ⟨r₀, hr₀, hfollows⟩ := hb.back t r hr
      have hpending : r.status = .pending := by
        simp only [PaymentCore.pollable, Bool.and_eq_true, beq_iff_eq] at hpollable
        exact hpollable.1.1.1
      obtain rfl := hfollows.eq_of_pending hpending
      exact ⟨hr₀, hv ▸ hpollable⟩
    · by_cases hfound : r ∈ found
      · exact .inl hfound
      · refine .inr (List.mem_append_left _ (List.mem_map.mpr ⟨r, ?_, rfl⟩))
        simp [hr.1, hr.2, hfound]

/-- A run of the poller. -/
theorem wp_poll (hids : UniqueIds d₀) (hreal : ∀ s, real s → ∀ c, s ≠ fallback_receipt c)
    (htext : ∀ t, ∀ r ∈ d₀.cores t, Storable r) :
    (contract real now d₀).wp (fun _ _ g' => ∃ seen, g' = some seen ∧
        (Distinguishes now d₀ → ∀ t r, Due now d₀ t r → (t, r.id) ∈ seen))
      poll_pending_daraja_payments_cron {} (some []) := by
  refine wp_bind (wp_mono (wp_select_pending (t := .payments)) ?_)
  rintro _ l' g' ⟨rfl, payments, seen₁, rfl, rfl, -, hpayments⟩
  refine wp_bind (wp_mono (wp_select_pending (t := .platform_payments)) ?_)
  rintro _ l' g' ⟨rfl, platform, seen₂, rfl, rfl, hsub₂, hplatform⟩
  refine wp_mono (wp_poll_rows hids hreal fun x hx => ?_) ?_
  · have hdue : Due now d₀ x.1 x.2 := by
      rcases List.mem_append.mp hx with hx | hx
      · obtain ⟨r, hr, rfl⟩ := List.mem_map.mp hx
        exact hpayments.1 r hr
      · obtain ⟨r, hr, rfl⟩ := List.mem_map.mp hx
        exact hplatform.1 r hr
    exact ⟨hdue, htext x.1 x.2 hdue.1⟩
  · rintro _ l' g' ⟨rfl, seen, rfl, hsub, hall⟩
    refine ⟨seen, rfl, fun hd t r hr => ?_⟩
    cases t with
    | payments =>
        rcases hpayments.2 r hr with hfound | hseen
        · exact hall hd (.payments, r) (List.mem_append_left _ (List.mem_map_of_mem hfound))
        · exact hsub (hsub₂ hseen)
    | platform_payments =>
        rcases hplatform.2 r hr with hfound | hseen
        · exact hall hd (.platform_payments, r)
            (List.mem_append_right _ (List.mem_map_of_mem hfound))
        · exact hsub hseen

/-- At the end of a run every due payment is accounted for when the receipts are distinct, and in
any case the rows have changed only as they may. -/
theorem polling_ends (hids : UniqueIds d₀) (hreal : ∀ s, real s → ∀ c, s ≠ fallback_receipt c)
    (htext : ∀ t, ∀ r ∈ d₀.cores t, Storable r) {s : RunState}
    (hs : Reaches system (rules real now) (polling d₀) s) :
    Follow real now d₀ s.store ∧ ((∀ p ∈ s.procs, p.Finished) → Distinguishes now d₀ →
      ∀ t r, Due now d₀ t r → Confirmed s.store t r.id) := by
  let Q : Except Exn Unit → RunLocal → Option Seen → Prop := fun _ _ g' => ∀ seen, g' = some seen →
    Distinguishes now d₀ → ∀ t r, Due now d₀ t r → (t, r.id) ∈ seen
  have hstart : Valid (contract real now d₀).discipline.protocol Q (polling d₀) := by
    refine ⟨[({ prog := poll_pending_daraja_payments_cron }, some [])], rfl,
      ⟨Follow.refl hids, ?_, List.nodup_nil, [], Multiset.mem_singleton_self _⟩, ?_⟩
    · intro x hx
      obtain rfl := List.mem_singleton.mp (Multiset.mem_coe.mp hx)
      rintro _ ⟨rfl⟩ x hx
      cases hx
    · intro a ha
      obtain rfl := List.mem_singleton.mp ha
      refine wp_mono (wp_poll hids hreal htext) ?_
      rintro _ _ _ ⟨seen, rfl, hall⟩ _ ⟨rfl⟩
      exact hall
  have hvalid := (hstart.reaches (Y := system) rfl (fun w d d' p ls hi hspawn hw => ?_)
    (fun _ _ _ _ he => he.elim) hs).1
  · obtain ⟨ann, hann, hi, hwp⟩ := hvalid
    refine ⟨hi.base, fun hended hd t r hr => ?_⟩
    obtain ⟨seen, hseen⟩ := hi.shared
    rw [Multiset.map_coe, Multiset.mem_coe, List.mem_map] at hseen
    obtain ⟨x, hx, hg⟩ := hseen
    obtain ⟨a, ha, rfl⟩ := List.mem_map.mp hx
    obtain ⟨res, hres⟩ := hended a.1 (hann ▸ List.mem_map_of_mem ha)
    have hQ := hwp a ha
    rw [hres] at hQ
    exact hi.own _ (Multiset.mem_coe.mpr hx) seen hg _ (hQ seen hg hd t r hr)
  · cases w with
    | daraja_webhook body =>
        cases hw
        have hall : (discard (process_daraja_webhook body)).All (FromCallback real) :=
          discard_all (process_daraja_webhook_all hspawn)
        have hstarts : (contract real now d₀).Starts d d none :=
          { base := hi.base
            own := fun _ h => (by cases h)
            token := rfl
            stable := fun _ _ h => h
            shared := fun _ ⟨seen, hseen⟩ => ⟨seen, Multiset.mem_cons_of_mem hseen⟩
            guar := trivial }
        refine ⟨none, hstarts.keeps hi, wp_mono (wp_callback hall) ?_⟩
        rintro _ _ _ rfl _ h
        cases h
    | _ => exact hspawn.elim

end Contract

/-- With distinct receipts the poller confirms every due payment. -/
theorem confirms_of_distinguishes {now : PaymentTable → Timestamptz} {d : Store} (hd : Booked d)
    (h : Distinguishes now d) : Confirms now d := by
  intro s hs hended t r hr hpollable
  have hends := polling_ends hd.ids (fun _ hs => hs.ne_fallback) hd.text hs
  exact hends.2 hended h t r ⟨hr, hpollable⟩

section Alone

/-- The answer to the query of a payment that has been made. -/
def made : HttpResponse :=
  { status_code := 200
    is_success := true
    json := .ok (.obj [("ResponseCode", .str "0"), ("ResultCode", .str "0")]) }

variable (now : PaymentTable → Timestamptz)

/-- The choices of a run without callbacks. -/
def choice : Stmt → Env
  | .select_pending t => { now := now t }
  | _ => { query := .ok made }

def fate : Solo.Fate Stmt Exn Env where
  stmt s := .run (choice now s)
  commit := .run {}

/-- The poller alone, to its end. -/
def alone (d : Store) : Store :=
  (Solo.outcome machine (fate now) poll_pending_daraja_payments_cron d ({} : RunLocal)).2.1

/-- A run in which nothing else starts. -/
theorem reaches_alone (d : Store) (real : String → Prop) : ∃ s : RunState,
    Reaches system (rules real now) (polling d) s ∧ s.store = alone now d ∧
      ∀ p ∈ s.procs, p.Finished := by
  have hstmt (s : Stmt) (d : Store) : (rules real now).stmt s ((fate now).stmt s) d := by
    cases s with
    | post_stk_query c => exact ⟨rfl, rfl⟩
    | _ => rfl
  refine ⟨_, reaches_outcome hstmt (fun _ _ => rfl) ⟨{}, rfl⟩ (fun x hx => by cases hx), rfl, ?_⟩
  intro p hp
  obtain rfl := List.mem_singleton.mp hp
  exact ⟨_, rfl⟩

variable {now} {d : Store}

/-- The poller alone leaves a payment as it was, or confirms it with the receipt it makes up. -/
theorem follow_alone (hd : Booked d) : Follow (fun _ => False) now d (alone now d) := by
  obtain ⟨s, hs, hstore, -⟩ := reaches_alone now d fun _ => False
  rw [← hstore]
  exact (polling_ends hd.ids (fun _ h => h.elim) hd.text hs).1

theorem constrained_alone (hd : Booked d) : Constrained (alone now d) := by
  have hkeep (s : Stmt) (_ : True) (v : Env) (d : Store) (hd : Constrained d) :
      Constrained (machine.exec s v d).2 := constrained_rule.exec trivial trivial hd
  exact Solo.outcome_keeps_all hkeep (Prog.all_true _) (fun x hx => by cases hx) hd.toConstrained

/-- A receipt that two payments would share is left to one of them. -/
theorem distinguishes_of_confirms (hd : Booked d) (h : Confirms now d) : Distinguishes now d := by
  obtain ⟨s, hs, hstore, hended⟩ := reaches_alone now d IsReceipt
  have hfollow : Follow (fun _ => False) now d (alone now d) := follow_alone hd
  have hconstrained : Constrained (alone now d) := constrained_alone hd
  have hreceipts := hconstrained.receipts
  have hdue {t : PaymentTable} {r : PaymentCore} (hr : Due now d t r) :
      ∃ y ∈ (alone now d).cores t, y.id = r.id ∧ y.mpesa_receipt_number = some (derived r) := by
    obtain ⟨y, hy, hid, hconfirmed⟩ := h s hs hended t r hr.1 hr.2
    rw [hstore] at hy
    obtain ⟨r₀, hr₀, hfollows⟩ := hfollow.back t y hy
    obtain rfl := hd.ids.eq hr₀ hr.1 (hfollows.id.symm.trans hid)
    rcases hfollows with rfl | ⟨-, -, receipt, hreceipt, hreal | ⟨-, rfl⟩⟩
    · rw [hr.pending] at hconfirmed
      cases hconfirmed
    · exact hreal.elim
    · exact ⟨y, hy, hid, hreceipt⟩
  intro t r hr hpollable r' hr' hne
  obtain ⟨y, hy, hid, hreceipt⟩ := hdue ⟨hr, hpollable⟩
  constructor
  · intro htaken
    obtain ⟨y', hy', hfollows⟩ := hfollow.forth t r' hr'
    rcases hfollows with rfl | ⟨-, -, -, -, hreal | ⟨hpollable', -⟩⟩
    · exact hne (hreceipts t y' hy' y hy _ htaken hreceipt |>.trans hid)
    · exact hreal.elim
    · have hblank := hd.blank t r' hr' (Due.pending ⟨hr', hpollable'⟩)
      rw [hblank] at htaken
      cases htaken
  · intro hpollable' heq
    obtain ⟨y', hy', hid', hreceipt'⟩ := hdue ⟨hr', hpollable'⟩
    rw [heq] at hreceipt'
    exact hne (hid'.symm.trans ((hreceipts t y' hy' y hy _ hreceipt' hreceipt).trans hid))

end Alone

/-- The poller confirms every payment that is due exactly when the receipts it makes up are
distinct from each other and from those of the other payments of the table. -/
theorem confirms_iff {now : PaymentTable → Timestamptz} {d : Store} (hd : Booked d) :
    Confirms now d ↔ Distinguishes now d :=
  ⟨distinguishes_of_confirms hd, confirms_of_distinguishes hd⟩

/-- A pending payment of a phone, whose number ends the checkout id. -/
def pendingPayment (id : UUID) (checkout_id : String) : Payment :=
  { id, tenant_id := 1, amount_kes := .units ⟨5000, Money.fits_5000⟩, customer_id := 2, package_id := 3
    mpesa_checkout_id := some checkout_id, phone_number := "254712345678"
    created_at := 0, updated_at := 0 }

/-- Two payments. -/
def twoPayments (checkout_id checkout_id' : String) : Store :=
  { payments := [pendingPayment 4 checkout_id, pendingPayment 5 checkout_id'] }

theorem booked_twoPayments {checkout_id checkout_id' : String}
    (h : Char.ofNat 0 ∉ checkout_id.toList) (h' : Char.ofNat 0 ∉ checkout_id'.toList) :
    Booked (twoPayments checkout_id checkout_id') := by
  have hrows {t : PaymentTable} {r : PaymentCore}
      (hr : r ∈ (twoPayments checkout_id checkout_id').cores t) :
      r = (pendingPayment 4 checkout_id).toPaymentCore ∨
        r = (pendingPayment 5 checkout_id').toPaymentCore := by
    cases t with
    | payments => simpa [twoPayments, Store.cores] using hr
    | platform_payments => cases hr
  have hreceipt {t : PaymentTable} {r : PaymentCore}
      (hr : r ∈ (twoPayments checkout_id checkout_id').cores t) :
      r.mpesa_receipt_number = none := by
    rcases hrows hr with rfl | rfl <;> rfl
  refine ⟨⟨fun t => ?_, fun t r hr r' _ s hs => ?_, fun t r hr c hc => ?_⟩,
    fun t r hr _ => hreceipt hr⟩
  · cases t <;> simp [twoPayments, Store.cores, pendingPayment]
  · rw [hreceipt hr] at hs
    cases hs
  · rcases hrows hr with rfl | rfl
    · cases hc
      exact h
    · cases hc
      exact h'

theorem confirms_two_phones : Confirms (fun _ => 3 * minute)
    (twoPayments "ws_CO_01012026120000254712345678" "ws_CO_01012026120000254712345679") := by
  refine (confirms_iff (booked_twoPayments (by decide) (by decide))).mpr fun t => ?_
  cases t with
  | payments => decide +kernel
  | platform_payments => exact fun r hr => by cases hr

/-- Two payments of one phone, five minutes apart. -/
def onePhone : Store :=
  twoPayments "ws_CO_01012026120000254712345678" "ws_CO_01012026120500254712345678"

theorem not_confirms : Booked onePhone ∧ ¬ Confirms (fun _ => 3 * minute) onePhone := by
  have hbooked : Booked onePhone := booked_twoPayments (by decide) (by decide)
  refine ⟨hbooked, fun h => ?_⟩
  have hdistinct := distinguishes_of_confirms hbooked h .payments
  revert hdistinct
  decide +kernel

end PollerReceipts

end FrixelConnect
