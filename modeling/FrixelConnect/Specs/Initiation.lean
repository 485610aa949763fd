import FrixelConnect.Specs.Footprint
import FrixelConnect.Effects

/-!
# Initiations under any contract

An initiation inserts a pending row, which nobody else can find before its
checkout id is stored. The ghost value `owner t id tenant push` says that the
process has inserted the row, and under which id Daraja has accepted its push.
`Failable push` says when the row may still be marked failed.
-/

namespace FrixelConnect

open Decimals Python Interleaving Contract

/-- The payment that a push is recorded for. -/
def PaymentTable.pushedFor (t : PaymentTable) (id : UUID) : Option UUID :=
  match t with
  | .payments => some id
  | .platform_payments => none

/-- The caller of `stk_push` gets a result that names the checkout id. -/
def Delivers (response : Except Exn HttpResponse) (checkout_id : String) : Prop :=
  match response.bind push_result with
  | .error _ => False
  | .ok result =>
      match result.get "CheckoutRequestID" with
      | .ok (.str c) => c = checkout_id
      | _ => False

instance (response : Except Exn HttpResponse) (checkout_id : String) :
    Decidable (Delivers response checkout_id) := by
  unfold Delivers
  split
  · infer_instance
  · split <;> infer_instance

theorem Delivers.result {response : Except Exn HttpResponse} {checkout_id : String}
    (h : Delivers response checkout_id) : ∃ result, response.bind push_result = .ok result ∧
      result.get "CheckoutRequestID" = .ok (.str checkout_id) := by
  unfold Delivers at h
  split at h
  · cases h
  · next result hresult =>
      split at h
      · next c hc => exact ⟨result, hresult, h ▸ hc⟩
      · cases h

variable {G T : Type}

/-- What a contract must accept from the initiations. -/
structure Initiation (𝒞 : Contract G T) (idle : G)
    (owner : PaymentTable → UUID → UUID → Option String → G) (Failable : Option String → Prop) :
    Prop where
  loc : ∀ {d l l'}, 𝒞.own d l idle → 𝒞.own d l' idle
  loc_owner : ∀ {d l l' t id tenant}, 𝒞.own d l (owner t id tenant none) →
    𝒞.own d l' (owner t id tenant none)
  insert : ∀ {d d' v l customer_id package_id amount phone tenant row}, 𝒞.base d →
    𝒞.own d l idle →
    (Stmt.insert_payment customer_id package_id amount .pending phone tenant none none).eval v d =
      .ok (row, d') →
    𝒞.Moves [] d d' l idle l (owner .payments row.id tenant none)
  insert_platform : ∀ {d d' v l amount phone tenant row}, 𝒞.base d → 𝒞.own d l idle →
    (Stmt.insert_platform_payment tenant amount phone .null).eval v d = .ok (row, d') →
    𝒞.Moves [] d d' l idle l (owner .platform_payments row.id tenant none)
  push : ∀ {d d' v l} {t : PaymentTable} {id tenant phone amount reference description reply}, 𝒞.base d →
    𝒞.own d l (owner t id tenant none) → .initiating t id ∈ l.frames →
    𝒞.rules.stmt (.post_stk_push (t.pushedFor id) phone amount reference description)
      (.run v) d →
    (Stmt.post_stk_push (t.pushedFor id) phone amount reference description).eval v d =
      .ok (reply, d') →
    𝒞.Moves [] d d' l (owner t id tenant none) l (owner t id tenant v.push.checkout_id)
  delivered : ∀ {d v} {t : PaymentTable} {id phone amount reference description},
    𝒞.rules.stmt (.post_stk_push (t.pushedFor id) phone amount reference description)
      (.run v) d →
    Failable v.push.checkout_id ∨ ∀ c, v.push.checkout_id = some c → Delivers v.push.response c
  failable : Failable none
  store : ∀ {d d' v l t id tenant w push checkout_id row}, 𝒞.base d →
    𝒞.own d l (owner t id tenant push) → w = none ∨ w = some tenant →
    Failable push ∨ (∀ c, push = some c → checkout_id = .str c) →
    (Stmt.store_checkout t checkout_id (.row id w)).eval v d = .ok (row, d') →
    row.isSome ∧ 𝒞.Moves [] d d' l (owner t id tenant push) l idle
  store_failed : ∀ {d l t id tenant w push checkout_id e}, 𝒞.base d →
    𝒞.own d l (owner t id tenant push) →
    Failable push ∨ (∀ c, push = some c → checkout_id = .str c) →
    𝒞.rules.stmt (.store_checkout t checkout_id (.row id w)) (.fail e) d ∨
      (∃ v, 𝒞.rules.stmt (.store_checkout t checkout_id (.row id w)) (.run v) d ∧
        (Stmt.store_checkout t checkout_id (.row id w)).eval v d = .error e) →
    Failable push
  fail : ∀ {d d' v l t id tenant w push reason}, 𝒞.base d → 𝒞.own d l (owner t id tenant push) →
    Failable push → w = none ∨ w = some tenant →
    (Stmt.fail t reason (.row id w)).eval v d = .ok ((), d') →
    𝒞.Moves [] d d' l (owner t id tenant push) l idle
  forget : ∀ {d l t id tenant push}, 𝒞.base d → 𝒞.own d l (owner t id tenant push) →
    Failable push → 𝒞.Moves [] d d l (owner t id tenant push) l idle

namespace Initiation

variable {𝒞 : Contract G T} {idle : G}
  {owner : PaymentTable → UUID → UUID → Option String → G} {Failable : Option String → Prop}
  {l : RunLocal} {t : PaymentTable} {id tenant : UUID}

/-- How a call of `stk_push` ends. -/
def Pushed (owner : PaymentTable → UUID → UUID → Option String → G)
    (Failable : Option String → Prop) (t : PaymentTable) (id tenant : UUID) (l : RunLocal)
    (res : Except Exn Json) (l' : RunLocal) (g' : G) : Prop :=
  l' = l ∧ ∃ push, g' = owner t id tenant push ∧ (Failable push ∨ ∃ result, res = .ok result ∧
    ∀ c, push = some c → result.get "CheckoutRequestID" = .ok (.str c))

theorem wp_stk_push (h : Initiation 𝒞 idle owner Failable) {phone : String} {amount : ℤ}
    {reference description : String} (hf : .initiating t id ∈ l.frames) :
    𝒞.wp (Pushed owner Failable t id tenant l)
      (stk_push (t.pushedFor id) phone amount reference description) l
      (owner t id tenant none) := by
  refine wp_bind (wp_exec (.inl rfl) ?_ ?_)
  · exact fun d e hb ho _ => ⟨_, .stay hb ho, rfl, none, rfl, .inl h.failable⟩
  intro d v reply d' hb ho hrule he
  refine ⟨_, h.push hb ho hf hrule he, rfl, _, rfl, ?_⟩
  obtain rfl : v.push.response = reply := by
    cases he
    rfl
  rcases h.delivered hrule with hfail | hgood
  · exact .inl hfail
  cases hc : v.push.checkout_id with
  | none => exact .inl h.failable
  | some c =>
      obtain ⟨result, hok, hget⟩ := (hgood c hc).result
      exact .inr ⟨result, hok, fun c' hc' => by cases hc'; exact hget⟩

/-- The update that every exception of the block leads to, from a push that may fail. -/
theorem wp_fail_initiated (h : Initiation 𝒞 idle owner Failable) (hl : l.txn = .none)
    {w : Option UUID} (hw : w = none ∨ w = some tenant) {message : String} {e : Exn}
    {push : Option String} (hpush : Failable push) :
    𝒞.wp (fun _ l' g' => l' = l ∧ g' = idle) (do
      exec (.fail t (.str e.str) (.row id w))
      throw (.payment (message ++ e.str)) : M PaymentCore) l (owner t id tenant push) := by
  refine wp_bind (wp_exec (.inr hl) ?_ ?_)
  · exact fun d e hb ho _ => ⟨_, h.forget hb ho hpush, rfl, rfl⟩
  · exact fun d v a d' hb ho _ he => ⟨_, h.fail hb ho hpush hw he, rfl, rfl⟩

/-- Storing the checkout id of a response: the row is given away, or the push may fail. -/
theorem wp_store (h : Initiation 𝒞 idle owner Failable) (hl : l.txn = .none) {w : Option UUID}
    (hw : w = none ∨ w = some tenant) {push : Option String} {response : Json}
    (hpush : Failable push ∨
      ∀ c, push = some c → response.get "CheckoutRequestID" = .ok (.str c)) :
    𝒞.wp (fun res l' g' => l' = l ∧ match res with
        | .ok _ => g' = idle
        | .error _ => g' = owner t id tenant push ∧ Failable push) (do
      let checkout_id ← get response "CheckoutRequestID"
      let updated_payment ← exec (.store_checkout t checkout_id (.row id w))
      match updated_payment with
      | none => throw (.fault .typeError)
      | some row => return row : M PaymentCore) l (owner t id tenant push) := by
  refine wp_get (fun e hget => ?_) fun checkout_id hget => ?_
  · refine ⟨rfl, rfl, hpush.elim (fun hf => hf) fun hc => ?_⟩
    cases push with
    | none => exact h.failable
    | some c => rw [hc c rfl] at hget; cases hget
  have hcheckout : Failable push ∨ ∀ c, push = some c → checkout_id = .str c := by
    refine hpush.imp_right fun hc c hp => ?_
    have hgot := hc c hp
    rw [hget] at hgot
    cases hgot
    rfl
  refine wp_bind (wp_exec (.inr hl) ?_ ?_)
  · exact fun d e hb ho hr => ⟨_, .stay hb ho, rfl, rfl, h.store_failed hb ho hcheckout hr⟩
  · intro d v row d' hb ho _ he
    obtain ⟨hrow, hm⟩ := h.store hb ho hw hcheckout he
    obtain ⟨row, rfl⟩ := Option.isSome_iff_exists.mp hrow
    exact ⟨_, hm, rfl, rfl⟩

/-- The block after the insert: whatever happens, the process ends without the row. -/
theorem wp_push_block (h : Initiation 𝒞 idle owner Failable) (hl : l.txn = .none)
    {w : Option UUID} (hw : w = none ∨ w = some tenant) {push : M Json} {message : String}
    (hpush : ∀ l : RunLocal, .initiating t id ∈ l.frames →
      𝒞.wp (Pushed owner Failable t id tenant l) push l (owner t id tenant none)) :
    𝒞.wp (fun _ l' g' => l' = l ∧ g' = idle) (push_block t id w push message) l
      (owner t id tenant none) := by
  apply wp_inFrame fun d hb ho => .stay hb (h.loc_owner ho)
  obtain ⟨frames, txn⟩ := l
  subst hl
  have hfin : ∀ (res : Except Exn PaymentCore) (l' : RunLocal) g',
      l' = ({ frames := .initiating t id :: frames } : RunLocal) ∧ g' = idle →
      ∃ g'', (∀ d, 𝒞.base d → 𝒞.own d l' g' →
        𝒞.Moves [] d d l' g' { l' with frames := l'.frames.tail } g'') ∧
        ({ l' with frames := l'.frames.tail } : RunLocal) = { frames } ∧ g'' = idle := by
    rintro res l' g' ⟨rfl, rfl⟩
    exact ⟨_, fun d hb ho => .stay hb (h.loc ho), rfl, rfl⟩
  refine wp_catch (wp_bind (wp_mono (hpush _ (by simp)) ?_))
  rintro (e | response) l' g' ⟨rfl, x, rfl, hx⟩
  · have hx : Failable x := hx.resolve_right (by simp)
    exact wp_mono (h.wp_fail_initiated rfl hw hx) (hfin)
  · have hx : Failable x ∨
        ∀ c, x = some c → response.get "CheckoutRequestID" = .ok (.str c) := by
      refine hx.imp_right ?_
      rintro ⟨result, hres, hc⟩
      cases hres
      exact hc
    refine wp_mono (h.wp_store rfl hw hx) ?_
    rintro (e | row) l' g' ⟨rfl, hg⟩
    · obtain ⟨rfl, hf⟩ := hg
      exact wp_mono (h.wp_fail_initiated rfl hw hf) hfin
    · exact hfin (.ok row) _ _ ⟨rfl, hg⟩

/-- The push of a customer payment, whose amount is computed first. -/
theorem wp_push_amount (h : Initiation 𝒞 idle owner Failable) {price : Money} {phone : String}
    {reference description : String} (hf : .initiating .payments id ∈ l.frames) :
    𝒞.wp (Pushed owner Failable .payments id tenant l) (do
      let amount ← Prog.ofExcept price.toInt
      stk_push (some id) phone amount reference description) l
      (owner .payments id tenant none) := by
  apply wp_bind
  cases price.toInt with
  | error e => exact ⟨rfl, none, rfl, .inl h.failable⟩
  | ok amount => exact h.wp_stk_push (t := .payments) hf

/-- The insert of a pending payment and the block after it. -/
theorem wp_insert_and_push (h : Initiation 𝒞 idle owner Failable) (hl : l.txn = .none)
    {customer_id package_id : UUID} {package : Package} {phone description message : String}
    {w : Option UUID} (hw : w = none ∨ w = some tenant) :
    𝒞.wp (fun _ l' g' => l' = l ∧ g' = idle) (do
      let payment ← exec (.insert_payment customer_id package_id package.price_kes.load
        .pending phone tenant none none)
      push_block .payments payment.id w
        (do let amount ← Prog.ofExcept package.price_kes.toInt
            stk_push (some payment.id) phone amount ("WIFI-" ++ front 7 (str payment.id))
              description) message) l idle := by
  refine wp_bind (wp_exec (.inr hl) ?_ ?_)
  · exact fun d e hb ho _ => ⟨_, .stay hb ho, rfl, rfl⟩
  · intro d v row d' hb ho _ he
    exact ⟨_, h.insert hb ho he, h.wp_push_block hl hw fun _ hf => h.wp_push_amount hf⟩

theorem wp_initiate_stk_push (h : Initiation 𝒞 idle owner Failable) (hl : l.txn = .none)
    {customer_id : UUID} {data : STKPushRequest} :
    𝒞.wp (fun _ l' g' => l' = l ∧ g' = idle) (initiate_stk_push tenant customer_id data) l
      idle := by
  refine wp_then (wp_reads (purchasable_plain _ _) hl) (fun _ _ _ hg => hg) ?_
  rintro package l' g' ⟨rfl, rfl⟩
  exact h.wp_insert_and_push hl (.inr rfl)

theorem wp_initiate_hotspot_payment (h : Initiation 𝒞 idle owner Failable) (hl : l.txn = .none)
    {data : PortalSTKPushRequest}
    (hguest : 𝒞.wp (fun _ l' g' => l' = l ∧ g' = idle)
      (get_or_create_guest_customer data.tenant_id data.phone) l idle) :
    𝒞.wp (fun _ l' g' => l' = l ∧ g' = idle) (initiate_hotspot_payment data) l idle := by
  refine wp_then hguest (fun _ _ _ hg => hg) ?_
  rintro customer_id l' g' ⟨rfl, rfl⟩
  refine wp_then (wp_reads (purchasable_plain _ _) hl) (fun _ _ _ hg => hg) ?_
  rintro package l' g' ⟨rfl, rfl⟩
  exact h.wp_insert_and_push hl (.inl rfl)

theorem wp_initiate_platform_billing_payment (h : Initiation 𝒞 idle owner Failable)
    (hl : l.txn = .none) :
    𝒞.wp (fun _ l' g' => l' = l ∧ g' = idle) (initiate_platform_billing_payment tenant) l
      idle := by
  refine wp_bind (wp_skip rfl (.inr hl) ?_)
  rintro (e | _ | row)
  · exact ⟨rfl, rfl⟩
  · exact ⟨rfl, rfl⟩
  · refine wp_bind (wp_exec (.inr hl) ?_ ?_)
    · exact fun d e hb ho _ => ⟨_, .stay hb ho, rfl, rfl⟩
    · intro d v payment d' hb ho _ he
      refine ⟨_, h.insert_platform hb ho he, h.wp_push_block hl (.inr rfl) fun _ hf => ?_⟩
      exact h.wp_stk_push (t := .platform_payments) hf

end Initiation

end FrixelConnect
