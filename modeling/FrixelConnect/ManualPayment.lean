import FrixelConnect.Specs.Credentials
import FrixelConnect.Specs.Outcome

/-!
# Payments by hand

While a push is pending the portal shows the payer an account number, made from
the first digits of the payment's id, and promises that M-Pesa will confirm the
payment by itself. The Paybill callbacks know the wallets of resellers only: they
never write to `payments`, and they accept an account number when a reseller's
wallet has it as reference.
-/

namespace FrixelConnect

open Decimals Python Interleaving

/-- The account number that the portal shows. -/
def paybillAccount (paymentId : String) : String :=
  "WIFI-" ++ String.ofList (upper (paymentId.toList.take 7))

namespace ManualPayment

open Contract Alone

/-- The reference of the body is the account number of the payment, in any letter case. -/
def Refers (p : Payment) (body : Json) (ref : String) : Prop :=
  body.get "BillRefNumber" = .ok (.str ref) ∧ upper ref.toList = (paybillAccount (str p.id)).toList

/-- The payer has paid the price to the account number. -/
structure Confirmation (p : Payment) (body : Json) : Prop where
  reference : ∃ ref, Refers p body ref
  amount : ∃ x a, body.get "TransAmount" = .ok x ∧ x.decimal = some a ∧
    moneyParam a = .ok p.amount_kes

/-- Safaricom asks whether it may take the money. -/
structure Validation (p : Payment) (body : Json) : Prop where
  reference : ∃ ref, Refers p body ref
  type : body.get "TransactionType" = .ok (.str "Pay Bill Validation")

/-- Any number of callbacks with this body. -/
def callbacksOf (body : Json) : RunRules := { spawn := fun w _ => w = .c2b_webhook body }

/-- Exactly this payment has become confirmed. -/
def ConfirmsOnly (d d' : Store) (id : UUID) : Prop :=
  d'.payments.map (fun r => (r.id, r.status)) =
    d.payments.map fun r => (r.id, if r.id = id then .confirmed else r.status)

/-- Some run of the callback answers with success. -/
def Accepts (d : Store) (body : Json) : Prop :=
  ∃ y ack, Solo.Reaches machine anything
      ⟨(), d, { prog := process_daraja_c2b_webhook body }⟩ y ∧
    y.proc.prog = .ret (.ok ack) ∧ ack.ResultCode = 0

/-- The payment arrives: its confirmation confirms it, and its validation is accepted. -/
def Arrives (d : Store) (p : Payment) (confirmation validation : Json) : Prop :=
  (∃ s : RunState, Reaches system (callbacksOf confirmation) (FrixelConnect.idle d) s ∧
    ConfirmsOnly d s.store p.id) ∧ Accepts d validation

/-- A reseller has the text as wallet reference. -/
def IsWallet (d : Store) (reference : String) : Prop :=
  ∃ u ∈ d.users, u.wallet_reference = some reference ∧ u.role = .reseller

/-- The callbacks keep the table of payments. -/
def contract (body : Json) : Contract Unit Unit where
  rules := callbacksOf body
  guar d d' := d'.payments = d.payments
  guar_refl _ := rfl
  guar_trans _ _ _ h h' := h'.trans h

/-- The tables of the ledger. -/
def ledgerTables : List Table := [.wallet_transactions, .last_sequence_id]

variable {d : Store} {p : Payment} {body : Json} {ref : String}

theorem ignores : (contract body).Ignores ledgerTables where
  base _ _ := trivial
  own _ _ := trivial
  shared _ _ := trivial
  guar hs := hs .payments (by simp [ledgerTables])

theorem serves : (contract body).Serves := by
  intro w d d' q _ hrule hs
  have hw : w = .c2b_webhook body := hrule
  subst hw
  cases hs
  refine ⟨(), ⟨trivial, trivial, rfl, fun _ _ _ => trivial, fun _ _ => trivial, rfl⟩, ?_⟩
  refine wp_ignored ignores (discard_all (process_daraja_c2b_webhook_all body ?_ ?_ ?_))
    (fun _ _ _ _ => trivial) rfl
  · exact fun s hs T hT => absurd (hs T hT) (by simp)
  · exact fun T hT => by cases hT; simp [ledgerTables]
  · exact enters_within (by simp [ledgerTables]) _

/-- No callback writes to the table of payments. -/
theorem payments_kept {s : RunState}
    (hs : Reaches system (callbacksOf body) (FrixelConnect.idle d) s) :
    s.store.payments = d.payments := by
  have h₀ : (contract body).Holds (FrixelConnect.idle d) := .start trivial trivial
  exact (h₀.reaches serves (fun _ _ _ _ he => he.elim) hs).2

theorem not_arrives (hp : p ∈ d.payments) (hpending : p.status = .pending)
    (validation : Json) : ¬ Arrives d p body validation := by
  rintro ⟨⟨s, hs, hconfirms⟩, -⟩
  rw [ConfirmsOnly, payments_kept hs] at hconfirms
  have hrow := (List.map_inj_left.mp hconfirms) p hp
  rw [if_pos rfl, hpending] at hrow
  cases hrow

theorem mem_paybillAccount {c : Char} (hc : c ∈ (paybillAccount (str p.id)).toList) :
    c ∈ "WIFI-0123456789ABCDEF".toList := by
  simp only [paybillAccount, String.toList_append, String.toList_ofList, List.mem_append] at hc
  rcases hc with hc | hc
  · have hfront : ("WIFI-".toList.all ("WIFI-0123456789ABCDEF".toList.contains ·)) = true := by
      decide
    exact List.contains_iff_mem.mp (List.all_eq_true.mp hfront c hc)
  · obtain ⟨x, hx, rfl⟩ := List.mem_map.mp hc
    rw [str, String.toList_ofList] at hx
    rcases UUID.mem_str (List.mem_of_mem_take hx) with rfl | hdigit
    · decide
    · have hdigits : ("0123456789abcdef".toList.all
          fun x => "WIFI-0123456789ABCDEF".toList.contains x.toUpper) = true := by decide
      exact List.contains_iff_mem.mp (List.all_eq_true.mp hdigits x hdigit)

/-- The callback looks the account number up as the portal shows it. -/
theorem normalised (h : Refers p body ref) :
    String.ofList (upper (strip ref.toList)) = paybillAccount (str p.id) := by
  have hvisible : ("WIFI-0123456789ABCDEF".toList.all fun c => !isSpace c) = true := by decide
  have hspace (c : Char) (hc : c ∈ (paybillAccount (str p.id)).toList) : isSpace c = false := by
    simpa only [Bool.not_eq_true'] using List.all_eq_true.mp hvisible c (mem_paybillAccount hc)
  rw [upper_strip, h.2, strip_eq_self hspace, String.ofList_toList]

theorem textParam_paybillAccount :
    textParam none (.str (paybillAccount (str p.id))) = .ok (some (paybillAccount (str p.id))) := by
  have hnul : (paybillAccount (str p.id)).toList.contains (Char.ofNat 0) = false := by
    rw [List.contains_eq_mem, decide_eq_false_iff_not]
    intro h
    exact absurd (mem_paybillAccount h) (by decide)
  simp only [textParam, hnul]
  rfl

theorem eval_select_reseller (v : Env) :
    (Stmt.select_reseller (paybillAccount (str p.id))).eval v d =
      .ok (fetchrow v.pick (fun r => r.wallet_reference == some (paybillAccount (str p.id)) &&
        r.role == .reseller) d.users, d) := by
  change (textParam none _ >>= fun _ => _) = _
  rw [textParam_paybillAccount]
  rfl

/-- What the callback does with a validation. -/
def validate (reference : String) : M Ack := do
  let reseller ← exec (.select_reseller reference)
  match reseller with
  | none => return { ResultCode := 1, ResultDesc := "Invalid wallet reference" }
  | some _ => return completed

theorem webhook_of_validation (h : Validation p body) :
    process_daraja_c2b_webhook body = validate (paybillAccount (str p.id)) := by
  obtain ⟨ref, href⟩ := h.reference
  have hne : (Json.str ref).truthy = true := by
    rw [Json.truthy, bne_iff_ne]
    rintro rfl
    have hlength := congrArg List.length href.2
    simp [paybillAccount, upper] at hlength
  obtain ⟨trans_id, hid⟩ : ∃ y, body.get "TransID" = .ok y := by
    cases body <;> first | exact ⟨_, rfl⟩ | cases h.type
  obtain ⟨trans_amount, hamount⟩ : ∃ y, body.get "TransAmount" = .ok y := by
    cases body <;> first | exact ⟨_, rfl⟩ | cases h.type
  unfold process_daraja_c2b_webhook
  rw [get_bind h.type, get_bind href.1, get_bind hid, get_bind hamount]
  rw [hne, ← normalised href]
  change (exec _ >>= fun reseller => _) = _
  congr 1

/-- The validation is accepted exactly when a reseller has the account number as reference. -/
theorem accepts_iff (h : Validation p body) :
    Accepts d body ↔ IsWallet d (paybillAccount (str p.id)) := by
  rw [Accepts, webhook_of_validation h]
  constructor
  · rintro ⟨y, ack, hy, hack, hcode⟩
    by_contra hno
    have hrun : Solo.Always machine anything (fun _ _ => True)
        (fun r _ _ _ => ∀ ack : Ack, r = .ok ack → ack.ResultCode = 1)
        (validate (paybillAccount (str p.id))) () d {} := by
      refine Solo.always_then (T := fun r _ _ _ => ∀ reseller, r = .ok reseller → reseller = none)
        (always_stmt rfl (fun _ _ _ => rfl) trivial (fun _ => nofun) ?_)
        (fun _ _ _ _ _ _ => nofun) ?_
      · rintro v reseller d' he
        rw [eval_select_reseller] at he
        refine ⟨trivial, fun found hfound => ?_⟩
        cases hfound
        cases he
        rw [fetchrow_eq_none]
        intro u hu hmatch
        rw [Bool.and_eq_true, beq_iff_eq, beq_iff_eq] at hmatch
        exact hno ⟨u, hu, hmatch⟩
      · rintro reseller j d' l - hnone
        obtain rfl := hnone reseller rfl
        refine ⟨trivial, fun ack hack => ?_⟩
        cases hack
        rfl
    have hone := (Solo.always_iff.mp hrun y hy).2 _ hack ack rfl
    omega
  · rintro ⟨u, hu, href, hrole⟩
    by_contra hno
    have hrun : Solo.Always machine anything (fun _ _ => True)
        (fun r _ _ _ => ∀ ack : Ack, r = .ok ack → ack.ResultCode ≠ 0)
        (validate (paybillAccount (str p.id))) () d {} :=
      Solo.always_iff.mpr fun y hy => ⟨trivial, fun r hr ack hack hcode =>
        hno ⟨y, ack, hy, hack ▸ hr, hcode⟩⟩
    obtain ⟨reseller, hfound⟩ := exists_fetchrow 0 hu (p := fun r : User =>
      r.wallet_reference == some (paybillAccount (str p.id)) && r.role == .reseller)
      (by simp [href, hrole])
    have heval := eval_select_reseller (p := p) (d := d) {}
    have hlast := Alone.run hrun rfl rfl (heval.trans (by rw [hfound]))
    exact hlast.2 completed rfl rfl

/-- No payment arrives: whatever the confirmation says it confirms nothing, and a validation is
accepted exactly when a reseller's wallet has the account number as reference. -/
theorem never_arrives (hp : p ∈ d.payments) (hpending : p.status = .pending)
    (confirmation : Json) {validation : Json} (hvalidation : Validation p validation) :
    ¬ Arrives d p confirmation validation ∧
      (Accepts d validation ↔ IsWallet d (paybillAccount (str p.id))) :=
  ⟨not_arrives hp hpending validation, accepts_iff hvalidation⟩

/-- The request for the account number of a payment. -/
def request (type account : String) : Json :=
  .obj [("TransactionType", .str type), ("TransID", .str "QK1"), ("TransAmount", .str "50.00"),
    ("BillRefNumber", .str account)]

theorem confirmation_waiting : Confirmation waiting (request "Pay Bill" "wifi-0000000") where
  reference := ⟨_, rfl, by decide +kernel⟩
  amount := ⟨_, .finite 5000 (-2), rfl, by decide +kernel, by decide +kernel⟩

theorem validation_waiting : Validation waiting (request "Pay Bill Validation" "WIFI-0000000") where
  reference := ⟨_, rfl, by decide +kernel⟩
  type := rfl

theorem never_arrives_waiting :
    ¬ Arrives shop waiting (request "Pay Bill" "wifi-0000000")
        (request "Pay Bill Validation" "WIFI-0000000") ∧
      (Accepts shop (request "Pay Bill Validation" "WIFI-0000000") ↔
        IsWallet shop (paybillAccount (str waiting.id))) :=
  never_arrives List.mem_cons_self rfl _ validation_waiting

/-- The payment of the shop does not arrive. -/
theorem not_payments_arrive : ¬ ∀ (d : Store) (p : Payment), p ∈ d.payments →
    p.status = .pending → ∀ confirmation validation, Confirmation p confirmation →
      Validation p validation → Arrives d p confirmation validation := by
  intro h
  exact not_arrives (d := shop) List.mem_cons_self rfl _
    (h shop waiting List.mem_cons_self rfl _ _ confirmation_waiting validation_waiting)

end ManualPayment

end FrixelConnect
