import FrixelConnect.Specs.Tracking
import FrixelConnect.Specs.Outcome

/-!
# Successful payments and their rows

`paid` says of which pushes Daraja reports a success. The row of such a push is
never failed, and it carries the checkout id as soon as its initiation has ended,
as long as the response to the push arrives, the id is stored, and neither a
callback nor an answer to a query denies the payment. A response that is lost
after Daraja has accepted, and an answer without a `ResultCode`, both fail the row.
-/

namespace FrixelConnect

namespace PaymentDelivery

open Decimals Python Interleaving Contract Knowledge

variable (paid : String → Prop)

/-- The row of the push is not failed, and carries its checkout id. -/
def Stored (d : Store) (id : UUID) (checkout_id : String) : Prop :=
  ∃ r ∈ d.cores .payments, r.id = id ∧ r.mpesa_checkout_id = some checkout_id ∧
    r.status ≠ .failed

/-- What reaches the application of a push that is paid: the response and the checkout id
arrive, and no query denies the payment. -/
def Reliable : Stmt → Choice Exn Env → Store → Prop
  | .post_stk_push .., .run v, _ => ∀ c, v.push.checkout_id = some c → paid c →
      Delivers v.push.response c
  | .store_checkout _ (.str c) _, .fail _, _ => ¬ paid c
  | .store_checkout _ (.str c) _, .run _, _ => paid c → textParam (some 100) (.str c) = .ok (some c)
  | .post_stk_query c, .run v, _ => paid c → ¬ DeniesAnswer v.query
  | _, _, _ => True

/-- Any processes in any interleaving; a callback denies unpaid payments only. -/
def rules : RunRules where
  stmt := Reliable paid
  spawn w _ := match w with
    | .daraja_webhook body => ∀ c, DeniesBody body c → ¬ paid c
    | _ => True

/-- The push is stored, or a process of the crowd is still about to store it. -/
def shared (d : Store) (gs : Multiset Knowledge) : Prop :=
  ∀ push ∈ d.pushes, ∀ id, push.payment_id = some id → paid push.checkout_id →
    Stored d id push.checkout_id ∨
      ∃ tenant, .owner .payments id tenant (some push.checkout_id) ∈ gs

def tracking : Tracking where
  rules := rules paid
  shared := shared paid

variable {paid} {d d' : Store} {gs : Multiset Knowledge} {t : PaymentTable} {id tenant : UUID}
  {g g' : Knowledge}

/-- Nobody pays for the push. -/
def Failable (paid : String → Prop) (push : Option String) : Prop :=
  ∀ c, push = some c → ¬ paid c

theorem Stored.updateCores {c : String} {p : PaymentCore → Bool} {f : PaymentCore → PaymentCore}
    (h : Stored d id c) (hf : ∀ r ∈ d.cores .payments, t = .payments → r.id = id →
      r.mpesa_checkout_id = some c → r.status ≠ .failed → p r = true →
      (f r).id = id ∧ (f r).mpesa_checkout_id = some c ∧ (f r).status ≠ .failed) :
    Stored (d.updateCores t p f) id c := by
  obtain ⟨r, hr, hid, hc, hs⟩ := h
  refine ⟨_, mem_cores_updateCores.mpr ⟨r, hr, rfl⟩, ?_⟩
  split
  · next hp => exact hf r hr hp.1.symm hid hc hs hp.2
  · exact ⟨hid, hc, hs⟩

theorem Stored.extends {c : String} (h : Stored d id c) (he : Extends d d') : Stored d' id c := by
  obtain ⟨r, hr, hrest⟩ := h
  exact ⟨r, he.mem hr, hrest⟩

/-- A step that keeps what is stored, and accepts no push. -/
theorem shared_mono (hpushes : d'.pushes = d.pushes)
    (hstored : ∀ id c, paid c → Stored d id c → Stored d' id c)
    (hg : ∀ id tenant c, g = .owner .payments id tenant (some c) → paid c →
      Stored d' id c ∨ ∃ tenant, g' = .owner .payments id tenant (some c))
    (h : shared paid d (g ::ₘ gs)) : shared paid d' (g' ::ₘ gs) := by
  intro push hpush id hid hpaid
  rw [hpushes] at hpush
  rcases h push hpush id hid hpaid with hs | ⟨tenant, hmem⟩
  · exact .inl (hstored id _ hpaid hs)
  · rcases Multiset.mem_cons.mp hmem with heq | hmem
    · rcases hg id tenant _ heq.symm hpaid with hs | ⟨tenant', rfl⟩
      · exact .inl hs
      · exact .inr ⟨tenant', Multiset.mem_cons_self _ _⟩
    · exact .inr ⟨tenant, Multiset.mem_cons_of_mem hmem⟩

/-- Adding rows keeps what is stored. -/
theorem shared_extends (he : Extends d d') (hpushes : d'.pushes = d.pushes)
    (hg : ∀ id tenant c, g ≠ .owner .payments id tenant (some c))
    (h : shared paid d (g ::ₘ gs)) : shared paid d' (g' ::ₘ gs) :=
  shared_mono hpushes (fun _ _ _ hs => hs.extends he)
    (fun id tenant c hc => absurd hc (hg id tenant c)) h

theorem lawful : (tracking paid).Lawful (fun c => ¬ paid c) (Failable paid) where
  know := by
    intro d rows won gs
    constructor
    · intro h push hpush id hid hpaid
      refine (h push hpush id hid hpaid).imp_right ?_
      rintro ⟨tenant, hmem⟩
      exact ⟨tenant, (Multiset.mem_cons.mp hmem).resolve_left (by simp)⟩
    · intro h push hpush id hid hpaid
      refine (h push hpush id hid hpaid).imp_right ?_
      rintro ⟨tenant, hmem⟩
      exact ⟨tenant, Multiset.mem_cons_of_mem hmem⟩
  query hrule hdenies hpaid := hrule hpaid hdenies
  fail := by
    intro d v t r reason rs w hu _ hk hw hd _
    refine { inv := trivial, guar := trivial, shared := fun gs => ?_ }
    refine shared_mono (by simp) (fun id c hpaid hs => ?_) (fun _ _ _ h => by cases h)
    refine hs.updateCores fun r' hr' ht hid hc hs' hp => ?_
    subst ht
    obtain ⟨-, hc'⟩ := hk.eq hu hr' ((RowFilter.holds_id hp).trans hw.filter_id)
    exact absurd hpaid (hd c (hc' ▸ hc))
  confirm := by
    intro d v r receipt rc w hu _ hk hw _ _
    refine ⟨{ inv := trivial, guar := trivial, shared := fun gs => ?_ }, trivial⟩
    refine shared_mono (by simp) (fun id c _ hs => ?_) (fun _ _ _ h => by cases h)
    exact hs.updateCores fun r' _ _ hid hc _ _ => ⟨hid, hc, by simp [PaymentCore.confirmed]⟩
  extend := by
    intro d v r receipt rc w hu _ hk hw _ _
    refine { inv := trivial, guar := trivial, shared := fun gs => ?_ }
    refine shared_mono (by simp [Store.updateTenant]) (fun id c _ hs => ?_)
      (fun _ _ _ h => by cases h)
    have hs' : Stored (d.updateCores .platform_payments w.holds
        (PaymentCore.confirmed rc v.now)) id c := hs.updateCores fun _ _ ht => by cases ht
    exact hs'.extends (.of_cores fun t => Store.cores_updateTenant _ _ _ t)
  enqueue _ _ _ :=
    { inv := trivial, guar := trivial
      shared := fun gs => shared_extends (.of_cores fun t => by cases t <;> rfl) rfl (by simp) }
  insert := by
    intro d d' v customer_id package_id amount phone tenant row _ _ he
    obtain ⟨rfl, hnew, -⟩ := Stmt.eval_insert_payment he
    exact { inv := trivial, guar := trivial
            shared := fun gs => shared_extends (.insert_payment hnew) rfl (by simp) }
  insert_platform := by
    intro d d' v amount phone tenant row _ _ he
    obtain ⟨rfl, hnew, -⟩ := Stmt.eval_insert_platform_payment he
    exact { inv := trivial, guar := trivial
            shared := fun gs => shared_extends (.insert_platform hnew) rfl (by simp) }
  push := by
    intro d d' v t id tenant phone amount reference description reply _ he
    refine { inv := trivial, guar := trivial, shared := fun gs h push hpush id' hid hpaid => ?_ }
    cases he
    rcases List.mem_append.mp hpush with hold | hnew
    · refine (h push hold id' hid hpaid).imp_right ?_
      rintro ⟨tenant', hmem⟩
      exact ⟨tenant', Multiset.mem_cons_of_mem
        ((Multiset.mem_cons.mp hmem).resolve_left (by simp))⟩
    · obtain ⟨c, hc, rfl⟩ := List.mem_map.mp hnew
      cases t with
      | payments =>
          cases hid
          rw [Option.mem_toList.mp hc]
          exact .inr ⟨tenant, Multiset.mem_cons_self _ _⟩
      | platform_payments => cases hid
  delivered := by
    intro d v t id phone amount reference description hrule
    by_cases hf : Failable paid v.push.checkout_id
    · exact .inl hf
    · refine .inr fun c hc => hrule c hc ?_
      by_contra hpaid
      exact hf fun c' hc' => by rw [hc] at hc'; cases hc'; exact hpaid
  failable c hc := by cases hc
  store := by
    intro d v t id tenant w push checkout_id c hu _ ho hw hcheckout hparam
    refine { inv := trivial, guar := trivial, shared := fun gs => ?_ }
    refine shared_mono (by simp) (fun id' c' _ hs => ?_) fun id' tenant' c' hg hpaid => .inl ?_
    · refine hs.updateCores fun r hr ht hid hc _ hp => ?_
      subst ht
      obtain ⟨-, hnone, -⟩ := ho.2 r hr (RowFilter.holds_id hp)
      rw [hnone] at hc
      cases hc
    · cases hg
      obtain rfl := (hcheckout.resolve_left fun hf => hf c' rfl hpaid) c' rfl
      obtain rfl : c = some c' := by
        have h := textParam_eq_ok hparam
        cases c <;> cases h
        rfl
      obtain ⟨r, hr, hid⟩ := ho.1
      refine ⟨_, mem_cores_updateCores.mpr ⟨r, hr, rfl⟩, ?_⟩
      rw [if_pos ⟨rfl, ho.holds hw hr hid⟩]
      refine ⟨hid, rfl, ?_⟩
      simp [PaymentCore.pushed, (ho.2 r hr hid).1]
  store_failed := by
    rintro d t id w push checkout_id e hcheckout hr c rfl hpaid
    obtain rfl := (hcheckout.resolve_left fun hf => hf c rfl hpaid) c rfl
    rcases hr with hr | ⟨v, hr, he⟩
    · exact hr hpaid
    · have hparam := hr hpaid
      simp only [Stmt.eval, hparam] at he
      cases he
  fail_owned := by
    intro d v t id tenant w push rs hu _ ho hpush hw
    refine { inv := trivial, guar := trivial, shared := fun gs => ?_ }
    refine shared_mono (by simp) (fun id' c _ hs => ?_) fun id' tenant' c hg hpaid => ?_
    · refine hs.updateCores fun r hr ht hid hc _ hp => ?_
      subst ht
      obtain ⟨-, hnone, -⟩ := ho.2 r hr (RowFilter.holds_id hp)
      rw [hnone] at hc
      cases hc
    · cases hg
      exact absurd hpaid (hpush c rfl)
  forget := by
    intro d t id tenant push gs hpush h push' hpush' id' hid hpaid
    refine (h push' hpush' id' hid hpaid).imp_right ?_
    rintro ⟨tenant', hmem⟩
    refine ⟨tenant', (Multiset.mem_cons.mp hmem).resolve_left fun heq => ?_⟩
    cases heq
    exact hpush _ rfl hpaid

theorem ignores : (tracking paid).contract.Ignores asideTables := by
  refine Tracking.ignores (by simp [asideTables]) (by simp [asideTables]) fun {d d'} hs =>
    ⟨fun _ => trivial, fun _ _ => trivial, fun gs h push hpush id hid hpaid => ?_, trivial⟩
  have hext := Extends.of_cores (cores_of_same (hs .payments (by simp [asideTables]))
    (hs .platform_payments (by simp [asideTables])))
  have hpushes : d'.pushes = d.pushes := hs .pushes (by simp [asideTables])
  exact (h push (hpushes ▸ hpush) id hid hpaid).imp_left fun h' => h'.extends hext

/-- The pushes after a statement of the other processes are the old ones, apart from those
that are for no payment row. -/
theorem pushes_of_aside {s : Stmt} {v : Env} {a : s.Res} (hs : s.Aside)
    (he : s.eval v d = .ok (a, d')) : ∀ push ∈ d'.pushes, push ∈ d.pushes ∨
      push.payment_id = none := by
  have hold (h : s.writes ≠ some .pushes) : ∀ push ∈ d'.pushes, push ∈ d.pushes ∨
      push.payment_id = none := by
    have hsame : d'.pushes = d.pushes := Stmt.eval_same h he
    exact fun push hpush => .inl (hsame ▸ hpush)
  cases hs with
  | push =>
      cases he
      intro push hpush
      refine (List.mem_append.mp hpush).imp_right fun hnew => ?_
      obtain ⟨c, _, rfl⟩ := List.mem_map.mp hnew
      rfl
  | tables hs => exact hold fun h => by simpa [asideTables] using hs _ h
  | payment => exact hold (by simp [Stmt.writes])
  | platform => exact hold (by simp [Stmt.writes])
  | suspend => exact hold (by simp [Stmt.writes])

theorem serves : (tracking paid).contract.Serves := by
  refine lawful.serves (fun d body c hspawn hbody => hspawn c hbody) ignores fun hs _ _ he => ?_
  refine { inv := trivial, guar := trivial, shared := fun gs h push hpush id hid hpaid => ?_ }
  have hext := Tracking.Lawful.extends_of_aside hs he
  rcases pushes_of_aside hs he push hpush with hold | hnone
  · exact (h push hold id hid hpaid).imp_left fun h' => h'.extends hext
  · rw [hnone] at hid
    cases hid

/-- The row of the payment exists, it is not failed, and it carries the checkout id unless a
process is still inside the block that initiates it. -/
def Kept (s : RunState) (id : UUID) (checkout_id : String) : Prop :=
  ∃ r ∈ s.store.payments, r.id = id ∧ r.status ≠ .failed ∧
    (r.mpesa_checkout_id = some checkout_id ∨
      ∃ p ∈ s.procs, .initiating .payments id ∈ p.loc.frames)

/-- No payment that Daraja has accepted and that is paid is lost. -/
theorem paid_payment_kept {d : Store} (hd : UniqueIds d) (hpushes : d.pushes = []) {s : RunState}
    (hs : Reaches system (rules paid) (FrixelConnect.idle d) s) {push : Push} {id : UUID}
    (hpush : push ∈ s.store.pushes) (hid : push.payment_id = some id)
    (hpaid : paid push.checkout_id) : Kept s id push.checkout_id := by
  have hshared : shared paid d 0 := fun push hpush => by rw [hpushes] at hpush; cases hpush
  have h₀ : (tracking paid).contract.Holds (FrixelConnect.idle d) := .start ⟨hd, trivial⟩ hshared
  obtain ⟨ann, hann, -, hown, hs'⟩ := (h₀.reaches serves (fun _ _ _ _ he => he.elim) hs).1.facts
  rcases hs' push hpush id hid hpaid with ⟨core, hcore, hr_id, hc, hstatus⟩ | ⟨tenant, hmem⟩
  · obtain ⟨r, hr, rfl⟩ := List.mem_map.mp hcore
    exact ⟨r, hr, hr_id, hstatus, .inl hc⟩
  · obtain ⟨a, ha, hag⟩ := List.mem_map.mp (Multiset.mem_coe.mp hmem)
    obtain ⟨hfact, hholder⟩ := hown a ha
    rw [hag] at hfact hholder
    obtain ⟨core, hcore, hr_id⟩ := hfact.1
    have hpending := (hfact.2 core hcore hr_id).1
    obtain ⟨r, hr, rfl⟩ := List.mem_map.mp hcore
    refine ⟨r, hr, hr_id, by simp [hpending], .inr ⟨a.1, ?_, hholder rfl⟩⟩
    rw [← hann]
    exact List.mem_map_of_mem ha

instance [DecidablePred paid] (s : Stmt) (c : Choice Exn Env) (d : Store) :
    Decidable ((rules paid).stmt s c d) := by
  change Decidable (Reliable paid s c d)
  unfold Reliable
  split <;> infer_instance

instance [DecidablePred paid] (w : Spawn) (d : Store) : Decidable ((rules paid).spawn w d) := by
  rcases w with ⟨⟩ <;> try exact .isTrue trivial
  rename_i body
  exact match h : deniedId body with
    | .ok (some c) => decidable_of_iff (¬ paid c) (by simp [rules, DeniesBody, h])
    | .ok none => .isTrue (by simp [rules, DeniesBody, h])
    | .error _ => .isTrue (by simp [rules, DeniesBody, h])

instance (d d' : Store) : Decidable ((rules paid).edit d d') := .isFalse not_false

/-- Daraja accepts a push. -/
def acceptance (checkout_id : String) : Json :=
  .obj [("ResponseCode", .str "0"), ("CheckoutRequestID", .str checkout_id)]

/-- A customer buys the package of the shop: the row is inserted, and Daraja accepts the push. -/
def purchase (response : Except Exn HttpResponse) : List RunLabel :=
  [.spawn (.stk_push 1 2 { phone := "254700000002", package_id := 3 }), stepOf 0 {},
    stepOf 0 { uuid := 9 }, stepOf 0 {}, stepOf 0 { push := .accepted "ws_CO_9" response }]

/-- The push of the purchase. -/
def purchased : Push :=
  { checkout_id := "ws_CO_9", payment_id := some 9, phone := "254700000002", amount := 50,
    account_reference := "WIFI-0000000", description := "WiFi Payment" }

theorem paid_payment_kept_after_purchase : ∃ s : RunState, Kept s 9 "ws_CO_9" := by
  obtain ⟨s, hs, hstore⟩ := Reaches.of_moves (Y := system) (ρ := rules fun _ => True)
    (FrixelConnect.idle shop)
    (purchase (.ok { is_success := true, json := .ok (acceptance "ws_CO_9") }) ++ [stepOf 0 {}])
    Store.pushes [purchased] (by decide +kernel) rfl
  have hpush : purchased ∈ s.store.pushes := by simp [hstore]
  exact ⟨s, @paid_payment_kept (fun _ => True) _ uniqueIds_shop rfl s hs _ _ hpush rfl trivial⟩

/-- The purchase of a signed-in customer. -/
def isPurchase : Spawn → Bool
  | .stk_push .. => true
  | _ => false

/-- Daraja accepts the push, its response is lost, and the row is failed without an id. -/
theorem not_paid_payment_kept : ¬ ∀ (paid : String → Prop) (d : Store) (s : RunState),
    UniqueIds d → d.pushes = [] → Reaches system (runsOf isPurchase) (FrixelConnect.idle d) s →
    ∀ push ∈ s.store.pushes, ∀ id, push.payment_id = some id → paid push.checkout_id →
      Kept s id push.checkout_id := by
  intro h
  obtain ⟨s, hs, hstore⟩ := Reaches.of_moves (Y := system) (ρ := runsOf isPurchase)
    (FrixelConnect.idle shop)
    (purchase (.error (.lost "ReadTimeout")) ++ stepsOf 2 0)
    (fun d => (d.pushes, d.payments.map fun r => (r.id, r.status)))
    ([purchased], [(1, .pending), (9, .failed)]) (by decide +kernel) rfl
  obtain ⟨hpushes, hpayments⟩ := Prod.mk.inj hstore
  obtain ⟨r, hr, hid, hstatus, -⟩ := h (fun _ => True) shop s uniqueIds_shop rfl hs purchased
    (by simp [hpushes]) 9 rfl trivial
  have hmem := List.mem_map_of_mem (f := fun r : Payment => (r.id, r.status)) hr
  rw [hpayments, hid] at hmem
  simp at hmem
  exact hstatus hmem

end PaymentDelivery

end FrixelConnect
