import FrixelConnect.Specs.Knowledge

/-!
# Contracts that track payment rows

What a process knows about payment rows is the same in every property of the
payment tables; a tracking adds what the property itself needs. `Lawful` lists
what remains to be shown for one property, and `Lawful.serves` is the result for
all programs of the application.
-/

namespace FrixelConnect

open Decimals Python Interleaving Contract Knowledge

/-- A property of runs that work on payment rows. -/
structure Tracking where
  rules : RunRules
  inv : Store → Prop := fun _ => True
  /-- What holds of a payment that the process knows to be confirmed. -/
  won : Store → UUID → Prop := fun _ _ => True
  shared : Store → Multiset Knowledge → Prop := fun _ _ => True
  guar : Store → Store → Prop := fun _ _ => True
  guar_refl : ∀ d, guar d d := by intros; trivial
  guar_trans : ∀ a b c, guar a b → guar b c → guar a c := by intros; trivial

namespace Tracking

variable (𝒯 : Tracking)

/-- What the control state and the ghost value say: a push that is not stored yet belongs to
a process inside the block that initiates it. -/
def Holder (d : Store) (l : RunLocal) : Knowledge → Prop
  | .know _ won => ∀ id ∈ won, 𝒯.won d id
  | .owner t id _ push => push.isSome → .initiating t id ∈ l.frames

def contract : Contract Knowledge (PaymentTable × UUID) where
  rules := 𝒯.rules
  base d := UniqueIds d ∧ 𝒯.inv d
  own d l g := Fact d g ∧ 𝒯.Holder d l g
  token := token
  shared := 𝒯.shared
  guar := 𝒯.guar
  guar_refl := 𝒯.guar_refl
  guar_trans := 𝒯.guar_trans

/-- The step keeps what the property adds. -/
structure Sound (d d' : Store) (g g' : Knowledge) : Prop where
  inv : 𝒯.inv d'
  won : ∀ id, 𝒯.won d id → 𝒯.won d' id := by intros; trivial
  shared : ∀ gs, 𝒯.shared d (g ::ₘ gs) → 𝒯.shared d' (g' ::ₘ gs) := by intros; trivial
  guar : 𝒯.guar d d'

variable {𝒯} {d d' : Store} {l l' : RunLocal} {g g' : Knowledge} {t : PaymentTable}
  {id tenant : UUID} {r : PaymentCore} {f : PaymentCore → PaymentCore} {ks : List UUID}

theorem Holder.none_won (d : Store) (l : RunLocal) (rows : LookedUp) :
    𝒯.Holder d l (.know rows []) := by simp [Tracking.Holder]

theorem Holder.mono {l₂ : RunLocal} {g₂ : Knowledge} (h : 𝒯.Holder d l₂ g₂)
    (hwon : ∀ id, 𝒯.won d id → 𝒯.won d' id) : 𝒯.Holder d' l₂ g₂ := by
  cases g₂ with
  | know rows won => exact fun r hr => hwon r (h r hr)
  | owner t id tenant push => exact h

/-- A step that settles a row which the process has looked up. -/
theorem Sound.settle {w : RowFilter} (hs : 𝒯.Sound d (d.updateCores t w.holds f) g g')
    (hu : UniqueIds d) (hk : Known d t r) (hw : w.id = r.id) (hf : KeepsIdentity f)
    (ho : Fact d g') (hholder : 𝒯.Holder (d.updateCores t w.holds f) l' g')
    (ht : token g' = token g) :
    𝒯.contract.Moves ks d (d.updateCores t w.holds f) l g l' g' := by
  refine .intro ⟨hu.updateCores hf.id, hs.inv⟩ ⟨ho.settle hk hw hf, hholder⟩ ?_ ?_ hs.shared
    hs.guar
  · exact fun l₂ g₂ h₂ _ => ⟨h₂.1.settle hk hw hf, h₂.2.mono hs.won⟩
  · exact fun t ht' => .inl (ht.symm.trans ht')

/-- A step that updates a row which the process owns, and gives the row away. -/
theorem Sound.give {w : Option UUID} {push : Option String}
    (hs : 𝒯.Sound d (d.updateCores t (RowFilter.row id w).holds f) (.owner t id tenant push)
      nothing)
    (hu : UniqueIds d) (ho : Owned d t id tenant) (hf : ∀ r, (f r).id = r.id) :
    𝒯.contract.Moves ks d (d.updateCores t (RowFilter.row id w).holds f) l
      (.owner t id tenant push) l' nothing := by
  refine .intro ⟨hu.updateCores hf, hs.inv⟩ ⟨?_, ?_⟩ ?_ ?_ hs.shared hs.guar
  · exact .no_rows _ _
  · exact .none_won _ _ _
  · exact fun l₂ g₂ h₂ hne => ⟨h₂.1.update ho (hne _ rfl) hf, h₂.2.mono hs.won⟩
  · exact fun t ht => by cases ht

/-- A step that only adds rows to the payment tables. -/
theorem Sound.extend (hs : 𝒯.Sound d d' g g') (hu : UniqueIds d) (he : Extends d d')
    (ho : Fact d' g') (hholder : 𝒯.Holder d' l' g')
    (ht : ∀ t id, token g' = some (t, id) → token g = some (t, id) ∨ ∀ r ∈ d.cores t, r.id ≠ id) :
    𝒯.contract.Moves ks d d' l g l' g' := by
  refine .intro ⟨he.unique hu, hs.inv⟩ ⟨ho, hholder⟩ ?_ ?_ hs.shared hs.guar
  · exact fun l₂ g₂ h₂ _ => ⟨h₂.1.extends he, h₂.2.mono hs.won⟩
  · rintro ⟨t, id⟩ ht'
    refine (ht t id ht').imp_right fun hnew l₂ g₂ h₂ _ ht₂ => ?_
    cases g₂ with
    | know rows won => cases ht₂
    | owner t₂ id₂ tenant₂ push₂ =>
        cases ht₂
        obtain ⟨r, hr, hid⟩ := h₂.1.1
        exact hnew r hr hid

/-- A tracking ignores the tables that what it adds ignores, apart from the payment tables. -/
theorem ignores {Ts : List Table} (hp : .payments ∉ Ts) (hq : .platform_payments ∉ Ts)
    (hsound : ∀ {d d' : Store}, (∀ T, T ∉ Ts → d'.Same d T) → (𝒯.inv d → 𝒯.inv d') ∧
      (∀ id, 𝒯.won d id → 𝒯.won d' id) ∧ (∀ gs, 𝒯.shared d gs → 𝒯.shared d' gs) ∧
      𝒯.guar d d') : 𝒯.contract.Ignores Ts where
  base hs hb := by
    have hext := Extends.of_cores (cores_of_same (hs _ hp) (hs _ hq))
    exact ⟨hext.unique hb.1, (hsound hs).1 hb.2⟩
  own hs ho := by
    have hext := Extends.of_cores (cores_of_same (hs _ hp) (hs _ hq))
    exact ⟨ho.1.extends hext, ho.2.mono (hsound hs).2.1⟩
  shared hs := (hsound hs).2.2.1 _
  guar hs := (hsound hs).2.2.2

/-- What has to be shown for one property. -/
structure Lawful (𝒯 : Tracking) (Denied : String → Prop) (Failable : Option String → Prop) :
    Prop where
  /-- Knowledge about settled rows says nothing to the others. -/
  know : ∀ {d rows won gs}, 𝒯.shared d (.know rows won ::ₘ gs) ↔ 𝒯.shared d gs
  query : ∀ {d v c}, 𝒯.rules.stmt (.post_stk_query c) (.run v) d → DeniesAnswer v.query → Denied c
  fail : ∀ {d v t r reason rs w}, UniqueIds d → 𝒯.inv d → Known d t r → Targets w r →
    (∀ c, r.mpesa_checkout_id = some c → Denied c) →
    𝒯.rules.stmt (.fail t reason w) (.run v) d →
    𝒯.Sound d (d.updateCores t w.holds (PaymentCore.failed rs v.now)) nothing nothing
  confirm : ∀ {d v r receipt rc w}, UniqueIds d → 𝒯.inv d → Known d .payments r →
    Targets w r → 𝒯.rules.stmt (.confirm .payments receipt w) (.run v) d →
    textParam (some 20) receipt = .ok (some rc) →
    𝒯.Sound d (d.updateCores .payments w.holds (PaymentCore.confirmed (some rc) v.now)) nothing
      nothing ∧
    𝒯.won (d.updateCores .payments w.holds (PaymentCore.confirmed (some rc) v.now)) r.id
  extend : ∀ {d v r receipt rc w}, UniqueIds d → 𝒯.inv d →
    Known d .platform_payments r → Targets w r →
    𝒯.rules.stmt (.confirm .platform_payments receipt w) (.run v) d →
    textParam (some 20) receipt = .ok (some rc) →
    𝒯.Sound d ((d.updateCores .platform_payments w.holds
      (PaymentCore.confirmed (some rc) v.now)).updateTenant r.tenant_id Tenant.extended)
      nothing nothing
  enqueue : ∀ {d} {r : PaymentCore}, UniqueIds d → 𝒯.inv d → 𝒯.won d r.id →
    𝒯.Sound d
      { d with queue := d.queue ++ [{ payment_id := r.id, tenant_id := r.tenant_id }] } nothing nothing
  insert : ∀ {d d' v customer_id package_id amount phone tenant row}, UniqueIds d → 𝒯.inv d →
    (Stmt.insert_payment customer_id package_id amount .pending phone tenant none none).eval v d =
      .ok (row, d') →
    𝒯.Sound d d' nothing (.owner .payments row.id tenant none)
  insert_platform : ∀ {d d' v amount phone tenant row}, UniqueIds d → 𝒯.inv d →
    (Stmt.insert_platform_payment tenant amount phone .null).eval v d = .ok (row, d') →
    𝒯.Sound d d' nothing (.owner .platform_payments row.id tenant none)
  push : ∀ {d d' v} {t : PaymentTable} {id tenant phone amount reference description reply},
    𝒯.inv d → (Stmt.post_stk_push (t.pushedFor id) phone amount reference description).eval v d =
      .ok (reply, d') →
    𝒯.Sound d d' (.owner t id tenant none) (.owner t id tenant v.push.checkout_id)
  delivered : ∀ {d v} {t : PaymentTable} {id phone amount reference description},
    𝒯.rules.stmt (.post_stk_push (t.pushedFor id) phone amount reference description)
      (.run v) d →
    Failable v.push.checkout_id ∨ ∀ c, v.push.checkout_id = some c → Delivers v.push.response c
  failable : Failable none
  store : ∀ {d} {v : Env} {t id tenant w push checkout_id c}, UniqueIds d → 𝒯.inv d →
    Owned d t id tenant → w = none ∨ w = some tenant →
    Failable push ∨ (∀ c, push = some c → checkout_id = .str c) →
    textParam (some 100) checkout_id = .ok c →
    𝒯.Sound d (d.updateCores t (RowFilter.row id w).holds (PaymentCore.pushed c v.now))
      (.owner t id tenant push) nothing
  store_failed : ∀ {d t id w push checkout_id e},
    Failable push ∨ (∀ c, push = some c → checkout_id = .str c) →
    𝒯.rules.stmt (.store_checkout t checkout_id (.row id w)) (.fail e) d ∨
      (∃ v, 𝒯.rules.stmt (.store_checkout t checkout_id (.row id w)) (.run v) d ∧
        (Stmt.store_checkout t checkout_id (.row id w)).eval v d = .error e) →
    Failable push
  fail_owned : ∀ {d} {v : Env} {t id tenant w push rs}, UniqueIds d → 𝒯.inv d → Owned d t id tenant →
    Failable push → w = none ∨ w = some tenant →
    𝒯.Sound d (d.updateCores t (RowFilter.row id w).holds (PaymentCore.failed rs v.now))
      (.owner t id tenant push) nothing
  forget : ∀ {d t id tenant push gs}, Failable push →
    𝒯.shared d (.owner t id tenant push ::ₘ gs) → 𝒯.shared d gs

namespace Lawful

variable {Denied : String → Prop} {Failable : Option String → Prop}

/-- A step that says nothing to the others does so whatever the process knows. -/
theorem sound_know (h : Lawful 𝒯 Denied Failable) {rows rows' : LookedUp} {won won' : List UUID}
    (hs : 𝒯.Sound d d' nothing nothing) : 𝒯.Sound d d' (.know rows won) (.know rows' won') where
  inv := hs.inv
  won := hs.won
  shared gs hg := h.know.mpr (h.know.mp (hs.shared gs (h.know.mpr (h.know.mp hg))))
  guar := hs.guar

theorem extends_of_eval {s : Stmt} {v : Env} {a : s.Res} (hp : s.writes ≠ some .payments)
    (hq : s.writes ≠ some .platform_payments) (he : s.eval v d = .ok (a, d')) : Extends d d' :=
  .of_cores (cores_of_same (Stmt.eval_same hp he) (Stmt.eval_same hq he))

theorem settlement (h : Lawful 𝒯 Denied Failable) :
    Settlement 𝒯.contract settling Denied where
  loc ho := ⟨ho.1, ho.2⟩
  learn hb ho hnew := by
    refine .forget hb ⟨fun x hx => ?_, .none_won _ _ _⟩ (.inl rfl) fun gs hs => ?_
    · rcases List.mem_append.mp hx with hx | hx
      · exact ho.1 x hx
      · obtain ⟨hmem, hc⟩ := hnew x hx
        exact ⟨hc, _, hmem, rfl, rfl, rfl⟩
    · exact h.know.mpr (h.know.mp hs)
  forget hb ho := .forget hb ⟨.no_rows _ _, .none_won _ _ _⟩ (.inl rfl)
    fun gs hs => h.know.mpr (h.know.mp hs)
  drop hb ho := .forget hb ⟨ho.1, .none_won _ _ _⟩ (.inl rfl)
    fun gs hs => h.know.mpr (h.know.mp hs)
  query := h.query
  fail hb ho hr hw hd hrule he := by
    obtain ⟨rs, rfl⟩ := Stmt.eval_fail he
    exact (h.sound_know (h.fail hb.1 hb.2 (ho.1 _ hr) hw hd hrule)).settle hb.1 (ho.1 _ hr)
      hw.filter_id (keepsIdentity_failed _ _) ho.1 (.none_won _ _ _) rfl
  confirm hb ho hr hw hreceipt hrule he := by
    obtain ⟨rc, hrc, rfl⟩ := Stmt.eval_confirm he
    obtain ⟨rc, rfl⟩ := textParam_isSome hrc hreceipt
    obtain ⟨hsound, hwon⟩ := h.confirm hb.1 hb.2 (ho.1 _ hr) hw hrule hrc
    exact (h.sound_know hsound).settle hb.1 (ho.1 _ hr) hw.filter_id (keepsIdentity_confirmed _ _)
      ho.1 (by simpa [Tracking.Holder] using hwon) rfl
  extend := by
    intro d d₁ d' v v' l l' rows r receipt w hb ho hr hw hreceipt hrule he hrule' he'
    obtain ⟨rc, hrc, rfl⟩ := Stmt.eval_confirm he
    obtain ⟨rc, rfl⟩ := textParam_isSome hrc hreceipt
    have hk : Known d .platform_payments r := ho.1 _ hr
    have hkeeps := keepsIdentity_confirmed (some rc) v.now
    cases he'
    have hs := h.extend hb.1 hb.2 hk hw hrule hrc
    have hext : Extends (d.updateCores .platform_payments w.holds
        (PaymentCore.confirmed (some rc) v.now)) ((d.updateCores .platform_payments w.holds
        (PaymentCore.confirmed (some rc) v.now)).updateTenant r.tenant_id Tenant.extended) :=
      .of_cores fun t => Store.cores_updateTenant _ _ _ t
    have hfact {g : Knowledge} (hg : Fact d g) := (hg.settle hk hw.filter_id hkeeps).extends hext
    refine .intro ⟨hext.unique (hb.1.updateCores hkeeps.id), hs.inv⟩ ⟨hfact ho.1, ?_⟩ ?_ ?_
      (h.sound_know hs).shared hs.guar
    · exact .none_won _ _ _
    · exact fun l₂ g₂ h₂ _ => ⟨hfact h₂.1, h₂.2.mono hs.won⟩
    · exact fun t ht => by cases ht
  enqueue := by
    intro d l rows r hb ho
    have hext : Extends d { d with
        queue := d.queue ++ [{ payment_id := r.id, tenant_id := r.tenant_id }] } :=
      .of_cores fun t => by cases t <;> rfl
    exact (h.sound_know (h.enqueue hb.1 hb.2 (ho.2 _ (by simp)))).extend hb.1 hext (ho.1.extends hext)
      (.none_won _ _ _) fun _ _ ht => by cases ht

theorem initiation (h : Lawful 𝒯 Denied Failable) :
    Initiation 𝒯.contract nothing .owner Failable where
  loc ho := ⟨ho.1, ho.2⟩
  loc_owner ho := ⟨ho.1, fun hp => by cases hp⟩
  insert := by
    intro d d' v l customer_id package_id amount phone tenant row hb ho he
    have hs := h.insert hb.1 hb.2 he
    obtain ⟨rfl, hnew, -, -, hstatus, htenant, hcheckout, -⟩ := Stmt.eval_insert_payment he
    have hext := Extends.insert_payment hnew
    refine hs.extend hb.1 hext ?_ (fun hp => by cases hp) ?_
    · have hmem : row.toPaymentCore ∈ Store.cores
          { d with payments := d.payments ++ [row] } .payments := by simp [Store.cores]
      refine ⟨⟨_, hmem, rfl⟩, fun r hr hid => ?_⟩
      obtain rfl := (hext.unique hb.1).eq hr hmem hid
      exact ⟨hstatus, hcheckout, htenant⟩
    · rintro t id ht
      cases ht
      refine .inr fun r hr => ?_
      obtain ⟨r₁, hr₁, rfl⟩ := List.mem_map.mp hr
      exact hnew r₁ hr₁
  insert_platform := by
    intro d d' v l amount phone tenant row hb ho he
    have hs := h.insert_platform hb.1 hb.2 he
    obtain ⟨rfl, hnew, htenant, hstatus, -, hcheckout⟩ := Stmt.eval_insert_platform_payment he
    cases hcheckout' : row.mpesa_checkout_id with
    | some c => rw [hcheckout'] at hcheckout; cases hcheckout
    | none =>
        have hext := Extends.insert_platform hnew
        refine hs.extend hb.1 hext ?_ (fun hp => by cases hp) ?_
        · have hmem : row ∈ Store.cores
              { d with platform_payments := d.platform_payments ++ [row] } .platform_payments := by
            simp [Store.cores]
          refine ⟨⟨_, hmem, rfl⟩, fun r hr hid => ?_⟩
          obtain rfl := (hext.unique hb.1).eq hr hmem hid
          exact ⟨hstatus, hcheckout', htenant⟩
        · rintro t id ht
          cases ht
          exact .inr hnew
  push := by
    intro d d' v l t id tenant phone amount reference description reply hb ho hf hrule he
    have hext : Extends d d' := by
      apply extends_of_eval _ _ he <;> simp [Stmt.writes]
    exact (h.push hb.2 he).extend hb.1 hext (Owned.extends ho.1 hext) (fun _ => hf)
      fun _ _ ht => .inl ht
  delivered := h.delivered
  failable := h.failable
  store hb ho hw hc he := by
    refine ⟨Owned.store_isSome ho.1 hw he, ?_⟩
    obtain ⟨c, hparam, rfl, -⟩ := Stmt.eval_store_checkout he
    exact (h.store hb.1 hb.2 ho.1 hw hc hparam).give hb.1 ho.1 fun _ => rfl
  store_failed _ _ hc hr := h.store_failed hc hr
  fail hb ho hpush hw he := by
    obtain ⟨rs, rfl⟩ := Stmt.eval_fail he
    exact (h.fail_owned hb.1 hb.2 ho.1 hpush hw).give hb.1 ho.1 fun _ => rfl
  forget hb ho hpush := .forget hb ⟨.no_rows _ _, .none_won _ _ _⟩ (.inl rfl)
    fun gs hs => h.know.mpr (h.forget hpush hs)

/-- The statements of the other processes only add rows to the payment tables. -/
theorem extends_of_aside {s : Stmt} {v : Env} {a : s.Res} (hs : s.Aside)
    (he : s.eval v d = .ok (a, d')) : Extends d d' := by
  cases hs with
  | tables hs =>
      refine extends_of_eval (fun h => ?_) (fun h => ?_) he
      · simpa [asideTables] using hs _ h
      · simpa [asideTables] using hs _ h
  | payment =>
      obtain ⟨rfl, hnew, -⟩ := Stmt.eval_insert_payment he
      exact .insert_payment hnew
  | platform =>
      obtain ⟨rfl, hnew, -⟩ := Stmt.eval_insert_platform_payment he
      exact .insert_platform hnew
  | push => exact extends_of_eval (by simp [Stmt.writes]) (by simp [Stmt.writes]) he
  | suspend => exact extends_of_eval (by simp [Stmt.writes]) (by simp [Stmt.writes]) he

theorem neutral_of_aside (h : Lawful 𝒯 Denied Failable) {s : Stmt} (hs : s.Aside)
    (haside : ∀ {l v d a d'}, UniqueIds d → 𝒯.inv d → 𝒯.Holder d l g →
      s.eval v d = .ok (a, d') → 𝒯.Sound d d' nothing nothing) :
    𝒯.contract.discipline.protocol.Neutral g s := by
  intro d l others v hi _
  change 𝒯.contract.discipline.protocol.Keeps d (s.exec v d).2 ((l, g) ::ₘ others)
  rcases s.exec_cases v d with ⟨a, d', he, hx⟩ | ⟨e, -, hx⟩
  · rw [hx]
    have hext := extends_of_aside hs he
    have hholder := (hi.own _ (Multiset.mem_cons_self _ _)).2
    have hsound := haside hi.base.1 hi.base.2 hholder he
    refine ⟨⟨⟨hext.unique hi.base.1, hsound.inv⟩, fun x hx => ?_, hi.apart, ?_⟩, hsound.guar⟩
    · exact ⟨(hi.own x hx).1.extends hext, (hi.own x hx).2.mono hsound.won⟩
    · exact h.know.mp (hsound.shared _ (h.know.mpr hi.shared))
  · rw [hx]
    exact .refl hi

theorem wp_discard {α : Type} {p : M α} {Q : Except Exn α → RunLocal → Knowledge → Prop}
    (h : 𝒯.contract.wp Q p l g) : 𝒯.contract.wp (fun _ _ _ => True) (discard p) l g :=
  wp_then h (fun _ _ _ _ => trivial) fun _ _ _ _ => trivial

theorem starts (h : Lawful 𝒯 Denied Failable) (hb : 𝒯.contract.base d) :
    𝒯.contract.Starts d d nothing where
  base := hb
  own := ⟨.no_rows _ _, .none_won _ _ _⟩
  token := rfl
  stable _ _ h := h
  shared _ hs := h.know.mpr hs
  guar := 𝒯.guar_refl d

/-- The processes that settle or initiate payments keep the property. -/
theorem wp_start (h : Lawful 𝒯 Denied Failable) {w : Spawn} {p : M Unit} (hw : w.aside = false)
    (hspawn : ∀ body c, w = .daraja_webhook body → DeniesBody body c → Denied c)
    (husers : 𝒯.contract.Ignores [.users]) (hs : start w d = some (d', p)) :
    d' = d ∧ 𝒯.contract.wp (fun _ _ _ => True) p {} nothing := by
  cases w with
  | daraja_webhook body =>
      cases hs
      exact ⟨rfl, wp_discard (h.settlement.wp_process_daraja_webhook rfl
        fun c hc => hspawn body c rfl hc)⟩
  | poll =>
      cases hs
      exact ⟨rfl, wp_mono (h.settlement.wp_poll rfl) fun _ _ _ _ => trivial⟩
  | stk_push tenant_id customer_id data =>
      cases hs
      exact ⟨rfl, wp_discard (h.initiation.wp_initiate_stk_push rfl)⟩
  | hotspot_payment data =>
      cases hs
      have hguest := wp_plain (l := {}) (g := nothing) husers
        (get_or_create_guest_customer_plain data.tenant_id data.phone (by simp)) rfl
      exact ⟨rfl, wp_discard (h.initiation.wp_initiate_hotspot_payment rfl hguest)⟩
  | platform_billing tenant_id =>
      cases hs
      exact ⟨rfl, wp_discard (h.initiation.wp_initiate_platform_billing_payment rfl)⟩
  | _ => cases hw

/-- Every process of the application keeps a lawful property. -/
theorem serves (h : Lawful 𝒯 Denied Failable)
    (hspawn : ∀ d body c, 𝒯.rules.spawn (.daraja_webhook body) d → DeniesBody body c → Denied c)
    (hignores : 𝒯.contract.Ignores asideTables)
    (haside : ∀ {s : Stmt} {v d a d'}, s.Aside → UniqueIds d → 𝒯.inv d →
      s.eval v d = .ok (a, d') → 𝒯.Sound d d' nothing nothing) :
    𝒯.contract.Serves := by
  intro w d d' p hb hrule hs
  refine ⟨nothing, ?_⟩
  cases hw : w.aside with
  | false =>
      obtain ⟨rfl, hp⟩ := h.wp_start hw (fun body c hbody => hspawn d body c (hbody ▸ hrule))
        (hignores.subset (by simp [asideTables])) hs
      exact ⟨h.starts hb, hp⟩
  | true =>
      have hsame (T : Table) (hT : T ∉ asideTables) : d'.Same d T :=
        Spawn.aside_start hs (by rintro rfl; simp [asideTables] at hT)
      refine ⟨?_, wp_neutral (Spawn.aside_all hw hs)
        (fun s hs => h.neutral_of_aside hs fun hu hi _ => haside hs hu hi)
        (fun _ _ _ ho => ⟨ho.1, ho.2⟩) rfl⟩
      have hstarts := h.starts hb
      exact ⟨hignores.base hsame hb, hignores.own hsame hstarts.own, rfl,
        fun _ _ => hignores.own hsame, fun _ hg => hignores.shared hsame (hstarts.shared _ hg),
        hignores.guar hsame⟩

end Lawful

end Tracking

end FrixelConnect
