import FrixelConnect.Effects
import FrixelConnect.Renewals

/-!
# The grace period

The billing run counts whole days down to the end of the period. A subscription goes into
grace when less than a day is left, and is suspended as soon as the period is over. What
the display promises is kept in every sequence of runs in which a run meets an active
subscription a day before the end of its period or at the end, and one in grace not
within a day after the end.
-/

namespace FrixelConnect

open Calendar Interleaving

namespace Subscriptions

/-- The clock reads `now`. -/
def clock (now : Timestamptz) : Journal SubscriptionStmt Exn SubscriptionEnv Unit :=
  fun _ s c => match s.query, c with
    | .utc_now, .fail _ => none
    | .utc_now, .run v => if v.now = now then some () else none
    | _, _ => some ()

/-- A billing run at the time `now`, ended or broken off, in which anything may fail. -/
def BillingRun (now : Timestamptz) (d d' : SubscriptionStore) : Prop :=
  ∃ y : Config SubscriptionStmt SubscriptionStmt.Res Unit Exn SubscriptionStore SubscriptionEnv
    Unit Unit, Solo.Reaches subscriptionMachine (clock now) ⟨(), d, ⟨{}, pppoe_billing_cron⟩⟩ y ∧
      y.store = d'

/-- A run, with the stores before and after it. -/
structure Night where
  now : Timestamptz
  before : SubscriptionStore
  after : SubscriptionStore

/-- What happens between the runs: nothing else puts a subscription into grace. -/
structure OtherEdit (d d' : SubscriptionStore) : Prop where
  ids : (d'.subscriptions.map (·.id)).Nodup
  grace : ∀ x' ∈ d'.subscriptions, x'.status = .grace →
    ∃ x ∈ d.subscriptions, x.id = x'.id ∧ x.status = .grace

/-- Any sequence of runs from the store `d`, the latest first. -/
inductive Nights (d : SubscriptionStore) : List Night → SubscriptionStore → Prop where
  | start : Nights d [] d
  | run {nights : List Night} {d₁ d₂ : SubscriptionStore} {now : Timestamptz}
      (h : Nights d nights d₁) (hrun : BillingRun now d₁ d₂) :
      Nights d (⟨now, d₁, d₂⟩ :: nights) d₂
  | other {nights : List Night} {d₁ d₂ : SubscriptionStore} (h : Nights d nights d₁)
      (hedit : OtherEdit d₁ d₂) : Nights d nights d₂

/-- The run has put the subscription into grace. -/
def Night.PutsInGrace (night : Night) (id : UUID) : Prop :=
  (∃ x ∈ night.before.subscriptions, x.id = id ∧ x.status ≠ .grace) ∧
    ∃ x ∈ night.after.subscriptions, x.id = id ∧ x.status = .grace

/-- What a run may do to a subscription, after the `earlier` runs. -/
structure GraceKept (now : Timestamptz) (earlier : List Night) (x x' : Subscription) : Prop where
  active : x.status = .active → x'.status ≠ .active → x.current_period_end ≤ now
  late : x.status ≠ .suspended → x'.status = .suspended → x.current_period_end + day ≤ now
  warned : x.status ≠ .suspended → x'.status = .suspended →
    ∃ night ∈ earlier, night.PutsInGrace x.id

/-- Every run of the sequence keeps the promises to the subscription. -/
def KeepsGrace (id : UUID) : List Night → Prop
  | [] => True
  | night :: earlier => (∀ x ∈ night.before.subscriptions, x.id = id →
      ∀ x' ∈ night.after.subscriptions, x'.id = id → GraceKept night.now earlier x x') ∧
        KeepsGrace id earlier

/-- The run meets an active subscription a day before the end of its period or at the end, and a
subscription in grace not within a day after the end. -/
def Timely (now : Timestamptz) (x : Subscription) : Prop :=
  (x.status = .active → now + day ≤ x.current_period_end ∨ now = x.current_period_end) ∧
    (x.status = .grace → now ≤ x.current_period_end ∨ x.current_period_end + day ≤ now)

/-- Where a run at the time `now` can leave the subscription. -/
def Moves (now : Timestamptz) (x : Subscription) (status : SubscriptionStatus) : Prop :=
  status = x.status ∨
    (x.status = .active ∧ (x.current_period_end - now) / day = 0 ∧ status = .grace) ∨
    ((x.status = .active ∨ x.status = .grace) ∧ (x.current_period_end - now) / day < 0 ∧
      status = .suspended)

/-- What a run that started in `d` has made of it. -/
structure Billed (now : Timestamptz) (d d' : SubscriptionStore) : Prop where
  ids : d'.subscriptions.map (·.id) = d.subscriptions.map (·.id)
  moves : ∀ x ∈ d.subscriptions, ∀ x' ∈ d'.subscriptions, x'.id = x.id → Moves now x x'.status

/-- The statement moves a subscription only where the run that started in `d` can leave it. -/
def Permitted (now : Timestamptz) (d : SubscriptionStore) (s : SubscriptionStmt) : Prop :=
  match s.query with
  | .set_status status id => ∀ x ∈ d.subscriptions, x.id = id → Moves now x status
  | .set_tenant_status .. => False
  | .renew_subscription .. => False
  | .insert_subscription .. => False
  | _ => True

variable {now : Timestamptz} {d d' : SubscriptionStore} {s : SubscriptionStmt}

theorem Billed.refl (hd : (d.subscriptions.map (·.id)).Nodup) : Billed now d d where
  ids := rfl
  moves x hx x' hx' hid := .inl (by rw [List.inj_on_of_nodup_map hd hx' hx hid])

/-- A permitted statement. -/
theorem Billed.eval (h : Billed now d d') (hs : Permitted now d s) {v : SubscriptionEnv}
    {a : s.Res} {d₁ : SubscriptionStore} (he : s.query.eval v d' = .ok (a, d₁)) :
    Billed now d d₁ := by
  obtain ⟨caller, q⟩ := s
  cases q with
  | set_status status id =>
      cases he
      constructor
      · rw [← h.ids]
        simp only [SubscriptionStore.updateSubscriptions, updateRows, List.map_map]
        apply List.map_congr_left
        intro x _
        by_cases hx : x.id = id <;> simp [hx]
      · intro x hx x' hx' hid
        obtain ⟨x₀, hx₀, rfl⟩ := mem_updateRows.mp hx'
        by_cases heq : x₀.id = id
        · simp only [heq, beq_self_eq_true, if_true] at hid ⊢
          exact hs x hx hid.symm
        · simp only [beq_eq_false_iff_ne.mpr heq, Bool.false_eq_true, if_false] at hid ⊢
          exact h.moves x hx x₀ hx₀ hid
  | set_tenant_status => exact hs.elim
  | renew_subscription => exact hs.elim
  | insert_subscription => exact hs.elim
  | select_package columns id tenant_id =>
      simp only [SubscriptionQuery.eval] at he
      split at he
      · cases he
      · cases he
        exact h
  | _ =>
      cases he
      exact ⟨h.ids, h.moves⟩

/-- A permitted statement that takes effect at once. -/
theorem Billed.direct (h : Billed now d d') (hs : Permitted now d s)
    (c : Choice Exn SubscriptionEnv) : Billed now d (subscriptionMachine.direct s c d').2 := by
  cases c with
  | fail e => exact h
  | run v =>
      rcases subscriptionMachine_restores s v d' with ⟨a, d₁, hx⟩ | ⟨e, hx⟩
      · rw [show subscriptionMachine.direct s (.run v) d' = (.ok a, d₁) from hx]
        exact h.eval hs (SubscriptionStmt.exec_eq_ok.mp hx)
      · rw [show subscriptionMachine.direct s (.run v) d' = (.error e, d') from hx]
        exact h

section Programs

variable {caller : Option UUID}

theorem send_sms_plain (phone_number message : String) :
    (send_sms caller phone_number message).Plain (Permitted now d) :=
  Prog.Plain.tryCatch ((Prog.plain_exec _).mpr trivial) fun _ => trivial

theorem disable_customer_plain (r : BillableRow) :
    (disable_customer r).Plain (Permitted now d) := by
  unfold disable_customer
  split
  · trivial
  refine Prog.Plain.bind ((Prog.plain_exec _).mpr trivial) fun router_row => ?_
  cases router_row with
  | none => trivial
  | some router_row =>
      refine Prog.Plain.bind ?_ fun client => ?_
      · exact Prog.Plain.bind ((Prog.plain_exec _).mpr trivial) fun _ => trivial
      refine Prog.Plain.bind ((Prog.plain_exec _).mpr trivial) fun secrets => ?_
      cases secrets with
      | nil => trivial
      | cons mikrotik_id rest =>
          rw [switch_first]
          split
          · trivial
          · exact (Prog.plain_exec _).mpr trivial

/-- The loop moves the subscription of its row only. -/
theorem bill_subscription_plain (hd : (d.subscriptions.map (·.id)).Nodup) {r : BillableRow}
    (hr : r.subscription ∈ d.subscriptions) :
    (bill_subscription now r).Plain (Permitted now d) := by
  have hrow : ∀ x ∈ d.subscriptions, x.id = r.subscription.id → x = r.subscription :=
    fun x hx hid => List.inj_on_of_nodup_map hd hx hr hid
  have hsms (message : String) :
      ((send_sms r.subscription.id r.phone message) >>= fun _ => pure PUnit.unit).Plain
        (Permitted now d) :=
    Prog.Plain.bind (send_sms_plain _ _) fun _ => trivial
  unfold bill_subscription
  dsimp only
  split
  · exact hsms _
  split
  · exact hsms _
  split
  · next hgrace =>
      refine Prog.Plain.bind ((Prog.plain_exec _).mpr ?_) fun _ => hsms _
      intro x hx hid
      rw [hrow x hx hid]
      exact .inr (.inl ⟨hgrace.2, hgrace.1, rfl⟩)
  split
  · next hover =>
      refine Prog.Plain.bind ((Prog.plain_exec _).mpr ?_) fun _ =>
        Prog.Plain.bind (disable_customer_plain r) fun _ => hsms _
      intro x hx hid
      rw [hrow x hx hid]
      exact .inr (.inr ⟨hover.2, hover.1, rfl⟩)
  · trivial

end Programs

theorem mem_billable {r : BillableRow} : r ∈ d.billable ↔ r.subscription ∈ d.subscriptions ∧
    (r.subscription.status = .active ∨ r.subscription.status = .grace) ∧
    ∃ u ∈ d.users, u.id = r.subscription.customer_id ∧ r.phone = u.phone ∧
      r.router_id = u.router_id := by
  simp only [SubscriptionStore.billable, List.mem_flatMap, List.mem_filter, List.mem_map,
    Bool.or_eq_true, beq_iff_eq]
  constructor
  · rintro ⟨s, ⟨hs, hstatus⟩, u, ⟨hu, hid⟩, rfl⟩
    exact ⟨hs, hstatus, u, hu, hid, rfl, rfl⟩
  · rintro ⟨hs, hstatus, u, hu, hid, hphone, hrouter⟩
    refine ⟨r.subscription, ⟨hs, hstatus⟩, u, ⟨hu, hid⟩, ?_⟩
    rw [← hphone, ← hrouter]

/-- Every state that a run reaches. -/
theorem billing_always (hd : (d.subscriptions.map (·.id)).Nodup) :
    Solo.Always subscriptionMachine (clock now) (fun _ d' => Billed now d d')
      (fun _ _ _ _ => True) pppoe_billing_cron () d {} := by
  have hstart : Billed now d d := .refl hd
  have hkeep : ∀ s, Permitted now d s → ∀ c (j j' : Unit) d', Billed now d d' →
      clock now j s c = some j' → Billed now d (subscriptionMachine.direct s c d').2 :=
    fun s hs c _ _ _ h _ => h.direct hs c
  have hloop : Solo.Always subscriptionMachine (clock now) (fun _ d' => Billed now d d')
      (fun _ _ _ _ => True) (.forEach d.billable (bill_subscription now)) () d {} := by
    have hplain : (Prog.forEach d.billable (bill_subscription now)).Plain (Permitted now d) :=
      Prog.Plain.forEach fun r hr => bill_subscription_plain hd (mem_billable.mp hr).1
    exact (Solo.always_of_plain (I := fun _ d' => Billed now d d') hplain rfl hstart hkeep).mono
      fun _ _ _ _ _ _ => trivial
  refine Solo.always_handle.mpr (Solo.Always.mono (Q := fun _ _ _ _ => True) ?_ ?_)
  · refine Solo.always_exec_bind (.inr rfl) hstart fun c _ _ => ?_
    cases c with
    | fail e => exact ⟨hstart, trivial⟩
    | run v =>
        refine Solo.always_exec_bind (.inl rfl) hstart fun c _ hj => ?_
        cases c with
        | fail e => cases hj
        | run v =>
            have hnow : v.now = now := by
              by_contra hne
              simp [clock, hne] at hj
            rw [← hnow] at hloop ⊢
            exact hloop
  · intro r _ d' l hb _
    cases r <;> exact ⟨hb, trivial⟩

theorem BillingRun.billed (hd : (d.subscriptions.map (·.id)).Nodup) (h : BillingRun now d d') :
    Billed now d d' := by
  obtain ⟨y, hy, rfl⟩ := h
  exact (Solo.always_iff.mp (billing_always hd) y hy).1

section Times

variable {x : Subscription} {status : SubscriptionStatus}

theorem days_neg_iff {due now : Timestamptz} : (due - now) / day < 0 ↔ due < now := by
  have hday : (0 : ℤ) < day := by decide
  rw [Int.ediv_lt_iff_lt_mul hday, zero_mul]
  exact sub_neg

theorem lt_of_days_zero {due now : Timestamptz} (h : (due - now) / day = 0) : due < now + day := by
  have hday : (0 : ℤ) < day := by decide
  have hlt := Int.lt_ediv_add_one_mul_self (due - now) hday
  rw [h, zero_add, one_mul] at hlt
  exact sub_lt_iff_lt_add'.mp hlt

/-- A timely run moves an active subscription at the end of its period only, to grace. -/
theorem Moves.active (h : Moves now x status) (ht : Timely now x) (hx : x.status = .active) :
    status = .active ∨ x.current_period_end = now ∧ status = .grace := by
  rcases h with h | ⟨-, hdays, h⟩ | ⟨-, hdays, h⟩
  · exact .inl (h.trans hx)
  · rcases ht.1 hx with hearly | hend
    · exact absurd (lt_of_days_zero hdays) (not_lt.mpr hearly)
    · exact .inr ⟨hend.symm, h⟩
  · have hover := days_neg_iff.mp hdays
    rcases ht.1 hx with hearly | hend
    · have hday : 0 < day := by decide
      linarith
    · exact absurd hover (by rw [hend]; exact lt_irrefl _)

/-- A timely run suspends a day after the end of the period, and from grace only. -/
theorem Moves.suspended (h : Moves now x .suspended) (ht : Timely now x)
    (hx : x.status ≠ .suspended) :
    x.status = .grace ∧ x.current_period_end + day ≤ now := by
  have hgrace : x.status = .grace := by
    by_cases hactive : x.status = .active
    · rcases h.active ht hactive with hstatus | ⟨-, hstatus⟩
      · cases hstatus
      · cases hstatus
    · rcases h with h | ⟨h, -, -⟩ | ⟨h | h, -, -⟩
      · exact absurd h.symm hx
      · exact absurd h hactive
      · exact absurd h hactive
      · exact h
  refine ⟨hgrace, ?_⟩
  rcases h with h | ⟨-, -, h⟩ | ⟨-, hdays, -⟩
  · exact absurd h.symm hx
  · cases h
  · rcases ht.2 hgrace with hearly | hlate
    · exact absurd (days_neg_iff.mp hdays) (not_lt.mpr hearly)
    · exact hlate

end Times

/-- What holds after any sequence of runs: a subscription in grace was put there by one of them. -/
structure Warned (nights : List Night) (d : SubscriptionStore) : Prop where
  ids : (d.subscriptions.map (·.id)).Nodup
  grace : ∀ x ∈ d.subscriptions, x.status = .grace → ∃ night ∈ nights, night.PutsInGrace x.id

/-- One run more. -/
theorem Warned.run {nights : List Night} (h : Warned nights d) (hb : Billed now d d') :
    Warned (⟨now, d, d'⟩ :: nights) d' where
  ids := by rw [hb.ids]; exact h.ids
  grace x' hx' hgrace := by
    have hmem : x'.id ∈ d.subscriptions.map (·.id) := by
      rw [← hb.ids]
      exact List.mem_map_of_mem hx'
    obtain ⟨x, hx, hid⟩ := List.mem_map.mp hmem
    by_cases hold : x.status = .grace
    · obtain ⟨night, hnight, hputs⟩ := h.grace x hx hold
      exact ⟨night, List.mem_cons_of_mem _ hnight, hid ▸ hputs⟩
    · exact ⟨_, List.mem_cons_self .., ⟨x, hx, hid, hold⟩, x', hx', rfl, hgrace⟩

/-- A timely run keeps the promises to a subscription. -/
theorem Warned.kept {nights : List Night} (h : Warned nights d) (hb : Billed now d d')
    {x x' : Subscription} (hx : x ∈ d.subscriptions) (hx' : x' ∈ d'.subscriptions)
    (hid : x'.id = x.id) (ht : Timely now x) : GraceKept now nights x x' := by
  have hmoves := hb.moves x hx x' hx' hid
  constructor
  · intro hactive hleft
    rcases hmoves.active ht hactive with hstay | ⟨hend, -⟩
    · exact absurd hstay hleft
    · exact hend.le
  · intro hopen hsuspended
    rw [hsuspended] at hmoves
    exact (hmoves.suspended ht hopen).2
  · intro hopen hsuspended
    rw [hsuspended] at hmoves
    exact h.grace x hx (hmoves.suspended ht hopen).1

/-- In every sequence of runs that meet the subscription in time, it leaves `active` no earlier
than at the end of its period, and is suspended a day after it at the earliest and from grace. -/
theorem grace_period {nights : List Night} {id : UUID}
    (hids : (d.subscriptions.map (·.id)).Nodup)
    (hstart : ∀ x ∈ d.subscriptions, x.status ≠ .grace) (h : Nights d nights d')
    (htimely : ∀ night ∈ nights, ∀ x ∈ night.before.subscriptions, x.id = id →
      Timely night.now x) : KeepsGrace id nights := by
  suffices hall : Warned nights d' ∧ KeepsGrace id nights from hall.2
  induction h with
  | start => exact ⟨⟨hids, fun x hx hgrace => absurd hgrace (hstart x hx)⟩, trivial⟩
  | run _ hrun ih =>
      obtain ⟨hwarned, hkeeps⟩ := ih fun night hnight => htimely night (List.mem_cons_of_mem _ hnight)
      have hb := hrun.billed hwarned.ids
      refine ⟨hwarned.run hb, fun x hx hid x' hx' hid' => ?_, hkeeps⟩
      exact hwarned.kept hb hx hx' (hid'.trans hid.symm) (htimely _ (List.mem_cons_self ..) x hx hid)
  | other _ hedit ih =>
      obtain ⟨hwarned, hkeeps⟩ := ih htimely
      refine ⟨⟨hedit.ids, fun x' hx' hgrace => ?_⟩, hkeeps⟩
      obtain ⟨x, hx, hid, hold⟩ := hedit.grace x' hx' hgrace
      exact hid ▸ hwarned.grace x hx hold

/-- The store after a billing run in which nothing fails. -/
def afterNight (now : Timestamptz) (d : SubscriptionStore) : SubscriptionStore :=
  (Solo.outcome subscriptionMachine (calm now) pppoe_billing_cron d {}).2.1

theorem billingRun_afterNight (now : Timestamptz) (d : SubscriptionStore) :
    BillingRun now d (afterNight now d) := by
  have hclock : ∀ s, clock now () s ((calm now).stmt s) = some () := by
    rintro ⟨caller, q⟩
    cases q <;> simp [clock, calm]
  exact ⟨_, Solo.outcome_reaches_note hclock, rfl⟩

/-- A subscription whose period ends at midnight. -/
def endingAtMidnight : SubscriptionStore :=
  { subscribed with subscriptions := [{ endingSoon with current_period_end := 10 * day }] }

/-- A run the day before the end, one at the end and one the day after suspend it in time. -/
theorem grace_period_at_midnight : ∃ nights d, Nights endingAtMidnight nights d ∧
    nights.map (·.now) = [11 * day, 10 * day, 9 * day] ∧
    d.subscriptions.map (·.status) = [.suspended] ∧ KeepsGrace 3 nights := by
  have h₁ := (Nights.start (d := endingAtMidnight)).run (billingRun_afterNight (9 * day) _)
  have h₂ := h₁.run (billingRun_afterNight (10 * day) _)
  have h₃ := h₂.run (billingRun_afterNight (11 * day) _)
  refine ⟨_, _, h₃, rfl, by decide +kernel, grace_period (by decide) (by decide) h₃ ?_⟩
  simp only [List.mem_cons, List.not_mem_nil, or_false, forall_eq_or_imp, forall_eq, Timely]
  decide +kernel

/-- A run twelve hours before the end puts an active subscription into grace. -/
theorem not_grace_period : ¬ ∀ (d d' : SubscriptionStore) (nights : List Night) (id : UUID),
    (d.subscriptions.map (·.id)).Nodup → (∀ x ∈ d.subscriptions, x.status ≠ .grace) →
      Nights d nights d' → KeepsGrace id nights := by
  intro h
  have hkeeps := h subscribed _ _ 3 (by decide) (by decide)
    (Nights.start.run (billingRun_afterNight 0 subscribed))
  have hafter : { endingSoon with status := .grace } ∈ (afterNight 0 subscribed).subscriptions := by
    decide +kernel
  have hkept := hkeeps.1 endingSoon (List.mem_singleton_self _) rfl _ hafter rfl
  exact absurd (hkept.active rfl (by decide)) (by decide)

end Subscriptions

end FrixelConnect
