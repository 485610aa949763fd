import FrixelConnect.BillingLoop

/-!
# Suspension at the router

A suspension is stored first and then carried out on the router of the customer. The
billing run has one handler around all subscriptions and looks at suspended ones never
again, so that a request to the router that fails is lost, with everything that the run
had still to do. Both calls are described here for every pattern of failures.
-/

namespace FrixelConnect

open Calendar Interleaving

namespace Subscriptions

/-- The secret of the customer is disabled on the router of the customer. -/
def CustomerOff (d : SubscriptionStore) (customer_id : UUID) : Prop :=
  ∀ u ∈ d.users, u.id = customer_id → ∀ r ∈ d.routers, u.router_id = some r.id →
    SecretOff d r u.phone

/-- A later billing run does something for the subscription. -/
def RetriedLater (d : SubscriptionStore) (id : UUID) : Prop :=
  ∃ f : Pattern, f.doneFor id d ≠ []

/-- Whoever is suspended between the two stores is cut off at the router, or will be. -/
def ReachesRouter (d d' : SubscriptionStore) : Prop :=
  ∀ x ∈ d.subscriptions, x.status ≠ .suspended → ∀ x' ∈ d'.subscriptions, x'.id = x.id →
    x'.status = .suspended → CustomerOff d' x.customer_id ∨ RetriedLater d' x.id

/-- The failures of a subscription do not change what the run does for another one. -/
def Independent (f : Pattern) (d : SubscriptionStore) : Prop :=
  ∀ id f', Spared f f' id → ∀ other, other ≠ id → f'.doneFor other d = f.doneFor other d

/-- The first element with a property. -/
theorem exists_first {α : Type} {P : α → Prop} {rows : List α} (h : ∃ a ∈ rows, P a) :
    ∃ pre a post, rows = pre ++ a :: post ∧ P a ∧ ∀ b ∈ pre, ¬ P b := by
  classical
  obtain ⟨a, ha, hpa⟩ := h
  have hsome : (rows.find? fun a => decide (P a)).isSome :=
    List.find?_isSome.mpr ⟨a, ha, decide_eq_true hpa⟩
  obtain ⟨b, hb⟩ := Option.isSome_iff_exists.mp hsome
  obtain ⟨hpb, pre, post, hrows, hpre⟩ := List.find?_eq_some_iff_append.mp hb
  exact ⟨pre, b, post, hrows, of_decide_eq_true hpb, fun c hc => by simpa using hpre c hc⟩

section Cron

variable {f f' : Pattern} {d d' : SubscriptionStore} {r : BillableRow} {rows : List BillableRow}
  {id other : UUID}

/-- The query for the subscriptions fails. -/
def SelectFails (f : Pattern) : Prop := f.Fails ⟨none, .select_billable⟩

theorem cron_fails (h : SelectFails f) :
    f.after pppoe_billing_cron d = d ∧ ∀ id, f.doneFor id d = [] := by
  rcases fails_or f ⟨none, .select_billable⟩ with ⟨-, e, he⟩ | ⟨hnot, -⟩
  · have hx : subscriptionMachine.direct ⟨none, .select_billable⟩
        (f.fate.stmt ⟨none, .select_billable⟩) d = (.error e, d) := by
      rw [he]
      rfl
    constructor
    · rw [Pattern.after, pppoe_billing_cron, Solo.outcome_absorb,
        Solo.outcome_exec_bind_error rfl hx]
    · intro id
      rw [Pattern.doneFor, pppoe_billing_cron, Solo.performed_absorb,
        Solo.performed_exec_bind_error rfl hx]
      rfl
  · exact absurd h hnot

/-- The run is the loop over the subscriptions that it selects. -/
theorem cron_runs (h : ¬ SelectFails f) :
    f.after pppoe_billing_cron d = (Solo.outcome subscriptionMachine f.fate
        (.forEach d.billable (bill_subscription f.now)) d {}).2.1 ∧
      ∀ id, f.doneFor id d =
        about id (statements f (.forEach d.billable (bill_subscription f.now)) d) := by
  rcases fails_or f ⟨none, .select_billable⟩ with ⟨hf, -⟩ | ⟨-, v, hv⟩
  · exact absurd hf h
  · have hselect : subscriptionMachine.direct ⟨none, .select_billable⟩
        (f.fate.stmt ⟨none, .select_billable⟩) d = (.ok d.billable, d) := by
      rw [hv]
      rfl
    have hclock : subscriptionMachine.direct ⟨none, .utc_now⟩ (f.fate.stmt ⟨none, .utc_now⟩) d =
        (.ok f.now, d) := rfl
    constructor
    · rw [Pattern.after, pppoe_billing_cron, Solo.outcome_absorb,
        Solo.outcome_exec_bind rfl hselect, Solo.outcome_exec_bind rfl hclock]
    · intro id
      rw [Pattern.doneFor, pppoe_billing_cron, Solo.performed_absorb,
        Solo.performed_exec_bind rfl hselect, Solo.performed_exec_bind rfl hclock]
      rfl

/-- The rows that the run selects are told apart by their subscriptions. -/
theorem Sound.billable_nodup (hd : Sound d) :
    (d.billable.map (·.subscription.id)).Nodup := by
  have hcustomer (s : Subscription) :
      (d.users.filter fun u => u.id == s.customer_id).length ≤ 1 := by
    have hcount := List.nodup_iff_count_le_one.mp hd.users s.customer_id
    rwa [List.count, List.countP_map, List.countP_eq_length_filter] at hcount
  have hsublist (rows : List Subscription) :
      ((rows.flatMap fun s => (d.users.filter fun u => u.id == s.customer_id).map fun u =>
        ({ subscription := s, phone := u.phone, router_id := u.router_id } : BillableRow)).map
          (·.subscription.id)).Sublist (rows.map (·.id)) := by
    induction rows with
    | nil => exact .slnil
    | cons s rest ih =>
        rw [List.flatMap_cons, List.map_append, List.map_map]
        refine List.Sublist.append (?_ : List.Sublist _ [s.id]) ih
        have hone := hcustomer s
        generalize d.users.filter (fun u => u.id == s.customer_id) = customers at hone
        rcases customers with _ | ⟨u, _ | ⟨u', others⟩⟩
        · exact List.nil_sublist _
        · exact List.Sublist.refl _
        · simp at hone
  refine List.Nodup.sublist (hsublist _) ?_
  exact hd.ids.sublist ((List.filter_sublist).map _)

/-- The pattern without the failures of a subscription. -/
def spare (f : Pattern) (id : UUID) : Pattern where
  now := f.now
  stmt s := if s.subscription = some id then .run {} else f.stmt s

theorem spared_spare (f : Pattern) (id : UUID) : Spared f (spare f id) id where
  now := rfl
  others s hs := if_neg hs
  none_fails s hs := by
    simp only [Pattern.Fails, Pattern.fate, spare, if_pos hs]
    split <;> simp [Choice.isRun]

/-- Nothing is said about a subscription that is not in the loop. -/
theorem about_loop_not_mem (hd : Sound d) (h : ∀ r ∈ rows, r.subscription.id ≠ id) :
    about id (statements f (.forEach rows (bill_subscription f.now)) d) = [] := by
  induction rows generalizing d with
  | nil => rfl
  | cons r rest ih =>
      have hr := h r (List.mem_cons_self ..)
      by_cases hraises : Raises f d r
      · obtain ⟨e, d₁, hx, -⟩ := bill_raises hd hraises
        rw [statements_stop hx, about_bill_ne hr]
      · obtain ⟨d₁, hx, hd₁⟩ := bill_succeeds hd hraises
        have hfixed : d₁.fixed = d.fixed := by rw [fixed_of_quiet hd₁, fixed_stepped]
        rw [statements_cons hx, about_append, about_bill_ne hr,
          ih (hd.of_fixed hfixed) fun r' hr' => h r' (List.mem_cons_of_mem _ hr')]
        rfl

/-- The others are served alike exactly when whatever ends the run leaves nothing to do. -/
theorem independent_iff (hd : Sound d) :
    Independent f d ↔ (¬ SelectFails f → NothingLeft f d d.billable) := by
  constructor
  · intro hindependent hselect pre x post hrows hpre hx
    by_contra hbusy
    push Not at hbusy
    obtain ⟨mid, y, rest, rfl, hy, hmid⟩ := exists_first hbusy
    have hnodup := hd.billable_nodup
    rw [hrows] at hnodup
    rw [List.map_append, List.nodup_append] at hnodup
    obtain ⟨-, htail, hdisjoint⟩ := hnodup
    rw [List.map_cons, List.nodup_cons] at htail
    have hspared := spared_spare f x.subscription.id
    have hpre_ne : ∀ p ∈ pre, p.subscription.id ≠ x.subscription.id :=
      fun p hp => hdisjoint _ (List.mem_map_of_mem hp) _ (by simp)
    have hpre_ne' : ∀ p ∈ pre, p.subscription.id ≠ y.subscription.id :=
      fun p hp => hdisjoint _ (List.mem_map_of_mem hp) _ (by simp)
    have hxy : y.subscription.id ≠ x.subscription.id :=
      fun heq => htail.1 (List.mem_map.mpr ⟨y, by simp, heq⟩)
    have hsame := hindependent x.subscription.id (spare f x.subscription.id) hspared
      y.subscription.id hxy
    have hselect' : ¬ SelectFails (spare f x.subscription.id) := by
      rw [SelectFails, Pattern.Fails, hspared.fate_eq (by simp)]
      exact hselect
    rw [(cron_runs hselect).2, (cron_runs hselect').2, hrows] at hsame
    -- With the failures the run ends before it comes to the subscription.
    have hnone : about y.subscription.id (statements f
        (.forEach (pre ++ x :: (mid ++ y :: rest)) (bill_subscription f.now)) d) = [] := by
      obtain ⟨d₁, hrun, hd₁⟩ := loop_succeeds hd hpre
      have hfixed : d₁.fixed = d.fixed := by rw [fixed_of_quiet hd₁, fixed_foldl]
      obtain ⟨e, d₂, hstop, -⟩ :=
        bill_raises (hd.of_fixed hfixed) ((raises_of_fixed hfixed).mpr hx)
      rw [statements_append hrun, statements_stop hstop, about_append,
        about_loop_not_mem hd hpre_ne', about_bill_ne hxy.symm]
      rfl
    -- Without them it comes to it.
    have hsome : about y.subscription.id (statements (spare f x.subscription.id)
        (.forEach (pre ++ x :: (mid ++ y :: rest)) (bill_subscription f.now)) d) ≠ [] := by
      have hgoes : ∀ r ∈ pre ++ x :: mid, ¬ Raises (spare f x.subscription.id) d r := by
        intro r hr
        rcases List.mem_append.mp hr with hr | hr
        · rw [hspared.raises_iff (hpre_ne r hr)]
          exact hpre r hr
        rcases List.mem_cons.mp hr with rfl | hr
        · exact hspared.not_raises rfl
        · have h := not_not.mp (hmid r hr)
          simp [Raises, UpdateFails, spare, h.2.1, h.2.2]
      obtain ⟨d₁, hrun, hd₁⟩ := loop_succeeds hd hgoes
      have hfixed : d₁.fixed = d.fixed := by rw [fixed_of_quiet hd₁, fixed_foldl]
      have hdone := bill_not_idle (f := spare f x.subscription.id) (d := d₁) hy
      have hcons : ∃ more, statements (spare f x.subscription.id)
          (.forEach (y :: rest) (bill_subscription f.now)) d₁ =
            statements (spare f x.subscription.id) (bill_subscription f.now y) d₁ ++ more := by
        by_cases hraises : Raises (spare f x.subscription.id) d₁ y
        · obtain ⟨e, d₂, hstop, -⟩ := bill_raises (hd.of_fixed hfixed) hraises
          exact ⟨[], by rw [List.append_nil]; exact statements_stop hstop⟩
        · obtain ⟨d₂, hgo, -⟩ := bill_succeeds (hd.of_fixed hfixed) hraises
          exact ⟨_, statements_cons hgo⟩
      obtain ⟨more, hmore⟩ := hcons
      have hlist : pre ++ x :: (mid ++ y :: rest) = (pre ++ x :: mid) ++ y :: rest := by simp
      have hself := about_bill (spare f x.subscription.id) d₁ y
      have hnow : (spare f x.subscription.id).now = f.now := rfl
      rw [hnow] at hrun hself
      intro hempty
      rw [hlist, statements_append hrun, hmore, about_append, about_append,
        List.append_eq_nil_iff, List.append_eq_nil_iff] at hempty
      exact hdone (hself.symm.trans hempty.2.1)
    rw [hnone] at hsame
    exact hsome hsame
  · intro hleft id f' hspared other hne
    have hiff : SelectFails f' ↔ SelectFails f := by
      rw [SelectFails, SelectFails, Pattern.Fails, Pattern.Fails, hspared.fate_eq (by simp)]
    by_cases hselect : SelectFails f
    · rw [(cron_fails hselect).2, (cron_fails (hiff.mpr hselect)).2]
    · rw [(cron_runs hselect).2, (cron_runs (hiff.not.mpr hselect)).2, hspared.now]
      exact (hspared.loop_congr hne hd rfl (hleft hselect)).symm

/-- Everybody who is suspended between the two stores is cut off. -/
def CutsOff (d d' : SubscriptionStore) : Prop :=
  ∀ x ∈ d.subscriptions, x.status ≠ .suspended → ∀ x' ∈ d'.subscriptions, x'.id = x.id →
    x'.status = .suspended → CustomerOff d' x.customer_id

theorem CutsOff.congr {e : SubscriptionStore} (h : CutsOff d d') (heq : e.quiet = d'.quiet) :
    CutsOff d e := by
  have hquiet : CutsOff d d'.quiet := h
  rw [← heq] at hquiet
  exact hquiet

theorem Sound.unique (hd : Sound d) {x x' : Subscription} (hx : x ∈ d.subscriptions)
    (hx' : x' ∈ d.subscriptions) (hid : x.id = x'.id) : x = x' :=
  List.inj_on_of_nodup_map hd.ids hx hx' hid

/-- A suspended subscription is never selected again. -/
theorem not_retried (hd : Sound d) {x : Subscription} (hx : x ∈ d.subscriptions)
    (hstatus : x.status = .suspended) : ¬ RetriedLater d x.id := by
  rintro ⟨f, hdone⟩
  by_cases hselect : SelectFails f
  · exact hdone ((cron_fails hselect).2 x.id)
  · apply hdone
    rw [(cron_runs hselect).2]
    apply about_loop_not_mem hd
    intro r hr hid
    obtain ⟨hmem, hopen, -⟩ := mem_billable.mp hr
    rw [hd.unique hmem hx hid, hstatus] at hopen
    rcases hopen with h | h <;> cases h

theorem reachesRouter_iff (hd' : Sound d') : ReachesRouter d d' ↔ CutsOff d d' := by
  constructor
  · intro h x hx hopen x' hx' hid hstatus
    have hnever := not_retried hd' hx' hstatus
    rw [hid] at hnever
    exact (h x hx hopen x' hx' hid hstatus).resolve_right hnever
  · intro h x hx hopen x' hx' hid hstatus
    exact .inl (h x hx hopen x' hx' hid hstatus)

section Secrets

variable {router : RouterLogin} {name : String} {now : Timestamptz}

theorem secretOff_switchOff {p : PppSecret → Bool} : SecretOff (switchOff d p) router name ↔
    ∀ s ∈ d.secrets, PppSecret.belongs router name s = true → p s = true ∨ s.disabled = true := by
  constructor
  · intro h s hs hbelongs
    by_cases hp : p s = true
    · exact .inl hp
    · refine .inr (h s (mem_updateRows.mpr ⟨s, hs, ?_⟩) hbelongs)
      simp [hp]
  · intro h s' hs' hbelongs
    obtain ⟨s, hs, rfl⟩ := mem_updateRows.mp hs'
    by_cases hp : p s = true
    · simp [hp]
    · simp only [hp, Bool.false_eq_true, if_false] at hbelongs ⊢
      exact (h s hs hbelongs).resolve_left hp

/-- A secret that is off stays off. -/
theorem SecretOff.stepped (h : SecretOff d router name) :
    SecretOff (stepped now d r) router name := by
  rw [Subscriptions.stepped]
  split
  · exact h
  split
  · rw [cutOff]
    split
    · exact h
    · exact secretOff_switchOff.mpr fun s hs hbelongs => .inr (h s hs hbelongs)
  · exact h

/-- A secret that is off was off, or has just been switched. -/
theorem secretOff_of_stepped (h : SecretOff (stepped now d r) router name) :
    SecretOff d router name ∨ Over now r ∧ r.phone = name := by
  rw [Subscriptions.stepped] at h
  by_cases hgrace : EntersGrace now r
  · rw [if_pos hgrace] at h
    exact .inl h
  rw [if_neg hgrace] at h
  by_cases hover : Over now r
  · rw [if_pos hover, cutOff] at h
    by_cases hname : r.phone = name
    · exact .inr ⟨hover, hname⟩
    · left
      split at h
      · exact h
      · intro s hs hbelongs
        refine (secretOff_switchOff.mp h s hs hbelongs).resolve_left fun hswitched => hname ?_
        simp only [PppSecret.belongs, Bool.and_eq_true, beq_iff_eq] at hbelongs hswitched
        exact hswitched.2.symm.trans hbelongs.2
  · rw [if_neg hover] at h
    exact .inl h

/-- Whoever is over is cut off. -/
theorem secretOff_stepped (hd : Sound d) (hover : Over now r) (hrouter : router ∈ d.routers)
    (hid : r.router_id = some router.id) : SecretOff (stepped now d r) router r.phone := by
  have hgrace : ¬ EntersGrace now r := fun h => absurd hover (not_over_of_days now h.1.ge)
  have hfound : d.routers.find? (fun router => r.router_id == some router.id) = some router := by
    cases hfind : d.routers.find? fun router => r.router_id == some router.id with
    | none => exact absurd (by simp [hid]) (List.find?_eq_none.mp hfind router hrouter)
    | some router' =>
        have hmem := List.mem_of_find?_eq_some hfind
        have hsome := List.find?_some hfind
        rw [hid, beq_iff_eq, Option.some.injEq] at hsome
        rw [List.inj_on_of_nodup_map hd.router_ids hmem hrouter hsome.symm]
  rw [Subscriptions.stepped, if_neg hgrace, if_pos hover, cutOff]
  have hfound' : (setStatus .suspended r.subscription.id d).routers.find?
      (fun router => r.router_id == some router.id) = some router := hfound
  rw [hfound']
  exact secretOff_switchOff.mpr fun s _ hbelongs => .inl hbelongs

theorem SecretOff.foldl (h : SecretOff d router name) :
    SecretOff (rows.foldl (Subscriptions.stepped now) d) router name := by
  induction rows generalizing d with
  | nil => exact h
  | cons r rest ih => exact ih h.stepped

theorem secretOff_of_foldl (h : SecretOff (rows.foldl (stepped now) d) router name) :
    SecretOff d router name ∨ ∃ p ∈ rows, Over now p ∧ p.phone = name := by
  induction rows generalizing d with
  | nil => exact .inl h
  | cons r rest ih =>
      rcases ih h with h | ⟨p, hp, hover⟩
      · rcases secretOff_of_stepped h with h | h
        · exact .inl h
        · exact .inr ⟨r, List.mem_cons_self .., h⟩
      · exact .inr ⟨p, List.mem_cons_of_mem _ hp, hover⟩

/-- Whoever is over in the loop is cut off at its end. -/
theorem secretOff_foldl (hd : Sound d) (hr : r ∈ rows) (hover : Over now r)
    (hrouter : router ∈ d.routers) (hid : r.router_id = some router.id) :
    SecretOff (rows.foldl (stepped now) d) router r.phone := by
  induction rows generalizing d with
  | nil => cases hr
  | cons p rest ih =>
      have hfixed : (stepped now d p).fixed = d.fixed := fixed_stepped now
      rcases List.mem_cons.mp hr with rfl | hr
      · exact (secretOff_stepped hd hover hrouter hid).foldl
      · refine ih (hd.of_fixed hfixed) hr ?_
        have hrouters := congrArg SubscriptionStore.routers hfixed
        rw [show (stepped now d p).routers = d.routers from hrouters]
        exact hrouter

/-- Whoever is suspended after a subscription was suspended before, or is over. -/
theorem suspended_of_stepped {x' : Subscription} (hx' : x' ∈ (stepped now d r).subscriptions)
    (hstatus : x'.status = .suspended) :
    (∃ x ∈ d.subscriptions, x.id = x'.id ∧ x.status = .suspended) ∨
      Over now r ∧ r.subscription.id = x'.id := by
  have hset (status : SubscriptionStatus)
      (hx' : x' ∈ (setStatus status r.subscription.id d).subscriptions) :
      (∃ x ∈ d.subscriptions, x.id = x'.id ∧ x.status = .suspended) ∨
        status = .suspended ∧ r.subscription.id = x'.id := by
    obtain ⟨x, hx, rfl⟩ := mem_updateRows.mp hx'
    by_cases hid : x.id = r.subscription.id
    · simp only [hid, beq_self_eq_true, if_true] at hstatus ⊢
      exact .inr ⟨hstatus, trivial⟩
    · simp only [beq_eq_false_iff_ne.mpr hid, Bool.false_eq_true, if_false] at hstatus ⊢
      exact .inl ⟨x, hx, rfl, hstatus⟩
  rw [stepped] at hx'
  split at hx'
  · exact (hset _ hx').imp_right fun h => absurd h.1 (by decide)
  split at hx'
  · next hover =>
      have hx'' : x' ∈ (setStatus .suspended r.subscription.id d).subscriptions := by
        rw [cutOff] at hx'
        split at hx'
        · exact hx'
        · exact hx'
      exact (hset _ hx'').imp_right fun h => ⟨hover, h.2⟩
  · exact .inl ⟨x', hx', rfl, hstatus⟩

/-- Whoever is suspended at the end was suspended before, or is over. -/
theorem suspended_of_foldl {x' : Subscription}
    (hx' : x' ∈ (rows.foldl (stepped now) d).subscriptions) (hstatus : x'.status = .suspended) :
    (∃ x ∈ d.subscriptions, x.id = x'.id ∧ x.status = .suspended) ∨
      ∃ r ∈ rows, Over now r ∧ r.subscription.id = x'.id := by
  induction rows generalizing d with
  | nil => exact .inl ⟨x', hx', rfl, hstatus⟩
  | cons r rest ih =>
      rcases ih hx' with ⟨x, hx, hid, hsuspended⟩ | ⟨p, hp, hover⟩
      · rcases suspended_of_stepped hx hsuspended with ⟨x₀, hx₀, hid₀, h⟩ | ⟨hover, hid₀⟩
        · exact .inl ⟨x₀, hx₀, hid₀.trans hid, h⟩
        · exact .inr ⟨r, List.mem_cons_self .., hover, hid₀.trans hid⟩
      · exact .inr ⟨p, List.mem_cons_of_mem _ hp, hover⟩

end Secrets

/-- The secret of the customer is off, or one of the subscriptions before it takes care of it. -/
def AlreadyOff (f : Pattern) (d : SubscriptionStore) (pre : List BillableRow) (x : BillableRow) :
    Prop :=
  (∀ router ∈ d.routers, x.router_id = some router.id → SecretOff d router x.phone) ∨
    ∃ p ∈ pre, Over f.now p ∧ p.phone = x.phone

/-- The first subscription that ends the run is cut off all the same, if it is suspended. -/
def FirstOff (f : Pattern) (d : SubscriptionStore) (rows : List BillableRow) : Prop :=
  ∀ pre x post, rows = pre ++ x :: post → (∀ p ∈ pre, ¬ Raises f d p) → Raises f d x →
    UpdateFails f x ∨ AlreadyOff f d pre x

theorem fixed_left : (left f d r).fixed = d.fixed := by
  rw [left]
  split
  · rfl
  · exact fixed_setStatus _ _

theorem quiet_left : (left f d r).quiet = left f d.quiet r := by
  rw [left, left]
  split <;> rfl

/-- What the run leaves, when none of the subscriptions ends it. -/
theorem after_of_none_raises (hd : Sound d) (hselect : ¬ SelectFails f)
    (h : ∀ r ∈ d.billable, ¬ Raises f d r) :
    (f.after pppoe_billing_cron d).quiet = (d.billable.foldl (stepped f.now) d).quiet := by
  obtain ⟨d', hx, hd'⟩ := loop_succeeds hd h
  rw [(cron_runs hselect).1, hx, hd']

/-- What the run leaves, when one of them does. -/
theorem after_of_raises (hd : Sound d) (hselect : ¬ SelectFails f) {pre post : List BillableRow}
    {x : BillableRow} (hrows : d.billable = pre ++ x :: post) (hpre : ∀ p ∈ pre, ¬ Raises f d p)
    (hx : Raises f d x) : (f.after pppoe_billing_cron d).quiet =
      (left f (pre.foldl (stepped f.now) d) x).quiet := by
  obtain ⟨d₁, hrun, hd₁⟩ := loop_succeeds hd hpre
  have hfixed : d₁.fixed = d.fixed := by rw [fixed_of_quiet hd₁, fixed_foldl]
  obtain ⟨e, d₂, hstop, hd₂⟩ :=
    bill_raises (hd.of_fixed hfixed) ((raises_of_fixed hfixed).mpr hx)
  rw [(cron_runs hselect).1, hrows, Solo.outcome_forEach_append (by rw [hrun]), hrun,
    Solo.outcome_forEach_error (by rw [hstop]), hstop, hd₂, quiet_left, hd₁, ← quiet_left]

/-- The customer of a row. -/
theorem Sound.customer (hd : Sound d) (hr : r ∈ d.billable) {u : User} (hu : u ∈ d.users)
    (hid : u.id = r.subscription.customer_id) : r.phone = u.phone ∧ r.router_id = u.router_id := by
  obtain ⟨-, -, u', hu', hid', hphone, hrouter⟩ := mem_billable.mp hr
  rw [List.inj_on_of_nodup_map hd.users hu hu' (hid.trans hid'.symm)]
  exact ⟨hphone, hrouter⟩

/-- Every subscription that was over is cut off, up to where the run ends. -/
theorem cutsOff_foldl (hd : Sound d) (hrows : ∀ r ∈ rows, r ∈ d.billable) :
    CutsOff d (rows.foldl (stepped f.now) d) := by
  intro x hx hopen x' hx' hid hstatus u hu hcustomer router hrouter hlink
  have hfixed : (rows.foldl (stepped f.now) d).fixed = d.fixed := fixed_foldl f.now
  have husers := congrArg SubscriptionStore.users hfixed
  have hrouters := congrArg SubscriptionStore.routers hfixed
  rw [show (rows.foldl (stepped f.now) d).users = d.users from husers] at hu
  rw [show (rows.foldl (stepped f.now) d).routers = d.routers from hrouters] at hrouter
  rcases suspended_of_foldl hx' hstatus with ⟨x₀, hx₀, hid₀, hsuspended⟩ | ⟨r, hr, hover, hrid⟩
  · rw [hd.unique hx₀ hx (hid₀.trans hid)] at hsuspended
    exact absurd hsuspended hopen
  · have hrow := hrows r hr
    have hsub : r.subscription = x := hd.unique (mem_billable.mp hrow).1 hx (hrid.trans hid)
    obtain ⟨hphone, hrid'⟩ := hd.customer hrow hu (by rw [hcustomer, hsub])
    rw [← hphone]
    exact secretOff_foldl hd hr hover hrouter (hrid'.trans hlink)

theorem ids_of_fixed (h : d'.fixed = d.fixed) :
    d'.subscriptions.map (·.id) = d.subscriptions.map (·.id) := by
  have hids := congrArg (fun d => d.subscriptions.map (·.id)) h
  simpa [SubscriptionStore.fixed, Function.comp_def] using hids

/-- A row that is suspended without its secret shows whether the secret was off already. -/
theorem alreadyOff_of_cutsOff {pre : List BillableRow} {x : BillableRow}
    (hmem : x ∈ d.billable) (hupdate : ¬ UpdateFails f x)
    (h : CutsOff d (left f (pre.foldl (stepped f.now) d) x)) : AlreadyOff f d pre x := by
  have hfixed : (pre.foldl (stepped f.now) d).fixed = d.fixed := fixed_foldl f.now
  have husers := congrArg SubscriptionStore.users hfixed
  have hrouters := congrArg SubscriptionStore.routers hfixed
  by_cases hbefore : ∃ p ∈ pre, Over f.now p ∧ p.phone = x.phone
  · exact .inr hbefore
  refine .inl fun router hrouter hlink => ?_
  obtain ⟨hsub, hopen, u, hu, hcustomer, hphone, hrid⟩ := mem_billable.mp hmem
  have hid : x.subscription.id ∈ (pre.foldl (stepped f.now) d).subscriptions.map (·.id) := by
    rw [ids_of_fixed hfixed]
    exact List.mem_map_of_mem hsub
  obtain ⟨x₀, hx₀, hid₀⟩ := List.mem_map.mp hid
  rw [left, if_neg hupdate] at h
  have hx' : { x₀ with status := .suspended } ∈
      (setStatus .suspended x.subscription.id (pre.foldl (stepped f.now) d)).subscriptions :=
    mem_updateRows.mpr ⟨x₀, hx₀, by simp [hid₀]⟩
  have hnot : x.subscription.status ≠ .suspended := by
    rcases hopen with h | h <;> simp [h]
  have hoff : SecretOff (pre.foldl (stepped f.now) d) router u.phone :=
    h x.subscription hsub hnot _ hx' hid₀ rfl u (husers.symm ▸ hu) hcustomer router
      (hrouters.symm ▸ hrouter) (hrid.symm.trans hlink)
  rw [← hphone] at hoff
  exact (secretOff_of_foldl hoff).resolve_right hbefore

/-- Whoever is suspended when a row ends the run is cut off, if the secret of that row is off. -/
theorem cutsOff_left (hd : Sound d) {pre : List BillableRow} {x : BillableRow}
    (hpre : ∀ p ∈ pre, p ∈ d.billable) (hmem : x ∈ d.billable)
    (hoff : UpdateFails f x ∨ AlreadyOff f d pre x) :
    CutsOff d (left f (pre.foldl (stepped f.now) d) x) := by
  have hfixed : (pre.foldl (stepped f.now) d).fixed = d.fixed := fixed_foldl f.now
  have husers := congrArg SubscriptionStore.users hfixed
  have hrouters := congrArg SubscriptionStore.routers hfixed
  by_cases hupdate : UpdateFails f x
  · rw [left, if_pos hupdate]
    exact cutsOff_foldl hd hpre
  rw [left, if_neg hupdate]
  intro x₁ hx₁ hopen x' hx' hid hstatus
  obtain ⟨x₀, hx₀, rfl⟩ := mem_updateRows.mp hx'
  by_cases hsame : x₀.id = x.subscription.id
  · have hx₁' : x₁ = x.subscription := by
      apply hd.unique hx₁ (mem_billable.mp hmem).1
      rw [← hsame, ← hid]
      simp [hsame]
    intro u hu hcustomer router hrouter hlink
    replace hu : u ∈ d.users := husers ▸ hu
    replace hrouter : router ∈ d.routers := hrouters ▸ hrouter
    obtain ⟨hphone, hrid⟩ := hd.customer hmem hu (by rw [hcustomer, hx₁'])
    rcases hoff.resolve_left hupdate with hoff | ⟨p, hp, hover, hpx⟩
    · have h := hoff router hrouter (hrid.trans hlink)
      rw [hphone] at h
      exact h.foldl
    · obtain ⟨-, -, u', hu', hcustomer', hphone', hrid'⟩ := mem_billable.mp (hpre p hp)
      have huser : u' = u := by
        apply List.inj_on_of_nodup_map hd.phones hu' hu
        rw [← hphone', hpx, hphone]
      have h : SecretOff (pre.foldl (stepped f.now) d) router p.phone :=
        secretOff_foldl hd hp hover hrouter (by rw [hrid', huser, hlink])
      rwa [hpx, hphone] at h
  · simp only [beq_eq_false_iff_ne.mpr hsame, Bool.false_eq_true, if_false] at hid hstatus
    exact cutsOff_foldl hd hpre x₁ hx₁ hopen x₀ hx₀ hid hstatus

theorem Sound.reaches_self (hd : Sound d) : ReachesRouter d d := by
  intro x hx hopen x' hx' hid hstatus
  rw [hd.unique hx' hx hid] at hstatus
  exact absurd hstatus hopen

/-- Whoever the run suspends is cut off exactly when the first that ends it is. -/
theorem cron_reaches_iff (hd : Sound d) : ReachesRouter d (f.after pppoe_billing_cron d) ↔
    (¬ SelectFails f → FirstOff f d d.billable) := by
  by_cases hselect : SelectFails f
  · rw [(cron_fails hselect).1]
    exact iff_of_true hd.reaches_self fun h => absurd hselect h
  by_cases hnone : ∀ r ∈ d.billable, ¬ Raises f d r
  · have hafter := after_of_none_raises hd hselect hnone
    have hfixed : (f.after pppoe_billing_cron d).fixed = d.fixed := by
      rw [fixed_of_quiet hafter, fixed_foldl]
    rw [reachesRouter_iff (hd.of_fixed hfixed)]
    refine iff_of_true ((cutsOff_foldl hd fun r hr => hr).congr hafter) ?_
    intro _ pre x post hrows _ hx
    exact absurd hx (hnone x (by simp [hrows]))
  push Not at hnone
  obtain ⟨pre, x, post, hrows, hx, hpre⟩ := exists_first hnone
  have hafter := after_of_raises hd hselect hrows hpre hx
  have hfixed : (f.after pppoe_billing_cron d).fixed = d.fixed := by
    rw [fixed_of_quiet hafter, fixed_left, fixed_foldl]
  rw [reachesRouter_iff (hd.of_fixed hfixed)]
  constructor
  · intro h _ pre' x' post' hrows' hpre' hx'
    by_cases hupdate : UpdateFails f x'
    · exact .inl hupdate
    · have hcuts := h.congr (after_of_raises hd hselect hrows' hpre' hx').symm
      exact .inr (alreadyOff_of_cutsOff (by simp [hrows']) hupdate hcuts)
  · intro h
    have hcuts : CutsOff d (left f (pre.foldl (stepped f.now) d) x) :=
      cutsOff_left hd (fun p hp => by simp [hrows, hp]) (by simp [hrows])
        (h hselect pre x post hrows hpre hx)
    exact hcuts.congr hafter

end Cron

section Service

variable {f : Pattern} {d : SubscriptionStore} {tenant_id id : UUID} {status : SubscriptionStatus}
  {u : User} {router : RouterLogin}

/-- The call comes to the router of the customer, and disables the secret there. -/
structure ReachedByHand (f : Pattern) (d : SubscriptionStore) (tenant_id : UUID) (u : User)
    (router : RouterLogin) : Prop where
  user_tenant : u.tenant_id = tenant_id
  user_read : ¬ f.Fails ⟨none, .select_user u.id tenant_id⟩
  router_tenant : router.tenant_id = tenant_id
  router_read : ¬ f.Fails ⟨none, .select_tenant_router router.id tenant_id⟩
  switched : ¬ RouterFails f none router u.phone d

/-- The status that the call stores. -/
def setTenantStatus (status : SubscriptionStatus) (id tenant_id : UUID) (d : SubscriptionStore) :
    SubscriptionStore :=
  d.updateSubscriptions (fun s => s.id == id && s.tenant_id == tenant_id) fun s =>
    { s with status }

/-- What the call does at the router. -/
def switchFor (status : SubscriptionStatus) (client : MikroTikClient) (phone : String) :
    SubscriptionM Unit :=
  match status with
  | .suspended => disable_ppp_secret none client phone
  | .active => enable_ppp_secret none client phone
  | _ => return ()

/-- The queries of the call find a subscription by its key. -/
theorem Sound.found (hd : Sound d) {x : Subscription} (hx : x ∈ d.subscriptions) (hid : x.id = id)
    (htenant : x.tenant_id = tenant_id) (v : SubscriptionEnv) :
    (SubscriptionQuery.select_subscription id tenant_id).eval v d = .ok (some x, d) := by
  have hpackage : x ∈ d.withPackage := by
    obtain ⟨p, hp, hpid⟩ := hd.packages x hx
    exact List.mem_filter.mpr ⟨hx, List.any_eq_true.mpr ⟨p, hp, by simp [hpid]⟩⟩
  have hfetch : fetchrow v.pick (fun s => s.id == id && s.tenant_id == tenant_id) d.withPackage =
      some x := by
    apply fetchrow_unique hpackage (by simp [hid, htenant])
    intro x' hx' hp
    simp only [Bool.and_eq_true, beq_iff_eq] at hp
    exact hd.unique (List.mem_filter.mp hx').1 hx (hp.1.trans hid.symm)
  simp only [SubscriptionQuery.eval, hfetch]
  rfl

/-- The status is stored, and what follows is about the router. -/
theorem after_update (hd : Sound d) {x : Subscription} (hx : x ∈ d.subscriptions) (hid : x.id = id)
    (htenant : x.tenant_id = tenant_id) (hread : ¬ f.Fails ⟨none, .select_subscription id tenant_id⟩)
    (hwrite : ¬ f.Fails ⟨none, .set_tenant_status status id tenant_id⟩) :
    f.after (update_subscription_status tenant_id id status) d =
      f.after (switch_customer tenant_id x.customer_id (switchFor status))
        (setTenantStatus status id tenant_id d) := by
  have hget : Solo.outcome subscriptionMachine f.fate (get_subscription tenant_id id) d {} =
      (.ok x, d, ({} : SubscriptionLocal)) := by
    rw [get_subscription, outcome_runs hread (hd.found hx hid htenant)]
    rfl
  have hstored (v : SubscriptionEnv) : (SubscriptionQuery.set_tenant_status status id
      tenant_id).eval v d = .ok ((), setTenantStatus status id tenant_id d) := rfl
  rw [Pattern.after, update_subscription_status, Solo.outcome_bind_ok hget,
    outcome_runs hwrite hstored]
  rfl

/-- Nothing is stored. -/
theorem after_update_stopped (h : ∀ x ∈ d.subscriptions, x.id = id → x.tenant_id = tenant_id →
    f.Fails ⟨none, .select_subscription id tenant_id⟩ ∨
      f.Fails ⟨none, .set_tenant_status status id tenant_id⟩) :
    f.after (update_subscription_status tenant_id id status) d = d := by
  rw [Pattern.after, update_subscription_status]
  rcases fails_or f ⟨none, .select_subscription id tenant_id⟩ with ⟨hf, -⟩ | ⟨hf, v, hv⟩
  · obtain ⟨e, he⟩ : ∃ e, Solo.outcome subscriptionMachine f.fate (get_subscription tenant_id id)
        d {} = (.error e, d, {}) := outcome_fails hf
    rw [Solo.outcome_bind_error he]
  · have hselect : subscriptionMachine.direct ⟨none, .select_subscription id tenant_id⟩
        (f.fate.stmt ⟨none, .select_subscription id tenant_id⟩) d = (.ok (fetchrow v.pick
          (fun s => s.id == id && s.tenant_id == tenant_id) d.withPackage), d) := by
      rw [hv]
      rfl
    cases hrow : fetchrow v.pick (fun s => s.id == id && s.tenant_id == tenant_id)
        d.withPackage with
    | none =>
        have hget : Solo.outcome subscriptionMachine f.fate (get_subscription tenant_id id) d {} =
            (.error (.notFound "Subscription" (str id)), d, {}) := by
          rw [get_subscription, Solo.outcome_exec_bind rfl hselect, hrow]
          rfl
        rw [Solo.outcome_bind_error hget]
    | some x =>
        have hget : Solo.outcome subscriptionMachine f.fate (get_subscription tenant_id id) d {} =
            (.ok x, d, {}) := by
          rw [get_subscription, Solo.outcome_exec_bind rfl hselect, hrow]
          rfl
        obtain ⟨hx, hp⟩ := fetchrow_eq_some hrow
        simp only [Bool.and_eq_true, beq_iff_eq] at hp
        have hwrite := (h x (List.mem_filter.mp hx).1 hp.1 hp.2).resolve_left hf
        obtain ⟨e, he⟩ := outcome_fails (d := d) (k := fun _ =>
          switch_customer tenant_id x.customer_id (switchFor status)) hwrite
        rw [Solo.outcome_bind_ok hget]
        exact congrArg (fun x => x.2.1) he

/-- The statement leaves everything but the messages and the secrets that are disabled. -/
def Harmless (s : SubscriptionStmt) : Prop :=
  ∀ v d a d', s.query.eval v d = .ok (a, d') →
    d'.fixed = d.fixed ∧ d'.subscriptions = d.subscriptions

theorem harmless_switch (client : MikroTikClient) (mikrotik_id : String) (disabled : Bool) :
    Harmless ⟨none, .switch_ppp_secret client mikrotik_id disabled⟩ := by
  intro v d a d' he
  cases he
  exact ⟨fixed_switch _ disabled, rfl⟩

theorem switch_secret_harmless (client : MikroTikClient) (username : String) (disabled : Bool) :
    (switch_secret none client username disabled).Plain Harmless := by
  refine Prog.Plain.bind ((Prog.plain_exec _).mpr ?_) fun secrets => ?_
  · intro v d a d' he
    cases he
    exact ⟨rfl, rfl⟩
  · cases secrets with
    | nil => trivial
    | cons mikrotik_id rest =>
        rw [switch_first]
        split
        · trivial
        · exact (Prog.plain_exec _).mpr (harmless_switch client mikrotik_id disabled)

/-- The statements of the call after the status is stored leave the subscriptions alone. -/
theorem switch_customer_keeps (f : Pattern) (d : SubscriptionStore) (tenant_id customer_id : UUID)
    (status : SubscriptionStatus) :
    (f.after (switch_customer tenant_id customer_id (switchFor status)) d).fixed = d.fixed ∧
      (f.after (switch_customer tenant_id customer_id (switchFor status)) d).subscriptions =
        d.subscriptions := by
  have hread {q : SubscriptionQuery} (h : ∀ v d, ∃ a, q.eval v d = .ok (a, d)) :
      Harmless ⟨none, q⟩ := by
    intro v d a d' he
    obtain ⟨a', ha'⟩ := h v d
    rw [ha'] at he
    cases he
    exact ⟨rfl, rfl⟩
  have hswitch (client : MikroTikClient) (phone : String) :
      (switchFor status client phone).Plain Harmless := by
    cases status
    · exact switch_secret_harmless client phone false
    · trivial
    · exact switch_secret_harmless client phone true
    · trivial
  have hplain : (switch_customer tenant_id customer_id (switchFor status)).Plain Harmless := by
    refine Prog.Plain.bind ((Prog.plain_exec _).mpr (hread fun v d => ⟨_, rfl⟩)) fun user_row => ?_
    cases user_row with
    | none => trivial
    | some user_row =>
        dsimp only
        split
        · trivial
        refine Prog.Plain.bind ((Prog.plain_exec _).mpr (hread fun v d => ⟨_, rfl⟩))
          fun router_row => ?_
        cases router_row with
        | none => trivial
        | some router_row =>
            refine Prog.Plain.bind ?_ fun client => hswitch client _
            exact Prog.Plain.bind ((Prog.plain_exec _).mpr (hread fun v d => ⟨_, rfl⟩))
              fun _ => trivial
  refine (Solo.outcome_keeps (P := fun d' : SubscriptionStore => d'.fixed = d.fixed ∧
    d'.subscriptions = d.subscriptions) hplain.framed rfl ?_ ⟨rfl, rfl⟩).1
  intro s hs d₁ hd₁
  cases hc : f.fate.stmt s with
  | fail e => exact hd₁
  | run v =>
      rcases subscriptionMachine_restores s v d₁ with ⟨a, d₂, hx⟩ | ⟨e, hx⟩
      · rw [show subscriptionMachine.direct s (.run v) d₁ = (.ok a, d₂) from hx]
        obtain ⟨hfixed, hsubs⟩ := hs v d₁ a d₂ (SubscriptionStmt.exec_eq_ok.mp hx)
        exact ⟨hfixed.trans hd₁.1, hsubs.trans hd₁.2⟩
      · rw [show subscriptionMachine.direct s (.run v) d₁ = (.error e, d₁) from hx]
        exact hd₁

/-- A row that is looked up by its key is found in its own tenant only. -/
theorem fetchrow_key {α : Type} {pick : ℕ} {key tenant : α → UUID} {rows : List α} {r : α}
    (hkeys : (rows.map key).Nodup) (hr : r ∈ rows) :
    fetchrow pick (fun r' => key r' == key r && tenant r' == tenant_id) rows =
      if tenant r = tenant_id then some r else none := by
  have hsame {r' : α} (hr' : r' ∈ rows) (h : (key r' == key r && tenant r' == tenant_id) = true) :
      r' = r ∧ tenant r' = tenant_id := by
    simp only [Bool.and_eq_true, beq_iff_eq] at h
    exact ⟨List.inj_on_of_nodup_map hkeys hr' hr h.1, h.2⟩
  split
  · next htenant =>
      exact fetchrow_unique hr (by simp [htenant]) fun r' hr' h => (hsame hr' h).1
  · next htenant =>
      refine fetchrow_eq_none.mpr fun r' hr' h => htenant ?_
      obtain ⟨rfl, h'⟩ := hsame hr' h
      exact h'

/-- The secret is off afterwards if it was, or if the call comes to the router. -/
theorem secretOff_switch_customer (hd : Sound d) (hu : u ∈ d.users) (hrouter : router ∈ d.routers)
    (hlink : u.router_id = some router.id) :
    SecretOff (f.after (switch_customer tenant_id u.id (switchFor .suspended)) d) router u.phone ↔
      SecretOff d router u.phone ∨ ReachedByHand f d tenant_id u router := by
  -- Wherever the call stops before it comes to the router, the store is as it was.
  have hstop {p : SubscriptionM Unit} {r : Except Exn Unit} (hnot : ¬ ReachedByHand f d tenant_id u
      router) (hx : Solo.outcome subscriptionMachine f.fate p d {} = (r, d, {})) :
      SecretOff (f.after p d) router u.phone ↔
        SecretOff d router u.phone ∨ ReachedByHand f d tenant_id u router := by
    rw [Pattern.after, hx, or_iff_left hnot]
  rw [switch_customer]
  by_cases huser : f.Fails ⟨none, .select_user u.id tenant_id⟩
  · obtain ⟨e, he⟩ := outcome_fails (d := d) huser
    exact hstop (fun h => h.user_read huser) he
  have hfound (v : SubscriptionEnv) : (SubscriptionQuery.select_user u.id tenant_id).eval v d =
      .ok (if u.tenant_id = tenant_id then some u else none, d) := by
    rw [SubscriptionQuery.eval, fetchrow_key hd.users hu]
    rfl
  by_cases htenant : u.tenant_id = tenant_id
  case neg =>
    rw [if_neg htenant] at hfound
    exact hstop (fun h => htenant h.user_tenant) (outcome_runs huser hfound)
  rw [if_pos htenant] at hfound
  rw [Pattern.after, outcome_runs huser hfound]
  dsimp only
  rw [hlink]
  dsimp only
  by_cases hrow : f.Fails ⟨none, .select_tenant_router router.id tenant_id⟩
  · obtain ⟨e, he⟩ := outcome_fails (d := d) hrow
    exact hstop (fun h => h.router_read hrow) he
  have hlocated (v : SubscriptionEnv) :
      (SubscriptionQuery.select_tenant_router router.id tenant_id).eval v d =
        .ok (if router.tenant_id = tenant_id then some router else none, d) := by
    rw [SubscriptionQuery.eval, fetchrow_key hd.router_ids hrouter]
    rfl
  by_cases hplace : router.tenant_id = tenant_id
  case neg =>
    rw [if_neg hplace] at hlocated
    exact hstop (fun h => hplace h.router_tenant) (outcome_runs hrow hlocated)
  rw [if_pos hplace] at hlocated
  rw [outcome_runs hrow hlocated]
  have hends := ends_disable f none router u.phone hd
  by_cases hswitch : RouterFails f none router u.phone d
  · obtain ⟨e, d', hx, hd'⟩ := hends.raises hswitch
    have hsame : SecretOff d'.quiet router u.phone ↔ SecretOff d router u.phone := by
      rw [hd']
      exact Iff.rfl
    rw [or_iff_left fun h : ReachedByHand f d tenant_id u router => h.switched hswitch, ← hsame]
    exact iff_of_eq (congrArg (fun x => SecretOff x.2.1 router u.phone) hx)
  · obtain ⟨d', hx, hd'⟩ := hends.succeeds hswitch
    have hoff : SecretOff d'.quiet router u.phone := by
      rw [hd']
      exact secretOff_switchOff.mpr fun s _ hbelongs => .inl hbelongs
    refine iff_of_true ?_ (.inr ⟨htenant, huser, hplace, hrow, hswitch⟩)
    exact (congrArg (fun x => SecretOff x.2.1 router u.phone) hx).mpr hoff

/-- What has to go well when a subscription is suspended by hand. -/
def SuspendedWithSecret (f : Pattern) (d : SubscriptionStore) (tenant_id id : UUID) : Prop :=
  ∀ x ∈ d.subscriptions, x.id = id → x.tenant_id = tenant_id → x.status ≠ .suspended →
    ¬ f.Fails ⟨none, .select_subscription id tenant_id⟩ →
    ¬ f.Fails ⟨none, .set_tenant_status .suspended id tenant_id⟩ →
    ∀ u ∈ d.users, u.id = x.customer_id → ∀ router ∈ d.routers, u.router_id = some router.id →
      SecretOff d router u.phone ∨ ReachedByHand f d tenant_id u router

/-- Whoever the call suspends is cut off exactly when the call comes to the router. -/
theorem service_reaches_iff (hd : Sound d) :
    ReachesRouter d (f.after (update_subscription_status tenant_id id status) d) ↔
      (status = .suspended → SuspendedWithSecret f d tenant_id id) := by
  by_cases hstop : ∀ x ∈ d.subscriptions, x.id = id → x.tenant_id = tenant_id →
      f.Fails ⟨none, .select_subscription id tenant_id⟩ ∨
        f.Fails ⟨none, .set_tenant_status status id tenant_id⟩
  · rw [after_update_stopped hstop]
    refine iff_of_true hd.reaches_self ?_
    rintro rfl x hx hid htenant - hread hwrite
    exact absurd (hstop x hx hid htenant) (not_or.mpr ⟨hread, hwrite⟩)
  push Not at hstop
  obtain ⟨x, hx, hid, htenant, hread, hwrite⟩ := hstop
  rw [after_update hd hx hid htenant hread hwrite]
  have hd₁ : Sound (setTenantStatus status id tenant_id d) := hd.of_fixed (fixed_updateStatus _ _)
  obtain ⟨hfixed, hsubs⟩ := switch_customer_keeps f (setTenantStatus status id tenant_id d)
    tenant_id x.customer_id status
  have husers := congrArg SubscriptionStore.users hfixed
  have hrouters := congrArg SubscriptionStore.routers hfixed
  have hoff {u : User} {router : RouterLogin} (hu : u ∈ d.users) (hcustomer : u.id = x.customer_id)
      (hrouter : router ∈ d.routers) (hlink : u.router_id = some router.id)
      (hstatus : status = .suspended) :
      SecretOff (f.after (switch_customer tenant_id x.customer_id (switchFor status))
        (setTenantStatus status id tenant_id d)) router u.phone ↔
          SecretOff d router u.phone ∨ ReachedByHand f d tenant_id u router := by
    rw [← hcustomer]
    subst hstatus
    refine (secretOff_switch_customer hd₁ hu hrouter hlink).trans (or_congr Iff.rfl ?_)
    constructor
    · exact fun h => ⟨h.user_tenant, h.user_read, h.router_tenant, h.router_read, h.switched⟩
    · exact fun h => ⟨h.user_tenant, h.user_read, h.router_tenant, h.router_read, h.switched⟩
  rw [reachesRouter_iff (hd₁.of_fixed hfixed)]
  constructor
  · intro h hstatus x₁ hx₁ hid₁ htenant₁ hopen _ _ u hu hcustomer router hrouter hlink
    have hsame : x₁ = x := hd.unique hx₁ hx (hid₁.trans hid.symm)
    have hx' : { x with status } ∈ (setTenantStatus status id tenant_id d).subscriptions :=
      mem_updateRows.mpr ⟨x, hx, by simp [hid, htenant]⟩
    rw [hsame] at hopen hcustomer
    rw [← hsubs] at hx'
    refine (hoff hu hcustomer hrouter hlink hstatus).mp ?_
    exact h x hx hopen _ hx' rfl hstatus u (husers.symm ▸ hu) hcustomer router
      (hrouters.symm ▸ hrouter) hlink
  · intro h x₁ hx₁ hopen x' hx' hid' hstatus' u hu hcustomer router hrouter hlink
    rw [hsubs] at hx'
    replace hu : u ∈ d.users := husers ▸ hu
    replace hrouter : router ∈ d.routers := hrouters ▸ hrouter
    obtain ⟨x₀, hx₀, rfl⟩ := mem_updateRows.mp hx'
    by_cases hkey : (x₀.id == id && x₀.tenant_id == tenant_id) = true
    · simp only [hkey, if_true] at hid' hstatus'
      simp only [Bool.and_eq_true, beq_iff_eq] at hkey
      have hsame : x₁ = x := hd.unique hx₁ hx (hid'.symm.trans (hkey.1.trans hid.symm))
      rw [hsame] at hopen hcustomer
      subst hstatus'
      exact (hoff hu hcustomer hrouter hlink rfl).mpr
        (h rfl x hx hid htenant hopen hread hwrite u hu hcustomer router hrouter hlink)
    · simp only [hkey, Bool.false_eq_true, if_false] at hid' hstatus'
      rw [hd.unique hx₀ hx₁ hid'] at hstatus'
      exact absurd hstatus' hopen

end Service

/-- A run that is contained: the first subscription that ends it is cut off all the same, if it is
suspended, and leaves nothing to do. -/
def Contained (f : Pattern) (d : SubscriptionStore) : Prop :=
  ¬ SelectFails f → FirstOff f d d.billable ∧ NothingLeft f d d.billable

/-- The run cuts off whom it suspends and serves the subscriptions independently exactly when it
is contained; a suspension by hand does exactly when it comes to the router. -/
theorem reaching_iff (f : Pattern) {d : SubscriptionStore} (hd : Sound d) :
    (ReachesRouter d (f.after pppoe_billing_cron d) ∧ Independent f d ↔ Contained f d) ∧
      ∀ tenant_id id status,
        ReachesRouter d (f.after (update_subscription_status tenant_id id status) d) ↔
          (status = .suspended → SuspendedWithSecret f d tenant_id id) := by
  constructor
  · rw [cron_reaches_iff hd, independent_iff hd, Contained, ← imp_and]
  · exact fun tenant_id id status => service_reaches_iff hd

/-- A customer with a router whose period has ended. -/
def overdue : SubscriptionStore where
  subscriptions := [{ endingSoon with current_period_end := 0 }]
  packages := [daily]
  users := [{ id := 4, email := "c@example.com", phone := "254700000001", hashed_password := ""
              tenant_id := 1, router_id := some 5 }]
  routers := [{ id := 5, tenant_id := 1, host := "10.8.0.2", username := "admin"
                password_encrypted := "" }]
  secrets := [{ host := "10.8.0.2", port := 80, id := "*1", name := "254700000001" }]

theorem sound_overdue : Sound overdue where
  ids := by decide
  packages := by decide
  users := by decide
  phones := by decide
  router_ids := by decide
  routers := by simp [overdue]
  secret_ids := by decide
  secrets := by simp [overdue]

/-- Two days later the router does not answer when it is asked for the secret. -/
def silentRouter : Pattern where
  now := 2 * day
  stmt s := match s.query with
    | .find_ppp_secret .. => .fail (.database "ConnectTimeout")
    | _ => .run {}

/-- Nothing fails. -/
def untroubled : Pattern where
  now := 2 * day
  stmt _ := .run {}

/-- When nothing fails the customer is cut off. -/
theorem reaching_untroubled :
    ReachesRouter overdue (untroubled.after pppoe_billing_cron overdue) ∧
      Independent untroubled overdue := by
  refine (reaching_iff untroubled sound_overdue).1.mpr fun _ => ?_
  have hruns (s : SubscriptionStmt) : ¬ untroubled.Fails s := by
    simp only [Pattern.Fails, Pattern.fate, untroubled]
    split <;> simp [Choice.isRun]
  have hnone (r : BillableRow) : ¬ Raises untroubled overdue r := by
    have hrouter (router : RouterLogin) :
        ¬ RouterFails untroubled r.subscription.id router r.phone overdue := by
      simp [RouterFails, Pattern.client, Pattern.fate, untroubled, Pattern.Fails, Choice.isRun]
    simp [Raises, UpdateFails, SwitchFails, hruns, hrouter]
  exact ⟨fun _ x _ _ _ hx => absurd hx (hnone x), fun _ x _ _ _ hx => absurd hx (hnone x)⟩

/-- The customer is suspended, the secret stays enabled, and no run looks at it again. -/
theorem not_reaching : ¬ ∀ (f : Pattern) (d : SubscriptionStore), Sound d →
    (ReachesRouter d (f.after pppoe_billing_cron d) ∧ Independent f d) ∧
      ∀ tenant_id id status,
        ReachesRouter d (f.after (update_subscription_status tenant_id id status) d) := by
  intro h
  obtain ⟨⟨hreaches, -⟩, -⟩ := h silentRouter overdue sound_overdue
  have hfixed : (silentRouter.after pppoe_billing_cron overdue).fixed = overdue.fixed := by
    decide +kernel
  have hcuts := (reachesRouter_iff (sound_overdue.of_fixed hfixed)).mp hreaches
  have hoff := hcuts { endingSoon with current_period_end := 0 } (by decide) (by decide)
    { endingSoon with current_period_end := 0, status := .suspended } (by decide +kernel) rfl rfl
  have hdisabled := hoff (overdue.users.head (by decide)) (by decide +kernel) rfl
    (overdue.routers.head (by decide)) (by decide +kernel) rfl
    (overdue.secrets.head (by decide)) (by decide +kernel) (by decide)
  exact absurd hdisabled (by decide)

end Subscriptions

end FrixelConnect
