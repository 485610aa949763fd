import FrixelConnect.RouterSecrets

/-!
# The loop of the billing run

What the billing run makes of the store for one subscription and for a list of them, which
of them end the run, and that the failures of one leave the others as they are as long as
none of them ends the run before it comes to them.
-/

namespace FrixelConnect

open Calendar Interleaving

namespace Subscriptions

/-- The second pattern has the failures of the first, without those of a subscription. -/
structure Spared (f f' : Pattern) (id : UUID) : Prop where
  now : f'.now = f.now
  others : ∀ s, s.subscription ≠ some id → f'.stmt s = f.stmt s
  none_fails : ∀ s, s.subscription = some id → ¬ f'.Fails s

section Bill

/-- The whole days to the end of the period. -/
def daysLeft (now : Timestamptz) (r : BillableRow) : ℤ :=
  (r.subscription.current_period_end - now) / day

def Reminded (now : Timestamptz) (r : BillableRow) : Prop :=
  (daysLeft now r = 3 ∨ daysLeft now r = 1) ∧ r.subscription.auto_renew = true

def EntersGrace (now : Timestamptz) (r : BillableRow) : Prop :=
  daysLeft now r = 0 ∧ r.subscription.status = .active

def Over (now : Timestamptz) (r : BillableRow) : Prop :=
  daysLeft now r < 0 ∧ (r.subscription.status = .active ∨ r.subscription.status = .grace)

instance (now : Timestamptz) (r : BillableRow) : Decidable (EntersGrace now r) :=
  inferInstanceAs (Decidable (_ ∧ _))

instance (now : Timestamptz) (r : BillableRow) : Decidable (Over now r) :=
  inferInstanceAs (Decidable (_ ∧ _))

/-- The run has nothing to do for the subscription. -/
def Idle (now : Timestamptz) (r : BillableRow) : Prop :=
  ¬ Reminded now r ∧ ¬ EntersGrace now r ∧ ¬ Over now r

/-- The status that is due is not stored. -/
def UpdateFails (f : Pattern) (r : BillableRow) : Prop :=
  (EntersGrace f.now r ∧
      f.Fails ⟨r.subscription.id, .set_status .grace r.subscription.id⟩) ∨
    (Over f.now r ∧ f.Fails ⟨r.subscription.id, .set_status .suspended r.subscription.id⟩)

/-- The secret of the customer is not reached. -/
def SwitchFails (f : Pattern) (d : SubscriptionStore) (r : BillableRow) : Prop :=
  ∃ router_id, r.router_id = some router_id ∧
    (f.Fails ⟨r.subscription.id, .select_router router_id⟩ ∨ ∃ router ∈ d.routers,
      router.id = router_id ∧ RouterFails f r.subscription.id router r.phone d)

/-- The subscription ends the run. -/
def Raises (f : Pattern) (d : SubscriptionStore) (r : BillableRow) : Prop :=
  UpdateFails f r ∨ (Over f.now r ∧ SwitchFails f d r)

/-- The status of one subscription is changed. -/
def setStatus (status : SubscriptionStatus) (id : UUID) (d : SubscriptionStore) :
    SubscriptionStore :=
  d.updateSubscriptions (fun s => s.id == id) fun s => { s with status }

/-- The secret of the customer is disabled on the customer's router, if there is one. -/
def cutOff (r : BillableRow) (d : SubscriptionStore) : SubscriptionStore :=
  match d.routers.find? fun router => r.router_id == some router.id with
  | none => d
  | some router => switchOff d (PppSecret.belongs router r.phone)

/-- What the run makes of the store for one subscription. -/
def stepped (now : Timestamptz) (d : SubscriptionStore) (r : BillableRow) : SubscriptionStore :=
  if EntersGrace now r then setStatus .grace r.subscription.id d
  else if Over now r then cutOff r (setStatus .suspended r.subscription.id d)
  else d

open Classical in
/-- What a subscription that ends the run leaves. -/
noncomputable def left (f : Pattern) (d : SubscriptionStore) (r : BillableRow) :
    SubscriptionStore :=
  if UpdateFails f r then d else setStatus .suspended r.subscription.id d

variable {f : Pattern} {d : SubscriptionStore} {r : BillableRow}

theorem sound_fixed : Sound d.fixed ↔ Sound d := by
  constructor
  · intro h
    constructor
    · simpa [SubscriptionStore.fixed, Function.comp_def] using h.ids
    · simpa [SubscriptionStore.fixed, Function.comp_def] using h.packages
    · exact h.users
    · exact h.phones
    · exact h.router_ids
    · exact h.routers
    · simpa [SubscriptionStore.fixed, Function.comp_def] using h.secret_ids
    · simpa [SubscriptionStore.fixed, Function.comp_def] using h.secrets
  · intro h
    constructor
    · simpa [SubscriptionStore.fixed, Function.comp_def] using h.ids
    · simpa [SubscriptionStore.fixed, Function.comp_def] using h.packages
    · exact h.users
    · exact h.phones
    · exact h.router_ids
    · exact h.routers
    · simpa [SubscriptionStore.fixed, Function.comp_def] using h.secret_ids
    · simpa [SubscriptionStore.fixed, Function.comp_def] using h.secrets

theorem routerFails_fixed {caller : Option UUID} {router : RouterLogin} {name : String} :
    RouterFails f caller router name d.fixed ↔ RouterFails f caller router name d := by
  simp only [RouterFails]
  cases f.client caller router with
  | none => exact Iff.rfl
  | some client => simp [SubscriptionStore.fixed, PppSecret.belongs]

theorem raises_fixed : Raises f d.fixed r ↔ Raises f d r := by
  simp only [Raises, SwitchFails, routerFails_fixed]
  exact Iff.rfl

theorem fixed_updateStatus (p : Subscription → Bool) (status : SubscriptionStatus) :
    (d.updateSubscriptions p fun s => { s with status }).fixed = d.fixed := by
  have hrows : (updateRows p (fun s => { s with status }) d.subscriptions).map
      (fun x => { x with status := .active }) =
        d.subscriptions.map fun x => { x with status := .active } := by
    rw [updateRows, List.map_map]
    apply List.map_congr_left
    intro s _
    by_cases hs : p s = true <;> simp [hs]
  simp only [SubscriptionStore.fixed, SubscriptionStore.updateSubscriptions, hrows]

theorem fixed_setStatus (status : SubscriptionStatus) (id : UUID) :
    (setStatus status id d).fixed = d.fixed := fixed_updateStatus _ _

theorem fixed_switch (p : PppSecret → Bool) (disabled : Bool) :
    ({ d with secrets := updateRows p (fun s => { s with disabled }) d.secrets } :
      SubscriptionStore).fixed = d.fixed := by
  have hrows : (updateRows p (fun s => { s with disabled }) d.secrets).map
      (fun s => { s with disabled := false }) =
        d.secrets.map fun s => { s with disabled := false } := by
    rw [updateRows, List.map_map]
    apply List.map_congr_left
    intro s _
    by_cases hs : p s = true <;> simp [hs]
  simp only [SubscriptionStore.fixed, hrows]

theorem fixed_cutOff : (cutOff r d).fixed = d.fixed := by
  rw [cutOff]
  split
  · rfl
  · exact fixed_switch _ true

theorem fixed_stepped (now : Timestamptz) : (stepped now d r).fixed = d.fixed := by
  rw [stepped]
  split
  · exact fixed_setStatus _ _
  split
  · rw [fixed_cutOff, fixed_setStatus]
  · rfl

theorem quiet_cutOff : (cutOff r d).quiet = cutOff r d.quiet := by
  simp only [cutOff, SubscriptionStore.quiet]
  split <;> rfl

theorem quiet_stepped (now : Timestamptz) :
    (stepped now d r).quiet = stepped now d.quiet r := by
  rw [stepped, stepped]
  split
  · rfl
  split
  · exact quiet_cutOff
  · rfl

theorem fixed_quiet : d.quiet.fixed = d.fixed := rfl

/-- The secret of the customer of a subscription is disabled. -/
theorem ends_disable_customer (hd : Sound d) : Ends f (disable_customer r) d (SwitchFails f d r) d
    (cutOff r d) := by
  rw [disable_customer, cutOff]
  cases hrouter : r.router_id with
  | none =>
      have hnone : d.routers.find? (fun router => none == some router.id) = none := by simp
      rw [hnone]
      apply ends_pure
      rintro ⟨id, hid, -⟩
      rw [hrouter] at hid
      cases hid
  | some router_id =>
      cases hfound : d.routers.find? fun router => some router_id == some router.id with
      | none =>
          have hnot : ∀ router ∈ d.routers, router.id ≠ router_id := by
            intro router hmem heq
            have h := List.find?_eq_none.mp hfound router hmem
            exact h (by simp [heq])
          have hnone (v : SubscriptionEnv) :
              fetchrow v.pick (fun router => router.id == router_id) d.routers = none :=
            fetchrow_eq_none.mpr fun router hmem h => hnot router hmem (by simpa using h)
          refine (Ends.exec_bind (a := none) (fun v => ?_) (fun _ => ends_pure not_false)
            fun _ => rfl).congr ?_
          · rw [SubscriptionQuery.eval, hnone v]
            rfl
          · rw [SwitchFails, hrouter]
            constructor
            · rintro (hf | hf)
              · exact ⟨router_id, rfl, .inl hf⟩
              · exact hf.elim
            · rintro ⟨id, hid, hf | ⟨router, hmem, heq, -⟩⟩
              · cases hid
                exact .inl hf
              · cases hid
                exact absurd heq (hnot router hmem)
      | some router =>
          have hmem := List.mem_of_find?_eq_some hfound
          have hid : router.id = router_id := by
            have h := List.find?_some hfound
            exact (Option.some.inj (beq_iff_eq.mp h)).symm
          have hunique : ∀ router' ∈ d.routers, router'.id = router_id → router' = router :=
            fun router' hmem' hid' =>
              List.inj_on_of_nodup_map hd.router_ids hmem' hmem (hid'.trans hid.symm)
          have hrow (v : SubscriptionEnv) :
              fetchrow v.pick (fun router => router.id == router_id) d.routers = some router :=
            fetchrow_unique hmem (by simp [hid]) fun router' hmem' h =>
              hunique router' hmem' (by simpa using h)
          refine (Ends.exec_bind (a := some router) (fun v => ?_)
            (fun _ => ends_disable f r.subscription.id router r.phone hd) fun _ => rfl).congr ?_
          · rw [SubscriptionQuery.eval, hrow v]
            rfl
          · rw [SwitchFails, hrouter]
            constructor
            · rintro (hf | hf)
              · exact ⟨router_id, rfl, .inl hf⟩
              · exact ⟨router_id, rfl, .inr ⟨router, hmem, hid, hf⟩⟩
            · rintro ⟨id, hid', hf | ⟨router', hmem', heq, hf⟩⟩
              · cases hid'
                exact .inl hf
              · cases hid'
                rw [hunique router' hmem' heq] at hf
                exact .inr hf

theorem not_over_of_days (now : Timestamptz) (h : 0 ≤ daysLeft now r) : ¬ Over now r :=
  fun hover => absurd hover.1 (not_lt.mpr h)

/-- What the loop of the billing run does for one subscription. -/
theorem ends_bill (hd : Sound d) : Ends f (bill_subscription f.now r) d (Raises f d r)
    (left f d r) (stepped f.now d r) := by
  have hquiet (h₀ : 0 ≤ daysLeft f.now r) (hgrace : ¬ EntersGrace f.now r) :
      (False ↔ Raises f d r) ∧ stepped f.now d r = d := by
    have hover := not_over_of_days f.now h₀
    constructor
    · simp [Raises, UpdateFails, hgrace, hover]
    · rw [stepped, if_neg hgrace, if_neg hover]
  have hreminded (message : String) (h : daysLeft f.now r = 3 ∨ daysLeft f.now r = 1) :
      Ends f (send_sms r.subscription.id r.phone message >>= fun _ => pure PUnit.unit) d
        (Raises f d r) (left f d r) (stepped f.now d r) := by
    obtain ⟨hraises, hstepped⟩ := hquiet (by omega) fun hg => by have := hg.1; omega
    rw [hstepped]
    exact (ends_send_sms _ _ _ _).congr hraises
  unfold bill_subscription
  dsimp only
  split
  · next h => exact hreminded _ (.inl h.1)
  split
  · next h => exact hreminded _ (.inr h.1)
  split
  · next h =>
      have hgrace : EntersGrace f.now r := h
      have hover := not_over_of_days f.now (r := r) hgrace.1.ge
      have hraises : Raises f d r ↔
          f.Fails ⟨r.subscription.id, .set_status .grace r.subscription.id⟩ ∨ False := by
        simp [Raises, UpdateFails, hgrace, hover]
      rw [stepped, if_pos hgrace]
      refine (Ends.exec_bind (q := .set_status .grace r.subscription.id) (fun v => rfl)
        (fun _ => ends_send_sms _ _ _ _) fun hf => ?_).congr hraises.symm
      rw [left, if_pos (.inl ⟨hgrace, hf⟩)]
  split
  · next hgrace h =>
      have hover : Over f.now r := h
      have hgrace : ¬ EntersGrace f.now r := hgrace
      have hraises : Raises f d r ↔
          f.Fails ⟨r.subscription.id, .set_status .suspended r.subscription.id⟩ ∨
            SwitchFails f (setStatus .suspended r.subscription.id d) r := by
        rw [← raises_fixed, ← fixed_setStatus .suspended r.subscription.id, raises_fixed]
        simp [Raises, UpdateFails, hgrace, hover]
      rw [stepped, if_neg hgrace, if_pos hover]
      have hd' : Sound (setStatus .suspended r.subscription.id d) := by
        rw [← sound_fixed, fixed_setStatus, sound_fixed]
        exact hd
      refine (Ends.exec_bind (q := .set_status .suspended r.subscription.id) (fun v => rfl)
        (fun hf => ?_) fun hf => ?_).congr hraises.symm
      · have hleft : left f d r = setStatus .suspended r.subscription.id d := by
          rw [left, if_neg]
          rintro (⟨h, -⟩ | ⟨-, h⟩)
          · exact hgrace h
          · exact hf h
        rw [hleft]
        exact (ends_disable_customer hd').and_sms _ _
      · rw [left, if_pos (.inr ⟨hover, hf⟩)]
  · next hgrace hover =>
      have hgrace : ¬ EntersGrace f.now r := hgrace
      have hover : ¬ Over f.now r := hover
      rw [stepped, if_neg hgrace, if_neg hover]
      apply ends_pure
      simp [Raises, UpdateFails, hgrace, hover]

end Bill

section Loop

variable {f f' : Pattern} {d d' : SubscriptionStore} {r : BillableRow} {rows : List BillableRow}
  {id other : UUID}

/-- A subscription of the loop ends it, or does not. -/
theorem bill_raises (hd : Sound d) (h : Raises f d r) :
    ∃ e d', Solo.outcome subscriptionMachine f.fate (bill_subscription f.now r) d {} =
      (.error e, d', ({} : SubscriptionLocal)) ∧ d'.quiet = (left f d r).quiet :=
  (ends_bill hd).raises h

theorem bill_succeeds (hd : Sound d) (h : ¬ Raises f d r) :
    ∃ d', Solo.outcome subscriptionMachine f.fate (bill_subscription f.now r) d {} =
      (.ok (), d', ({} : SubscriptionLocal)) ∧ d'.quiet = (stepped f.now d r).quiet :=
  (ends_bill hd).succeeds h

theorem fixed_of_quiet (h : d'.quiet = d.quiet) : d'.fixed = d.fixed := by
  rw [← fixed_quiet, h, fixed_quiet]

theorem Sound.of_fixed (hd : Sound d) (h : d'.fixed = d.fixed) : Sound d' := by
  rw [← sound_fixed, h, sound_fixed]
  exact hd

theorem raises_of_fixed (h : d'.fixed = d.fixed) : Raises f d' r ↔ Raises f d r := by
  rw [← raises_fixed, h, raises_fixed]

theorem fixed_foldl (now : Timestamptz) :
    (rows.foldl (stepped now) d).fixed = d.fixed := by
  induction rows generalizing d with
  | nil => rfl
  | cons r rest ih => rw [List.foldl_cons, ih, fixed_stepped]

theorem quiet_foldl (now : Timestamptz) :
    (rows.foldl (stepped now) d).quiet = rows.foldl (stepped now) d.quiet := by
  induction rows generalizing d with
  | nil => rfl
  | cons r rest ih => rw [List.foldl_cons, ih, quiet_stepped, List.foldl_cons]

/-- A loop in which nothing raises. -/
theorem loop_succeeds (hd : Sound d) (h : ∀ r ∈ rows, ¬ Raises f d r) :
    ∃ d', Solo.outcome subscriptionMachine f.fate (.forEach rows (bill_subscription f.now)) d {} =
      (.ok (), d', ({} : SubscriptionLocal)) ∧
        d'.quiet = (rows.foldl (stepped f.now) d).quiet := by
  induction rows generalizing d with
  | nil => exact ⟨d, rfl, rfl⟩
  | cons r rest ih =>
      obtain ⟨d₁, hx, hd₁⟩ := bill_succeeds hd (h r (List.mem_cons_self ..))
      have hfixed : d₁.fixed = d.fixed := by rw [fixed_of_quiet hd₁, fixed_stepped]
      obtain ⟨d₂, hx', hd₂⟩ := ih (hd.of_fixed hfixed) fun r' hr' =>
        (raises_of_fixed hfixed).not.mpr (h r' (List.mem_cons_of_mem _ hr'))
      refine ⟨d₂, ?_, ?_⟩
      · rw [Solo.outcome_forEach_cons (by rw [hx]), hx, hx']
      · rw [hd₂, quiet_foldl, hd₁, ← quiet_foldl, List.foldl_cons]

/-- The loop names the subscription of its row in every statement. -/
theorem bill_tagged (now : Timestamptz) (r : BillableRow) :
    (bill_subscription now r).Plain fun s => s.subscription = some r.subscription.id := by
  have hsms (message : String) :
      ((send_sms r.subscription.id r.phone message) >>= fun _ => pure PUnit.unit).Plain
        fun s => s.subscription = some r.subscription.id :=
    Prog.Plain.bind (Prog.Plain.tryCatch ((Prog.plain_exec _).mpr rfl) fun _ => trivial)
      fun _ => trivial
  have hdisable : (disable_customer r).Plain
      fun s => s.subscription = some r.subscription.id := by
    unfold disable_customer
    split
    · trivial
    refine Prog.Plain.bind ((Prog.plain_exec _).mpr rfl) fun router_row => ?_
    cases router_row with
    | none => trivial
    | some router_row =>
        refine Prog.Plain.bind ?_ fun client => ?_
        · exact Prog.Plain.bind ((Prog.plain_exec _).mpr rfl) fun _ => trivial
        refine Prog.Plain.bind ((Prog.plain_exec _).mpr rfl) fun secrets => ?_
        cases secrets with
        | nil => trivial
        | cons mikrotik_id rest =>
            rw [switch_first]
            split
            · trivial
            · exact (Prog.plain_exec _).mpr rfl
  unfold bill_subscription
  dsimp only
  split
  · exact hsms _
  split
  · exact hsms _
  split
  · exact Prog.Plain.bind ((Prog.plain_exec _).mpr rfl) fun _ => hsms _
  split
  · exact Prog.Plain.bind ((Prog.plain_exec _).mpr rfl) fun _ =>
      Prog.Plain.bind hdisable fun _ => hsms _
  · trivial

/-- The statements of the run that meets the pattern. -/
def statements (f : Pattern) (p : SubscriptionM Unit) (d : SubscriptionStore) :
    List SubscriptionStmt :=
  Solo.performed subscriptionMachine f.fate p d {}

theorem statements_cons {F : BillableRow → SubscriptionM Unit} {rest : List BillableRow}
    {d₁ : SubscriptionStore} (h : Solo.outcome subscriptionMachine f.fate (F r) d {} =
      (.ok (), d₁, ({} : SubscriptionLocal))) :
    statements f (.forEach (r :: rest) F) d =
      statements f (F r) d ++ statements f (.forEach rest F) d₁ := by
  rw [statements, Solo.performed_forEach_cons (by rw [h]), h]
  rfl

theorem statements_stop {F : BillableRow → SubscriptionM Unit} {rest : List BillableRow} {e : Exn}
    {d₁ : SubscriptionStore} {l : SubscriptionLocal}
    (h : Solo.outcome subscriptionMachine f.fate (F r) d {} = (.error e, d₁, l)) :
    statements f (.forEach (r :: rest) F) d = statements f (F r) d := by
  rw [statements, Solo.performed_forEach_error (by rw [h])]
  rfl

theorem statements_append {F : BillableRow → SubscriptionM Unit} {first rest : List BillableRow}
    {d₁ : SubscriptionStore} (h : Solo.outcome subscriptionMachine f.fate (.forEach first F) d {} =
      (.ok (), d₁, ({} : SubscriptionLocal))) :
    statements f (.forEach (first ++ rest) F) d =
      statements f (.forEach first F) d ++ statements f (.forEach rest F) d₁ := by
  rw [statements, Solo.performed_forEach_append (by rw [h]), h]
  rfl

/-- What is done for one subscription. -/
def about (id : UUID) (stmts : List SubscriptionStmt) : List SubscriptionStmt :=
  stmts.filter fun s => s.subscription == some id

theorem about_bill_ne (h : r.subscription.id ≠ id) :
    about id (statements f (bill_subscription f.now r) d) = [] := by
  apply List.filter_eq_nil_iff.mpr
  intro s hs
  have htag := Solo.mem_performed (bill_tagged f.now r).all hs
  simp [htag, h]

theorem about_bill (f : Pattern) (d : SubscriptionStore) (r : BillableRow) :
    about r.subscription.id (statements f (bill_subscription f.now r) d) =
      statements f (bill_subscription f.now r) d := by
  apply List.filter_eq_self.mpr
  intro s hs
  simp [Solo.mem_performed (bill_tagged f.now r).all hs]

/-- Nothing is done for an idle subscription. -/
theorem bill_idle {now : Timestamptz} (h : Idle now r) : bill_subscription now r = pure () := by
  obtain ⟨hreminded, hgrace, hover⟩ := h
  have h₃ : ¬ ((r.subscription.current_period_end - now) / day = 3 ∧
      r.subscription.auto_renew = true) := fun h => hreminded ⟨.inl h.1, h.2⟩
  have h₁ : ¬ ((r.subscription.current_period_end - now) / day = 1 ∧
      r.subscription.auto_renew = true) := fun h => hreminded ⟨.inr h.1, h.2⟩
  have h₀ : ¬ ((r.subscription.current_period_end - now) / day = 0 ∧
      r.subscription.status = .active) := hgrace
  have hneg : ¬ ((r.subscription.current_period_end - now) / day < 0 ∧
      (r.subscription.status = .active ∨ r.subscription.status = .grace)) := hover
  unfold bill_subscription
  dsimp only
  rw [if_neg h₃, if_neg h₁, if_neg h₀, if_neg hneg]

/-- Something is done for any other. -/
theorem bill_not_idle {now : Timestamptz} (h : ¬ Idle now r) :
    statements f (bill_subscription now r) d ≠ [] := by
  unfold bill_subscription
  dsimp only
  split
  · exact List.cons_ne_nil _ _
  split
  · exact List.cons_ne_nil _ _
  split
  · exact List.cons_ne_nil _ _
  split
  · exact List.cons_ne_nil _ _
  · next h₃ h₁ h₀ hneg =>
      refine absurd ⟨?_, h₀, hneg⟩ h
      rintro ⟨hdays | hdays, hrenew⟩
      · exact h₃ ⟨hdays, hrenew⟩
      · exact h₁ ⟨hdays, hrenew⟩

/-- The messages that were sent do not matter to a statement. -/
theorem direct_quiet (s : SubscriptionStmt) (c : Choice Exn SubscriptionEnv)
    (h : d.quiet = d'.quiet) :
    (subscriptionMachine.direct s c d).1 = (subscriptionMachine.direct s c d').1 ∧
      (subscriptionMachine.direct s c d).2.quiet = (subscriptionMachine.direct s c d').2.quiet := by
  cases c with
  | fail e => exact ⟨rfl, h⟩
  | run v =>
      obtain ⟨caller, q⟩ := s
      obtain ⟨subscriptions, packages, users, routers, secrets, sms⟩ := d
      obtain ⟨subscriptions', packages', users', routers', secrets', sms'⟩ := d'
      simp only [SubscriptionStore.quiet, SubscriptionStore.mk.injEq] at h
      obtain ⟨rfl, rfl, rfl, rfl, rfl, -⟩ := h
      change (SubscriptionStmt.exec ⟨caller, q⟩ v _).1 = (SubscriptionStmt.exec ⟨caller, q⟩ v _).1 ∧
        (SubscriptionStmt.exec ⟨caller, q⟩ v _).2.quiet =
          (SubscriptionStmt.exec ⟨caller, q⟩ v _).2.quiet
      cases q with
      | select_package columns id tenant_id =>
          simp only [SubscriptionStmt.exec, SubscriptionQuery.eval]
          generalize columns.find? (fun c => !packageColumns.contains c) = missing
          cases missing <;> exact ⟨rfl, rfl⟩
      | renew_subscription current_period_end package_id id tenant_id =>
          simp only [SubscriptionStmt.exec, SubscriptionQuery.eval]
          generalize (packages.any fun p => p.id == package_id) = referenced
          cases referenced <;> exact ⟨rfl, rfl⟩
      | insert_subscription tenant_id customer_id package_id current_period_end =>
          simp only [SubscriptionStmt.exec, SubscriptionQuery.eval]
          generalize (subscriptions.all fun s => s.id != v.uuid) = fresh
          generalize (users.any fun u => u.id == customer_id) = customer
          generalize (packages.any fun p => p.id == package_id) = referenced
          cases fresh <;> cases customer <;> cases referenced <;> exact ⟨rfl, rfl⟩
      | post_sms number message =>
          simp only [SubscriptionStmt.exec, SubscriptionQuery.eval]
          cases v.delivered <;> exact ⟨rfl, rfl⟩
      | _ => exact ⟨rfl, rfl⟩

/-- A statement of another subscription meets the same choice. -/
theorem Spared.fate_eq (h : Spared f f' id) {s : SubscriptionStmt} (hs : s.subscription ≠ some id) :
    f'.fate.stmt s = f.fate.stmt s := by
  simp only [Pattern.fate, h.now, h.others s hs]

theorem Spared.raises_iff (h : Spared f f' id) (hne : r.subscription.id ≠ id) :
    Raises f' d r ↔ Raises f d r := by
  have hfate (q : SubscriptionQuery) : f'.fate.stmt ⟨r.subscription.id, q⟩ =
      f.fate.stmt ⟨r.subscription.id, q⟩ := h.fate_eq (by simpa using hne)
  simp only [Raises, UpdateFails, SwitchFails, RouterFails, Pattern.client, Pattern.Fails, hfate,
    h.now]

theorem Spared.not_raises (h : Spared f f' id) (hid : r.subscription.id = id) :
    ¬ Raises f' d r := by
  have hruns (q : SubscriptionQuery) : ¬ f'.Fails ⟨r.subscription.id, q⟩ :=
    h.none_fails _ (by rw [hid])
  have hrouter (router : RouterLogin) :
      ¬ RouterFails f' r.subscription.id router r.phone d := by
    obtain ⟨v, hv⟩ : ∃ v, f'.fate.stmt ⟨r.subscription.id,
        .decrypt_secret router.password_encrypted⟩ = .run v := by
      rcases fails_or f' ⟨r.subscription.id, .decrypt_secret router.password_encrypted⟩ with
        ⟨hf, -⟩ | ⟨-, hv⟩
      · exact absurd hf (hruns _)
      · exact hv
    simp [RouterFails, Pattern.client, hv, hruns]
  simp [Raises, UpdateFails, SwitchFails, hruns, hrouter]

/-- Under both patterns the loop does the same for another subscription. -/
theorem Spared.bill_congr (h : Spared f f' id) (hne : r.subscription.id ≠ id)
    (hd : d.quiet = d'.quiet) :
    (Solo.outcome subscriptionMachine f.fate (bill_subscription f.now r) d {}).1 =
        (Solo.outcome subscriptionMachine f'.fate (bill_subscription f.now r) d' {}).1 ∧
      statements f (bill_subscription f.now r) d =
        statements f' (bill_subscription f.now r) d' := by
  have hanswers : ∀ s : SubscriptionStmt, s.subscription = some r.subscription.id →
      ∀ d d' : SubscriptionStore, d.quiet = d'.quiet →
        (subscriptionMachine.direct s (f.fate.stmt s) d).1 =
            (subscriptionMachine.direct s (f'.fate.stmt s) d').1 ∧
          (subscriptionMachine.direct s (f.fate.stmt s) d).2.quiet =
            (subscriptionMachine.direct s (f'.fate.stmt s) d').2.quiet := by
    intro s hs d d' hd
    rw [h.fate_eq (by rw [hs]; simpa using hne)]
    exact direct_quiet s _ hd
  obtain ⟨hresult, -, htrace⟩ := Solo.outcome_congr (l := ({} : SubscriptionLocal))
    (r := fun d d' : SubscriptionStore => d.quiet = d'.quiet) (bill_tagged f.now r) rfl hd hanswers
  exact ⟨hresult, htrace⟩

theorem about_append (first rest : List SubscriptionStmt) :
    about id (first ++ rest) = about id first ++ about id rest := List.filter_append ..

/-- The first subscription that ends the run leaves nothing to do. -/
def NothingLeft (f : Pattern) (d : SubscriptionStore) (rows : List BillableRow) : Prop :=
  ∀ pre x post, rows = pre ++ x :: post → (∀ p ∈ pre, ¬ Raises f d p) → Raises f d x →
    ∀ y ∈ post, Idle f.now y

/-- Idle subscriptions are passed over. -/
theorem statements_idle (h : ∀ r ∈ rows, Idle f.now r) :
    statements f (.forEach rows (bill_subscription f.now)) d = [] := by
  induction rows with
  | nil => rfl
  | cons r rest ih =>
      have hr := bill_idle (h r (List.mem_cons_self ..))
      have hok : Solo.outcome subscriptionMachine f.fate (bill_subscription f.now r) d {} =
          (.ok (), d, ({} : SubscriptionLocal)) := by
        rw [hr]
        rfl
      have hnone : statements f (bill_subscription f.now r) d = [] := by
        rw [hr]
        rfl
      rw [statements_cons hok, hnone]
      exact ih fun r' hr' => h r' (List.mem_cons_of_mem _ hr')

/-- The loop does the same for the others, when whatever ends it leaves nothing to do. -/
theorem Spared.loop_congr (h : Spared f f' id) (hother : other ≠ id) (hd : Sound d)
    (hquiet : d.quiet = d'.quiet) (hleft : NothingLeft f d rows) :
    about other (statements f (.forEach rows (bill_subscription f.now)) d) =
      about other (statements f' (.forEach rows (bill_subscription f.now)) d') := by
  induction rows generalizing d d' with
  | nil => rfl
  | cons r rest ih =>
      have hd' : Sound d' := hd.of_fixed (fixed_of_quiet hquiet.symm)
      by_cases hraises : Raises f d r
      · obtain ⟨e, d₁, hx, -⟩ := bill_raises hd hraises
        have hidle := hleft [] r rest rfl (by simp) hraises
        rw [statements_stop hx]
        by_cases hr : r.subscription.id = id
        · obtain ⟨d₁', hx', -⟩ := bill_succeeds hd' (h.not_raises (d := d') hr)
          rw [h.now] at hx'
          have hne : r.subscription.id ≠ other := fun heq => hother (heq.symm.trans hr)
          have hrest : statements f' (.forEach rest (bill_subscription f.now)) d₁' = [] := by
            rw [← h.now] at hidle ⊢
            exact statements_idle hidle
          rw [statements_cons hx', hrest, List.append_nil, about_bill_ne hne, ← h.now,
            about_bill_ne hne]
        · obtain ⟨hresult, htrace⟩ := h.bill_congr hr hquiet
          rw [hx] at hresult
          obtain ⟨r', d₁', l', hx'⟩ : ∃ r' d₁' l', Solo.outcome subscriptionMachine f'.fate
              (bill_subscription f.now r) d' {} = (r', d₁', l') := ⟨_, _, _, rfl⟩
          rw [hx'] at hresult
          cases hresult
          rw [htrace, statements_stop hx']
      · obtain ⟨d₁, hx, hd₁⟩ := bill_succeeds hd hraises
        have hraises' : ¬ Raises f' d' r := by
          by_cases hr : r.subscription.id = id
          · exact h.not_raises hr
          · rw [h.raises_iff hr, raises_of_fixed (fixed_of_quiet hquiet.symm)]
            exact hraises
        obtain ⟨d₁', hx', hd₁'⟩ := bill_succeeds hd' hraises'
        rw [h.now] at hx' hd₁'
        have hfixed : d₁.fixed = d.fixed := by rw [fixed_of_quiet hd₁, fixed_stepped]
        have hquiet₁ : d₁.quiet = d₁'.quiet := by
          rw [hd₁, hd₁', quiet_stepped, quiet_stepped, hquiet]
        have hleft₁ : NothingLeft f d₁ rest := by
          intro pre x post hrows hpre hx
          refine hleft (r :: pre) x post (by rw [hrows]; rfl) ?_ ((raises_of_fixed hfixed).mp hx)
          intro p hp
          rcases List.mem_cons.mp hp with rfl | hp
          · exact hraises
          · exact (raises_of_fixed hfixed).not.mp (hpre p hp)
        have hrest := ih (hd.of_fixed hfixed) hquiet₁ hleft₁
        have hhead : about other (statements f (bill_subscription f.now r) d) =
            about other (statements f' (bill_subscription f.now r) d') := by
          by_cases hr : r.subscription.id = id
          · have hne : r.subscription.id ≠ other := fun heq => hother (heq.symm.trans hr)
            rw [about_bill_ne hne, ← h.now, about_bill_ne hne]
          · rw [(h.bill_congr hr hquiet).2]
        rw [statements_cons hx, statements_cons hx', about_append, about_append, hhead, hrest]

end Loop

end Subscriptions

end FrixelConnect
