import FrixelConnect.Specs.Credentials
import FrixelConnect.Specs.Outcome

/-!
# Credentials without a voucher

The statements of a call take effect one by one, and the voucher comes last. A call
that stops at its voucher leaves credentials that no voucher has. The table is
backed by the vouchers in every run in which a call that has written to
`radcheck` gets as far as its voucher.
-/

namespace FrixelConnect

namespace RadiusBacking

open Interleaving Contract Alone

/-- A call of `generate_voucher` is in progress. -/
def InCall (l : RunLocal) : Prop :=
  ∃ payment_id tenant_id, .generate_voucher payment_id tenant_id ∈ l.frames

/-- Every row of `radcheck` belongs to a voucher. -/
def Backed (d : Store) : Prop := ∀ r ∈ d.radcheck, Held d r.username r.tenant_id

/-- The statement goes through. -/
def goes (s : Stmt) (c : Choice Exn Env) (d : Store) : Bool :=
  match c with
  | .run v => (s.eval v d).isOk
  | .fail _ => false

/-- The statement completes credentials that no voucher has yet. -/
def completes (d : Store) : Stmt → Bool
  | .insert_radius t row => t = .radreply ∧ ¬ Held d row.username row.tenant_id
  | .insert_voucher _ _ _ code tenant_id _ => ¬ Held d code tenant_id
  | _ => false

/-- A callback, a run of the poller or of the reconciliation, a job, or a direct call. -/
def Spawn.isProvisioning (w : Spawn) : Bool :=
  match w with
  | .generate_voucher .. => true
  | w => w.isSettling

/-- These processes in any interleaving, with any edit of other tables. -/
def provisioning : RunRules where
  spawn w _ := Spawn.isProvisioning w
  edit d d' := ∀ T ∈ [Table.radcheck, .vouchers], d'.Same d T

/-- Runs in which credentials are completed. -/
def rules : RunRules :=
  { provisioning with stmt := fun s c d => completes d s = true → goes s c d = true }

/-- The ghost value is the name whose credentials are written but have no voucher yet. -/
def contract : Contract (Option (String × UUID)) Unit where
  rules := rules
  own _ l g := g.isSome → InCall l
  shared d gs := ∀ r ∈ d.radcheck, Held d r.username r.tenant_id ∨
    some (r.username, r.tenant_id) ∈ gs

/-- The tables that the contract does not look at. -/
def freeTables : List Table :=
  [.tenants, .users, .packages, .payments, .platform_payments, .radreply, .wallet_transactions,
    .last_sequence_id, .queue, .pushes]

theorem ignores : contract.Ignores freeTables where
  base _ _ := trivial
  own _ h := h
  shared hs h r hr := by
    have hcheck : _ = _ := hs .radcheck (by simp [freeTables])
    have hvouchers : _ = _ := hs .vouchers (by simp [freeTables])
    rw [hcheck] at hr
    rw [Held, hvouchers]
    exact h r hr
  guar _ := trivial

variable {d d' : Store} {l l' : RunLocal} {g g' : Option (String × UUID)} {ks : List UUID}
  {username code : String} {tenant_id : UUID}

/-- A step after which every row of the process has its voucher. -/
theorem moves_none (hcheck : d'.radcheck ⊆ d.radcheck)
    (hheld : ∀ code tenant_id, Held d code tenant_id → Held d' code tenant_id)
    (hown : ∀ code tenant_id, g = some (code, tenant_id) → Held d' code tenant_id) :
    contract.Moves ks d d' l g l' none := by
  refine .intro trivial nofun (fun _ _ h _ => h) nofun (fun gs h r hr => ?_) trivial
  rcases h r (hcheck hr) with h | h
  · exact .inl (hheld _ _ h)
  · rcases Multiset.mem_cons.mp h with h | h
    · exact .inl (hown _ _ h.symm)
    · exact .inr (Multiset.mem_cons_of_mem h)

theorem wp_delete (t : RadiusTable) (hl : l.txn = .none) : contract.wp
    (fun _ l' g' => l' = l ∧ g' = none) (exec (.delete_radius t username tenant_id)) l none := by
  refine wp_exec (.inr hl) (fun d e _ _ _ => ⟨none, .stay trivial nofun, rfl, rfl⟩) ?_
  intro d v _ d' _ _ _ he
  cases he
  refine ⟨none, moves_none ?_ (fun _ _ h => ?_) nofun, rfl, rfl⟩
  · cases t
    · exact List.filter_subset_self _
    · exact List.Subset.refl _
  · rwa [Held, Store.vouchers_setRadius]

theorem wp_insert_check (row : RadiusRow) (hl : l.txn = .none) (hcall : InCall l) : contract.wp
    (fun r l' g' => l' = l ∧ g' = if r.isOk then some (row.username, row.tenant_id) else none)
    (exec (.insert_radius .radcheck row)) l none := by
  refine wp_exec (.inr hl) (fun d e _ _ _ => ⟨none, .stay trivial nofun, rfl, rfl⟩) ?_
  intro d v _ d' _ _ _ he
  obtain rfl := Stmt.eval_insert_radius he
  refine ⟨some (row.username, row.tenant_id), .intro trivial (fun _ => hcall) (fun _ _ h _ => h)
    nofun (fun gs h r hr => ?_) trivial, rfl, rfl⟩
  rcases List.mem_append.mp hr with hr | hr
  · refine (h r hr).imp (fun h => h) fun h => ?_
    rcases Multiset.mem_cons.mp h with h | h
    · cases h
    · exact Multiset.mem_cons_of_mem h
  · rw [List.mem_singleton.mp hr]
    exact .inr (Multiset.mem_cons_self _ _)

/-- A statement that does not go through completes nothing. -/
theorem not_completes {s : Stmt} {e : Exn}
    (h : rules.stmt s (.fail e) d ∨ ∃ v, rules.stmt s (.run v) d ∧ s.eval v d = .error e) :
    completes d s = false := by
  by_contra hc
  have hc : completes d s = true := by simpa using hc
  rcases h with h | ⟨v, h, he⟩
  · cases h hc
  · have hgoes := h hc
    rw [goes, he] at hgoes
    cases hgoes

theorem wp_insert_reply (row : RadiusRow) (hl : l.txn = .none) (hcall : InCall l) : contract.wp
    (fun r l' g' => l' = l ∧ g' = if r.isOk then some (row.username, row.tenant_id) else none)
    (exec (.insert_radius .radreply row)) l (some (row.username, row.tenant_id)) := by
  refine wp_exec (.inr hl) (fun d e _ _ h => ?_) ?_
  · have hheld : Held d row.username row.tenant_id := by
      simpa [completes] using not_completes h
    refine ⟨none, moves_none (List.Subset.refl _) (fun _ _ h => h) ?_, rfl, rfl⟩
    rintro _ _ ⟨⟩
    exact hheld
  · intro d v _ d' _ _ _ he
    exact ⟨_, ignores.moves (fun T hT => Stmt.eval_same (fun hw => hT (by cases hw; decide)) he)
      trivial fun _ => hcall, rfl, rfl⟩

theorem wp_provision (hl : l.txn = .none) (hcall : InCall l) {password : String}
    {speed_mbps duration_minutes : ℤ} {data_quota_mb : Option ℤ} : contract.wp
    (fun r l' g' => l' = l ∧ g' = if r.isOk then some (code, tenant_id) else none)
    (_provision_radius_credentials code password speed_mbps duration_minutes tenant_id
      data_quota_mb) l none := by
  refine wp_then (wp_delete .radcheck hl) (fun _ _ _ h => h) ?_
  rintro _ l g ⟨rfl, rfl⟩
  refine wp_then (wp_delete .radreply hl) (fun _ _ _ h => h) ?_
  rintro _ l g ⟨rfl, rfl⟩
  refine wp_then (wp_insert_check _ hl hcall) (fun _ _ _ h => h) ?_
  rintro _ l g ⟨rfl, rfl⟩
  have hreply (attr op value : String) :=
    wp_insert_reply { username := code, attr, op, value, tenant_id } hl hcall
  refine wp_then (hreply _ _ _) (fun _ _ _ h => h) ?_
  rintro _ l g ⟨rfl, rfl⟩
  refine wp_then (hreply _ _ _) (fun _ _ _ h => h) ?_
  rintro _ l g ⟨rfl, rfl⟩
  cases data_quota_mb with
  | none => exact ⟨rfl, rfl⟩
  | some quota =>
      dsimp only
      split
      · exact hreply _ _ _
      · exact ⟨rfl, rfl⟩

theorem wp_insert_voucher (hl : l.txn = .none) {payment_id customer_id package_id : UUID}
    {router_id : Option UUID} : contract.wp (fun _ l' g' => l' = l ∧ g' = none)
    (exec (.insert_voucher payment_id customer_id package_id code tenant_id router_id)) l
    (some (code, tenant_id)) := by
  refine wp_exec (.inr hl) (fun d e _ _ h => ?_) ?_
  · have hheld : Held d code tenant_id := by
      simpa [completes] using not_completes h
    refine ⟨none, moves_none (List.Subset.refl _) (fun _ _ h => h) ?_, rfl, rfl⟩
    rintro _ _ ⟨⟩
    exact hheld
  · intro d v _ d' _ _ _ he
    obtain ⟨w, rfl, -, -, -, hcode, htenant, -⟩ := Stmt.eval_insert_voucher he
    refine ⟨none, moves_none (List.Subset.refl _) ?_ ?_, rfl, rfl⟩
    · rintro _ _ ⟨w, hw, h⟩
      exact ⟨w, List.mem_append_left _ hw, h⟩
    · rintro _ _ ⟨⟩
      exact ⟨w, List.mem_append_right _ (List.mem_singleton_self _), hcode, htenant⟩

theorem wp_generate_voucher {payment_id : UUID} : contract.wp
    (fun _ l' g' => l'.txn = .none ∧ g' = none) (generate_voucher payment_id tenant_id) {} none := by
  refine wp_inFrame (fun d _ _ => .stay trivial nofun) (wp_mono (B := fun _ l' g' =>
    l'.txn = .none ∧ g' = none) ?_ fun r l g h => ⟨none, fun d _ _ => ?_, h.1, rfl⟩)
  · have hcall : InCall { frames := [.generate_voucher payment_id tenant_id] } :=
      ⟨payment_id, tenant_id, List.mem_singleton_self _⟩
    refine wp_then (wp_reads (plain_read rfl) rfl) (fun _ _ _ h => ⟨h.1 ▸ rfl, h.2⟩) ?_
    rintro row l g ⟨rfl, rfl⟩
    cases row with
    | none => exact ⟨rfl, rfl⟩
    | some row =>
        refine wp_then (wp_reads (plain_read rfl) rfl) (fun _ _ _ h => ⟨h.1 ▸ rfl, h.2⟩) ?_
        rintro user_row l g ⟨rfl, rfl⟩
        refine wp_then (wp_reads (draw_code_plain _) rfl) (fun _ _ _ h => ⟨h.1 ▸ rfl, h.2⟩) ?_
        rintro code l g ⟨rfl, rfl⟩
        refine wp_then (wp_provision rfl hcall) (fun _ _ _ h => ⟨h.1 ▸ rfl, h.2⟩) ?_
        rintro _ l g ⟨rfl, rfl⟩
        refine wp_then (wp_insert_voucher rfl) (fun _ _ _ h => ⟨h.1 ▸ rfl, h.2⟩) ?_
        rintro _ l g ⟨rfl, rfl⟩
        refine wp_then (wp_plain (ignores.subset (by simp [freeTables]))
          (welcome_guest_plain _ _ _ _ (List.mem_singleton_self _)) rfl)
          (fun _ _ _ h => ⟨h.1 ▸ rfl, h.2⟩) ?_
        rintro _ l g ⟨rfl, rfl⟩
        exact ⟨rfl, rfl⟩
  · exact moves_none (List.Subset.refl _) (fun _ _ h => h) (by simp [h.2])

theorem wp_generate_voucher_task (job : Job) : contract.wp
    (fun _ l' g' => l'.txn = .none ∧ g' = none) (generate_voucher_task job) {} none := by
  refine wp_then (wp_reads (plain_read rfl) rfl) (fun _ _ _ h => ⟨h.1 ▸ rfl, h.2⟩) ?_
  rintro payment l g ⟨rfl, rfl⟩
  cases payment with
  | none => exact ⟨rfl, rfl⟩
  | some payment =>
      refine wp_catch (wp_mono (B := fun _ l' g' => l'.txn = .none ∧ g' = none) ?_ ?_)
      · refine wp_then wp_generate_voucher (fun _ _ _ h => h) ?_
        rintro code l g ⟨hl, rfl⟩
        refine wp_then (wp_reads ((plain_read rfl).tryCatch fun _ => trivial) hl)
          (fun _ _ _ h => ⟨h.1 ▸ hl, h.2⟩) ?_
        rintro _ l g ⟨rfl, rfl⟩
        exact ⟨hl, rfl⟩
      · rintro (e | code) l g h
        · dsimp only
          split
          · exact h
          · exact h
        · exact h

theorem wp_run_job (job : Job) : contract.wp (fun _ _ _ => True) (run_job job) {} none := by
  refine wp_catch (wp_mono (wp_generate_voucher_task job) ?_)
  rintro (e | code) l g ⟨hl, rfl⟩
  · cases e with
    | retry delay =>
        exact wp_then (wp_plain ignores (plain_write rfl (by simp [freeTables])) hl)
          (fun _ _ _ _ => trivial) fun _ _ _ _ => trivial
    | _ => trivial
  · trivial

/-- A process that writes neither `radcheck` nor vouchers. -/
theorem wp_aside {α : Type} {p : M α} (hp : p.All (Within freeTables)) :
    contract.wp (fun _ _ _ => True) p {} none :=
  wp_ignored ignores hp (fun _ _ _ _ => nofun) rfl

theorem serves : contract.Serves := by
  intro w d d' p _ hrule hs
  have hstarts (h : ∀ T, T ∉ freeTables → d'.Same d T) : contract.Starts d d' none :=
    ⟨trivial, nofun, rfl, fun _ _ h => h, fun gs hg r hr =>
      (ignores.shared h hg r hr).imp_right Multiset.mem_cons_of_mem, trivial⟩
  have hsettle (s : Stmt) (h : Settles s) : Within freeTables s :=
    within_mono h.1 (by decide)
  have hextend (id : UUID) : Within freeTables (.extend_tenant id) := by
    intro T hT
    cases hT
    simp [freeTables]
  cases w with
  | daraja_webhook body =>
      cases hs
      exact ⟨none, hstarts fun T _ => .refl _ _,
        wp_aside (discard_all (process_daraja_webhook_all body hsettle hextend))⟩
  | poll =>
      cases hs
      exact ⟨none, hstarts fun T _ => .refl _ _,
        wp_aside (poll_pending_daraja_payments_cron_all hsettle hextend)⟩
  | reconcile =>
      cases hs
      exact ⟨none, hstarts fun T _ => .refl _ _, wp_aside
        (reconcile_payments_cron_plain (by simp [freeTables])).all⟩
  | job position keep =>
      obtain ⟨job, hjob, hstart⟩ := Option.map_eq_some_iff.mp hs
      cases hstart
      refine ⟨none, hstarts fun T hT => ?_, wp_then (wp_run_job job) (fun _ _ _ _ => trivial)
        fun _ _ _ _ => trivial⟩
      cases keep with
      | true => exact .refl _ _
      | false => cases T <;> first | rfl | simp [freeTables] at hT
  | generate_voucher payment_id tenant_id =>
      cases hs
      exact ⟨none, hstarts fun T _ => .refl _ _, wp_then wp_generate_voucher
        (fun _ _ _ _ => trivial) fun _ _ _ _ => trivial⟩
  | _ => cases hrule

/-- While no call is in progress, every row belongs to a voucher. -/
theorem backed_of_reaches (hd : Backed d) {s : RunState}
    (hs : Reaches system rules (FrixelConnect.idle d) s) (hidle : ∀ p ∈ s.procs, ¬ InCall p.loc) :
    Backed s.store := by
  have hedit : contract.Tolerates := by
    intro d d' ls hi he
    have hcheck : d'.radcheck = d.radcheck := he .radcheck (by simp)
    have hvouchers : d'.vouchers = d.vouchers := he .vouchers (by simp)
    refine ⟨⟨trivial, hi.own, hi.apart, fun r hr => ?_⟩, trivial⟩
    rw [Held, hvouchers]
    exact hi.shared r (hcheck ▸ hr)
  have h₀ : contract.Holds (FrixelConnect.idle d) := .start trivial fun r hr => .inl (hd r hr)
  obtain ⟨ann, hann, -, hown, hshared⟩ := (h₀.reaches serves hedit hs).1.facts
  intro r hr
  refine (hshared r hr).resolve_right fun hmem => ?_
  obtain ⟨a, ha, hg⟩ := List.mem_map.mp (Multiset.mem_coe.mp hmem)
  exact hidle a.1 (hann ▸ List.mem_map_of_mem ha) (hown a ha (by simp [hg]))

/-- However a run of the task ends, it leaves the credentials and the vouchers as they were. -/
def Undisturbed (d : Store) (job : Job) : Prop :=
  ∀ y, Solo.Reaches machine anything ⟨(), d, { prog := generate_voucher_task job }⟩ y →
    ∀ r, y.proc.prog = .ret r → y.store.radcheck = d.radcheck ∧ y.store.radreply = d.radreply ∧
      y.store.vouchers = d.vouchers

/-- A task that does not find its payment with the package writes nothing. -/
theorem undisturbed_of_not_found {job : Job} (h : ¬ Found d job.payment_id job.tenant_id) :
    Undisturbed d job := by
  have hrun : Solo.Always machine anything (fun _ _ => True) (fun _ _ d' _ => d' = d)
      (generate_voucher_task job) () d {} := by
    refine Solo.always_then (T := fun _ _ d' l' => d' = d ∧ l'.txn = .none)
      (always_stmt rfl (fun _ _ _ => rfl) trivial (fun _ => ⟨rfl, rfl⟩)
        fun v a d' he => ⟨trivial, Stmt.eval_read rfl he, rfl⟩) (fun _ _ _ _ _ h => h.1) ?_
    rintro payment j d l - ⟨rfl, hl⟩
    cases payment with
    | none => exact ⟨trivial, rfl⟩
    | some payment =>
        refine Solo.always_handle.mpr (Solo.Always.mono (Q := fun r _ d' _ => r.isOk = false ∧ d' = d)
          ?_ ?_)
        · refine Solo.always_then (T := fun r _ d' _ => r.isOk = false ∧ d' = d)
            (Solo.always_inFrame.mpr (Solo.always_then (T := fun r _ d' _ =>
              (∀ a, r = .ok a → a = none) ∧ d' = d) (always_stmt hl (fun _ _ _ => rfl) trivial ?_ ?_)
                ?_ ?_)) (fun _ _ _ _ _ h => h) ?_
          · exact fun e => ⟨fun _ h => (by cases h), rfl⟩
          · intro v a d' he
            obtain rfl := Stmt.eval_read rfl he
            refine ⟨trivial, fun row hrow => ?_, rfl⟩
            cases hrow
            cases a with
            | none => rfl
            | some row =>
                obtain ⟨hp, hid, htenant, hpkg, hpackage, hpkgtenant⟩ :=
                  Stmt.eval_select_payment_package he
                exact absurd ⟨row.1, hp, hid, htenant, row.2, hpkg, hpackage, hpkgtenant⟩ h
          · exact fun _ _ _ _ _ h => ⟨rfl, h.2⟩
          · rintro row j d' l - ⟨hrow, rfl⟩
            obtain rfl := hrow row rfl
            exact ⟨trivial, rfl, rfl⟩
          · rintro code j d' l - ⟨⟨⟩, -⟩
        · rintro (e | code) j d' l - ⟨hr, rfl⟩
          · dsimp only
            split <;> exact ⟨trivial, rfl⟩
          · cases hr
  intro y hy r hr
  rw [(Solo.always_iff.mp hrun y hy).2 r hr]
  exact ⟨rfl, rfl, rfl⟩

/-- A code can be drawn, whether or not it is taken. -/
theorem run_draw_code {I : Unit → Store → Prop}
    {Q : Except Exn String → Unit → Store → RunLocal → Prop}
    (h : Solo.Always machine anything I Q (draw_code tenant_id) () d l) (hl : l.txn = .none) :
    ∃ code, Q (.ok code) () d l := by
  have h := Alone.run (v := {}) h hl rfl rfl
  have h := Alone.run (v := {}) h hl rfl rfl
  split at h
  · exact ⟨_, Alone.last (v := {}) h hl rfl rfl⟩
  · exact ⟨_, h.2⟩

/-- A task that finds its payment can stop behind a statement that has changed the table. -/
theorem not_undisturbed_of_found (hd : ∀ p ∈ d.payments, d.hasTenant p.tenant_id) {job : Job}
    (h : Found d job.payment_id job.tenant_id) : ¬ Undisturbed d job := by
  intro hsame
  have hlive : d.hasTenant job.tenant_id := by
    obtain ⟨p, hp, -, htenant, -⟩ := h
    exact htenant ▸ hd p hp
  obtain ⟨payment, hpayment⟩ := eval_payment_of_found h {}
  obtain ⟨p, pkg, hrow⟩ := eval_of_found h {}
  have hrun : Solo.Always machine anything (fun _ _ => True)
      (fun _ _ d' _ => d'.radcheck = d.radcheck) (generate_voucher_task job) () d {} :=
    Solo.always_iff.mpr fun y hy => ⟨trivial, fun r hr => (hsame y hy r hr).1⟩
  have hthrow {b : Prop} [Decidable b] {e e' : Exn} {d' : Store} {l : RunLocal}
      (h : Solo.Always machine anything (fun _ _ => True) (fun _ _ d' _ => d'.radcheck = d.radcheck)
        (if b then throw e else throw e' : M (Option String)) () d' l) :
      d'.radcheck = d.radcheck := by
    split at h <;> exact h.2
  have hrun := Alone.run hrun rfl rfl hpayment
  have hrun := Solo.always_inFrame.mp (Solo.always_bind.mp (Solo.always_handle.mp hrun))
  have hrun := Alone.run hrun rfl rfl hrow
  have hrun := Alone.run (v := {}) hrun rfl rfl rfl
  obtain ⟨code, hrun⟩ := run_draw_code (Solo.always_bind.mp hrun) rfl
  have hdeleted := Alone.run (v := {}) (Solo.always_bind.mp hrun) rfl rfl rfl
  -- Stopping here is enough when the code had rows; otherwise the first INSERT adds one.
  have hnone := hthrow (Alone.fail (e := .database "") hdeleted rfl rfl).2.2
  have hinserted := Alone.run (Alone.run (v := {}) hdeleted rfl rfl rfl) rfl rfl
    (eval_insert_radius_of _ {} (by exact hlive))
  have hone := hthrow (Alone.fail (e := .database "") hinserted rfl rfl).2.2
  change d.radcheck.filter _ = d.radcheck at hnone
  change d.radcheck.filter _ ++ [_] = d.radcheck at hone
  rw [hnone] at hone
  simpa using congrArg List.length hone

/-- While no call is in progress every row of `radcheck` belongs to a voucher, in runs in which
credentials are completed; and a task for a payment that has a voucher leaves everything as it was
exactly when it does not find the payment with its package. -/
theorem credentials_backed (hd : Backed d) :
    (∀ s : RunState, Reaches system rules (FrixelConnect.idle d) s →
      (∀ p ∈ s.procs, ¬ InCall p.loc) → Backed s.store) ∧
    ∀ (d : Store) (job : Job), (∀ p ∈ d.payments, d.hasTenant p.tenant_id) →
      (∃ w ∈ d.vouchers, w.payment_id = job.payment_id) →
      (Undisturbed d job ↔ ¬ Found d job.payment_id job.tenant_id) :=
  ⟨fun _ hs hidle => backed_of_reaches hd hs hidle, fun _ _ hd _ =>
    ⟨fun hsame h => not_undisturbed_of_found hd h hsame, undisturbed_of_not_found⟩⟩

section Decidable

variable (s : Stmt) (c : Choice Exn Env) (w : Spawn) (d d' : Store)

instance : Decidable (rules.stmt s c d) :=
  inferInstanceAs (Decidable (completes d s = true → goes s c d = true))

instance : Decidable (rules.spawn w d) :=
  inferInstanceAs (Decidable (Spawn.isProvisioning w = true))

instance : Decidable (rules.edit d d') :=
  inferInstanceAs (Decidable (∀ T ∈ [Table.radcheck, .vouchers], d'.Same d T))

instance : Decidable (provisioning.stmt s c d) := .isTrue trivial

instance : Decidable (provisioning.spawn w d) :=
  inferInstanceAs (Decidable (Spawn.isProvisioning w = true))

instance : Decidable (provisioning.edit d d') :=
  inferInstanceAs (Decidable (∀ T ∈ [Table.radcheck, .vouchers], d'.Same d T))

end Decidable

/-- No process is inside `generate_voucher`. -/
def quiet (s : RunState) : Bool := s.procs.all fun p => p.loc.frames.isEmpty

theorem not_inCall_of_quiet {s : RunState} (h : quiet s = true) : ∀ p ∈ s.procs, ¬ InCall p.loc := by
  intro p hp ⟨payment_id, tenant_id, hmem⟩
  have hnil := List.isEmpty_iff.mp (List.all_eq_true.mp h p hp)
  rw [hnil] at hmem
  cases hmem

/-- The shop after the sale of the voucher. -/
def served : Store :=
  { shop with
    vouchers := [{ id := 12, payment_id := 1, customer_id := 2, package_id := 3
                   code := "BBBBBBBBBB", status := .active, created_at := 0, tenant_id := 1
                   router_id := none }] }

/-- A call that makes its voucher; and a second job for a payment of another tenant. -/
theorem credentials_backed_after_call :
    (∃ s : RunState, s.store.radcheck.map (·.username) = ["AAAAAAAAAA"] ∧ Backed s.store) ∧
      Undisturbed served { payment_id := 1, tenant_id := 2 } := by
  constructor
  · obtain ⟨s, hs, hv⟩ := Reaches.of_moves_state (Y := system) (ρ := rules)
      (FrixelConnect.idle shop) (.spawn (.generate_voucher 1 1) :: stepsOf 12 0)
      (fun s => (s.store.radcheck.map (·.username), quiet s)) (["AAAAAAAAAA"], true)
      (by decide +kernel) rfl
    obtain ⟨hrows, hquiet⟩ := Prod.mk.inj hv
    exact ⟨s, hrows, (credentials_backed (d := shop) nofun).1 s hs (not_inCall_of_quiet hquiet)⟩
  · exact ((credentials_backed (d := shop) nofun).2 served { payment_id := 1, tenant_id := 2 }
      (by decide) (by decide)).mpr (by decide)

/-- The INSERT of the voucher fails. -/
theorem not_credentials_backed : ¬ ∀ d : Store, Backed d →
    (∀ s : RunState, Reaches system provisioning (FrixelConnect.idle d) s →
      (∀ p ∈ s.procs, ¬ InCall p.loc) → Backed s.store) ∧
    ∀ (d : Store) (job : Job), (∃ w ∈ d.vouchers, w.payment_id = job.payment_id) →
      Undisturbed d job := by
  intro h
  obtain ⟨s, hs, hv⟩ := Reaches.of_moves_state (Y := system) (ρ := provisioning)
    (FrixelConnect.idle shop) (.spawn (.generate_voucher 1 1) :: stepsOf 10 0 ++
      [.step 0 (.fail (.database "connection lost")), stepOf 0 {}])
    (fun s => (s.store.radcheck.map (·.username), s.store.vouchers, quiet s))
    (["AAAAAAAAAA"], [], true) (by decide +kernel) rfl
  obtain ⟨hrows, hvouchers, hquiet⟩ := Prod.mk.inj hv |>.imp_right Prod.mk.inj
  obtain ⟨r, hr, -⟩ := List.mem_map.mp (hrows ▸ List.mem_singleton_self "AAAAAAAAAA")
  obtain ⟨w, hw, -⟩ := (h shop nofun).1 s hs (not_inCall_of_quiet hquiet) r hr
  rw [hvouchers] at hw
  cases hw

end RadiusBacking

end FrixelConnect
