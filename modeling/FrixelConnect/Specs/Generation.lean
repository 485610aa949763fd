import FrixelConnect.Specs.Footprint

/-!
# Processes around the generation of vouchers

Most processes write neither vouchers nor credentials, and of the accounts only those of new
guests. A contract that such statements keep is kept by every process if `generate_voucher` and
the reseller's sale keep it.
-/

namespace FrixelConnect

open Decimals Python Interleaving Contract

/-- The tables that the generation of a voucher writes. -/
def generationTables : List Table := [.users, .vouchers, .radcheck, .radreply]

/-- A statement that belongs to no generation of a voucher. -/
inductive Stmt.Outside : Stmt → Prop
  | tables {s : Stmt} (h : ∀ T, s.writes = some T → T ∉ generationTables) : s.Outside
  | guest {email phone hashed_password : String} {tenant_id : UUID} :
      (Stmt.insert_guest email phone hashed_password tenant_id).Outside

namespace Stmt.Outside

theorem within {Ts : List Table} {s : Stmt} (hs : Within Ts s)
    (h : ∀ T ∈ Ts, T ∉ generationTables) : s.Outside :=
  .tables fun T hT => h T (hs T hT)

theorem read {s : Stmt} (h : s.writes = none) : s.Outside :=
  .tables fun T hT => by rw [h] at hT; cases hT

theorem write {s : Stmt} {T : Table} (h : s.writes = some T) (hT : T ∉ generationTables) :
    s.Outside := .tables fun T' hT' => by
  rw [h] at hT'
  cases hT'
  exact hT

end Stmt.Outside

/-- The look-up or creation of a customer. -/
theorem guest_customer_outside (tenant_id : UUID) (phone : String) :
    (get_or_create_guest_customer tenant_id phone).Plain Stmt.Outside := by
  have hread {s : Stmt} (hs : s.writes = none) : (exec s).Plain Stmt.Outside :=
    (Prog.plain_exec s).mpr (.read hs)
  refine (hread rfl).bind fun user => ?_
  cases user with
  | some user => trivial
  | none =>
      exact (hread rfl).bind fun _ => (hread rfl).bind fun _ => (hread rfl).bind fun _ =>
        ((Prog.plain_exec _).mpr .guest).bind fun _ => trivial

/-- A pending payment is inserted and pushed. -/
theorem push_outside {t : PaymentTable} {s : Stmt} {id : s.Res → UUID} {tenant_id : Option UUID}
    {push : s.Res → M Json} {message : String} (hs : s.writes = some t.table)
    (hpush : ∀ a, (push a).All Stmt.Outside) :
    (exec s >>= fun a => push_block t (id a) tenant_id (push a) message).All Stmt.Outside := by
  have ht : t.table ∉ generationTables := by cases t <;> decide
  refine Prog.All.bind ((Prog.all_exec _).mpr (.write hs ht)) fun a => ?_
  exact push_block_all (hpush a) fun s h _ => .write h ht

theorem stk_push_outside (payment_id : Option UUID) (phone : String) (amount : ℤ)
    (account_reference description : String) :
    (stk_push payment_id phone amount account_reference description).All Stmt.Outside := by
  have hp : (stk_push payment_id phone amount account_reference description).Plain
      (Within [.pushes]) := stk_push_plain _ _ _ _ _ (by simp)
  exact hp.all.mono fun s hs => .within hs (by decide)

/-- The processes that generate no voucher. -/
theorem Spawn.outside_all {w : Spawn} {d d' : Store} {p : M Unit}
    (hw : ∀ position keep, w ≠ .job position keep)
    (hv : ∀ payment_id tenant_id, w ≠ .generate_voucher payment_id tenant_id)
    (ht : ∀ data, w ≠ .free_trial data)
    (hr : ∀ data reseller_id tenant_id, w ≠ .reseller_voucher data reseller_id tenant_id)
    (hs : start w d = some (d', p)) : d' = d ∧ p.All Stmt.Outside := by
  have hreads (s : Stmt) (h : Within [] s) : s.Outside := .within h (by simp)
  have hsettle (s : Stmt) (h : Settles s) : s.Outside := .within h.1 (by decide)
  have hinserts {type : TransactionType} : Enters Stmt.Outside type :=
    fun _ _ _ _ _ _ => .write (T := .wallet_transactions) rfl (by decide)
  have hseq : Stmt.next_sequence_id.Outside := .write (T := .last_sequence_id) rfl (by decide)
  have hextend (id : UUID) : (Stmt.extend_tenant id).Outside :=
    .write (T := .tenants) rfl (by decide)
  cases w with
  | job position keep => exact absurd rfl (hw position keep)
  | generate_voucher payment_id tenant_id => exact absurd rfl (hv payment_id tenant_id)
  | free_trial data => exact absurd rfl (ht data)
  | reseller_voucher data reseller_id tenant_id => exact absurd rfl (hr data reseller_id tenant_id)
  | daraja_webhook body =>
      cases hs
      exact ⟨rfl, discard_all (process_daraja_webhook_all body hsettle hextend)⟩
  | c2b_webhook body =>
      cases hs
      exact ⟨rfl, discard_all (process_daraja_c2b_webhook_all body hreads hseq hinserts)⟩
  | poll =>
      cases hs
      exact ⟨rfl, poll_pending_daraja_payments_cron_all hsettle hextend⟩
  | reconcile =>
      cases hs
      have hp : reconcile_payments_cron.Plain (Within [.queue]) :=
        reconcile_payments_cron_plain (by simp)
      exact ⟨rfl, hp.all.mono fun s hs => .within hs (by decide)⟩
  | stk_push tenant_id customer_id data =>
      cases hs
      refine ⟨rfl, discard_all ?_⟩
      refine ((purchasable_plain _ _).all.mono hreads).bind fun package => ?_
      exact push_outside rfl fun payment =>
        Prog.All.bind trivial fun amount => stk_push_outside _ _ _ _ _
  | hotspot_payment data =>
      cases hs
      refine ⟨rfl, discard_all ?_⟩
      refine (guest_customer_outside _ _).all.bind fun customer_id => ?_
      refine ((purchasable_plain _ _).all.mono hreads).bind fun package => ?_
      exact push_outside rfl fun payment =>
        Prog.All.bind trivial fun amount => stk_push_outside _ _ _ _ _
  | platform_billing tenant_id =>
      cases hs
      refine ⟨rfl, discard_all ?_⟩
      refine Prog.All.bind ((Prog.all_exec _).mpr (.read rfl)) fun tenant => ?_
      cases tenant with
      | none => trivial
      | some tenant => exact push_outside rfl fun payment => stk_push_outside _ _ _ _ _
  | tenant_billing =>
      cases hs
      exact ⟨rfl, (tenant_billing_cron_plain hreads
        (fun _ _ _ _ => .write (T := .pushes) rfl (by decide))
        (fun _ _ _ _ => .write (T := .platform_payments) rfl (by decide))
        fun _ => .write (T := .tenants) rfl (by decide)).all⟩
  | topup tenant_id reseller_id amount reference =>
      cases hs
      exact ⟨rfl, discard_all (topup_wallet_plain _ _ _ _ hreads hseq hinserts).all.transaction⟩
  | debit tenant_id reseller_id amount reference =>
      cases hs
      exact ⟨rfl, discard_all (debit_wallet_plain _ _ _ _ hreads hseq hinserts).all.transaction⟩

namespace Contract

variable {G T : Type} {𝒞 : Contract G T} {g₀ : G}

/-- What a contract owes for the processes that generate vouchers, and for the other ones. -/
structure Generates (𝒞 : Contract G T) (g₀ : G) : Prop where
  free : ∀ d l l' g, 𝒞.own d l g → 𝒞.own d l' g
  outside : ∀ g s, s.Outside → 𝒞.discipline.protocol.Neutral g s
  starts : ∀ d d', 𝒞.base d → (∀ T, T ≠ .queue → d'.Same d T) → 𝒞.Starts d d' g₀
  generate : ∀ payment_id tenant_id l g, l.txn = .none → 𝒞.wp (fun _ l' _ => l'.txn = .none)
    (generate_voucher payment_id tenant_id) l g
  sale : ∀ data reseller_id tenant_id, 𝒞.wp (fun _ _ _ => True)
    (generate_reseller_voucher data reseller_id tenant_id) {} g₀

namespace Generates

variable {l : RunLocal} {g : G}

theorem all (h : 𝒞.Generates g₀) {α : Type} {p : M α} (hp : p.All Stmt.Outside)
    (hl : l.txn = .none) : 𝒞.wp (fun _ _ _ => True) p l g :=
  wp_neutral hp (h.outside g) (fun d l l' => h.free d l l' g) hl

theorem plain (h : 𝒞.Generates g₀) {α : Type} {p : M α} (hp : p.Plain Stmt.Outside)
    (hl : l.txn = .none) : 𝒞.wp (fun _ l' _ => l' = l) p l g :=
  wp_mono (Protocol.wp_of_plain (hp.mono (h.outside g)) hl) fun _ _ _ h => h.1

theorem task (h : 𝒞.Generates g₀) (job : Job) :
    𝒞.wp (fun _ l' _ => l'.txn = .none) (generate_voucher_task job) {} g := by
  refine wp_then (wp_reads (plain_read rfl) rfl) (fun _ _ _ h => h.1 ▸ rfl) ?_
  rintro payment l g ⟨rfl, rfl⟩
  cases payment with
  | none => rfl
  | some payment =>
      refine wp_catch (wp_mono (B := fun _ l' _ => l'.txn = .none) ?_ ?_)
      · refine wp_then (h.generate _ _ _ _ rfl) (fun _ _ _ h => h) ?_
        intro code l g hl
        refine wp_then (wp_reads ((plain_read rfl).tryCatch fun _ => trivial) hl)
          (fun _ _ _ h => h.1 ▸ hl) ?_
        rintro _ l g ⟨rfl, rfl⟩
        exact hl
      · rintro (e | code) l g hl
        · dsimp only
          split
          · exact hl
          · exact hl
        · exact hl

theorem job (h : 𝒞.Generates g₀) (job : Job) :
    𝒞.wp (fun _ _ _ => True) (run_job job) {} g := by
  refine wp_catch (wp_mono (h.task job) ?_)
  rintro (e | code) l g hl
  · cases e with
    | retry delay =>
        exact wp_then (h.plain ((Prog.plain_exec _).mpr (.write (T := .queue) rfl (by decide))) hl)
          (fun _ _ _ _ => trivial) fun _ _ _ _ => trivial
    | _ => trivial
  · trivial

theorem trial (h : 𝒞.Generates g₀) (data : PortalFreeTrialRequest) :
    𝒞.wp (fun _ _ _ => True) (provision_free_trial data) {} g := by
  have hpackage : (trial_package data.tenant_id).Plain (Within [.packages]) :=
    trial_package_plain _ (by simp)
  have hpayment (s : Stmt) (hs : s.writes = some .payments) : (exec s).Plain Stmt.Outside :=
    (Prog.plain_exec s).mpr (.write hs (by decide))
  refine wp_then (h.plain (guest_customer_outside _ _) rfl) (fun _ _ _ _ => trivial) ?_
  rintro customer_id l g rfl
  refine wp_then (wp_reads (plain_read rfl) rfl) (fun _ _ _ _ => trivial) ?_
  rintro existing_trial l g ⟨rfl, rfl⟩
  split
  · trivial
  refine wp_then (h.plain (hpackage.mono fun s hs => .within hs (by decide)) rfl)
    (fun _ _ _ _ => trivial) ?_
  rintro package_id l g rfl
  refine wp_then (wp_reads (plain_read rfl) rfl) (fun _ _ _ _ => trivial) ?_
  rintro trial_receipt l g ⟨rfl, rfl⟩
  refine wp_then (h.plain (hpayment _ rfl) rfl) (fun _ _ _ _ => trivial) ?_
  rintro row l g rfl
  exact wp_mono (h.generate _ _ _ _ rfl) fun _ _ _ _ => trivial

theorem serves (h : 𝒞.Generates g₀) : 𝒞.Serves := by
  intro w d d' p hb _ hs
  have hstart : 𝒞.Starts d d g₀ := h.starts d d hb fun T _ => .refl _ _
  have hdiscard {α : Type} {p : M α} (hp : 𝒞.wp (fun _ _ _ => True) p {} g₀) :
      𝒞.wp (fun _ _ _ => True) (discard p) {} g₀ :=
    wp_then hp (fun _ _ _ _ => trivial) fun _ _ _ _ => trivial
  cases w with
  | job position keep =>
      have hsame (T : Table) (hT : T ≠ .queue) : d'.Same d T := Spawn.aside_start hs hT
      obtain ⟨job, _, hjob⟩ := Option.map_eq_some_iff.mp hs
      cases hjob
      exact ⟨g₀, h.starts _ _ hb hsame, hdiscard (h.job job)⟩
  | generate_voucher payment_id tenant_id =>
      cases hs
      exact ⟨g₀, hstart, hdiscard (wp_mono (h.generate _ _ _ _ rfl) fun _ _ _ _ => trivial)⟩
  | free_trial data =>
      cases hs
      exact ⟨g₀, hstart, hdiscard (h.trial data)⟩
  | reseller_voucher data reseller_id tenant_id =>
      cases hs
      exact ⟨g₀, hstart, hdiscard (h.sale data _ _)⟩
  | _ =>
      obtain ⟨rfl, hp⟩ := Spawn.outside_all (by simp) (by simp) (by simp) (by simp) hs
      exact ⟨g₀, hstart, h.all hp rfl⟩

end Generates

end Contract

end FrixelConnect
