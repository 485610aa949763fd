import FrixelConnect.Effects
import FrixelConnect.Interleaving.StoreRule
import FrixelConnect.Specs.Outcome

/-!
# The super admin's part in the life of a tenant

The super admin suspends and reactivates tenants and starts the billing of one by
hand. A cancelled tenant stays cancelled in every run in which no fee of it is
confirmed and nobody suspends it: the transaction that confirms a fee activates the
tenant whatever its status is, and a suspension overwrites the cancellation.
-/

namespace FrixelConnect

open Interleaving

/-- The status of a tenant is set unless the tenant already has it. -/
def change_status (tenant_id : UUID) (status : TenantStatus) (detail action : String) :
    M Unit := do
  let row ← exec (.select_tenant tenant_id)
  match row with
  | none => throw (.notFound "Tenant" (str tenant_id))
  | some row =>
      if row.status = status then
        throw (.conflict detail)
      exec (.set_tenant_status tenant_id status)
      exec (.log_action action tenant_id)

def suspend_tenant (tenant_id : UUID) : M Unit :=
  change_status tenant_id .suspended "This tenant is already suspended." "tenant.suspend"

def reactivate_tenant (tenant_id : UUID) : M Unit :=
  change_status tenant_id .active "This tenant is already active." "tenant.reactivate"

def trigger_tenant_billing (tenant_id : UUID) : M PaymentCore := do
  let tenant_row ← exec (.select_tenant tenant_id)
  match tenant_row with
  | none => throw (.notFound "Tenant" (str tenant_id))
  | some _ =>
      let result ← initiate_platform_billing_payment tenant_id
      exec (.log_action "tenant.billing_triggered" tenant_id)
      return result

/-- The processes of the application, and those that the super admin starts. -/
inductive AdminSpawn where
  | base (w : Spawn)
  | suspend (tenant_id : UUID)
  | reactivate (tenant_id : UUID)
  | trigger (tenant_id : UUID)

def AdminSpawn.start (w : AdminSpawn) (d : Store) : Option (Store × M Unit) :=
  match w with
  | .base w => FrixelConnect.start w d
  | .suspend tenant_id => some (d, FrixelConnect.suspend_tenant tenant_id)
  | .reactivate tenant_id => some (d, reactivate_tenant tenant_id)
  | .trigger tenant_id => some (d, discard (trigger_tenant_billing tenant_id))

def adminSystem : System Stmt Stmt.Res Frame Exn Store Env UUID Unit AdminSpawn :=
  { machine with start := AdminSpawn.start }

abbrev AdminRules := Rules Stmt Exn Store Env AdminSpawn

/-- The start of a process takes a job from the queue at most. -/
theorem AdminSpawn.start_same {w : AdminSpawn} {d d' : Store} {p : M Unit}
    (hs : w.start d = some (d', p)) {T : Table} (hT : T ≠ .queue) : d'.Same d T := by
  cases w with
  | base w =>
      cases w with
      | job position keep =>
          obtain ⟨job, _, hjob⟩ := Option.map_eq_some_iff.mp hs
          cases keep <;> cases hjob <;> cases T <;> first | rfl | exact absurd rfl hT
      | _ => cases hs; exact .refl _ _
  | _ => cases hs; exact .refl _ _

namespace CancelledTenant

/-- The tenant exists and is cancelled. -/
def Cancelled (tenant_id : UUID) (d : Store) : Prop :=
  (∃ t ∈ d.tenants, t.id = tenant_id) ∧ ∀ t ∈ d.tenants, t.id = tenant_id → t.status = .cancelled

/-- The statement confirms no fee of a cancelled tenant and suspends none. -/
def Respects (d : Store) : Stmt → Prop
  | .extend_tenant id => ¬ Cancelled id d
  | .suspend_tenant id => ¬ Cancelled id d
  | .set_tenant_status id _ => ¬ Cancelled id d
  | _ => True

/-- The statement does not reactivate the tenant. -/
def NotReactivating (tenant_id : UUID) : Stmt → Prop
  | .set_tenant_status id status => id = tenant_id → status ≠ .active
  | _ => True

/-- Any processes, none of which reactivates the tenant. The rest of the system may cancel tenants
but brings none back. -/
def unguarded (tenant_id : UUID) : AdminRules where
  stmt s _ _ := NotReactivating tenant_id s
  edit d d' := Cancelled tenant_id d → Cancelled tenant_id d'

/-- Such runs in which no fee of a cancelled tenant is confirmed, and none is suspended. -/
def rules (tenant_id : UUID) : AdminRules where
  stmt s c d := NotReactivating tenant_id s ∧ match c with
    | .run _ => Respects d s
    | .fail _ => True
  edit := (unguarded tenant_id).edit

variable {d d' : Store} {tenant_id id : UUID} {f : Tenant → Tenant}

/-- An update of other tenants. -/
theorem Cancelled.updateTenant (h : Cancelled tenant_id d) (hf : ∀ t, (f t).id = t.id)
    (hne : id ≠ tenant_id) : Cancelled tenant_id (d.updateTenant id f) := by
  have hkeep (t : Tenant) (ht : t.id = tenant_id) : (if t.id == id then f t else t) = t := by
    rw [if_neg]
    rw [beq_iff_eq, ht]
    exact hne.symm
  constructor
  · obtain ⟨t, ht, hid⟩ := h.1
    exact ⟨_, List.mem_map_of_mem ht, (hkeep t hid).symm ▸ hid⟩
  · intro t' ht' hid
    obtain ⟨t, ht, rfl⟩ := List.mem_map.mp ht'
    have hid' : t.id = tenant_id := by
      rw [← hid]
      split
      · rw [hf]
      · rfl
    rw [hkeep t hid']
    exact h.2 t ht hid'

theorem Cancelled.same (h : Cancelled tenant_id d) (ht : d'.tenants = d.tenants) :
    Cancelled tenant_id d' := by
  rwa [Cancelled, ht]

/-- Every statement keeps the cancellation. -/
theorem cancelled_rule (tenant_id : UUID) :
    StoreRule adminSystem (rules tenant_id) (fun _ => True) (Cancelled tenant_id) where
  restores := machine_restores
  start w d d' p _ hd hs := ⟨hd.same (AdminSpawn.start_same hs (T := .tenants) (by simp)), p.all_true⟩
  edit d d' he hd := he hd
  stmt s v d a d' _ hr hd hx := by
    obtain ⟨-, hr⟩ := hr
    cases Stmt.onTenants (Stmt.exec_eq_ok.mp hx) with
    | extend_tenant id => exact hd.updateTenant (fun _ => rfl) fun h => hr (h ▸ hd)
    | suspend_tenant id => exact hd.updateTenant (fun _ => rfl) fun h => hr (h ▸ hd)
    | set_tenant_status id status => exact hd.updateTenant (fun _ => rfl) fun h => hr (h ▸ hd)
    | other hsame => exact hd.same hsame

section Decidable

variable (s : Stmt) (c : Choice Exn Env) (w : AdminSpawn) (d d' : Store) (tenant_id : UUID)

instance : Decidable (Cancelled tenant_id d) :=
  inferInstanceAs (Decidable ((∃ t ∈ d.tenants, _) ∧ ∀ t ∈ d.tenants, _))

instance : Decidable (Respects d s) := by
  rcases s with ⟨⟩ <;>
    first | exact .isTrue trivial | exact inferInstanceAs (Decidable (¬ Cancelled _ d))

instance : Decidable (NotReactivating tenant_id s) := by
  rcases s with ⟨⟩ <;>
    first
    | exact .isTrue trivial
    | exact inferInstanceAs (Decidable (_ = tenant_id → _ ≠ TenantStatus.active))

instance : Decidable ((rules tenant_id).stmt s c d) :=
  match c with
  | .run _ => inferInstanceAs (Decidable (NotReactivating tenant_id s ∧ Respects d s))
  | .fail _ => inferInstanceAs (Decidable (NotReactivating tenant_id s ∧ True))

instance : Decidable ((rules tenant_id).spawn w d) := .isTrue trivial

noncomputable instance : Decidable ((rules tenant_id).edit d d') := Classical.propDecidable _

instance : Decidable ((unguarded tenant_id).stmt s c d) :=
  inferInstanceAs (Decidable (NotReactivating tenant_id s))

instance : Decidable ((unguarded tenant_id).spawn w d) := .isTrue trivial

noncomputable instance : Decidable ((unguarded tenant_id).edit d d') := Classical.propDecidable _

end Decidable

/-- The shop after its cancellation, with a fee that waits for its outcome. -/
def closed : Store :=
  { shop with tenants := shop.tenants.map fun t => { t with status := .cancelled } }

/-- `n` steps of the first process. -/
def steps (n : ℕ) : List (Label Exn Store Env AdminSpawn) :=
  List.replicate n (.step 0 (.run {}))

end CancelledTenant

end FrixelConnect
