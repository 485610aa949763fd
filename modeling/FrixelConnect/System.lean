import FrixelConnect.Worker
import FrixelConnect.Interleaving.Discipline

/-!
# The running system

The processes that can start, and what they run. A queued job is taken from the
queue when it starts; the queue may also hand it out without removing it, since
it delivers at least once.
-/

namespace FrixelConnect

open Decimals Python Interleaving

inductive Spawn where
  | daraja_webhook (body : Json)
  | c2b_webhook (body : Json)
  | poll
  | reconcile
  | job (position : ℕ) (keep : Bool)
  | generate_voucher (payment_id tenant_id : UUID)
  | stk_push (tenant_id customer_id : UUID) (data : STKPushRequest)
  | hotspot_payment (data : PortalSTKPushRequest)
  | free_trial (data : PortalFreeTrialRequest)
  | platform_billing (tenant_id : UUID)
  | tenant_billing
  | reseller_voucher (data : ResellerVoucherGenerateRequest) (reseller_id tenant_id : UUID)
  | topup (tenant_id reseller_id : UUID) (amount : Decimal) (reference : Json)
  | debit (tenant_id reseller_id : UUID) (amount : Decimal) (reference : Json)

/-- Run a program for its effects. -/
def discard {α : Type} (p : M α) : M Unit := p.bind fun _ => pure ()

/-- The store after the start of a process, and the program that it runs. -/
def start (w : Spawn) (d : Store) : Option (Store × M Unit) :=
  match w with
  | .daraja_webhook body => some (d, discard (process_daraja_webhook body))
  | .c2b_webhook body => some (d, discard (process_daraja_c2b_webhook body))
  | .poll => some (d, poll_pending_daraja_payments_cron)
  | .reconcile => some (d, reconcile_payments_cron)
  | .job position keep => d.queue[position]?.map fun job =>
      (if keep then d else { d with queue := d.queue.eraseIdx position }, discard (run_job job))
  | .generate_voucher payment_id tenant_id =>
      some (d, discard (generate_voucher payment_id tenant_id))
  | .stk_push tenant_id customer_id data =>
      some (d, discard (initiate_stk_push tenant_id customer_id data))
  | .hotspot_payment data => some (d, discard (initiate_hotspot_payment data))
  | .free_trial data => some (d, discard (provision_free_trial data))
  | .platform_billing tenant_id => some (d, discard (initiate_platform_billing_payment tenant_id))
  | .tenant_billing => some (d, tenant_billing_cron)
  | .reseller_voucher data reseller_id tenant_id =>
      some (d, discard (generate_reseller_voucher data reseller_id tenant_id))
  | .topup tenant_id reseller_id amount reference =>
      some (d, discard (Prog.transaction (topup_wallet tenant_id reseller_id amount reference)))
  | .debit tenant_id reseller_id amount reference =>
      some (d, discard (Prog.transaction (debit_wallet tenant_id reseller_id amount reference)))

def system : System Stmt Stmt.Res Frame Exn Store Env UUID Unit Spawn :=
  { machine with start := start }

/-- States and rules of the running system. -/
abbrev RunState := State Stmt Stmt.Res Frame Exn Store Env Unit
abbrev RunRules := Rules Stmt Exn Store Env Spawn
abbrev RunLabel := Label Exn Store Env Spawn
abbrev RunLocal := Local Stmt Frame Env

/-- No process runs yet. -/
def idle (d : Store) : RunState := { store := d }

/-- The control state is that of a process outside any transaction. -/
def Autocommit (l : RunLocal) : Prop := l.txn = .none

end FrixelConnect
