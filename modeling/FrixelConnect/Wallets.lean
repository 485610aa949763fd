import FrixelConnect.Daraja

/-!
# The wallet ledger

Every entry stores the balance after it. Both writers lock the reseller's row of
`users` before they read the last balance.
-/

namespace FrixelConnect

open Decimals Python Interleaving

/-- The default context of the `decimal` module. -/
def defaultContext : Context := {}

/-- A decimal operation in a program. -/
def decimalOp {α : Type} (x : Except Signal α) : M α := .ofExcept (x.mapError .decimal)

def get_wallet_balance (reseller_id tenant_id : UUID) : M Decimal := do
  let balance ← exec (.select_balance reseller_id tenant_id)
  return match balance with
    | some balance => balance.load
    | none => .finite 0 (-2)

/-- `INSERT INTO wallet_transactions`, whose `sequence_id` is drawn first. -/
def insert_wallet_transaction (tenant_id reseller_id : UUID) (type : TransactionType)
    (amount new_balance : Decimal) (reference : Json) : M WalletTransaction := do
  let sequence_id ← exec .next_sequence_id
  exec (.insert_wallet_transaction sequence_id tenant_id reseller_id type amount
    new_balance reference)

def topup_wallet (tenant_id reseller_id : UUID) (amount : Decimal) (reference : Json) :
    M WalletTransaction := do
  let locked ← exec (.lock_user reseller_id tenant_id)
  if locked.isNone then
    throw (.insufficientBalance "Reseller not found in this tenant.")
  let current_balance ← get_wallet_balance reseller_id tenant_id
  let new_balance ← decimalOp (defaultContext.add current_balance amount)
  insert_wallet_transaction tenant_id reseller_id .topup amount new_balance reference

def debit_wallet (tenant_id reseller_id : UUID) (amount : Decimal) (reference : Json) :
    M WalletTransaction := do
  let locked ← exec (.lock_user reseller_id tenant_id)
  if locked.isNone then
    throw (.insufficientBalance "Reseller not found in this tenant.")
  let current_balance ← get_wallet_balance reseller_id tenant_id
  let insufficient ← decimalOp (current_balance.lt amount)
  if insufficient then
    throw (.insufficientBalance ("Insufficient balance. Required: KES " ++ decimalStr amount ++
      ", Current: KES " ++ decimalStr current_balance))
  let new_balance ← decimalOp (defaultContext.sub current_balance amount)
  insert_wallet_transaction tenant_id reseller_id .debit amount new_balance reference

end FrixelConnect
