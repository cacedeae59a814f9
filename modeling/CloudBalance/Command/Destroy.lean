import CloudBalance.Balancer.Placement
import CloudBalance.Command.Session

/-!
# Destroying a balancer

The balancer that answers on an address is destroyed under the lock, and its record goes with it.
-/

namespace CloudBalance.Session

open Net (Address)
open Terminal (Line)

/-- Removes the record with an address, if there is one. -/
def forget (store : Ledger.Store) (address : Address) :
    Attempt Local CloudError (Option Ledger.Record) := do
  let ledger ← store.load
  match ledger.removeByAddress address (← Local.now) with
  | (some record, left) =>
    store.save left
    return some record
  | (none, _) => return none

/-- What is said at the end. -/
def destroyedLine (address : Address) : Option Ledger.Record → Line
  | some record =>
    .styled .boldGreen ("✓ '" ++ record.name ++ "' (" ++ record.location.id ++ ") を削除しました")
  | none => .styled .dimmed ("ℹ " ++ address.text ++ " は state に記録されていません")

/-- Destroys the balancer that answers on an address. -/
def destroy (store : Ledger.Store) (address : Address) : Act Unit := do
  print (.styled .yellow (address.text ++ " のロードバランサーを削除中..."))
  withLock store ("lb destroy " ++ address.text) do
    ofService (Service.destroyAt address)
    let record ← ofLocal (forget store address)
    print .empty
    print (destroyedLine address record)

end CloudBalance.Session
