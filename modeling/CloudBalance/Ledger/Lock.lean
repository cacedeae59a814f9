import CloudBalance.Ledger.Store

/-!
# The lock

Whoever changes the ledger holds a lock, which is a file beside the ledger that says who works on
what since when. A lock that is old enough was left by a run that broke off and is taken over.
-/

namespace CloudBalance.Ledger

open Time (Instant)

/-- What the file says. -/
structure Lock where
  holder : String
  operation : String
  processId : UInt32
  acquiredAt : Instant
  deriving DecidableEq, Repr

namespace Lock

/-- The age in whole minutes at which a lock no longer holds. -/
def staleMinutes : Int := 30

def toJson (lock : Lock) : Json :=
  .object [("holder", .string lock.holder), ("operation", .string lock.operation),
    ("pid", .ofNat lock.processId.toNat), ("acquired_at", lock.acquiredAt.toJson)]

def ofJson? (value : Json) : Option Lock := do
  match ← value.slots? ["holder", "operation", "pid", "acquired_at"] with
  | [holder, operation, processId, acquiredAt] =>
    return ⟨← holder.required Json.toString?, ← operation.required Json.toString?,
      (← processId.required (Json.toNatBelow? UInt32.size)).toUInt32, ← acquiredAt.required Instant.ofJson?⟩
  | _ => none

/-- Whether the lock no longer holds. -/
def isStale (lock : Lock) (now : Instant) : Bool :=
  staleMinutes ≤ now.minutesSince lock.acquiredAt

/-- Why a lock cannot be had. -/
def heldError (lock : Lock) : CloudError :=
  .lock ("`" ++ lock.operation ++ "` is running (pid " ++ toString lock.processId ++ " on "
    ++ lock.holder ++ ", since " ++ lock.acquiredAt.display ++ ")")

end Lock

namespace Store

/-- Refuses if somebody holds the lock. -/
def checkLock (store : Store) : Attempt Local CloudError Unit := do
  if ← Local.exists? store.lockPath then
    let text ← (Local.readText store.lockPath).attempt .files
    let some held := Json.decode? Lock.ofJson? text | throw .malformed
    if held.isStale (← Local.now) then
      Local.note .warn .ledger ("Taking over stale lock for `" ++ held.operation ++ "` (pid "
        ++ toString held.processId ++ " on " ++ held.holder ++ ")")
    else throw held.heldError

/-- The name of this machine. -/
def holderName : Program Local String := do
  match ← Local.environment "HOSTNAME" with
  | some name => return name
  | none => return (← Local.environment "HOST").getD "unknown"

/-- Takes the lock for an operation. -/
def acquireLock (store : Store) (operation : String) : Attempt Local CloudError Unit := do
  store.ensureDirectory
  store.checkLock
  let lock : Lock := ⟨← holderName, operation, ← Local.processId, ← Local.now⟩
  (Local.write store.lockPath (Text.encode lock.toJson.pretty)).attempt .files
  Local.note .debug .ledger ("Acquired state lock for `" ++ operation ++ "`")

/-- Gives the lock back. -/
def releaseLock (store : Store) : Attempt Local CloudError Unit := do
  if ← Local.exists? store.lockPath then
    (Local.remove store.lockPath).attempt .files
    Local.note .debug .ledger "Released state lock"

/-- Gives the lock back when a run ends early; nobody hears of a failure. -/
def dropLock (store : Store) : Program Local Unit := do
  if ← Local.exists? store.lockPath then
    let _ ← Local.remove store.lockPath

end Store

end CloudBalance.Ledger
