import CloudBalance.Balancer.Error
import CloudBalance.Files.Path
import CloudBalance.Json.Printer
import CloudBalance.Ledger.Basic
import CloudBalance.Local

/-!
# Storing the ledger

The ledger of a project is a file in the directory `.nimbus`. When it is written, the file that was
there before is kept beside it.
-/

namespace CloudBalance.Ledger

open Time (Instant)

/-- Where the files of a project lie. -/
structure Store where
  projectRoot : String
  deriving DecidableEq, Repr

namespace Store

def directory (store : Store) : String :=
  Path.join store.projectRoot ".nimbus"

def ledgerPath (store : Store) : String :=
  Path.join store.directory "state.json"

def backupPath (store : Store) : String :=
  Path.join store.directory "state.json.backup"

def lockPath (store : Store) : String :=
  Path.join store.directory "lock.json"

/-- Makes the directory if it is missing. -/
def ensureDirectory (store : Store) : Attempt Local CloudError Unit := do
  if !(← Local.exists? store.directory) then
    (Local.makeDirectories store.directory).attempt .files
    Local.note .debug .ledger ("Created state directory: " ++ store.directory)

/-- How many records there are, as the log says it. -/
def countText (ledger : Ledger) : String :=
  toString ledger.count ++ " load balancers"

/-- The ledger that a text holds, if this version of the program knows its form. -/
def ledgerOfText (text : String) : Except CloudError Ledger :=
  match Json.decode? Ledger.ofJson? text with
  | none => .error .malformed
  | some ledger =>
    if currentVersion < ledger.version then
      .error (.state ("State file version " ++ toString ledger.version
        ++ " is newer than supported version " ++ toString currentVersion))
    else .ok ledger

/-- Reads the ledger; a new one, if there is no file. -/
def load (store : Store) : Attempt Local CloudError Ledger := do
  if ← Local.exists? store.ledgerPath then
    let text ← (Local.readText store.ledgerPath).attempt .files
    let ledger ← ledgerOfText text
    Local.note .debug .ledger ("Loaded state with " ++ countText ledger)
    return ledger
  else
    Local.note .debug .ledger "State file not found, returning empty state"
    return Ledger.new (← Local.now)

/-- Moves the file of the ledger aside, in the place of the one that was kept before. -/
def keepBackup (store : Store) : Attempt Local CloudError Unit := do
  if ← Local.exists? store.ledgerPath then
    if ← Local.exists? store.backupPath then
      (Local.remove store.backupPath).attempt .files
    (Local.rename store.ledgerPath store.backupPath).attempt .files
    Local.note .debug .ledger "Created state backup"

/-- Writes the ledger and keeps the file that was there before. -/
def save (store : Store) (ledger : Ledger) : Attempt Local CloudError Unit := do
  store.ensureDirectory
  store.keepBackup
  (Local.write store.ledgerPath (Text.encode ledger.toJson.pretty)).attempt .files
  Local.note .debug .ledger ("Saved state with " ++ countText ledger)

end Store

end CloudBalance.Ledger
