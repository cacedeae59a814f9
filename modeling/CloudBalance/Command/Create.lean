import CloudBalance.Balancer.Placement
import CloudBalance.Command.Nodes

/-!
# Making balancers

Balancers are made under the lock, and whatever was made is recorded, also when the work stops on the
way.
-/

namespace CloudBalance.Session

open Net (Address)
open Terminal (Span Line Selection)

/-! ## Recording -/

/-- Adds the records of a report, one after another. -/
def insertOutcomes (provider : String) (spec : BalancerSpec) (ledger : Ledger) :
    List (Location × Outcome) → Program Local Ledger
  | [] => return ledger
  | (location, outcome) :: rest => do
    let now ← Local.now
    let record := Ledger.Record.ofOutcome provider location spec outcome now
    insertOutcomes provider spec (ledger.insert record now) rest

/-- Records all balancers of a report in the ledger. -/
def recordReport (store : Ledger.Store) (provider : String) (spec : BalancerSpec) (made : Report) :
    Attempt Local CloudError Unit := do
  let ledger ← store.load
  store.save (← insertOutcomes provider spec ledger made.locations)

/-! ## Showing -/

def outcomeLine (location : Location) : Outcome → Line
  | .resolved dnsName addresses =>
    [.plain "  ", .styled .green "✓", .plain " ", .styled .cyan location.id,
      .plain (" " ++ dnsName ++ " → "),
      .styled .green (", ".intercalate (addresses.map Address.text))]
  | .unresolved dnsName =>
    [.plain "  ", .styled .yellow "⚠", .plain " ", .styled .cyan location.id,
      .plain (" " ++ dnsName ++ " "), .styled .yellow "(名前解決できませんでした)"]

/-- A line for each location, in the order of the ids. -/
def outcomeLines (made : Report) : List Line :=
  (Text.sortBy (·.1.id) made.locations).map fun (location, outcome) => outcomeLine location outcome

/-- What is said at the end. -/
def summaryLines (made : Report) : List Line :=
  let unresolved := made.unresolved.length
  let missing : Line := .styled .dimmed ("ℹ " ++ toString unresolved
    ++ " 件のロケーションはアドレスが取得できず、結果に含まれていません")
  let done : Line := .styled .boldGreen ("✓ " ++ toString made.addresses.length
    ++ " 件のアドレスでロードバランサーが利用できます")
  .empty :: (if 0 < unresolved then [missing, done] else [done])

/-! ## Making -/

/-- What the user asked for. -/
structure CreateRequest where
  name : String
  protocol : String
  balancerPort : UInt16
  instancePort : UInt16
  selection : Selection
  deriving DecidableEq, Repr

/-- What came of making balancers, where the failure of one is no failure of the work. -/
inductive Creation where
  | nothing
  | made (report : Report)
  | stopped (location : String) (created : Report) (cause : CloudError)

/-- Makes the balancers. -/
def makeAll (providers : Providers) (spec : BalancerSpec) (selection : Selection) : Act Creation := do
  let request := ⟨spec.name, spec.protocol.text, spec.balancerPort, spec.instancePort⟩
  match ← Attempt.outcome
      (ofService (Service.placeReport providers.policy (filterOf selection) request)) with
  | .ok made => return if made.locations.isEmpty then .nothing else .made made
  | .error (.cloud (.createAborted location created cause)) =>
    return .stopped location created cause
  | .error e => throw e

/-- Shows and records a report that is not empty. -/
def keep (providers : Providers) (store : Ledger.Store) (spec : BalancerSpec) (made : Report) :
    Act Unit := do
  print .empty
  printAll (outcomeLines made)
  ofLocal (recordReport store providers.recordName spec made)

/-- Makes the balancers, and shows and records those that were made. -/
def makeAndKeep (providers : Providers) (store : Ledger.Store) (spec : BalancerSpec)
    (selection : Selection) : Act Creation := do
  let creation ← makeAll providers spec selection
  match creation with
  | .nothing => return creation
  | .made made =>
    keep providers store spec made
    return creation
  | .stopped location created _ =>
    if !created.locations.isEmpty then
      keep providers store spec created
      print (.styled .yellow ("⚠ " ++ location ++ " で失敗しました。作成済みの "
        ++ toString created.locations.length ++ " 件は state に記録しました"))
    return creation

/-- Makes a balancer at each location of the selected nodes. -/
def create (providers : Providers) (store : Ledger.Store) (request : CreateRequest) : Act Unit := do
  let protocol ← (pure (Protocol.parse request.protocol) : Program Session _).attempt .cloud
  let spec : BalancerSpec := ⟨request.name, protocol, request.balancerPort, request.instancePort⟩
  print (.styled .blue ("ロードバランサー '" ++ spec.name ++ "' を作成中..."))
  let creation ← withLock store ("lb create " ++ spec.name)
    (makeAndKeep providers store spec request.selection)
  match creation with
  | .nothing =>
    print .empty
    print (.styled .yellow "対象のノードがないため何も作成しませんでした")
  | .made made => printAll (summaryLines made)
  | .stopped location created cause => throw (.cloud (.createAborted location created cause))

end CloudBalance.Session
