import CloudBalance.Kdl.Parser
import CloudBalance.Settings.Basic
import CloudBalance.Settings.Error

/-!
# Settings as a document

What the nodes `compute`, `load-balancer` and `resolver` of a KDL document say. Each of these nodes
must be valid by itself, and the last one of its kind is in force. Other nodes are skipped.
-/

namespace CloudBalance

/-- The name of the provider, which is the node's first argument. -/
def Settings.providerOf (kind : String) (node : Kdl.Node) : Except SettingsError String :=
  match node.firstString with
  | some name => .ok name
  | none => .error (.invalid (.noProviderName kind))

/-- The text that the first child of a name has as its first argument. -/
def Settings.textOf? (key : String) (node : Kdl.Node) : Option String :=
  (node.child? key).bind Kdl.Node.firstString

def Settings.textOf (key : String) (node : Kdl.Node) : Except SettingsError String :=
  match textOf? key node with
  | some text => .ok text
  | none => .error (.invalid (.noValue key))

/-- The integer, from zero to below `bound`, that a child has as its first argument. -/
def Settings.integerOf (bound : Nat) (child : Kdl.Node) : Except SettingsError Nat :=
  match child.firstInteger with
  | none => .error (.invalid (.notAnInteger child.name))
  | some n =>
    if 0 ≤ n && n < bound then .ok n.toNat else .error (.invalid (.outOfRange child.name n))

/-- Reads a `compute` node. -/
def ComputeSettings.ofNode (node : Kdl.Node) : Except SettingsError ComputeSettings := do
  let provider ← Settings.providerOf "compute" node
  if provider = "sakura" then
    let zones := (node.childrenNamed "zone").filterMap Kdl.Node.firstString
    if zones.isEmpty then throw (.invalid .noZones)
    return .sakura zones
  else throw (.unknownProvider "compute" provider)

/-- Reads a `load-balancer` node. -/
def BalancerSettings.ofNode (node : Kdl.Node) : Except SettingsError BalancerSettings := do
  let provider ← Settings.providerOf "load-balancer" node
  if provider = "sakura" then
    match node.child? "plan" with
    | some child => return .sakura (← Settings.integerOf UInt32.size child).toUInt32
    | none => return .sakura standardPlan
  else if provider = "cloudflare" then
    return .cloudflare (← Settings.textOf "account-id" node) (← Settings.textOf "zone-id" node)
      (← Settings.textOf "domain" node)
      ((Settings.textOf? "api-token-env" node).getD standardTokenVariable)
      (Settings.textOf? "api-base" node)
  else throw (.unknownProvider "load-balancer" provider)

/-- What one child of a `resolver` node changes. -/
def ResolverSettings.add (settings : ResolverSettings) (child : Kdl.Node) :
    Except SettingsError ResolverSettings := do
  if child.name = "attempts" then
    return { settings with attempts := (← Settings.integerOf UInt32.size child).toUInt32 }
  else if child.name = "delay-ms" then
    return { settings with delayMs := (← Settings.integerOf UInt64.size child).toUInt64 }
  else return settings

/-- Reads a `resolver` node. -/
def ResolverSettings.ofNode (node : Kdl.Node) : Except SettingsError ResolverSettings := do
  let settings ← node.children.foldlM ResolverSettings.add .standard
  if settings.attempts = 0 then throw (.invalid .noAttempts)
  return settings

namespace Settings

/-- The settings of the nodes that were read so far. -/
structure Found where
  compute : Option ComputeSettings
  balancer : Option BalancerSettings
  resolver : ResolverSettings

def Found.empty : Found := ⟨none, none, .standard⟩

def Found.add (found : Found) (node : Kdl.Node) : Except SettingsError Found := do
  if node.name = "compute" then
    return { found with compute := some (← ComputeSettings.ofNode node) }
  else if node.name = "load-balancer" then
    return { found with balancer := some (← BalancerSettings.ofNode node) }
  else if node.name = "resolver" then
    return { found with resolver := ← ResolverSettings.ofNode node }
  else return found

/-- Without a `load-balancer` node the provider of the nodes makes the balancers. -/
def Found.finish (found : Found) : Except SettingsError Settings :=
  match found.compute with
  | some (.sakura zones) =>
    .ok ⟨.sakura zones, found.balancer.getD (.sakura BalancerSettings.standardPlan), found.resolver⟩
  | none => .error (.invalid .noCompute)

def ofDocument (document : Kdl.Document) : Except SettingsError Settings := do
  (← document.foldlM Found.add Found.empty).finish

/-- The settings that a text holds. -/
def ofText (text : String) : Except SettingsError Settings :=
  match Kdl.parse? text with
  | some document => ofDocument document
  | none => .error .notADocument

end Settings

end CloudBalance
