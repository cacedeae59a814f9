import CloudBalance.Balancer.Names
import CloudBalance.Node.Group

/-!
# One balancer at each location

The nodes that a filter accepts are grouped by location, and at each location, in the order of the
ids, one balancer is made and its name is looked up. The first failure stops the work; what was made
until then is part of the failure.
-/

namespace CloudBalance.Service

open Net (Address)
open Time (RetryPolicy)

/-- Makes the balancer of one group and looks its name up. `made` are the balancers before it. -/
def place (policy : RetryPolicy) (spec : BalancerSpec) (made : Report) (group : NodeGroup) :
    Attempt Service CloudError Report := do
  let location := group.location
  note .debug .balancer (">> creating load balancer (" ++ spec.name ++ ") at " ++ location.text
    ++ " for " ++ toString group.providerIds.length ++ " node(s)")
  match ← Attempt.outcome (create location spec group.providerIds) with
  | .error cause =>
    note .warn .balancer ("Creating load balancer " ++ spec.name ++ " failed at " ++ location.text
      ++ " after " ++ toString made.locations.length ++ " location(s)")
    throw (.createAborted location.id made cause)
  | .ok dnsName =>
    let outcome ←
      match ← resolveWithRetry policy dnsName with
      | some addresses => pure (Outcome.resolved dnsName addresses)
      | none =>
        note .warn .balancer ("Load balancer " ++ spec.name ++ " at " ++ location.text
          ++ " was created but " ++ dnsName ++ " did not resolve")
        pure (Outcome.unresolved dnsName)
    note .debug .balancer ("<< created load balancer (" ++ spec.name ++ ") DNS (" ++ dnsName ++ ")")
    return made.insert location outcome

/-- What is asked for: the name of the balancers, the protocol as the user wrote it, and the ports. -/
structure Request where
  name : String
  protocol : String
  balancerPort : UInt16
  instancePort : UInt16
  deriving DecidableEq, Repr

/-- Makes a balancer at each location of the live nodes that the filter accepts and reports what came
out. -/
def placeReport (policy : RetryPolicy) (filter : NodeFilter) (request : Request) :
    Attempt Service CloudError Report := do
  let protocol ← Protocol.parse request.protocol
  let spec := ⟨request.name, protocol, request.balancerPort, request.instancePort⟩
  let nodes ← list
  (NodeGroup.byLocation filter nodes).foldlM (place policy spec) Report.empty

/-- The failure of one creation by itself. -/
def plainError : CloudError → CloudError
  | .createAborted _ _ cause => cause
  | other => other

/-- As `placeReport`, with the addresses of all balancers as the result. -/
def placeAddresses (policy : RetryPolicy) (filter : NodeFilter) (request : Request) :
    Attempt Service CloudError (List Address) := do
  return (← ExceptT.adapt plainError (placeReport policy filter request)).addresses

/-- Destroys the balancer that answers on an address, if there is one. -/
def destroyAt (address : Address) : Attempt Service CloudError Unit := do
  note .debug .balancer (">> destroying load balancer (" ++ address.text ++ ")")
  let successful ← destroy address
  note .debug .balancer ("<< destroyed load balancer (" ++ address.text ++ ") success ("
    ++ (if successful then "true" else "false") ++ ")")

end CloudBalance.Service
