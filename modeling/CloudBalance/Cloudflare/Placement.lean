import CloudBalance.AuthStatus
import CloudBalance.Balancer.Spec
import CloudBalance.Cloudflare.Client
import CloudBalance.Node.Basic
import CloudBalance.Text.Column
import CloudBalance.Text.Lowercase
import CloudBalance.Text.Start

/-!
# Balancers at Cloudflare

At each location a pool of origins and a balancer in front of it, whose name lies under the domain of
the account. The description marks a balancer as ours. It is found again by its name, and it is
deleted, with its pools, only if no other one of ours answers on the same address.
-/

namespace CloudBalance.Cloudflare

open Net (Address)

/-- How users see the name of the provider. -/
def displayName : String := "Cloudflare"

/-- The start of the description of what is ours. -/
def managedStart : String := "nimbus "

def isManaged (balancer : Balancer) : Bool :=
  balancer.description.any (Text.hasStart managedStart)

/-! ## Making -/

/-- The name of the balancer at a location. -/
def hostname (account : Account) (location : Location) (spec : BalancerSpec) : String :=
  Text.lowercase (spec.nameAt location.id ++ "." ++ account.domain)

/-- The origin that a node becomes, if it has an address. -/
def originOf (instancePort : UInt16) (node : Node) : Option Origin :=
  node.primaryAddress.map fun address => ⟨node.name, address.text, true, some instancePort⟩

/-- The origins of the nodes at a location whose ids are among `ids`, by name. -/
def originsFor (nodes : List Node) (location : Location) (ids : List String)
    (instancePort : UInt16) : List Origin :=
  let chosen := nodes.filter fun node => node.location == location && ids.contains node.providerId
  Text.sortBy (·.name) (chosen.filterMap (originOf instancePort))

/-- The description of what is made for a spec. -/
def descriptionOf (spec : BalancerSpec) : String :=
  managedStart ++ spec.protocol.text ++ " " ++ toString spec.balancerPort ++ "->"
    ++ toString spec.instancePort

/-- Makes the pool and the balancer at a location and returns the balancer's name. `list` lists the
nodes. -/
def create (account : Account) (list : Attempt World CloudError (List Node)) (location : Location)
    (spec : BalancerSpec) (ids : List String) : Attempt World CloudError String := do
  let origins := originsFor (← list) location ids spec.instancePort
  if origins.isEmpty then
    throw (CloudflareError.noOrigins (Text.sortedSet ids)).toCloudError
  let name := spec.nameAt location.id
  World.note .info .cloudflareBalancer
    ("Creating Cloudflare pool " ++ name ++ " (" ++ toString origins.length ++ " origin(s))")
  let description := descriptionOf spec
  let pool ← ExceptT.adapt CloudflareError.toCloudError
    (createPool account ⟨name, description, origins⟩)
  let host := hostname account location spec
  World.note .info .cloudflareBalancer ("Creating Cloudflare load balancer " ++ host)
  let balancer ← ExceptT.adapt CloudflareError.toCloudError
    (createBalancer account ⟨host, description, [pool.id], pool.id, spec.protocol == .http⟩)
  return balancer.name

/-! ## Destroying -/

/-- Whether the name of a balancer leads to an address. -/
def answersOn (address : Address) (balancer : Balancer) : Program World Bool := do
  match ← World.resolve balancer.name with
  | .ok addresses => return addresses.contains address
  | .error e =>
    World.note .debug .cloudflareBalancer ("Skipping " ++ balancer.name ++ ": " ++ e.message)
    return false

/-- Those of our balancers that answer on an address. -/
def candidates (address : Address) (balancers : List Balancer) : Program World (List Balancer) :=
  (balancers.filter isManaged).filterM (answersOn address)

/-- The one balancer to delete, if there is one. Nothing is deleted on a guess. -/
def deletionTarget (address : Address) : List Balancer → Except CloudError (Option Balancer)
  | [] => .ok none
  | [balancer] => .ok (some balancer)
  | many => .error (.invalidArgument (address.text
      ++ " resolves to more than one Cloudflare load balancer: "
      ++ ", ".intercalate (many.map (·.name))))

/-- Deletes pools one after another. -/
def deletePools (account : Account) : List String → Call Unit
  | [] => return ()
  | id :: rest => do
    World.note .info .cloudflareBalancer ("Deleting Cloudflare pool " ++ id)
    deletePool account id
    deletePools account rest

/-- Deletes a balancer and then its pools. -/
def deleteWithPools (account : Account) (balancer : Balancer) : Call Unit := do
  World.note .info .cloudflareBalancer ("Deleting Cloudflare load balancer " ++ balancer.name)
  deleteBalancer account balancer.id
  deletePools account balancer.poolIds

/-- Deletes the balancer of ours that answers on an address; whether there was one. -/
def destroy (account : Account) (address : Address) : Attempt World CloudError Bool := do
  let balancers ← ExceptT.adapt CloudflareError.toCloudError (listBalancers account)
  match ← deletionTarget address (← candidates address balancers) with
  | some balancer =>
    ExceptT.adapt CloudflareError.toCloudError (deleteWithPools account balancer)
    return true
  | none =>
    World.note .debug .cloudflareBalancer
      ("No managed Cloudflare load balancer resolves to " ++ address.text)
    return false

/-! ## Authentication -/

/-- Whether the token of the account is taken. -/
def authStatus (account : Account) : Program World AuthStatus := do
  match ← (verifyToken account).run with
  | .ok token =>
    if token.status = "active" then
      return .ok ("token " ++ token.id ++ " (" ++ account.domain ++ ")")
    else return .failed ("API token is " ++ token.status)
  | .error e => return .failed e.message

end CloudBalance.Cloudflare
