import CloudBalance.Balancer.Spec
import CloudBalance.Location
import CloudBalance.Sakura.Tool
import CloudBalance.Text.Column
import CloudBalance.Text.Start

/-!
# Balancers at Sakura Cloud

One enhanced load balancer for each zone, in the region of the zone and with a tag that marks it as
ours; the balancers themselves belong to no zone. It is found again by its virtual address or by its
name, and it is deleted only if no other one of ours answers on the same address.
-/

namespace CloudBalance.Sakura

open Net (Address)

/-- The tag of the balancers that are ours. -/
def managedTag : String := "nimbus"

/-- The plan, unless the settings name another one. -/
def standardPlan : UInt32 := 100

/-- The region that a zone belongs to. -/
def regionOfZone (zone : String) : String :=
  if Text.hasStart "tk1" zone then "tk1"
  else if Text.hasStart "is1" zone then "is1"
  else "anycast"

/-! ## Making -/

/-- The word for a protocol. -/
def modeOf : Protocol → String
  | .http => "http"
  | .tcp => "tcp"

/-- The parameters of the balancer at a location. -/
def parametersOf (location : Location) (spec : BalancerSpec) (plan : UInt32)
    (addresses : List String) : Parameters where
  name := spec.nameAt location.id
  plan := plan
  region := regionOfZone location.id
  healthCheck := ⟨modeOf spec.protocol, 10, if spec.protocol = .http then some "/" else none⟩
  bindPorts := [⟨modeOf spec.protocol, spec.balancerPort⟩]
  servers := addresses.map (⟨·, spec.instancePort, true⟩)
  tags := [managedTag]

/-- The address of the server of an id. -/
def serverAddress (zone id : String) : Call String := do
  match (← readServer (some zone) id).sharedAddress with
  | some address => return address
  | none => throw (.serverWithoutAddress id)

/-- The addresses of servers in a zone, in the order of their ids. -/
def serverAddresses (zone : String) (ids : List String) : Call (List String) :=
  (Text.sortedSet ids).mapM (serverAddress zone)

/-- Makes the balancer at a location and returns its name. -/
def create (plan : UInt32) (location : Location) (spec : BalancerSpec) (ids : List String) :
    Call String := do
  let parameters := parametersOf location spec plan (← serverAddresses location.id ids)
  World.note .info .sakuraBalancer ("Creating enhanced load balancer " ++ parameters.name ++ " ("
    ++ toString parameters.servers.length ++ " server(s))")
  let balancer ← createBalancer none parameters
  match balancer.fqdn.filter (!·.isEmpty) with
  | some fqdn => return fqdn
  | none => throw (.balancerWithoutName balancer.name)

/-! ## Destroying -/

def isManaged (balancer : Balancer) : Bool :=
  balancer.tags.contains managedTag

/-- Whether the balancer answers on an address, by its virtual address or else by its name. -/
def answersOn (address : Address) (balancer : Balancer) : Program World Bool := do
  if balancer.virtualIp = some address then return true
  match balancer.fqdn with
  | none => return false
  | some fqdn =>
    match ← World.resolve fqdn with
    | .ok addresses => return addresses.contains address
    | .error e =>
      World.note .debug .sakuraBalancer ("Skipping " ++ balancer.name ++ ": " ++ e.message)
      return false

/-- Those of our balancers that answer on an address. -/
def candidates (address : Address) (balancers : List Balancer) : Program World (List Balancer) :=
  (balancers.filter isManaged).filterM (answersOn address)

/-- The one balancer to delete, if there is one. Nothing is deleted on a guess. -/
def deletionTarget (address : Address) : List Balancer → Except CloudError (Option Balancer)
  | [] => .ok none
  | [balancer] => .ok (some balancer)
  | many => .error (.invalidArgument (address.text
      ++ " answers on more than one enhanced load balancer: "
      ++ ", ".intercalate (many.map (·.name))))

/-- Deletes the balancer of ours that answers on an address; whether there was one. -/
def destroy (address : Address) : Attempt World CloudError Bool := do
  let balancers ← ExceptT.adapt SakuraError.toCloudError (listBalancers none)
  match ← deletionTarget address (← candidates address balancers) with
  | some balancer =>
    World.note .info .sakuraBalancer
      ("Deleting enhanced load balancer " ++ balancer.name ++ " (" ++ balancer.id ++ ")")
    ExceptT.adapt SakuraError.toCloudError (deleteBalancer none balancer.id)
    return true
  | none =>
    World.note .debug .sakuraBalancer
      ("No managed enhanced load balancer answers on " ++ address.text)
    return false

end CloudBalance.Sakura
