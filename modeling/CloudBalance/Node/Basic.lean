import CloudBalance.Location
import CloudBalance.Net.Json

/-!
# Nodes

The machines that a provider runs, as a listing shows them.
-/

namespace CloudBalance

open Net (Address)

/-- Where a node is in its life. -/
inductive NodeState where
  | pending
  | running
  | suspended
  | terminated
  | error
  | unrecognized
  deriving DecidableEq, Repr

namespace NodeState

def text : NodeState → String
  | .pending => "pending"
  | .running => "running"
  | .suspended => "suspended"
  | .terminated => "terminated"
  | .error => "error"
  | .unrecognized => "unrecognized"

def ofText? : String → Option NodeState
  | "pending" => some .pending
  | "running" => some .running
  | "suspended" => some .suspended
  | "terminated" => some .terminated
  | "error" => some .error
  | "unrecognized" => some .unrecognized
  | _ => none

end NodeState

structure Node where
  /-- The id in the listing of all providers' nodes. -/
  id : String
  /-- The id that the provider uses. -/
  providerId : String
  name : String
  group : Option String
  tags : List String
  location : Location
  state : NodeState
  publicAddresses : List Address
  privateAddresses : List Address
  deriving DecidableEq, Repr

namespace Node

def isTerminated (node : Node) : Bool :=
  node.state == .terminated

/-- The first public address, or else the first private one. -/
def primaryAddress (node : Node) : Option Address :=
  node.publicAddresses.head?.or node.privateAddresses.head?

/-- The nodes that a filter accepts. -/
def listMatching (filter : Node → Bool) (nodes : List Node) : List Node :=
  nodes.filter filter

/-- The first node of an id. -/
def find? (id : String) (nodes : List Node) : Option Node :=
  nodes.find? (·.id == id)

def toJson (node : Node) : Json :=
  .object [("id", .string node.id), ("provider_id", .string node.providerId),
    ("name", .string node.name), ("group", .ofOption .string node.group),
    ("tags", .strings node.tags), ("location", node.location.toJson),
    ("state", .string node.state.text),
    ("public_addresses", .ofList Address.toJson node.publicAddresses),
    ("private_addresses", .ofList Address.toJson node.privateAddresses)]

def ofJson? (value : Json) : Option Node := do
  match ← value.slots? ["id", "provider_id", "name", "group", "tags", "location", "state",
      "public_addresses", "private_addresses"] with
  | [id, providerId, name, group, tags, location, state, publicAddresses, privateAddresses] =>
    return {
      id := ← id.required Json.toString?
      providerId := ← providerId.required Json.toString?
      name := ← name.required Json.toString?
      group := ← group.optional Json.toString?
      tags := ← tags.required (Json.toList? Json.toString?)
      location := ← location.required Location.ofJson?
      state := ← state.required fun v => v.toChoice?.bind NodeState.ofText?
      publicAddresses := ← publicAddresses.required (Json.toList? Address.ofJson?)
      privateAddresses := ← privateAddresses.required (Json.toList? Address.ofJson?) }
  | _ => none

end Node

end CloudBalance
