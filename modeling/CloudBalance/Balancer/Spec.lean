import CloudBalance.Json.Decode

/-!
# What to build

The protocol that a balancer forwards, and what it is to be at each location: its name, the port
that it listens on and the port of the nodes behind it.
-/

namespace CloudBalance

inductive Protocol where
  | http
  | tcp
  deriving DecidableEq, Repr

namespace Protocol

def text : Protocol → String
  | .http => "HTTP"
  | .tcp => "TCP"

def ofText? : String → Option Protocol
  | "HTTP" => some .http
  | "TCP" => some .tcp
  | _ => none

/-- The protocol that a user names; letters of either case will do. -/
def parse? (text : String) : Option Protocol :=
  ofText? (String.ofList (text.toList.map Char.toUpper))

end Protocol

structure BalancerSpec where
  name : String
  protocol : Protocol
  balancerPort : UInt16
  instancePort : UInt16
  deriving DecidableEq, Repr

namespace BalancerSpec

def toJson (spec : BalancerSpec) : Json :=
  .object [("name", .string spec.name), ("protocol", .string spec.protocol.text),
    ("load_balancer_port", .ofNat spec.balancerPort.toNat),
    ("instance_port", .ofNat spec.instancePort.toNat)]

def ofJson? (value : Json) : Option BalancerSpec := do
  match ← value.slots? ["name", "protocol", "load_balancer_port", "instance_port"] with
  | [name, protocol, balancerPort, instancePort] =>
    return ⟨← name.required Json.toString?,
      ← protocol.required fun v => v.toChoice?.bind Protocol.ofText?,
      (← balancerPort.required (Json.toNatBelow? UInt16.size)).toUInt16,
      (← instancePort.required (Json.toNatBelow? UInt16.size)).toUInt16⟩
  | _ => none

/-- The name of what is made at a location. -/
def nameAt (spec : BalancerSpec) (locationId : String) : String :=
  spec.name ++ "-" ++ locationId

end BalancerSpec

end CloudBalance
