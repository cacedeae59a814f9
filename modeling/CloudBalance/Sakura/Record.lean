import CloudBalance.Net.Json

/-!
# Records of Sakura Cloud

The records that `usacloud` prints, and the parameters that it takes for a new balancer. An id is
printed as a number or as a text, whichever the version of the tool prefers.
-/

namespace CloudBalance.Sakura

open Net (Address)

/-- An id in either form. -/
def idOfJson? : Json → Option String
  | .number (.integer n) => if 0 ≤ n then some (toString n) else none
  | .string text => some text
  | _ => none

/-- An integer of 32 bits with sign. -/
def int32OfJson? (value : Json) : Option Int32 :=
  (value.toIntIn? Int32.minValue.toInt Int32.maxValue.toInt).map Int32.ofInt

/-! ## Accounts -/

structure Account where
  id : String
  name : String
  deriving DecidableEq, Repr

namespace Account

def toJson (account : Account) : Json :=
  .object [("ID", .string account.id), ("Name", .string account.name)]

def ofJson? (value : Json) : Option Account := do
  match ← value.slots? ["ID", "Name"] with
  | [id, name] => return ⟨← id.required idOfJson?, ← name.required Json.toString?⟩
  | _ => none

end Account

/-- Who is logged in. -/
structure Login where
  account : Option Account
  deriving DecidableEq, Repr

namespace Login

def toJson (login : Login) : Json :=
  .object [("Account", .ofOption Account.toJson login.account)]

def ofJson? (value : Json) : Option Login := do
  match ← value.slots? ["Account"] with
  | [account] => return ⟨← account.optional Account.ofJson?⟩
  | _ => none

end Login

/-! ## Servers -/

/-- An interface of a server: its address on the shared segment, or on a switch. -/
structure Interface where
  address : Option String
  userAddress : Option String
  deriving DecidableEq, Repr

namespace Interface

def toJson (interface : Interface) : Json :=
  .object [("IPAddress", .ofOption .string interface.address),
    ("UserIPAddress", .ofOption .string interface.userAddress)]

def ofJson? (value : Json) : Option Interface := do
  match ← value.slots? ["IPAddress", "UserIPAddress"] with
  | [address, userAddress] =>
    return ⟨← address.optional Json.toString?,
      ← userAddress.orElse none (Json.toOption? Json.toString?)⟩
  | _ => none

end Interface

structure Server where
  id : String
  name : String
  tags : List String
  cpu : Option Int32
  memoryMb : Option Int32
  instanceStatus : Option String
  interfaces : Option (List Interface)
  deriving DecidableEq, Repr

namespace Server

/-- The first address on the shared segment, as it is written. -/
def sharedAddress (server : Server) : Option String :=
  (server.interfaces.getD []).findSome? (·.address)

/-- The addresses on switches. -/
def userAddresses (server : Server) : List Address :=
  (server.interfaces.getD []).filterMap fun i => i.userAddress.bind Address.parse?

def isRunning (server : Server) : Bool :=
  server.instanceStatus == some "up"

def toJson (server : Server) : Json :=
  .object [("ID", .string server.id), ("Name", .string server.name),
    ("Tags", .strings server.tags), ("CPU", .ofOption (fun n => .ofInt n.toInt) server.cpu),
    ("MemoryMB", .ofOption (fun n => .ofInt n.toInt) server.memoryMb),
    ("InstanceStatus", .ofOption .string server.instanceStatus),
    ("Interfaces", .ofOption (.ofList Interface.toJson) server.interfaces)]

def ofJson? (value : Json) : Option Server := do
  match ← value.slots? ["ID", "Name", "Tags", "CPU", "MemoryMB", "InstanceStatus",
      "Interfaces"] with
  | [id, name, tags, cpu, memoryMb, instanceStatus, interfaces] =>
    return ⟨← id.required idOfJson?, ← name.required Json.toString?,
      ← tags.orElse [] (Json.toList? Json.toString?), ← cpu.optional int32OfJson?,
      ← memoryMb.optional int32OfJson?, ← instanceStatus.optional Json.toString?,
      ← interfaces.optional (Json.toList? Interface.ofJson?)⟩
  | _ => none

end Server

/-! ## Balancers -/

/-- An enhanced load balancer. -/
structure Balancer where
  id : String
  name : String
  fqdn : Option String
  virtualAddress : Option String
  region : Option String
  tags : List String
  deriving DecidableEq, Repr

namespace Balancer

/-- The virtual address, if it is one. -/
def virtualIp (balancer : Balancer) : Option Address :=
  balancer.virtualAddress.bind Address.parse?

def toJson (balancer : Balancer) : Json :=
  .object [("ID", .string balancer.id), ("Name", .string balancer.name),
    ("FQDN", .ofOption .string balancer.fqdn),
    ("VirtualIPAddress", .ofOption .string balancer.virtualAddress),
    ("Region", .ofOption .string balancer.region), ("Tags", .strings balancer.tags)]

def ofJson? (value : Json) : Option Balancer := do
  match ← value.slots? ["ID", "Name", "FQDN", "VirtualIPAddress", "Region", "Tags"] with
  | [id, name, fqdn, virtualAddress, region, tags] =>
    let text := Json.toOption? Json.toString?
    return ⟨← id.required idOfJson?, ← name.required Json.toString?, ← fqdn.orElse none text,
      ← virtualAddress.orElse none text, ← region.orElse none text,
      ← tags.orElse [] (Json.toList? Json.toString?)⟩
  | _ => none

end Balancer

/-! ## Parameters of a new balancer -/

/-- How the balancer finds out whether a server is alive. -/
structure HealthCheck where
  protocol : String
  delayLoop : UInt32
  path : Option String
  deriving DecidableEq, Repr

namespace HealthCheck

def toJson (check : HealthCheck) : Json :=
  .present [some ("Protocol", .string check.protocol),
    some ("DelayLoop", .ofNat check.delayLoop.toNat),
    check.path.map fun path => ("Path", .string path)]

def ofJson? (value : Json) : Option HealthCheck := do
  match ← value.slots? ["Protocol", "DelayLoop", "Path"] with
  | [protocol, delayLoop, path] =>
    return ⟨← protocol.required Json.toString?,
      (← delayLoop.required (Json.toNatBelow? UInt32.size)).toUInt32, ← path.optional Json.toString?⟩
  | _ => none

end HealthCheck

/-- A port that the balancer listens on. -/
structure BindPort where
  mode : String
  port : UInt16
  deriving DecidableEq, Repr

namespace BindPort

def toJson (bind : BindPort) : Json :=
  .object [("ProxyMode", .string bind.mode), ("Port", .ofNat bind.port.toNat)]

def ofJson? (value : Json) : Option BindPort := do
  match ← value.slots? ["ProxyMode", "Port"] with
  | [mode, port] =>
    return ⟨← mode.required Json.toString?, (← port.required (Json.toNatBelow? UInt16.size)).toUInt16⟩
  | _ => none

end BindPort

/-- A server behind the balancer. -/
structure Target where
  address : String
  port : UInt16
  enabled : Bool
  deriving DecidableEq, Repr

namespace Target

def toJson (target : Target) : Json :=
  .object [("IPAddress", .string target.address), ("Port", .ofNat target.port.toNat),
    ("Enabled", .bool target.enabled)]

def ofJson? (value : Json) : Option Target := do
  match ← value.slots? ["IPAddress", "Port", "Enabled"] with
  | [address, port, enabled] =>
    return ⟨← address.required Json.toString?, (← port.required (Json.toNatBelow? UInt16.size)).toUInt16,
      ← enabled.required Json.toBool?⟩
  | _ => none

end Target

structure Parameters where
  name : String
  plan : UInt32
  region : String
  healthCheck : HealthCheck
  bindPorts : List BindPort
  servers : List Target
  tags : List String
  deriving DecidableEq, Repr

namespace Parameters

def toJson (parameters : Parameters) : Json :=
  .object [("Name", .string parameters.name), ("Plan", .ofNat parameters.plan.toNat),
    ("Region", .string parameters.region), ("HealthCheck", parameters.healthCheck.toJson),
    ("BindPorts", .ofList BindPort.toJson parameters.bindPorts),
    ("Servers", .ofList Target.toJson parameters.servers), ("Tags", .strings parameters.tags)]

def ofJson? (value : Json) : Option Parameters := do
  match ← value.slots? ["Name", "Plan", "Region", "HealthCheck", "BindPorts", "Servers",
      "Tags"] with
  | [name, plan, region, healthCheck, bindPorts, servers, tags] =>
    return ⟨← name.required Json.toString?, (← plan.required (Json.toNatBelow? UInt32.size)).toUInt32,
      ← region.required Json.toString?, ← healthCheck.required HealthCheck.ofJson?,
      ← bindPorts.required (Json.toList? BindPort.ofJson?),
      ← servers.required (Json.toList? Target.ofJson?),
      ← tags.required (Json.toList? Json.toString?)⟩
  | _ => none

end Parameters

end CloudBalance.Sakura
