import CloudBalance.Json.Decode

/-!
# Records of Cloudflare

The records that requests carry and that replies hold. A reply is an envelope: whether the request
succeeded, its result, and what went wrong if it did not succeed.
-/

namespace CloudBalance.Cloudflare

/-! ## Replies -/

/-- What went wrong. -/
structure Fault where
  code : Int
  message : String
  deriving DecidableEq, Repr

def Fault.ofJson? (value : Json) : Option Fault := do
  match ← value.slots? ["code", "message"] with
  | [code, message] =>
    return ⟨← code.required (Json.toIntIn? Int32.minValue.toInt Int32.maxValue.toInt),
      ← message.required Json.toString?⟩
  | _ => none

structure Envelope (α : Type) where
  success : Bool
  result : Option α
  faults : List Fault
  deriving DecidableEq, Repr

def Envelope.ofJson? {α : Type} (decode : Json → Option α) (value : Json) :
    Option (Envelope α) := do
  match ← value.slots? ["success", "result", "errors"] with
  | [success, result, faults] =>
    return ⟨← success.required Json.toBool?, ← result.optional decode,
      ← faults.orElse [] (Json.toList? Fault.ofJson?)⟩
  | _ => none

/-- What a deletion deleted. -/
def deletedOfJson? (value : Json) : Option String := do
  match ← value.slots? ["id"] with
  | [id] => id.required Json.toString?
  | _ => none

/-- What is known of a token. -/
structure Token where
  id : String
  status : String
  deriving DecidableEq, Repr

def Token.ofJson? (value : Json) : Option Token := do
  match ← value.slots? ["id", "status"] with
  | [id, status] => return ⟨← id.required Json.toString?, ← status.required Json.toString?⟩
  | _ => none

/-! ## Pools -/

/-- A node to which a pool sends its traffic. -/
structure Origin where
  name : String
  address : String
  enabled : Bool
  port : Option UInt16
  deriving DecidableEq, Repr

namespace Origin

def toJson (origin : Origin) : Json :=
  .present [some ("name", .string origin.name), some ("address", .string origin.address),
    some ("enabled", .bool origin.enabled),
    origin.port.map fun port => ("port", .ofNat port.toNat)]

def ofJson? (value : Json) : Option Origin := do
  match ← value.slots? ["name", "address", "enabled", "port"] with
  | [name, address, enabled, port] =>
    let number := fun v => (Json.toNatBelow? UInt16.size v).map Nat.toUInt16
    return ⟨← name.required Json.toString?, ← address.required Json.toString?,
      ← enabled.required Json.toBool?, ← port.orElse none (Json.toOption? number)⟩
  | _ => none

end Origin

structure Pool where
  id : String
  name : String
  origins : List Origin
  deriving DecidableEq, Repr

def Pool.ofJson? (value : Json) : Option Pool := do
  match ← value.slots? ["id", "name", "origins"] with
  | [id, name, origins] =>
    return ⟨← id.required Json.toString?, ← name.required Json.toString?,
      ← origins.orElse [] (Json.toList? Origin.ofJson?)⟩
  | _ => none

/-- A pool to be made. -/
structure NewPool where
  name : String
  description : String
  origins : List Origin
  deriving DecidableEq, Repr

def NewPool.toJson (pool : NewPool) : Json :=
  .object [("name", .string pool.name), ("description", .string pool.description),
    ("origins", .ofList Origin.toJson pool.origins)]

/-! ## Balancers -/

structure Balancer where
  id : String
  name : String
  description : Option String
  defaultPools : List String
  fallbackPool : Option String
  proxied : Bool
  deriving DecidableEq, Repr

namespace Balancer

def ofJson? (value : Json) : Option Balancer := do
  match ← value.slots? ["id", "name", "description", "default_pools", "fallback_pool",
      "proxied"] with
  | [id, name, description, defaultPools, fallbackPool, proxied] =>
    let text := Json.toOption? Json.toString?
    return ⟨← id.required Json.toString?, ← name.required Json.toString?,
      ← description.orElse none text, ← defaultPools.orElse [] (Json.toList? Json.toString?),
      ← fallbackPool.orElse none text, ← proxied.orElse false Json.toBool?⟩
  | _ => none

/-- The pools that the balancer uses, the fallback pool last if it is not among the others. -/
def poolIds (balancer : Balancer) : List String :=
  match balancer.fallbackPool with
  | some fallback =>
    if balancer.defaultPools.contains fallback then balancer.defaultPools
    else balancer.defaultPools ++ [fallback]
  | none => balancer.defaultPools

end Balancer

/-- A balancer to be made. -/
structure NewBalancer where
  name : String
  description : String
  defaultPools : List String
  fallbackPool : String
  proxied : Bool
  deriving DecidableEq, Repr

def NewBalancer.toJson (balancer : NewBalancer) : Json :=
  .object [("name", .string balancer.name), ("description", .string balancer.description),
    ("default_pools", .strings balancer.defaultPools),
    ("fallback_pool", .string balancer.fallbackPool), ("proxied", .bool balancer.proxied)]

end CloudBalance.Cloudflare
