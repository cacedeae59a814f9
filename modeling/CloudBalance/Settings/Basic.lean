import CloudBalance.Json.Decode

/-!
# Settings

Where the nodes are listed, who makes the balancers, and how long to wait for their names.
-/

namespace CloudBalance

open Json (Slot)

/-- Where the nodes come from: the zones of Sakura Cloud that are listed. -/
inductive ComputeSettings where
  | sakura (zones : List String)
  deriving DecidableEq, Repr

/-- Who makes the balancers. -/
inductive BalancerSettings where
  | sakura (plan : UInt32)
  | cloudflare (accountId zoneId domain tokenVariable : String) (apiBase : Option String)
  deriving DecidableEq, Repr

/-- How often, and with how many milliseconds in between, the name of a new balancer is looked up. -/
structure ResolverSettings where
  attempts : UInt32
  delayMs : UInt64
  deriving DecidableEq, Repr

structure Settings where
  compute : ComputeSettings
  balancer : BalancerSettings
  resolver : ResolverSettings
  deriving DecidableEq, Repr

/-! ## Defaults -/

/-- The plan of a balancer of Sakura Cloud, in connections per second. -/
def BalancerSettings.standardPlan : UInt32 := 100

/-- The variable of the environment that holds the token of Cloudflare. -/
def BalancerSettings.standardTokenVariable : String := "CLOUDFLARE_API_TOKEN"

def ResolverSettings.standard : ResolverSettings := ⟨3, 1000⟩

/-- The name under which the provider's balancers are recorded. -/
def BalancerSettings.providerName : BalancerSettings → String
  | .sakura _ => "sakura-cloud"
  | .cloudflare .. => "cloudflare"

/-! ## JSON -/

namespace ComputeSettings

def toJson : ComputeSettings → Json
  | .sakura zones => .object [("provider", .string "sakura"), ("zones", .strings zones)]

def ofJson? (value : Json) : Option ComputeSettings := do
  match ← value.tagged? "provider" (Json.maxDepth - 1) with
  | ("sakura", fields) =>
    match ← fields.slots? ["zones"] with
    | [zones] => return .sakura (← zones.required (Json.toList? Json.toString?))
    | _ => none
  | _ => none

end ComputeSettings

namespace BalancerSettings

def toJson : BalancerSettings → Json
  | .sakura plan => .object [("provider", .string "sakura"), ("plan", .ofNat plan.toNat)]
  | .cloudflare accountId zoneId domain tokenVariable apiBase =>
    .object [("provider", .string "cloudflare"), ("account_id", .string accountId),
      ("zone_id", .string zoneId), ("domain", .string domain),
      ("api_token_env", .string tokenVariable), ("api_base", .ofOption .string apiBase)]

def ofJson? (value : Json) : Option BalancerSettings := do
  match ← value.tagged? "provider" (Json.maxDepth - 1) with
  | ("sakura", fields) =>
    match ← fields.slots? ["plan"] with
    | [plan] => return .sakura (← plan.required (Json.toNatBelow? UInt32.size)).toUInt32
    | _ => none
  | ("cloudflare", fields) =>
    match ← fields.slots? ["account_id", "zone_id", "domain", "api_token_env", "api_base"] with
    | [accountId, zoneId, domain, tokenVariable, apiBase] =>
      return .cloudflare (← accountId.required Json.toString?) (← zoneId.required Json.toString?)
        (← domain.required Json.toString?) (← tokenVariable.required Json.toString?)
        (← apiBase.optional Json.toString?)
    | _ => none
  | _ => none

end BalancerSettings

namespace ResolverSettings

def toJson (settings : ResolverSettings) : Json :=
  .object [("attempts", .ofNat settings.attempts.toNat), ("delay_ms", .ofNat settings.delayMs.toNat)]

def ofJson? (value : Json) : Option ResolverSettings := do
  match ← value.slots? ["attempts", "delay_ms"] with
  | [attempts, delayMs] =>
    return ⟨(← attempts.required (Json.toNatBelow? UInt32.size)).toUInt32,
      (← delayMs.required (Json.toNatBelow? UInt64.size)).toUInt64⟩
  | _ => none

end ResolverSettings

namespace Settings

def toJson (settings : Settings) : Json :=
  .object [("compute", settings.compute.toJson), ("load_balancer", settings.balancer.toJson),
    ("resolver", settings.resolver.toJson)]

def ofJson? (value : Json) : Option Settings := do
  match ← value.slots? ["compute", "load_balancer", "resolver"] with
  | [compute, balancer, resolver] =>
    return ⟨← compute.required ComputeSettings.ofJson?,
      ← balancer.required BalancerSettings.ofJson?, ← resolver.required ResolverSettings.ofJson?⟩
  | _ => none

end Settings

end CloudBalance
