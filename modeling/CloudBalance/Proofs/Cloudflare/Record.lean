import CloudBalance.Cloudflare.Record
import CloudBalance.Proofs.Json.Decode

/-!
# Records as Cloudflare tells them

The values in which the provider tells of balancers and pools. Main statements: from such a value the record is
read, and it can be written as a text.
-/

namespace CloudBalance.Cloudflare

/-- How a balancer is told. -/
def Balancer.toJson (balancer : Balancer) : Json :=
  .object [("id", .string balancer.id), ("name", .string balancer.name),
    ("description", .ofOption .string balancer.description), ("default_pools", .strings balancer.defaultPools),
    ("fallback_pool", .ofOption .string balancer.fallbackPool), ("proxied", .bool balancer.proxied)]

theorem Balancer.ofJson?_toJson (balancer : Balancer) : Balancer.ofJson? balancer.toJson = some balancer := by
  have slots := Json.slots?_object balancer.toJson
    ["id", "name", "description", "default_pools", "fallback_pool", "proxied"] rfl rfl (by decide)
  simp only [Balancer.ofJson?, slots, List.map, Option.bind_eq_bind, Option.bind_some, Json.Slot.required,
    Json.Slot.orElse, Json.toString?, Json.toBool?, Json.toOption?_ofOption, Json.toList?_strings]
  rfl

theorem Balancer.isPlain_toJson (balancer : Balancer) : balancer.toJson.IsPlain := by
  simp [Balancer.toJson, Json.IsPlain, Json.MembersPlain, Json.isPlain_optionalText, Json.isPlain_strings]

theorem Origin.ofJson?_toJson (origin : Origin) : Origin.ofJson? origin.toJson = some origin := by
  obtain ⟨name, address, enabled, port⟩ := origin
  cases port with
  | none =>
    have slots : (Origin.toJson ⟨name, address, enabled, none⟩).slots? ["name", "address", "enabled", "port"] =
        some [.given (.string name), .given (.string address), .given (.bool enabled), .absent] := by
      rw [Origin.toJson, Json.present]
      rfl
    rw [Origin.ofJson?, slots]
    rfl
  | some port =>
    have slots : (Origin.toJson ⟨name, address, enabled, some port⟩).slots? ["name", "address", "enabled", "port"] =
        some [.given (.string name), .given (.string address), .given (.bool enabled), .given (.ofNat port.toNat)] :=
      Json.slots?_object _ _ rfl rfl (by decide)
    have number : (Json.toNatBelow? UInt16.size (Json.ofNat port.toNat)).map Nat.toUInt16 = some port := by
      have same : port.toNat.toUInt16 = port := UInt16.ofNat_toNat
      rw [UInt16.size, Json.toNatBelow?_ofNat port.toNat_lt, Option.map_some, same]
    have told : (Json.ofNat port.toNat).toOption? (fun v => (Json.toNatBelow? UInt16.size v).map Nat.toUInt16) =
        some (some port) := congrArg (Option.map some) number
    simp only [Origin.ofJson?, slots, Option.bind_eq_bind, Option.bind_some, Json.Slot.required,
      Json.Slot.orElse, Json.toString?, Json.toBool?, told]
    rfl

theorem Origin.isPlain_toJson (origin : Origin) : origin.toJson.IsPlain := by
  obtain ⟨name, address, enabled, port⟩ := origin
  cases port with
  | none => simp [Origin.toJson, Json.present, Json.IsPlain, Json.MembersPlain]
  | some port =>
    have small := Json.isPlain_ofNat (Nat.lt_trans port.toNat_lt (by decide))
    simp [Origin.toJson, Json.present, Json.IsPlain, Json.MembersPlain, small]

/-- How a pool is told. -/
def Pool.toJson (pool : Pool) : Json :=
  .object [("id", .string pool.id), ("name", .string pool.name), ("origins", .ofList Origin.toJson pool.origins)]

theorem Pool.ofJson?_toJson (pool : Pool) : Pool.ofJson? pool.toJson = some pool := by
  have slots := Json.slots?_object pool.toJson ["id", "name", "origins"] rfl rfl (by decide)
  have origins : (Json.ofList Origin.toJson pool.origins).toList? Origin.ofJson? = some pool.origins :=
    Json.toList?_ofList fun origin _ => origin.ofJson?_toJson
  simp only [Pool.ofJson?, slots, List.map, Option.bind_eq_bind, Option.bind_some, Json.Slot.required,
    Json.Slot.orElse, Json.toString?, origins]
  rfl

theorem Pool.isPlain_toJson (pool : Pool) : pool.toJson.IsPlain := by
  simp only [Pool.toJson, Json.IsPlain, Json.MembersPlain, true_and, and_true]
  exact Json.isPlain_ofList fun origin _ => origin.isPlain_toJson

end CloudBalance.Cloudflare
