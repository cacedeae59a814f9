import CloudBalance.AuthStatus
import CloudBalance.Node.Basic
import CloudBalance.Proofs.Cloudflare.Record
import CloudBalance.Proofs.Json.Compact
import CloudBalance.Proofs.Ledger.Text
import CloudBalance.Proofs.Sakura.Record
import CloudBalance.Settings.Basic

/-!
# Records that are read as they are written

Main statement: all records that are exchanged with the outside, or stored, are decoded from the values that they are
encoded as, and from either text of these values. Where the tool prints a server or a balancer, it may print the id as
a number or as a text.
-/

namespace CloudBalance

open Net (Address)

/-- What is encoded is decoded again, from the value itself, from the line and from the lines that are written for
it. -/
structure Json.RoundTrips {α : Type} (encode : α → Json) (decode : Json → Option α) : Prop where
  value : ∀ a, decode (encode a) = some a
  line : ∀ a, Json.decode? decode (encode a).compact = some a
  lines : ∀ a, Json.decode? decode (encode a).pretty = some a

theorem Json.roundTrips_of_plain {α : Type} {encode : α → Json} {decode : Json → Option α}
    (decodes : ∀ a, decode (encode a) = some a) (plain : ∀ a, (encode a).IsPlain) : RoundTrips encode decode where
  value := decodes
  line a := by rw [decode?, parse?_compact (plain a), Option.bind_some, decodes]
  lines a := by rw [decode?, parse?_pretty (plain a), Option.bind_some, decodes]

/-! ## Nodes -/

theorem Node.ofJson?_toJson (node : Node) : Node.ofJson? node.toJson = some node := by
  have state : NodeState.ofText? node.state.text = some node.state := by cases node.state <;> rfl
  have slots := Json.slots?_object node.toJson ["id", "provider_id", "name", "group", "tags", "location", "state",
    "public_addresses", "private_addresses"] rfl rfl (by decide)
  simp only [Node.ofJson?, slots, List.map, Option.bind_eq_bind, Option.bind_some, Json.Slot.required,
    Json.Slot.optional, Json.toString?, Json.toChoice?, Json.toOption?_ofOption, Json.toList?_strings,
    Location.ofJson?_toJson, toList?_addresses, state]
  rfl

theorem Node.isPlain_toJson (node : Node) : node.toJson.IsPlain := by
  simp [Node.toJson, Json.IsPlain, Json.MembersPlain, Json.isPlain_optionalText, Json.isPlain_strings,
    Location.isPlain_toJson, isPlain_addresses]

/-! ## Outcomes -/

theorem Outcome.ofJson?_toJson (outcome : Outcome) : Outcome.ofJson? outcome.toJson = some outcome := by
  cases outcome with
  | resolved dnsName addresses =>
    have texts : Json.allReadable 124 (addresses.map Address.toJson) = true :=
      Json.allReadable_map fun _ _ => by simp [Address.toJson, Json.isReadable]
    have chosen : (Outcome.resolved dnsName addresses).toJson.tagged? "status" (Json.maxDepth - 1) = some ("resolved",
        .object [("dns_name", .string dnsName), ("addresses", .ofList Address.toJson addresses)]) :=
      Json.tagged?_object (by simp [Json.membersReadable, Json.ofList, Json.isReadable, texts]) (by simp)
    have slots := Json.slots?_object
      (.object [("dns_name", .string dnsName), ("addresses", .ofList Address.toJson addresses)])
      ["dns_name", "addresses"] rfl rfl (by decide)
    simp only [Outcome.ofJson?, chosen, slots, List.map, Option.bind_eq_bind, Option.bind_some, Json.Slot.required,
      Json.toString?, toList?_addresses]
    rfl
  | unresolved dnsName =>
    have chosen : (Outcome.unresolved dnsName).toJson.tagged? "status" (Json.maxDepth - 1) =
        some ("unresolved", .object [("dns_name", .string dnsName)]) :=
      Json.tagged?_object (by simp [Json.membersReadable, Json.isReadable]) (by simp)
    have slots := Json.slots?_object (.object [("dns_name", .string dnsName)]) ["dns_name"] rfl rfl (by decide)
    simp only [Outcome.ofJson?, chosen, slots, List.map, Option.bind_eq_bind, Option.bind_some, Json.Slot.required,
      Json.toString?]
    rfl

theorem Outcome.isPlain_toJson (outcome : Outcome) : outcome.toJson.IsPlain := by
  cases outcome <;> simp [Outcome.toJson, Json.IsPlain, Json.MembersPlain, isPlain_addresses]

/-! ## Authentication -/

theorem AuthStatus.ofJson?_toJson (status : AuthStatus) : AuthStatus.ofJson? status.toJson = some status := by
  have slots := Json.slots?_object status.toJson ["authenticated", "account_info", "error"] rfl rfl (by decide)
  simp only [AuthStatus.ofJson?, slots, List.map, Option.bind_eq_bind, Option.bind_some, Json.Slot.required,
    Json.Slot.optional, Json.toBool?, Json.toOption?_ofOption]
  rfl

theorem AuthStatus.isPlain_toJson (status : AuthStatus) : status.toJson.IsPlain := by
  simp [AuthStatus.toJson, Json.IsPlain, Json.MembersPlain, Json.isPlain_optionalText]

/-! ## Settings -/

theorem ComputeSettings.ofJson?_toJson (settings : ComputeSettings) :
    ComputeSettings.ofJson? settings.toJson = some settings := by
  obtain ⟨zones⟩ := settings
  have chosen : (ComputeSettings.sakura zones).toJson.tagged? "provider" (Json.maxDepth - 1) =
      some ("sakura", .object [("zones", .strings zones)]) :=
    Json.tagged?_object (by simp [Json.membersReadable, Json.isReadable_strings]) (by simp)
  have slots := Json.slots?_object (.object [("zones", .strings zones)]) ["zones"] rfl rfl (by decide)
  simp only [ComputeSettings.ofJson?, chosen, slots, List.map, Option.bind_eq_bind, Option.bind_some,
    Json.Slot.required, Json.toList?_strings]
  rfl

theorem BalancerSettings.ofJson?_toJson (settings : BalancerSettings) :
    BalancerSettings.ofJson? settings.toJson = some settings := by
  cases settings with
  | sakura plan =>
    have number : (Json.ofNat plan.toNat).toNatBelow? UInt32.size = some plan.toNat :=
      Json.toNatBelow?_ofNat plan.toNat_lt
    have same : plan.toNat.toUInt32 = plan := UInt32.ofNat_toNat
    have chosen : (BalancerSettings.sakura plan).toJson.tagged? "provider" (Json.maxDepth - 1) =
        some ("sakura", .object [("plan", .ofNat plan.toNat)]) :=
      Json.tagged?_object (by simp [Json.membersReadable, Json.ofNat, Json.isReadable]) (by simp)
    have slots := Json.slots?_object (.object [("plan", .ofNat plan.toNat)]) ["plan"] rfl rfl (by decide)
    simp only [BalancerSettings.ofJson?, chosen, slots, List.map, Option.bind_eq_bind, Option.bind_some,
      Json.Slot.required, number, same]
    rfl
  | cloudflare accountId zoneId domain tokenVariable apiBase =>
    have base : (Json.ofOption .string apiBase).isReadable 125 = true := by
      cases apiBase <;> simp [Json.ofOption, Json.isReadable]
    have chosen : (BalancerSettings.cloudflare accountId zoneId domain tokenVariable apiBase).toJson.tagged? "provider"
        (Json.maxDepth - 1) = some ("cloudflare", .object [("account_id", .string accountId),
          ("zone_id", .string zoneId), ("domain", .string domain), ("api_token_env", .string tokenVariable),
          ("api_base", .ofOption .string apiBase)]) :=
      Json.tagged?_object (by simp [Json.membersReadable, Json.isReadable, base]) (by simp)
    have slots := Json.slots?_object (.object [("account_id", .string accountId), ("zone_id", .string zoneId),
      ("domain", .string domain), ("api_token_env", .string tokenVariable), ("api_base", .ofOption .string apiBase)])
      ["account_id", "zone_id", "domain", "api_token_env", "api_base"] rfl rfl (by decide)
    simp only [BalancerSettings.ofJson?, chosen, slots, List.map, Option.bind_eq_bind, Option.bind_some,
      Json.Slot.required, Json.Slot.optional, Json.toString?, Json.toOption?_ofOption]
    rfl

theorem ResolverSettings.ofJson?_toJson (settings : ResolverSettings) :
    ResolverSettings.ofJson? settings.toJson = some settings := by
  have slots := Json.slots?_object settings.toJson ["attempts", "delay_ms"] rfl rfl (by decide)
  have attempts : (Json.ofNat settings.attempts.toNat).toNatBelow? UInt32.size = some settings.attempts.toNat :=
    Json.toNatBelow?_ofNat settings.attempts.toNat_lt
  have delay : (Json.ofNat settings.delayMs.toNat).toNatBelow? UInt64.size = some settings.delayMs.toNat :=
    Json.toNatBelow?_ofNat settings.delayMs.toNat_lt
  have first : settings.attempts.toNat.toUInt32 = settings.attempts := UInt32.ofNat_toNat
  have second : settings.delayMs.toNat.toUInt64 = settings.delayMs := UInt64.ofNat_toNat
  simp only [ResolverSettings.ofJson?, slots, List.map, Option.bind_eq_bind, Option.bind_some, Json.Slot.required,
    attempts, delay, first, second]
  rfl

theorem Settings.ofJson?_toJson (settings : Settings) : Settings.ofJson? settings.toJson = some settings := by
  have slots := Json.slots?_object settings.toJson ["compute", "load_balancer", "resolver"] rfl rfl (by decide)
  simp only [Settings.ofJson?, slots, List.map, Option.bind_eq_bind, Option.bind_some, Json.Slot.required,
    ComputeSettings.ofJson?_toJson, BalancerSettings.ofJson?_toJson, ResolverSettings.ofJson?_toJson]
  rfl

theorem Settings.isPlain_toJson (settings : Settings) : settings.toJson.IsPlain := by
  obtain ⟨⟨zones⟩, balancer, attempts, delayMs⟩ := settings
  have compute : (ComputeSettings.sakura zones).toJson.IsPlain := by
    simp [ComputeSettings.toJson, Json.IsPlain, Json.MembersPlain, Json.isPlain_strings]
  have balancer : balancer.toJson.IsPlain := by
    cases balancer with
    | sakura plan =>
      have small := Json.isPlain_ofNat (Nat.lt_trans plan.toNat_lt (by decide))
      simp [BalancerSettings.toJson, Json.IsPlain, Json.MembersPlain, small]
    | cloudflare =>
      simp [BalancerSettings.toJson, Json.IsPlain, Json.MembersPlain, Json.isPlain_optionalText]
  have resolver : (ResolverSettings.mk attempts delayMs).toJson.IsPlain := by
    have first := Json.isPlain_ofNat (Nat.lt_trans attempts.toNat_lt (by decide))
    have second := Json.isPlain_ofNat delayMs.toNat_lt
    simp [ResolverSettings.toJson, Json.IsPlain, Json.MembersPlain, first, second]
  simp [Settings.toJson, Json.IsPlain, Json.MembersPlain, compute, balancer, resolver]

/-! ## All of them -/

/-- All records are read as they are written, and a server or a balancer of Sakura Cloud is the same whether its id is
printed as a number or as the text of the digits. -/
theorem records_roundTrip :
    Json.RoundTrips Location.toJson Location.ofJson? ∧ Json.RoundTrips Node.toJson Node.ofJson? ∧
    Json.RoundTrips Outcome.toJson Outcome.ofJson? ∧ Json.RoundTrips BalancerSpec.toJson BalancerSpec.ofJson? ∧
    Json.RoundTrips AuthStatus.toJson AuthStatus.ofJson? ∧
    Json.RoundTrips Sakura.Server.toJson Sakura.Server.ofJson? ∧
    Json.RoundTrips Sakura.Balancer.toJson Sakura.Balancer.ofJson? ∧
    Json.RoundTrips Sakura.Login.toJson Sakura.Login.ofJson? ∧
    Json.RoundTrips Sakura.Parameters.toJson Sakura.Parameters.ofJson? ∧
    Json.RoundTrips Cloudflare.Origin.toJson Cloudflare.Origin.ofJson? ∧
    Json.RoundTrips Settings.toJson Settings.ofJson? ∧
    ∀ value : Json, Sakura.Server.ofJson? (Sakura.withIdAsText value) = Sakura.Server.ofJson? value ∧
      Sakura.Balancer.ofJson? (Sakura.withIdAsText value) = Sakura.Balancer.ofJson? value :=
  ⟨Json.roundTrips_of_plain Location.ofJson?_toJson Location.isPlain_toJson,
    Json.roundTrips_of_plain Node.ofJson?_toJson Node.isPlain_toJson,
    Json.roundTrips_of_plain Outcome.ofJson?_toJson Outcome.isPlain_toJson,
    Json.roundTrips_of_plain BalancerSpec.ofJson?_toJson BalancerSpec.isPlain_toJson,
    Json.roundTrips_of_plain AuthStatus.ofJson?_toJson AuthStatus.isPlain_toJson,
    Json.roundTrips_of_plain Sakura.Server.ofJson?_toJson Sakura.Server.isPlain_toJson,
    Json.roundTrips_of_plain Sakura.Balancer.ofJson?_toJson Sakura.Balancer.isPlain_toJson,
    Json.roundTrips_of_plain Sakura.Login.ofJson?_toJson Sakura.Login.isPlain_toJson,
    Json.roundTrips_of_plain Sakura.Parameters.ofJson?_toJson Sakura.Parameters.isPlain_toJson,
    Json.roundTrips_of_plain Cloudflare.Origin.ofJson?_toJson Cloudflare.Origin.isPlain_toJson,
    Json.roundTrips_of_plain Settings.ofJson?_toJson Settings.isPlain_toJson,
    fun value => ⟨Sakura.Server.ofJson?_withIdAsText value, Sakura.Balancer.ofJson?_withIdAsText value⟩⟩

end CloudBalance
