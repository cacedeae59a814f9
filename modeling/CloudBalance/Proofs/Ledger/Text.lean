import CloudBalance.Ledger.Store
import CloudBalance.Proofs.Json.Decode
import CloudBalance.Proofs.Net.Address
import CloudBalance.Proofs.Time.Instant

/-!
# Ledgers as texts

Main statements: a ledger whose keys are distinct and whose times can be held is read from the text that
is written for it, and every ledger that is read from a text is such a ledger.
-/

namespace CloudBalance

open Net (Address)
open Time (Instant)

/-! ## Parts of records -/

theorem toList?_addresses (addresses : List Address) :
    (Json.ofList Address.toJson addresses).toList? Address.ofJson? = some addresses :=
  Json.toList?_ofList fun address _ => address.ofJson?_toJson

theorem isPlain_addresses (addresses : List Address) : (Json.ofList Address.toJson addresses).IsPlain :=
  Json.isPlain_ofList fun address _ => by simp [Address.toJson, Json.IsPlain]

theorem Location.ofJson?_toJson (location : Location) :
    Location.ofJson? location.toJson = some location := by
  have scope : LocationScope.ofText? location.scope.text = some location.scope := by
    cases location.scope <;> rfl
  have slots := Json.slots?_object location.toJson ["scope", "id", "description"] rfl rfl (by decide)
  simp only [Location.ofJson?, slots, List.map, Option.bind_eq_bind, Option.bind_some, Json.Slot.required,
    Json.toChoice?, scope, Json.toString?]
  rfl

theorem Location.isPlain_toJson (location : Location) : location.toJson.IsPlain := by
  simp [Location.toJson, Json.IsPlain, Json.MembersPlain]

theorem BalancerSpec.ofJson?_toJson (spec : BalancerSpec) :
    BalancerSpec.ofJson? spec.toJson = some spec := by
  have protocol : Protocol.ofText? spec.protocol.text = some spec.protocol := by
    cases spec.protocol <;> rfl
  have slots := Json.slots?_object spec.toJson
    ["name", "protocol", "load_balancer_port", "instance_port"] rfl rfl (by decide)
  have listening := Json.toNatBelow?_ofNat spec.balancerPort.toNat_lt
  have serving := Json.toNatBelow?_ofNat spec.instancePort.toNat_lt
  have first : spec.balancerPort.toNat.toUInt16 = spec.balancerPort := UInt16.ofNat_toNat
  have second : spec.instancePort.toNat.toUInt16 = spec.instancePort := UInt16.ofNat_toNat
  simp only [BalancerSpec.ofJson?, slots, List.map, Option.bind_eq_bind, Option.bind_some, Json.Slot.required,
    Json.toChoice?, protocol, Json.toString?, UInt16.size, listening, serving, first, second]
  rfl

theorem BalancerSpec.isPlain_toJson (spec : BalancerSpec) : spec.toJson.IsPlain := by
  have first := spec.balancerPort.toNat_lt
  have second := spec.instancePort.toNat_lt
  simp only [BalancerSpec.toJson, Json.IsPlain, Json.MembersPlain, true_and, and_true]
  exact ⟨Json.isPlain_ofNat (Nat.lt_trans first (by decide)),
    Json.isPlain_ofNat (Nat.lt_trans second (by decide))⟩

/-! ## Records -/

namespace Ledger

/-- A record whose time can be held. -/
def Record.IsStorable (record : Record) : Prop :=
  Instant.IsYear record.createdAt.date.year

theorem Record.ofJson?_toJson {record : Record} (storable : record.IsStorable) :
    Record.ofJson? record.toJson = some record := by
  have slots := Json.slots?_object record.toJson
    ["name", "provider", "location", "spec", "dns_name", "addresses", "created_at"] rfl rfl (by decide)
  simp only [Record.ofJson?, slots, List.map, Option.bind_eq_bind, Option.bind_some, Json.Slot.required,
    Json.toString?, Location.ofJson?_toJson, BalancerSpec.ofJson?_toJson, toList?_addresses,
    Instant.ofJson?_toJson record.createdAt storable]
  rfl

theorem Record.isPlain_toJson (record : Record) : record.toJson.IsPlain := by
  simp only [Record.toJson, Json.IsPlain, Json.MembersPlain, true_and, and_true, Instant.toJson,
    Location.isPlain_toJson, BalancerSpec.isPlain_toJson]
  exact isPlain_addresses record.addresses

/-! ## Ledgers -/

/-- Entries with distinct keys and records that can be stored. -/
structure Storable (entries : List (String × Record)) : Prop where
  once : (entries.map (·.1)).Nodup
  held : ∀ entry ∈ entries, entry.2.IsStorable

theorem storable_nil : Storable [] :=
  ⟨List.nodup_nil, by simp⟩

theorem lastMembers_of_nodup {α : Type} {members : List (String × α)} (once : (members.map (·.1)).Nodup) :
    Json.lastMembers members = members := by
  induction members with
  | nil => rfl
  | cons member members ih =>
    rw [List.map_cons, List.nodup_cons] at once
    have later := ih once.2
    rw [Json.lastMembers] at later ⊢
    rw [List.foldr_cons, later, if_neg]
    intro twice
    obtain ⟨other, inside, same⟩ := List.any_eq_true.mp twice
    exact once.1 (List.mem_map.mpr ⟨other, inside, beq_iff_eq.mp same⟩)

theorem entriesOfJson?_object {entries : List (String × Record)} (storable : Storable entries) :
    entriesOfJson? (.object (entries.map fun (key, record) => (key, record.toJson))) = some entries := by
  rw [entriesOfJson?]
  change Option.bind (List.mapM _ _) _ = _
  rw [Json.mapM_map_of_read, Option.bind_some, lastMembers_of_nodup storable.once]
  · rfl
  · intro entry member
    simp only [Record.ofJson?_toJson (storable.held entry member)]
    rfl

theorem ofJson?_toJson {ledger : Ledger} (updated : Instant.IsYear ledger.updatedAt.date.year)
    (storable : Storable ledger.entries) : ofJson? ledger.toJson = some ledger := by
  have slots := Json.slots?_object ledger.toJson ["version", "updated_at", "load_balancers"] rfl rfl
    (by decide)
  have version := Json.toNatBelow?_ofNat ledger.version.toNat_lt
  have same : ledger.version.toNat.toUInt32 = ledger.version := UInt32.ofNat_toNat
  simp only [ofJson?, slots, List.map_cons, List.map_nil, Option.bind_eq_bind, Option.bind_some,
    Json.Slot.required, UInt32.size,
    version, Instant.ofJson?_toJson ledger.updatedAt updated, entriesOfJson?_object storable, same]
  rfl

theorem isPlain_toJson (ledger : Ledger) : ledger.toJson.IsPlain := by
  have version := ledger.version.toNat_lt
  simp only [toJson, Json.IsPlain, Json.MembersPlain, and_true, Instant.toJson, true_and]
  refine ⟨Json.isPlain_ofNat (Nat.lt_trans version (by decide)), Json.membersPlain_of_forall ?_⟩
  intro member inside
  obtain ⟨entry, _, rfl⟩ := List.mem_map.mp inside
  exact entry.2.isPlain_toJson

/-- A ledger is read from the text that is written for it. -/
theorem decode?_pretty {ledger : Ledger} (updated : Instant.IsYear ledger.updatedAt.date.year)
    (storable : Storable ledger.entries) :
    Json.decode? ofJson? ledger.toJson.pretty = some ledger := by
  rw [Json.decode?, Json.parse?_pretty ledger.isPlain_toJson, Option.bind_some,
    ofJson?_toJson updated storable]

/-! ## Ledgers that are read -/

theorem nodup_lastMembers {α : Type} (members : List (String × α)) :
    ((Json.lastMembers members).map (·.1)).Nodup ∧
      ∀ member ∈ Json.lastMembers members, member ∈ members := by
  induction members with
  | nil => exact ⟨List.nodup_nil, fun _ inside => inside⟩
  | cons member members ih =>
    obtain ⟨once, among⟩ := ih
    rw [Json.lastMembers] at once among ⊢
    rw [List.foldr_cons]
    split
    · -- the key comes again later, and this member is left out
      exact ⟨once, fun other inside => List.mem_cons_of_mem _ (among other inside)⟩
    · rename_i fresh
      constructor
      · rw [List.map_cons, List.nodup_cons]
        refine ⟨fun twice => fresh ?_, once⟩
        obtain ⟨other, inside, same⟩ := List.mem_map.mp twice
        exact List.any_eq_true.mpr ⟨other, inside, beq_iff_eq.mpr same⟩
      · intro other inside
        rcases List.mem_cons.mp inside with rfl | later
        · exact List.mem_cons_self
        · exact List.mem_cons_of_mem _ (among other later)

theorem Record.isStorable_of_ofJson? {value : Json} {record : Record}
    (read : Record.ofJson? value = some record) : record.IsStorable := by
  simp only [Record.ofJson?, Option.bind_eq_bind, Option.bind_eq_some_iff] at read
  obtain ⟨slots, _, read⟩ := read
  split at read
  · simp only [Option.bind_eq_some_iff] at read
    obtain ⟨_, _, _, _, _, _, _, _, _, _, _, _, createdAt, created, read⟩ := read
    cases read
    obtain ⟨_, _, parsed⟩ := Json.Slot.given_of_required created
    exact Instant.isYear_of_ofJson? parsed
  · cases read

theorem storable_of_entriesOfJson? {value : Json} {entries : List (String × Record)}
    (read : entriesOfJson? value = some entries) : Storable entries := by
  cases value with
  | object members =>
    obtain ⟨all, each, same⟩ := Option.bind_eq_some_iff.mp read
    cases same
    obtain ⟨once, among⟩ := nodup_lastMembers all
    refine ⟨once, fun entry inside => ?_⟩
    obtain ⟨member, _, parsed⟩ := Json.exists_of_mem_mapM each (among entry inside)
    obtain ⟨record, ofJson, rfl⟩ := Option.map_eq_some_iff.mp parsed
    exact Record.isStorable_of_ofJson? ofJson
  | _ => cases read

theorem storable_of_ofJson? {value : Json} {ledger : Ledger} (read : ofJson? value = some ledger) :
    Storable ledger.entries := by
  simp only [ofJson?, Option.bind_eq_bind, Option.bind_eq_some_iff] at read
  obtain ⟨slots, _, read⟩ := read
  split at read
  · simp only [Option.bind_eq_some_iff] at read
    obtain ⟨_, _, _, _, entries, listed, read⟩ := read
    cases read
    obtain ⟨_, _, parsed⟩ := Json.Slot.given_of_required listed
    exact storable_of_entriesOfJson? parsed
  · cases read

end Ledger

end CloudBalance
