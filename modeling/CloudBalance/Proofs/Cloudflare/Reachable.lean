import CloudBalance.Cloudflare.Placement
import CloudBalance.Proofs.Text.Order
import Mathlib.Data.List.Perm.Basic

/-!
# Where origins lead

A node is reached at its first public address and, where it has none, at its first private one. Main statement: the
origins of a pool are those of the chosen nodes that have an address, each with the address at which its node is
reached. All of them are public where no chosen node has private addresses alone.
-/

namespace CloudBalance

open Net (Address)

variable {node : Node} {address : Address}

namespace Node

/-- The address at which a node is reached. -/
inductive ReachedAt (node : Node) (address : Address) : Prop where
  | publicly (first : node.publicAddresses.head? = some address)
  | privately (without : node.publicAddresses = []) (first : node.privateAddresses.head? = some address)

theorem reachedAt_iff : node.ReachedAt address ↔ node.primaryAddress = some address := by
  rw [primaryAddress]
  constructor
  · rintro (first | ⟨without, first⟩)
    · rw [first, Option.some_or]
    · rw [without, List.head?_nil, Option.none_or, first]
  · intro primary
    cases addresses : node.publicAddresses with
    | nil =>
      rw [addresses, List.head?_nil, Option.none_or] at primary
      exact .privately addresses primary
    | cons first rest =>
      rw [addresses, List.head?_cons, Option.some_or] at primary
      exact .publicly (by rw [addresses, List.head?_cons, primary])

def isAddressed (node : Node) : Bool :=
  !node.publicAddresses.isEmpty || !node.privateAddresses.isEmpty

theorem isSome_primaryAddress : node.primaryAddress.isSome = node.isAddressed := by
  rw [primaryAddress, isAddressed]
  cases node.publicAddresses <;> cases node.privateAddresses <;> rfl

end Node

namespace Cloudflare

variable {nodes : List Node} {location : Location} {ids : List String} {port : UInt16} {origin : Origin}

/-- The nodes at a location whose ids are among `ids` and that have an address. -/
def addressedAt (nodes : List Node) (location : Location) (ids : List String) : List Node :=
  nodes.filter fun node => (node.location == location && ids.contains node.providerId) && node.isAddressed

theorem mem_addressedAt :
    node ∈ addressedAt nodes location ids ↔
      node ∈ nodes ∧ (node.location = location ∧ node.providerId ∈ ids) ∧ node.isAddressed = true := by
  rw [addressedAt, List.mem_filter, Bool.and_eq_true, Bool.and_eq_true, beq_iff_eq, List.contains_iff_mem]

/-- The origin is the one of a node. -/
structure Reaches (port : UInt16) (node : Node) (origin : Origin) : Prop where
  named : origin.name = node.name
  reached : ∃ address, node.ReachedAt address ∧ origin.address = address.text
  enabled : origin.enabled = true
  port : origin.port = some port

theorem reaches_of_originOf (made : originOf port node = some origin) : Reaches port node origin := by
  rw [originOf, Option.map_eq_some_iff] at made
  obtain ⟨address, primary, rfl⟩ := made
  exact ⟨rfl, ⟨address, Node.reachedAt_iff.mpr primary, rfl⟩, rfl, rfl⟩

theorem forall₂_reaches (port : UInt16) (nodes : List Node) :
    List.Forall₂ (Reaches port) (nodes.filter Node.isAddressed) (nodes.filterMap (originOf port)) := by
  induction nodes with
  | nil => exact .nil
  | cons node nodes ih =>
    have same : (originOf port node).isSome = node.isAddressed := by
      rw [originOf, Option.isSome_map, Node.isSome_primaryAddress]
    cases made : originOf port node with
    | none =>
      rw [made] at same
      rwa [List.filterMap_cons_none made, List.filter_cons_of_neg (by simp [← same])]
    | some origin =>
      rw [made] at same
      rw [List.filterMap_cons_some made, List.filter_cons_of_pos same.symm]
      exact .cons (reaches_of_originOf made) ih

/-- One by one the origins are those of the nodes with an address, in another order. -/
theorem exists_reached (nodes : List Node) (location : Location) (ids : List String) (port : UInt16) :
    ∃ reached, List.Forall₂ (Reaches port) reached (originsFor nodes location ids port) ∧
      reached.Perm (addressedAt nodes location ids) := by
  have paired := forall₂_reaches port
    (nodes.filter fun node => node.location == location && ids.contains node.providerId)
  rw [List.filter_filter, List.filter_congr fun _ _ => Bool.and_comm _ _, ← addressedAt] at paired
  -- the nodes follow their origins, which are sorted
  obtain ⟨reached, pairs, same⟩ := List.perm_comp_forall₂ Text.sortBy_perm paired.flip
  exact ⟨reached, pairs.flip, same⟩

theorem exists_reaches (member : origin ∈ originsFor nodes location ids port) :
    ∃ node ∈ addressedAt nodes location ids, Reaches port node origin := by
  obtain ⟨reached, pairs, same⟩ := exists_reached nodes location ids port
  obtain ⟨i, inside, rfl⟩ := List.getElem_of_mem member
  have within : i < reached.length := pairs.length_eq ▸ inside
  exact ⟨reached[i], same.mem_iff.mp (List.getElem_mem within), pairs.get within inside⟩

theorem pairwise_originsFor :
    (originsFor nodes location ids port).Pairwise fun a b => Text.bytes a.name ≤ Text.bytes b.name := by
  have sorted : (originsFor nodes location ids port).Pairwise fun a b => Text.le a.name b.name = true :=
    Text.pairwise_sortBy
  exact sorted.imp Text.le_iff_bytes.mp

/-- The address of the origin is a public one of a node at the location whose id is among `ids`. -/
def IsPublic (nodes : List Node) (location : Location) (ids : List String) (origin : Origin) : Prop :=
  ∃ node ∈ nodes, (node.location = location ∧ node.providerId ∈ ids) ∧
    ∃ address ∈ node.publicAddresses, origin.address = address.text

theorem isPublic_of_mem (always : ∀ node ∈ addressedAt nodes location ids, node.publicAddresses ≠ [])
    (member : origin ∈ originsFor nodes location ids port) : IsPublic nodes location ids origin := by
  obtain ⟨node, among, reaches⟩ := exists_reaches member
  obtain ⟨listed, chosen, _⟩ := mem_addressedAt.mp among
  obtain ⟨address, reached, same⟩ := reaches.reached
  cases reached with
  | publicly first => exact ⟨node, listed, chosen, address, List.mem_of_mem_head? first, same⟩
  | privately without => exact absurd without (always node among)

/-- The origins are by their names those of the nodes at the location whose ids are among `ids` and that have an
address. Each has the first public address of its node and, only where there is none, the first private one, so that
all are public where no such node has private addresses alone. -/
theorem origins_reach (nodes : List Node) (location : Location) (ids : List String) (port : UInt16) :
    (∃ reached, List.Forall₂ (Reaches port) reached (originsFor nodes location ids port) ∧
      reached.Perm (addressedAt nodes location ids)) ∧
    (originsFor nodes location ids port).Pairwise (fun a b => Text.bytes a.name ≤ Text.bytes b.name) ∧
    ((∀ node ∈ addressedAt nodes location ids, node.publicAddresses ≠ []) →
      ∀ origin ∈ originsFor nodes location ids port, IsPublic nodes location ids origin) :=
  ⟨exists_reached nodes location ids port, pairwise_originsFor, fun always _ => isPublic_of_mem always⟩

/-- A node with a private address alone. -/
def innerNode : Node :=
  ⟨"tk1a/2", "2", "inner", none, [], .zone "tk1a", .running, [], [.v4 10 0 0 2]⟩

/-- Its address becomes that of an origin. -/
theorem not_isPublic_inner :
    ∃ origin ∈ originsFor [innerNode] (.zone "tk1a") ["2"] 8080,
      origin.address = "10.0.0.2" ∧ ¬ IsPublic [innerNode] (.zone "tk1a") ["2"] origin := by
  have origins : originsFor [innerNode] (.zone "tk1a") ["2"] 8080 = [⟨"inner", "10.0.0.2", true, some 8080⟩] := by
    decide +kernel
  rw [origins]
  refine ⟨_, List.mem_singleton_self _, rfl, ?_⟩
  rintro ⟨node, among, _, address, member, _⟩
  cases List.mem_singleton.mp among
  cases member

end Cloudflare

end CloudBalance
