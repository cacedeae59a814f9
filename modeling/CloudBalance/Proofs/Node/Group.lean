import CloudBalance.Node.Group
import CloudBalance.Proofs.Text.Order

/-!
# Groups of nodes

What it takes for groups to cover the nodes that a filter accepts, said without the way in which they
are made. Main statement: `byLocation` makes such groups.
-/

namespace CloudBalance

/-- A node that counts: the filter accepts it and it is not terminated. -/
def NodeFilter.Selects (filter : NodeFilter) (node : Node) : Prop :=
  filter node = true ∧ node.state ≠ .terminated

namespace NodeGroup

/-- The groups cover the selected nodes: one group for each location where such a node runs, with the
set of the ids of exactly those nodes, in the order of the bytes of the location's id. -/
structure Covers (filter : NodeFilter) (nodes : List Node) (groups : List NodeGroup) : Prop where
  once : (groups.map (·.location)).Nodup
  locations : ∀ location, location ∈ groups.map (·.location) ↔
    ∃ node ∈ nodes, filter.Selects node ∧ node.location = location
  ids : ∀ group ∈ groups, ∀ id, id ∈ group.providerIds ↔
    ∃ node ∈ nodes, filter.Selects node ∧ node.location = group.location ∧ node.providerId = id
  ids_once : ∀ group ∈ groups, group.providerIds.Nodup
  ascending : groups.Pairwise fun a b => Text.bytes a.location.id ≤ Text.bytes b.location.id

theorem mem_selected {filter : NodeFilter} {nodes : List Node} {node : Node} :
    node ∈ selected filter nodes ↔ node ∈ nodes ∧ filter.Selects node := by
  simp [selected, NodeFilter.Selects, Node.isTerminated]

theorem nodup_eraseDups {α : Type} [BEq α] [LawfulBEq α] (items : List α) :
    items.eraseDups.Nodup := by
  cases items with
  | nil => simp
  | cons a rest =>
    rw [List.eraseDups_cons, List.nodup_cons]
    exact ⟨by simp [List.mem_eraseDups], nodup_eraseDups _⟩
  termination_by items.length
  decreasing_by
    have := List.length_filter_le (fun b => !b == a) rest
    simp only [List.length_cons]
    omega

theorem map_location_ofNodes (nodes : List Node) :
    (ofNodes nodes).map (·.location) = (nodes.map (·.location)).eraseDups := by
  rw [ofNodes, List.map_map]
  exact List.map_id _

theorem providerIds_of_mem {nodes : List Node} {group : NodeGroup} (member : group ∈ ofNodes nodes) :
    group.providerIds = Text.sortedSet
      ((nodes.filter (·.location == group.location)).map (·.providerId)) := by
  obtain ⟨location, _, rfl⟩ := List.mem_map.mp member
  rfl

theorem byLocation_perm (filter : NodeFilter) (nodes : List Node) :
    (byLocation filter nodes).Perm (ofNodes (selected filter nodes)) :=
  Text.sortBy_perm

theorem byLocation_covers (filter : NodeFilter) (nodes : List Node) :
    Covers filter nodes (byLocation filter nodes) where
  once := by
    rw [((byLocation_perm filter nodes).map _).nodup_iff, map_location_ofNodes]
    exact nodup_eraseDups _
  locations location := by
    rw [((byLocation_perm filter nodes).map _).mem_iff, map_location_ofNodes, List.mem_eraseDups,
      List.mem_map]
    simp only [mem_selected, and_assoc]
  ids group member id := by
    rw [providerIds_of_mem ((byLocation_perm filter nodes).mem_iff.mp member), Text.mem_sortedSet]
    simp only [List.mem_map, List.mem_filter, mem_selected, beq_iff_eq, and_assoc]
  ids_once group member := by
    rw [providerIds_of_mem ((byLocation_perm filter nodes).mem_iff.mp member)]
    exact Text.nodup_sortedSet _
  ascending := by
    have sorted : (byLocation filter nodes).Pairwise fun a b =>
        Text.le a.location.id b.location.id = true := Text.pairwise_sortBy
    exact sorted.imp Text.le_iff_bytes.mp

/-- The ids at each location are those of the selected nodes there. -/
theorem Covers.mem_iff {filter : NodeFilter} {nodes : List Node} {groups : List NodeGroup}
    (covers : Covers filter nodes groups) {location : Location} {id : String} :
    (∃ group ∈ groups, group.location = location ∧ id ∈ group.providerIds) ↔
      ∃ node ∈ nodes, filter.Selects node ∧ node.location = location ∧ node.providerId = id := by
  constructor
  · rintro ⟨group, among, rfl, inside⟩
    exact (covers.ids group among id).mp inside
  · rintro ⟨node, listed, selects, rfl, rfl⟩
    have located := (covers.locations node.location).mpr ⟨node, listed, selects, rfl⟩
    obtain ⟨group, among, same⟩ := List.mem_map.mp located
    exact ⟨group, among, same, (covers.ids group among _).mpr ⟨node, listed, selects, same.symm, rfl⟩⟩

/-- There is a group exactly where a node is selected. -/
theorem Covers.ne_nil_iff {filter : NodeFilter} {nodes : List Node} {groups : List NodeGroup}
    (covers : Covers filter nodes groups) : groups ≠ [] ↔ ∃ node ∈ nodes, filter.Selects node := by
  constructor
  · intro filled
    obtain ⟨group, rest, rfl⟩ := List.exists_cons_of_ne_nil filled
    obtain ⟨node, listed, selects, _⟩ := (covers.locations group.location).mp (by simp)
    exact ⟨node, listed, selects⟩
  · rintro ⟨node, listed, selects⟩ rfl
    have located := (covers.locations node.location).mpr ⟨node, listed, selects, rfl⟩
    cases located

end NodeGroup

end CloudBalance
