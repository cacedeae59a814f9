import CloudBalance.Proofs.Cloudflare.Create
import CloudBalance.Proofs.Cloudflare.Reachable
import CloudBalance.Proofs.Node.Group
import Mathlib.Data.List.Permutation

/-!
# The origins of a pool

The nodes are selected twice: by the filter, when they are grouped by location, and by location and id, when a pool is
made for a group. Main statement: where no two nodes have both the same location and the same id, the origins of the
pool are the selected nodes of the group that have an address, in the order of their names, and the balancer in front
of the pool is asked for only where there is a pool.
-/

namespace CloudBalance

namespace NodeGroup

variable {filter : NodeFilter} {nodes : List Node} {group : NodeGroup}

/-- The nodes at one location that count. -/
def selectedAt (filter : NodeFilter) (nodes : List Node) (location : Location) : List Node :=
  (selected filter nodes).filter (·.location == location)

theorem mem_selectedAt {location : Location} {node : Node} :
    node ∈ selectedAt filter nodes location ↔ node ∈ nodes ∧ filter.Selects node ∧ node.location = location := by
  rw [selectedAt, List.mem_filter, mem_selected, beq_iff_eq, and_assoc]

/-- No two of the nodes have both the same location and the same id. -/
def Apart (nodes : List Node) : Prop :=
  (nodes.map fun node => (node.location, node.providerId)).Nodup

theorem selects_iff {node : Node} : (filter node && !node.isTerminated) = true ↔ filter.Selects node := by
  simp [NodeFilter.Selects, Node.isTerminated]

/-- Where the nodes can be told apart, the location and the ids of a group say which nodes it was made of. -/
theorem filter_group (apart : Apart nodes) (member : group ∈ byLocation filter nodes) :
    nodes.filter (fun node => node.location == group.location && group.providerIds.contains node.providerId) =
      selectedAt filter nodes group.location := by
  have ids := (byLocation_covers filter nodes).ids group member
  have selects : ∀ node ∈ nodes, node.location = group.location →
      (node.providerId ∈ group.providerIds ↔ filter.Selects node) := by
    intro node listed located
    rw [ids node.providerId]
    constructor
    · rintro ⟨other, among, selects, its, same⟩
      -- the node of that id that was selected is this one
      have equal : other = node :=
        List.inj_on_of_nodup_map apart among listed (Prod.ext (its.trans located.symm) same)
      exact equal ▸ selects
    · exact fun selects => ⟨node, listed, selects, located, rfl⟩
  rw [selectedAt, selected, List.filter_filter]
  refine List.filter_congr fun node listed => ?_
  rw [Bool.eq_iff_iff, Bool.and_eq_true, Bool.and_eq_true, beq_iff_eq, List.contains_iff_mem, selects_iff]
  exact and_congr_right fun located => selects node listed located

end NodeGroup

namespace Cloudflare

open Net (HttpRequest)
open World (calls abroad)

variable {account : Account} {filter : NodeFilter} {nodes : List Node} {group : NodeGroup} {location : Location}
  {spec : BalancerSpec} {ids : List String}

/-! ## Pools -/

/-- The pool of the selected nodes at a location: its origins are those of the nodes that have an address, in the
order of the names. -/
structure Pools (filter : NodeFilter) (nodes : List Node) (location : Location) (spec : BalancerSpec)
    (pool : NewPool) : Prop where
  named : pool.name = spec.name ++ "-" ++ location.id
  described : pool.description = descriptionOf spec
  ascending : pool.origins.Pairwise fun a b => Text.bytes a.name ≤ Text.bytes b.name
  origins : pool.origins.Perm
    ((NodeGroup.selectedAt filter nodes location).filterMap (originOf spec.instancePort))

theorem poolFor_pools (apart : NodeGroup.Apart nodes) (member : group ∈ NodeGroup.byLocation filter nodes) :
    Pools filter nodes group.location spec (poolFor group.location spec group.providerIds nodes) where
  named := rfl
  described := rfl
  ascending := pairwise_originsFor
  origins := by
    rw [poolFor, originsFor, NodeGroup.filter_group apart member]
    exact Text.sortBy_perm

/-- There is an origin exactly if a selected node has an address. -/
theorem Pools.ne_nil_iff {pool : NewPool} (pools : Pools filter nodes location spec pool) :
    pool.origins ≠ [] ↔
      ∃ node ∈ nodes, filter.Selects node ∧ node.location = location ∧ node.primaryAddress ≠ none := by
  rw [← List.length_pos_iff, pools.origins.length_eq, List.length_pos_iff, ne_eq, List.filterMap_eq_nil_iff]
  simp only [NodeGroup.mem_selectedAt, originOf, Option.map_eq_none_iff, not_forall, and_imp, exists_prop, ne_eq]

/-! ## Making -/

theorem within_create {list : Attempt World CloudError (List Node)} (lists : list.run.Within abroad) :
    (create account list location spec ids).run.Within abroad := by
  refine Attempt.within_bind lists fun listed => ?_
  dsimp only
  split
  · trivial
  · refine Attempt.within_bind World.within_note fun _ => ?_
    refine Attempt.within_bind (Attempt.within_adapt within_request) fun pool => ?_
    refine Attempt.within_bind World.within_note fun _ => ?_
    exact Attempt.within_bind (Attempt.within_adapt within_request) fun _ => trivial

variable {σ : Type} {env : Environment World σ} {list : Attempt World CloudError (List Node)} {before after : σ}
  {events : List World.Event} {result : Option (Except CloudError String)}

/-- Where the nodes are listed, a creation goes on as `Makes` says. -/
theorem makes_of_runs
    (same : ∀ first listing between, list.run.Runs env before first listing between → listing = some (.ok nodes))
    (run : (create account list location spec ids).run.Runs env before events result after) :
    ∃ outcome first between rest, result = some outcome ∧
      list.run.Runs env before first (some (.ok nodes)) between ∧ events = first ++ rest ∧
      Makes account location spec ids nodes (calls rest) outcome := by
  rcases Attempt.runs_bind.mp run with ⟨first, seen, between, rest, listed, later, rfl⟩ | ⟨e, failed, _⟩ | ⟨halted, _⟩
  · cases same _ _ _ listed
    have goes : (create account (pure nodes) location spec ids).run.Runs env between rest result after := later
    have within : (create account (pure nodes) location spec ids).run.Within abroad := within_create trivial
    obtain ⟨outcome, rfl⟩ := within.returns not_false goes
    have ensured : (create account (pure nodes) location spec ids).run.Ensures World.recording [] fun outcome asked =>
        Makes account location spec ids nodes asked outcome :=
      ensures_create_listed.mpr fun asked outcome makes => by rwa [List.nil_append]
    exact ⟨outcome, first, between, rest, rfl, listed, rfl, World.ensured_of_runs ensured goes⟩
  · cases same _ _ _ failed
  · cases same _ _ _ halted

/-- Beside the web node: one that is terminated, one that the filter rejects, one without an address, and one of the
same id elsewhere. -/
def mixedNodes : List Node :=
  [⟨"tk1a/2", "2", "gone", none, [], .zone "tk1a", .terminated, [.v4 203 0 113 10], []⟩,
    ⟨"tk1a/3", "3", "odd", none, ["odd"], .zone "tk1a", .running, [.v4 203 0 113 11], []⟩,
    webNode, ⟨"tk1a/4", "4", "bare", none, [], .zone "tk1a", .running, [], []⟩,
    ⟨"is1a/1", "1", "far", none, [], .zone "is1a", .running, [.v4 203 0 113 12], []⟩]

def plainNodes : NodeFilter :=
  .not (.withTag "odd")

theorem apart_mixed : NodeGroup.Apart mixedNodes := by
  rw [NodeGroup.Apart]
  decide

theorem grouped_mixed : ⟨.zone "tk1a", ["1", "4"]⟩ ∈ NodeGroup.byLocation plainNodes mixedNodes := by
  have groups : NodeGroup.byLocation plainNodes mixedNodes =
      [⟨.zone "is1a", ["1"]⟩, ⟨.zone "tk1a", ["1", "4"]⟩] := by
    cbv
  simp [groups]

end Cloudflare

end CloudBalance
