import CloudBalance.Node.Filter
import CloudBalance.Text.Column

/-!
# Nodes by location

The live nodes that a filter accepts, grouped by the location in which they run. A group is the set
of the ids that the provider uses for its nodes.
-/

namespace CloudBalance

/-- The nodes at one location: their ids, each once and in ascending order. -/
structure NodeGroup where
  location : Location
  providerIds : List String
  deriving DecidableEq, Repr

namespace NodeGroup

/-- The nodes that are accepted and not terminated. -/
def selected (filter : NodeFilter) (nodes : List Node) : List Node :=
  nodes.filter fun node => filter node && !node.isTerminated

/-- The groups of a list of nodes. -/
def ofNodes (nodes : List Node) : List NodeGroup :=
  (nodes.map (·.location)).eraseDups.map fun location =>
    ⟨location, Text.sortedSet ((nodes.filter (·.location == location)).map (·.providerId))⟩

/-- The groups of the nodes that a filter accepts, in ascending order of the location's id. -/
def byLocation (filter : NodeFilter) (nodes : List Node) : List NodeGroup :=
  Text.sortBy (·.location.id) (ofNodes (selected filter nodes))

end NodeGroup

end CloudBalance
