import CloudBalance.Node.Basic

/-!
# Filters of nodes

A filter says which nodes are meant. Filters are built from a few simple ones.
-/

namespace CloudBalance

abbrev NodeFilter := Node → Bool

namespace NodeFilter

def all : NodeFilter := fun _ => true

def terminated : NodeFilter := Node.isTerminated

/-- The nodes of a group. -/
def inGroup (group : String) : NodeFilter :=
  fun node => node.group == some group

/-- The nodes with a tag. -/
def withTag (tag : String) : NodeFilter :=
  fun node => node.tags.contains tag

/-- The nodes whose id is one of `ids`. -/
def withIds (ids : List String) : NodeFilter :=
  fun node => ids.contains node.id

def and (a b : NodeFilter) : NodeFilter :=
  fun node => a node && b node

def not (a : NodeFilter) : NodeFilter :=
  fun node => !a node

/-- The running nodes of a group. -/
def runningInGroup (group : String) : NodeFilter :=
  and (inGroup group) fun node => node.state == .running

/-- The nodes of a group and with a tag, where these are given. -/
def ofGroupAndTag : Option String → Option String → NodeFilter
  | some group, some tag => and (inGroup group) (withTag tag)
  | some group, none => inGroup group
  | none, some tag => withTag tag
  | none, none => all

end NodeFilter

end CloudBalance
