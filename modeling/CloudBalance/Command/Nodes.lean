import CloudBalance.Command.Session
import CloudBalance.Node.Filter
import CloudBalance.Terminal.Arguments

/-!
# Showing the nodes

A table of the nodes that are selected, in the order of their ids. Nodes that are gone are shown only
on request.
-/

namespace CloudBalance.Session

open Terminal (Span Line Style Selection)

/-- The filter of a selection. -/
def filterOf (selection : Selection) : NodeFilter :=
  .ofGroupAndTag selection.group selection.tag

/-- The nodes of the table. -/
def shownNodes (selection : Selection) (all : Bool) (nodes : List Node) : List Node :=
  let selected := Node.listMatching (filterOf selection) nodes
  Text.sortBy (·.id) (if all then selected else selected.filter (!·.isTerminated))

def stateStyle : NodeState → Style
  | .running => .green
  | .pending | .suspended => .yellow
  | _ => .red

/-- A row of the table from its cells. -/
def nodeRow (id name group state zone address : Span) : Line :=
  [id.padded 24, .plain " ", name.padded 20, .plain " ", group.padded 10, .plain " ",
    state.padded 12, .plain " ", zone.padded 8, .plain " ", address.padded 16]

def nodeHeader : Line :=
  .styled .bold (Line.text (nodeRow (.plain "ID") (.plain "NAME") (.plain "GROUP") (.plain "STATE")
    (.plain "ZONE") (.plain "ADDRESS")))

def nodeLine (node : Node) : Line :=
  nodeRow (.styled .cyan node.id) (.plain node.name) (.plain (node.group.getD "-"))
    (.styled (stateStyle node.state) node.state.text) (.plain node.location.id)
    (.styled .dimmed ((node.primaryAddress.map Net.Address.text).getD "N/A"))

/-- A ruler of so many characters. -/
def ruler (width : Nat) : Line :=
  .styled .dimmed (Text.times width "─")

/-- The lines of the table. -/
def nodeTable (nodes : List Node) : List Line :=
  if nodes.isEmpty then [.styled .dimmed "該当するノードはありません"]
  else
    [nodeHeader, ruler 95] ++ nodes.map nodeLine
      ++ [.empty, .plain (toString nodes.length ++ " 件")]

/-- Prints lines one after another. -/
def printAll : List Line → Program Session Unit
  | [] => return ()
  | line :: rest => do
    print line
    printAll rest

/-- Shows the nodes. -/
def nodes (providers : Providers) (selection : Selection) (all : Bool) : Act Unit := do
  print (.styled .blue (providers.computeName ++ " のノード一覧を取得中..."))
  let listed ← ofService Service.list
  print .empty
  printAll (nodeTable (shownNodes selection all listed))

end CloudBalance.Session
