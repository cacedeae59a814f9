import CloudBalance.AuthStatus
import CloudBalance.Node.Basic
import CloudBalance.Sakura.Tool
import CloudBalance.Text.Start

/-!
# The nodes of Sakura Cloud

Every server of the zones that are configured is a node, and each zone is a location. A tag puts a
server into a group.
-/

namespace CloudBalance.Sakura

open Net (Address)

/-- How users see the name of the provider. -/
def displayName : String := "さくらのクラウド"

/-- The start of the tag that puts a server into a group. -/
def groupTagStart : String := "group="

/-- What the status of a server says of the node. -/
def stateOfStatus : Option String → NodeState
  | some "up" => .running
  | some "down" => .suspended
  | some "cleaning" => .terminated
  | none => .pending
  | some _ => .unrecognized

/-- The group that a tag names, if it names one. -/
def groupOfTag? (tag : String) : Option String :=
  Text.afterStart? groupTagStart tag

/-- The group that the first such tag names, and all other tags. -/
def splitTags : List String → Option String × List String
  | [] => (none, [])
  | tag :: rest =>
    match groupOfTag? tag with
    | some group => (some group, rest)
    | none => ((splitTags rest).1, tag :: (splitTags rest).2)

/-- The node of a server in a zone. -/
def nodeOfServer (zone : String) (server : Server) : Node where
  id := zone ++ "/" ++ server.id
  providerId := server.id
  name := server.name
  group := (splitTags server.tags).1
  tags := (splitTags server.tags).2
  location := .zone zone
  state := stateOfStatus server.instanceStatus
  publicAddresses := (server.sharedAddress.bind Address.parse?).toList
  privateAddresses := server.userAddresses

/-- The nodes of the zones, zone by zone. -/
def listNodes : List String → Call (List Node)
  | [] => return []
  | zone :: rest => do
    let servers ← listServers (some zone)
    World.note .debug .sakuraNodes
      ("Found " ++ toString servers.length ++ " server(s) in " ++ zone)
    return servers.map (nodeOfServer zone) ++ (← listNodes rest)

/-- Whether the tool is logged in; the first zone is asked. -/
def authStatus (zones : List String) : Program World AuthStatus := do
  match ← (login zones.head?).run with
  | .ok found =>
    match found.account with
    | some account => return .ok (account.name ++ " (" ++ account.id ++ ")")
    | none => return .ok "Unknown"
  | .error .toolNotFound => return .failed "usacloud がインストールされていません"
  | .error e => return .failed e.message

end CloudBalance.Sakura
