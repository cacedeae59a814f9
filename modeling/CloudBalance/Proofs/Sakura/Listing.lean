import CloudBalance.Command.Assembly
import CloudBalance.Proofs.Sakura.Destroy
import Mathlib.Data.List.Forall2

/-!
# The listing of nodes

The tool is asked for the servers of one zone after another, and each server is a node. Main statement: there are nodes
exactly if every zone was asked for and its servers were read, and then they are, zone by zone, those of the servers in
the order in which they were printed; otherwise the listing ends at the first zone whose servers are not to be had, with
the failure there. The first tag that names a group gives the node its group, and the other tags stay as they are.
-/

namespace CloudBalance

theorem Text.afterStart?_eq_some {start text rest : String} :
    afterStart? start text = some rest ↔ text = start ++ rest := by
  rw [afterStart?, Option.map_eq_some_iff]
  constructor
  · rintro ⟨after, found, rfl⟩
    rw [List.isPrefixOf?_eq_some_iff_append_eq] at found
    rw [← String.toList_inj, String.toList_append, String.toList_ofList, found]
  · rintro rfl
    refine ⟨rest.toList, ?_, String.ofList_toList⟩
    rw [List.isPrefixOf?_eq_some_iff_append_eq, String.toList_append]

namespace Sakura

open World (abroad calls recording)

/-! ## Tags -/

/-- The first tag of a group is taken out of a list of tags, and all others are left in their order. -/
inductive Regroups : List String → Option String → List String → Prop where
  | ungrouped {tags : List String} (plain : ∀ tag ∈ tags, ∀ group, tag ≠ "group=" ++ group) :
      Regroups tags none tags
  | grouped {before after : List String} {group : String}
      (plain : ∀ tag ∈ before, ∀ group, tag ≠ "group=" ++ group) :
      Regroups (before ++ ("group=" ++ group) :: after) (some group) (before ++ after)

theorem groupOfTag?_eq_some {tag group : String} : groupOfTag? tag = some group ↔ tag = "group=" ++ group :=
  Text.afterStart?_eq_some

theorem groupOfTag?_eq_none {tag : String} : groupOfTag? tag = none ↔ ∀ group, tag ≠ "group=" ++ group := by
  simp [Option.eq_none_iff_forall_ne_some, groupOfTag?_eq_some]

/-- A tag of no group in front changes nothing but the tags that are left. -/
theorem Regroups.cons {tag : String} {tags rest : List String} {group : Option String}
    (other : ∀ group, tag ≠ "group=" ++ group) (regroups : Regroups tags group rest) :
    Regroups (tag :: tags) group (tag :: rest) := by
  cases regroups with
  | ungrouped plain => exact .ungrouped (List.forall_mem_cons.mpr ⟨other, plain⟩)
  | @grouped before after group plain =>
    exact @grouped (tag :: before) after group (List.forall_mem_cons.mpr ⟨other, plain⟩)

theorem regroups_splitTags (tags : List String) : Regroups tags (splitTags tags).1 (splitTags tags).2 := by
  induction tags with
  | nil => exact .ungrouped (List.forall_mem_nil _)
  | cons tag tags ih =>
    rw [splitTags]
    cases named : groupOfTag? tag with
    | some group =>
      rw [groupOfTag?_eq_some.mp named]
      exact @Regroups.grouped [] tags group (List.forall_mem_nil _)
    | none => exact ih.cons (groupOfTag?_eq_none.mp named)

/-- The node of a server in a zone, told by what the server is. -/
structure IsNodeOf (zone : String) (server : Server) (node : Node) : Prop where
  id : node.id = zone ++ "/" ++ server.id
  providerId : node.providerId = server.id
  name : node.name = server.name
  located : node.location = .zone zone
  regroups : Regroups server.tags node.group node.tags

theorem isNodeOf_nodeOfServer (zone : String) (server : Server) : IsNodeOf zone server (nodeOfServer zone server) :=
  ⟨rfl, rfl, rfl, rfl, regroups_splitTags server.tags⟩

/-! ## Listings -/

/-- The servers that a run of the tool printed. -/
def serversIn (answer : ToolRun) : Except SakuraError (List Server) :=
  (outputOf answer).bind (readList Server.ofJson?)

def serverListing (zone : String) : List String :=
  ["--zone", zone, "server", "list", "--output-type", "json"]

/-- What the tool answered when it was asked for the servers of a zone. -/
structure Listing where
  zone : String
  answer : ToolRun
  servers : List Server
  read : serversIn answer = .ok servers

namespace Listing

def call (listing : Listing) : World.Event :=
  ⟨.tool (serverListing listing.zone), listing.answer⟩

def nodes (listing : Listing) : List Node :=
  listing.servers.map (nodeOfServer listing.zone)

theorem forall₂_nodes (listing : Listing) :
    List.Forall₂ (IsNodeOf listing.zone) listing.servers listing.nodes := by
  rw [nodes, List.forall₂_map_right_iff, List.forall₂_same]
  exact fun server _ => isNodeOf_nodeOfServer listing.zone server

theorem call_eq {zone : String} {answer : ToolRun} {listing : Listing}
    (same : listing.call = ⟨.tool (serverListing zone), answer⟩) : listing.zone = zone ∧ listing.answer = answer := by
  obtain ⟨query, answered⟩ := Sigma.mk.inj same
  have arguments := World.Query.tool.inj query
  exact ⟨by simpa [serverListing] using arguments, eq_of_heq answered⟩

/-- What was asked and answered is the whole of a listing. -/
theorem call_injective : Function.Injective call := by
  rintro ⟨zone, answer, servers, read⟩ listing same
  obtain ⟨rfl, rfl⟩ := call_eq same.symm
  cases Except.ok.inj (read.symm.trans listing.read)
  rfl

end Listing

/-- How it is found that the servers of a zone are not to be had: what is asked, and why. -/
inductive Unlisted (zone : String) : List World.Event → SakuraError → Prop where
  /-- The tool cannot be told the zone. -/
  | unfit (unfit : (serverListing zone).all isArgument = false) : Unlisted zone [] unrunnable
  | unread {answer : ToolRun} {e : SakuraError} (refused : serversIn answer = .error e) :
      Unlisted zone [⟨.tool (serverListing zone), answer⟩] e

/-- How the listing of zones may go: what is asked, and the result. -/
inductive Lists : List String → List World.Event → Except SakuraError (List Node) → Prop where
  | all {listings : List Listing} :
      Lists (listings.map (·.zone)) (listings.map Listing.call) (.ok (listings.flatMap Listing.nodes))
  /-- The zones are listed up to one whose servers are not to be had. -/
  | stopped {listings : List Listing} {zone : String} {rest : List String} {asked : List World.Event}
      {e : SakuraError} (unlisted : Unlisted zone asked e) :
      Lists (listings.map (·.zone) ++ zone :: rest) (listings.map Listing.call ++ asked) (.error e)

namespace Lists

variable {zones : List String} {asked : List World.Event} {outcome : Except SakuraError (List Node)}

theorem cons (listing : Listing) (lists : Lists zones asked outcome) :
    Lists (listing.zone :: zones) (listing.call :: asked) (outcome.map (listing.nodes ++ ·)) := by
  cases lists with
  | @all listings => exact @all (listing :: listings)
  | @stopped listings zone rest asked e unlisted => exact @stopped (listing :: listings) zone rest asked e unlisted

/-- There are nodes exactly if every zone was listed. -/
theorem ok_iff (lists : Lists zones asked outcome) {nodes : List Node} :
    outcome = .ok nodes ↔ ∃ listings : List Listing, listings.map (·.zone) = zones ∧
      asked = listings.map Listing.call ∧ nodes = listings.flatMap Listing.nodes := by
  cases lists with
  | @all listings =>
    constructor
    · rintro same
      exact ⟨listings, rfl, rfl, (Except.ok.inj same).symm⟩
    · rintro ⟨others, _, same, rfl⟩
      rw [Listing.call_injective.list_map same]
  | @stopped listings zone rest asked e unlisted =>
    refine iff_of_false nofun ?_
    rintro ⟨others, zones, same, _⟩
    -- the listing in the place of the zone that failed is one that was not read
    obtain ⟨first, second, rfl, done, remaining⟩ := List.map_eq_append_iff.mp same.symm
    have long : first.length = listings.length := by simpa using congrArg List.length done
    rw [List.map_append] at zones
    obtain ⟨_, tail⟩ := List.append_inj zones (by simpa using long)
    obtain ⟨listing, later, rfl, rfl, _⟩ := List.map_eq_cons_iff.mp tail
    cases unlisted with
    | unfit => cases remaining
    | unread refused =>
      obtain ⟨_, rfl⟩ := Listing.call_eq (List.cons.inj remaining).1
      rw [listing.read] at refused
      cases refused

/-- The nodes lie in the zones that were listed. -/
theorem zone_of_mem {nodes : List Node} {node : Node} (lists : Lists zones asked (.ok nodes)) (member : node ∈ nodes) :
    ∃ zone ∈ zones, node.location = .zone zone := by
  obtain ⟨listings, rfl, _, rfl⟩ := lists.ok_iff.mp rfl
  obtain ⟨listing, among, inside⟩ := List.mem_flatMap.mp member
  obtain ⟨server, _, rfl⟩ := List.mem_map.mp inside
  exact ⟨listing.zone, List.mem_map_of_mem among, rfl⟩

end Lists

/-! ## Zone by zone -/

variable {s : List World.Event}

/-- The tool is run once for a zone, unless it cannot be told the zone. -/
theorem ensures_listServers {zone : String} :
    (listServers (some zone)).run.Ensures recording s fun result after =>
      match result with
      | .ok servers =>
        ∃ listing : Listing, listing.zone = zone ∧ listing.servers = servers ∧ after = s ++ [listing.call]
      | .error e => ∃ asked, Unlisted zone asked e ∧ after = s ++ asked := by
  rw [listServers, Attempt.ensures_bind]
  cases runnable : (zoneArguments (some zone) ++ ["server", "list", "--output-type", "json"]).all isArgument with
  | false =>
    rw [ensures_runTool_unrunnable runnable]
    exact ⟨[], .unfit runnable, (List.append_nil s).symm⟩
  | true =>
    rw [ensures_runTool runnable]
    intro answer
    cases printed : outputOf answer with
    | error e =>
      have refused : serversIn answer = .error e := by rw [serversIn, printed, Except.bind]
      exact ⟨_, .unread refused, rfl⟩
    | ok output =>
      have read : serversIn answer = readList Server.ofJson? output := by rw [serversIn, printed, Except.bind]
      refine Attempt.ensures_known.mpr ?_
      rw [← read]
      cases listed : serversIn answer with
      | error e => exact ⟨_, .unread listed, rfl⟩
      | ok servers => exact ⟨⟨zone, answer, servers, listed⟩, rfl, rfl, rfl⟩

theorem ensures_lists (zones : List String) :
    (listNodes zones).run.Ensures recording s fun outcome after =>
      ∃ asked, Lists zones asked outcome ∧ after = s ++ asked := by
  induction zones generalizing s with
  | nil => exact Attempt.ensures_pure.mpr ⟨[], @Lists.all [], (List.append_nil s).symm⟩
  | cons zone zones ih =>
    rw [listNodes, Attempt.ensures_bind]
    refine ensures_listServers.mono fun result between read => ?_
    cases result with
    | error e =>
      obtain ⟨asked, unlisted, rfl⟩ := read
      exact ⟨asked, @Lists.stopped [] zone zones asked e unlisted, rfl⟩
    | ok servers =>
      obtain ⟨listing, rfl, rfl, rfl⟩ := read
      dsimp only
      rw [Attempt.ensures_bind, Attempt.ensures_lift, World.ensures_note]
      dsimp only
      rw [Attempt.ensures_bind]
      refine ih.mono fun outcome after later => ?_
      obtain ⟨asked, lists, rfl⟩ := later
      have listed := lists.cons listing
      cases outcome with
      | error e => exact ⟨_, listed, by simp⟩
      | ok rest => exact Attempt.ensures_pure.mpr ⟨_, listed, by simp⟩

theorem within_listNodes (zones : List String) : (listNodes zones).run.Within abroad := by
  induction zones with
  | nil => trivial
  | cons zone zones ih =>
    refine Attempt.within_bind (Attempt.within_bind within_runTool fun _ => Attempt.within_known) fun servers => ?_
    exact Attempt.within_bind World.within_note fun _ => Attempt.within_bind ih fun _ => trivial

theorem within_list (assembly : Assembly) : assembly.list.run.Within abroad :=
  Attempt.within_adapt (within_listNodes assembly.zones)

variable {σ : Type} {env : Environment World σ} {before after : σ} {events : List World.Event} {assembly : Assembly}
  {result : Option (Except CloudError (List Node))}

theorem lists_of_runs (run : assembly.list.run.Runs env before events result after) :
    ∃ outcome, result = some (outcome.mapError SakuraError.toCloudError) ∧
      Lists assembly.zones (calls events) outcome := by
  obtain ⟨answer, rfl⟩ := (within_list assembly).returns not_false run
  have ensured : assembly.list.run.Ensures recording [] fun answer asked =>
      ∃ outcome, answer = outcome.mapError SakuraError.toCloudError ∧ Lists assembly.zones asked outcome := by
    rw [Assembly.list, Attempt.ensures_adapt]
    refine (ensures_lists assembly.zones).mono ?_
    rintro outcome _ ⟨asked, lists, rfl⟩
    exact ⟨outcome, rfl, lists⟩
  obtain ⟨outcome, rfl, lists⟩ := World.ensured_of_runs ensured run
  exact ⟨outcome, rfl, lists⟩

/-- The zones of the settings are listed in their order, up to the first one that fails. There are nodes exactly if the
servers of every zone were asked for and read, and then each server is one node, which lies in the zone and has all the
tags but the first one of a group. -/
theorem lists_every_server (run : assembly.list.run.Runs env before events result after) :
    ∃ outcome, result = some (outcome.mapError SakuraError.toCloudError) ∧
      Lists assembly.zones (calls events) outcome ∧
      (∀ nodes, outcome = .ok nodes ↔ ∃ listings : List Listing, listings.map (·.zone) = assembly.zones ∧
        calls events = listings.map Listing.call ∧ nodes = listings.flatMap Listing.nodes) ∧
      ∀ listing : Listing, List.Forall₂ (IsNodeOf listing.zone) listing.servers listing.nodes := by
  obtain ⟨outcome, rfl, lists⟩ := lists_of_runs run
  exact ⟨outcome, rfl, lists, fun nodes => lists.ok_iff, Listing.forall₂_nodes⟩

/-- A server with two tags of groups between two other tags. -/
def groupedServer : Server :=
  ⟨"1", "s1", ["a", "group=web", "group=db", "b"], none, none, none, none⟩

/-- A machine where the tool finds this server in one zone, and knows no other zone. -/
def oneZone : World.Outside where
  tool arguments :=
    if arguments = serverListing "tk1a" then
      .exited 0 (Text.encode ("[\x7b\"ID\": 1, \"Name\": \"s1\", " ++
        "\"Tags\": [\"a\", \"group=web\", \"group=db\", \"b\"]\x7d]")) ByteArray.empty
    else .exited 1 ByteArray.empty (Text.encode "no such zone\n")
  send _ := .error "no connection"
  resolve host := .error (.unknownHost host)

def ofZones (zones : List String) : Assembly :=
  ⟨zones, .sakura standardPlan, .standard⟩

/-- Of the two tags the first one is the group of the node and the second one is kept. Where the second of three zones
is not known, the third one is not asked for. -/
theorem lists_every_server_until :
    (∃ events nodes, (ofZones ["tk1a"]).list.run.Runs World.onDisk ⟨[], []⟩ events (some (.ok nodes)) ⟨[], []⟩ ∧
      Lists ["tk1a"] (calls events) (.ok nodes) ∧
      nodes.map (fun node => (node.group, node.tags)) = [(some "web", ["a", "group=db", "b"])]) ∧
    ∃ events, (ofZones ["tk1a", "is1a", "tk1a"]).list.run.Runs World.onDisk ⟨[], []⟩ events
        (some (.error (.commandFailed "usacloud command failed: no such zone"))) ⟨[], []⟩ ∧
      ¬ ∃ listings : List Listing, listings.map (·.zone) = ["tk1a", "is1a", "tk1a"] ∧
        calls events = listings.map Listing.call := by
  constructor
  · have ended : ((ofZones ["tk1a"]).list.run.run (World.reply oneZone) ()).1 =
        some (.ok [nodeOfServer "tk1a" groupedServer]) := by
      decide +kernel
    obtain ⟨events, run⟩ := World.exists_run_of_abroad oneZone (within_list _) ended ⟨[], []⟩
    obtain ⟨outcome, same, lists, _⟩ := lists_every_server run
    cases outcome with
    | error e => cases same
    | ok nodes =>
      cases same
      exact ⟨events, _, run, lists, by decide +kernel⟩
  · have ended : ((ofZones ["tk1a", "is1a", "tk1a"]).list.run.run (World.reply oneZone) ()).1 =
        some (.error (.commandFailed "usacloud command failed: no such zone")) := by
      decide +kernel
    obtain ⟨events, run⟩ := World.exists_run_of_abroad oneZone (within_list _) ended ⟨[], []⟩
    obtain ⟨outcome, same, _, complete, _⟩ := lists_every_server run
    refine ⟨events, run, ?_⟩
    rintro ⟨listings, zones, asked⟩
    rw [(complete _).mpr ⟨listings, zones, asked, rfl⟩] at same
    cases same

end Sakura

end CloudBalance
