import CloudBalance.Proofs.Sakura.Listing
import CloudBalance.Proofs.Text.Separator
import CloudBalance.Proofs.World.Provider
import CloudBalance.Settings.Document
import Mathlib.Data.List.Nodup

/-!
# Nodes with the same id

The id of a node is put together from the zone and the id of the server. Main statement: the nodes that are listed have
different ids exactly if the servers of each zone have and no two listings clash. Listings clash if they are of one zone
or if the one zone is the start of the other up to a slash, so they do not where no zone is given twice and none has a
slash in its name.
-/

namespace CloudBalance.Sakura

open World (calls recording)

/-! ## Ids put together -/

/-- The id of a node is that of another one if zone and server are the same or if the zones and the ids of the
servers overlap. -/
theorem slash_eq {zone other id its : String} :
    zone ++ "/" ++ id = other ++ "/" ++ its ↔ (zone = other ∧ id = its) ∨
      (∃ between, other = zone ++ "/" ++ between ∧ id = between ++ "/" ++ its) ∨
      ∃ between, zone = other ++ "/" ++ between ∧ its = between ++ "/" ++ id :=
  Text.separator_eq rfl

/-! ## Listings -/

namespace Listing

/-- No two servers of the listing have the same id. -/
def Distinct (listing : Listing) : Prop :=
  (listing.servers.map (·.id)).Nodup

/-- Two listings have servers whose nodes get the same id. -/
def Clash (first second : Listing) : Prop :=
  ∃ a ∈ first.servers, ∃ b ∈ second.servers,
    (first.zone = second.zone ∧ a.id = b.id) ∨
    (∃ between, second.zone = first.zone ++ "/" ++ between ∧ a.id = between ++ "/" ++ b.id) ∨
    ∃ between, first.zone = second.zone ++ "/" ++ between ∧ b.id = between ++ "/" ++ a.id

theorem nodup_nodes {listing : Listing} : (listing.nodes.map (·.id)).Nodup ↔ listing.Distinct := by
  have ids : listing.nodes.map (·.id) = (listing.servers.map (·.id)).map (listing.zone ++ "/" ++ ·) := by
    simp [nodes, nodeOfServer]
  have injective : Function.Injective (listing.zone ++ "/" ++ ·) := by
    intro id its same
    simpa [← String.toList_inj] using same
  rw [ids, List.nodup_map_iff injective, Distinct]

theorem disjoint_nodes {first second : Listing} :
    (first.nodes.map (·.id)).Disjoint (second.nodes.map (·.id)) ↔ ¬ first.Clash second := by
  simp only [List.disjoint_left, List.mem_map, nodes, Clash, ← slash_eq]
  constructor
  · rintro disjoint ⟨a, among, b, others, same⟩
    exact disjoint ⟨_, ⟨a, among, rfl⟩, rfl⟩ ⟨_, ⟨b, others, rfl⟩, same.symm⟩
  · rintro apart _ ⟨_, ⟨a, among, rfl⟩, rfl⟩ ⟨_, ⟨b, others, rfl⟩, same⟩
    exact apart ⟨a, among, b, others, same.symm⟩

theorem nodup_flatMap_nodes {listings : List Listing} :
    ((listings.flatMap nodes).map (·.id)).Nodup ↔
      (∀ listing ∈ listings, listing.Distinct) ∧ listings.Pairwise fun first second => ¬ first.Clash second := by
  rw [List.map_flatMap, List.nodup_flatMap]
  exact and_congr (forall₂_congr fun _ _ => nodup_nodes) (List.Pairwise.iff fun _ _ => disjoint_nodes)

/-- Zones that are different and have no slash do not clash. -/
theorem not_clash {first second : Listing} (differ : first.zone ≠ second.zone)
    (plain : '/' ∉ first.zone.toList) (alsoPlain : '/' ∉ second.zone.toList) : ¬ first.Clash second := by
  rintro ⟨a, _, b, _, ⟨same, _⟩ | ⟨between, longer, _⟩ | ⟨between, longer, _⟩⟩
  · exact differ same
  · exact alsoPlain (by simp [longer])
  · exact plain (by simp [longer])

theorem pairwise_not_clash {listings : List Listing} (once : (listings.map (·.zone)).Nodup)
    (plain : ∀ listing ∈ listings, '/' ∉ listing.zone.toList) :
    listings.Pairwise fun first second => ¬ first.Clash second := by
  refine (List.pairwise_map.mp once).imp_of_mem ?_
  intro first second among others differ
  exact not_clash differ (plain first among) (plain second others)

end Listing

/-! ## Zone by zone -/

/-- The nodes are those of the listings, one listing for each zone. -/
theorem ensures_listNodes (zones : List String) :
    (listNodes zones).run.Ensures recording [] fun result asked => ∀ nodes, result = .ok nodes →
      ∃ listings : List Listing, listings.map (·.zone) = zones ∧ asked = listings.map Listing.call ∧
        nodes = listings.flatMap Listing.nodes := by
  refine (ensures_lists zones).mono ?_
  rintro result _ ⟨asked, lists, rfl⟩ nodes listed
  exact lists.ok_iff.mp listed

variable {σ : Type} {env : Environment World σ} {before after : σ} {events : List World.Event}
  {zones : List String} {nodes : List Node}

/-- The nodes that are listed have different ids exactly if the servers of each listing have and no two listings
clash. That is so where no zone is given twice and none has a slash in its name. -/
theorem nodup_ids_iff (run : (listNodes zones).run.Runs env before events (some (.ok nodes)) after) :
    ∃ listings : List Listing, listings.map (·.zone) = zones ∧
      calls events = listings.map Listing.call ∧ nodes = listings.flatMap Listing.nodes ∧
      ((nodes.map (·.id)).Nodup ↔ (∀ listing ∈ listings, listing.Distinct) ∧
        listings.Pairwise fun first second => ¬ first.Clash second) ∧
      (zones.Nodup → (∀ zone ∈ zones, '/' ∉ zone.toList) → (∀ listing ∈ listings, listing.Distinct) →
        (nodes.map (·.id)).Nodup) := by
  have listed := World.ensured_of_runs (ensures_listNodes zones) run
  obtain ⟨listings, rfl, asked, rfl⟩ := listed nodes rfl
  refine ⟨listings, rfl, asked, rfl, Listing.nodup_flatMap_nodes, fun once plain distinct => ?_⟩
  have apart := Listing.pairwise_not_clash once fun listing member =>
    plain _ (List.mem_map.mpr ⟨listing, member, rfl⟩)
  exact Listing.nodup_flatMap_nodes.mpr ⟨distinct, apart⟩

/-- A server as the tool prints it, and as it is read. -/
def printedServer : ToolRun :=
  .exited 0 (Text.encode "[\x7b\"ID\": 1, \"Name\": \"s1\"\x7d]") ByteArray.empty

def firstServer : Server :=
  ⟨"1", "s1", [], none, none, none, none⟩

/-- A world where the tool prints the same server in every zone. -/
def oneServer : World.Outside where
  tool _ := printedServer
  send _ := .error "no connection"
  resolve host := .error (.unknownHost host)

/-- Settings that give a zone twice are accepted, and then each server is two nodes with one id. -/
theorem nodup_ids_iff_twice :
    (∃ balancer resolver, Settings.ofText "compute sakura \x7b zone tk1a; zone tk1a; \x7d" =
      .ok ⟨.sakura ["tk1a", "tk1a"], balancer, resolver⟩) ∧
    ∃ events nodes, (listNodes ["tk1a", "tk1a"]).run.Runs (.ofHandler (S := World) (World.reply oneServer)) ()
        events (some (.ok nodes)) () ∧
      (∃ listings : List Listing, calls events = listings.map Listing.call ∧
        ∀ listing ∈ listings, listing.Distinct) ∧
      ¬ (nodes.map (·.id)).Nodup := by
  constructor
  · exact ⟨.sakura BalancerSettings.standardPlan, .standard, by decide +kernel⟩
  · have read : serversIn printedServer = .ok [firstServer] := by decide +kernel
    have ended : ((listNodes ["tk1a", "tk1a"]).run.run (World.reply oneServer) ()).1 =
        some (.ok [nodeOfServer "tk1a" firstServer, nodeOfServer "tk1a" firstServer]) := by
      decide +kernel
    have run := @Program.runs_run World Unit _ (.ofHandler (S := World) (World.reply oneServer))
      (World.reply oneServer) (fun _ _ => rfl) (listNodes ["tk1a", "tk1a"]).run ()
    rw [ended] at run
    generalize Program.trace _ _ _ = events, Prod.snd _ = after at run
    obtain ⟨listings, _, asked, _⟩ := nodup_ids_iff run
    have distinct : ∀ listing ∈ listings, listing.Distinct := by
      intro listing member
      have among : listing.call ∈ calls events := by
        rw [asked]
        exact List.mem_map_of_mem member
      obtain ⟨_, _, answered⟩ := run.steps.answered (World.mem_calls.mp among).1
      -- every run of the tool prints the one server
      have answer : printedServer = listing.answer := congrArg Prod.fst answered
      have servers := listing.read
      rw [← answer, read] at servers
      rw [Listing.Distinct, ← Except.ok.inj servers]
      decide
    exact ⟨events, _, run, ⟨listings, asked, distinct⟩, by simp⟩

end CloudBalance.Sakura
