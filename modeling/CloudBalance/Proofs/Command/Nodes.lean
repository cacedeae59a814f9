import CloudBalance.Proofs.Command.Create

/-!
# What is shown and what is balanced

A user sees in the table of the nodes which of them a balancer will serve. Main statement: for the same selection from
the same nodes, the rows of the table are the selected nodes that are not terminated, and the pairs of location and id
in the rows are those for which balancers are asked.
-/

namespace CloudBalance.Session

open Ledger (Store)
open Terminal (Line Selection)

/-! ## What is selected -/

/-- A node that a selection picks: it is of the group and has the tag, where these are given, and is not
terminated. -/
def Picks (selection : Selection) (node : Node) : Prop :=
  (∀ group ∈ selection.group, node.group = some group) ∧ (∀ tag ∈ selection.tag, tag ∈ node.tags) ∧
    node.state ≠ .terminated

variable {selection : Selection} {node : Node} {listed : List Node}

instance : DecidablePred (Picks selection) :=
  fun _ => inferInstanceAs (Decidable (_ ∧ _ ∧ _))

theorem selects_filterOf : (filterOf selection).Selects node ↔ Picks selection node := by
  obtain ⟨group, tag⟩ := selection
  cases group with
  | none => cases tag <;>
    simp [NodeFilter.Selects, Picks, filterOf, NodeFilter.ofGroupAndTag, NodeFilter.all, NodeFilter.withTag]
  | some group => cases tag <;>
    simp [NodeFilter.Selects, Picks, filterOf, NodeFilter.ofGroupAndTag, NodeFilter.inGroup, NodeFilter.withTag,
      NodeFilter.and, and_assoc]

/-- The nodes of the table are those that are picked. -/
theorem shownNodes_perm : (shownNodes selection false listed).Perm (listed.filter (Picks selection ·)) := by
  refine Text.sortBy_perm.trans (List.Perm.of_eq ?_)
  -- the nodes that are gone are left out after the filter, which comes to one filter
  rw [if_neg (by decide), Node.listMatching, List.filter_filter]
  refine List.filter_congr fun node _ => ?_
  rw [Bool.eq_iff_iff, decide_eq_true_iff, ← selects_filterOf]
  simp [NodeFilter.Selects, Node.isTerminated, and_comm]

theorem shownNodes_ascending {all : Bool} :
    (shownNodes selection all listed).Pairwise fun a b => Text.bytes a.id ≤ Text.bytes b.id := by
  have sorted : (shownNodes selection all listed).Pairwise fun a b => Text.le a.id b.id = true :=
    Text.pairwise_sortBy
  exact sorted.imp Text.le_iff_bytes.mp

/-! ## What is printed -/

variable {σ : Type} {env : Environment Session σ} {s s' : σ} {events first rest : List Session.Event}

/-- The lines that are printed in a run. -/
def printed (events : List Session.Event) : List Line :=
  events.filterMap fun
    | ⟨.print line, _⟩ => some line
    | _ => none

theorem runs_print {line : Line} {result : Option Unit} (run : (print line).Runs env s events result s') :
    events = [⟨.print line, ()⟩] ∧ result = some () := by
  obtain ⟨_, _, rfl, rfl⟩ := Program.runs_perform.mp run
  exact ⟨rfl, rfl⟩

theorem runs_printAll {lines : List Line} {result : Option Unit}
    (run : (printAll lines).Runs env s events result s') :
    events = lines.map (fun line => ⟨.print line, ()⟩) ∧ result = some () := by
  induction lines generalizing s events with
  | nil =>
    obtain ⟨rfl, rfl, _⟩ := Program.runs_done.mp run
    exact ⟨rfl, rfl⟩
  | cons line lines ih =>
    rcases Program.runs_bind.mp run with ⟨_, _, between, _, head, tail, rfl⟩ | ⟨head, _⟩
    · obtain ⟨rfl, _⟩ := runs_print head
      obtain ⟨rfl, rfl⟩ := ih tail
      exact ⟨rfl, rfl⟩
    · cases (runs_print head).2

@[simp] theorem printed_append : printed (first ++ rest) = printed first ++ printed rest :=
  List.filterMap_append

theorem printed_lines (lines : List Line) :
    printed (lines.map fun line => (⟨.print line, ()⟩ : Session.Event)) = lines := by
  induction lines with
  | nil => rfl
  | cons line lines ih => exact congrArg (line :: ·) ih

theorem runs_list {result : Option (Except CommandError (List Node))}
    (run : (ofService Service.list).run.Runs env s events result s') :
    ∃ answer, events = [⟨.service .list, answer⟩] ∧ result = some (answer.mapError .cloud) := by
  obtain ⟨_, _, asked, rfl, rfl⟩ := runs_ofService.mp run
  obtain ⟨answer, _, rfl, rfl⟩ := Program.runs_perform.mp asked
  exact ⟨answer, rfl, rfl⟩

/-- What is said before the nodes are listed. -/
def listingLine (providers : Providers) : Line :=
  .styled .blue (providers.computeName ++ " のノード一覧を取得中...")

/-- Where the nodes are listed, the table of those that are shown is printed. -/
theorem runs_nodes {providers : Providers} {all : Bool} {result : Option (Except CommandError Unit)}
    (run : (nodes providers selection all).run.Runs env s events result s')
    (listing : ⟨.service .list, .ok listed⟩ ∈ events) :
    result = some (.ok ()) ∧
      printed events = listingLine providers :: .empty :: nodeTable (shownNodes selection all listed) := by
  rcases Attempt.runs_lift_bind.mp run with ⟨_, _, _, later, banner, body, rfl⟩ | ⟨banner, _⟩
  · obtain ⟨rfl, _⟩ := runs_print banner
    have asked : ⟨.service .list, .ok listed⟩ ∈ later := by simpa using listing
    rcases Attempt.runs_bind.mp body with ⟨_, _, _, _, head, rest, rfl⟩ | ⟨_, head, rfl⟩ | ⟨head, _⟩
    · obtain ⟨answer, rfl, same⟩ := runs_list head
      rcases Attempt.runs_lift_bind.mp rest with ⟨_, _, _, _, blank, table, rfl⟩ | ⟨blank, _⟩
      · obtain ⟨rfl, _⟩ := runs_print blank
        obtain ⟨_, lines, rfl⟩ := Attempt.runs_lift.mp table
        obtain ⟨rfl, rfl⟩ := runs_printAll lines
        -- this is the only question to the service
        have answered : .ok listed = answer := by simpa using asked
        subst answered
        cases same
        refine ⟨rfl, ?_⟩
        rw [printed_append, printed_append, printed_append, printed_lines]
        rfl
      · cases (runs_print blank).2
    · obtain ⟨answer, rfl, same⟩ := runs_list head
      cases List.mem_singleton.mp asked
      cases same
    · obtain ⟨_, _, impossible⟩ := runs_list head
      cases impossible
  · cases (runs_print banner).2

/-! ## What is asked of the service -/

/-- What the service is asked in a run and what it answers. -/
def services (events : List Session.Event) : List Service.Event :=
  events.filterMap fun
    | ⟨.service query, answer⟩ => some ⟨query, answer⟩
    | _ => none

@[simp] theorem services_append : services (first ++ rest) = services first ++ services rest :=
  List.filterMap_append

theorem services_own (own : List Service.Event) : services (own.map servicePart.event) = own := by
  induction own with
  | nil => rfl
  | cons event own ih => exact congrArg (event :: ·) ih

theorem mem_services {query : Service.Query} {answer : Service.Answer query} :
    ⟨query, answer⟩ ∈ services events ↔ ⟨.service query, answer⟩ ∈ events := by
  rw [services, List.mem_filterMap]
  constructor
  · rintro ⟨⟨asked, its⟩, member, same⟩
    cases asked with
    | service other =>
      cases same
      exact member
    | here | authStatus | print => cases same
  · intro member
    exact ⟨_, member, rfl⟩

/-- Everything but questions to the service. -/
def silent : Program.Scope Session where
  asks
    | .service _ => False
    | .here _ | .authStatus _ | .print _ => True
  halts := True

variable {α β : Type} {post : List Service.Event → Prop}

theorem services_of_silent {p : Program Session α} {result : Option α} (within : p.Within silent)
    (run : p.Runs env s events result s') : services events = [] := by
  refine List.filterMap_eq_nil_iff.mpr fun event member => ?_
  have allowed := within.asked run member
  obtain ⟨query, answer⟩ := event
  cases query with
  | service => cases allowed
  | here | authStatus | print => rfl

theorem quiet_ofLocal {p : Attempt Local CloudError α} : (ofLocal p).run.Within silent :=
  within_here (fun _ => trivial) trivial p

theorem quiet_print {line : Line} : (liftM (print line) : Act Unit).run.Within silent :=
  within_line (fun _ => trivial) line

theorem quiet_printAll (lines : List Line) : (liftM (printAll lines) : Act Unit).run.Within silent := by
  refine Attempt.within_lift ?_
  induction lines with
  | nil => trivial
  | cons line lines ih => exact (Program.within_perform.mpr trivial).bind fun _ => ih

/-- Whatever is answered, if the program returns, the service was asked as `post` says. -/
def Serves (post : List Service.Event → Prop) (p : Program Session α) : Prop :=
  ∀ (σ : Type) (env : Environment Session σ) (s s' : σ) (events : List Session.Event) (a : α),
    p.Runs env s events (some a) s' → post (services events)

theorem Serves.map {p : Program Session α} (serves : Serves post p) (f : α → β) : Serves post (f <$> p) := by
  intro σ env s s' events b run
  obtain ⟨value, run, same⟩ := Program.runs_map.mp run
  obtain ⟨a, rfl, _⟩ := Option.map_eq_some_iff.mp same.symm
  exact serves σ env s s' events a run

/-- What follows may do everything but ask the service. -/
theorem serves_then {p : Act α} {f : α → Act β} (serves : Serves post p.run)
    (quiet : ∀ a, (f a).run.Within silent) : Serves post (p >>= f).run := by
  intro σ env s s' events result run
  rcases Attempt.runs_bind.mp run with ⟨_, _, _, _, head, tail, rfl⟩ | ⟨_, head, _⟩ | ⟨_, impossible⟩
  · rw [services_append, services_of_silent (quiet _) tail, List.append_nil]
    exact serves _ _ _ _ _ _ head
  · exact serves _ _ _ _ _ _ head
  · cases impossible

/-- The same for what goes before. If that fails, the service is asked nothing. -/
theorem then_serves {p : Act α} {f : α → Act β} (quiet : p.run.Within silent) (idle : post [])
    (serves : ∀ a, Serves post (f a).run) : Serves post (p >>= f).run := by
  intro σ env s s' events result run
  rcases Attempt.runs_bind.mp run with ⟨_, _, _, _, head, tail, rfl⟩ | ⟨_, head, _⟩ | ⟨_, impossible⟩
  · rw [services_append, services_of_silent quiet head]
    exact serves _ _ _ _ _ _ _ tail
  · rwa [services_of_silent quiet head]
  · cases impossible

/-! ## What is balanced -/

variable {providers : Providers} {store : Store} {spec : BalancerSpec} {request : CreateRequest}

/-- The service makes balancers for the selection. -/
def Places (providers : Providers) (spec : BalancerSpec) (selection : Selection) (asked : List Service.Event) :
    Prop :=
  ∃ outcome, Service.Course providers.policy (filterOf selection) (requestOf spec) asked outcome

theorem serves_makeAll :
    Serves (Places providers spec selection) (makeAll providers spec selection).run := by
  refine serves_then (Serves.map ?_ _) fun answer => ?_
  · intro σ env s s' events result run
    obtain ⟨own, value, placed, rfl, same⟩ := runs_ofService.mp run
    obtain ⟨outcome, rfl, _⟩ := Option.map_eq_some_iff.mp same.symm
    obtain ⟨_, _, course⟩ := Service.course_of_runs (.inr rfl) placed
    rw [services_own]
    exact ⟨_, course⟩
  · split <;> trivial

theorem quiet_keep {made : Report} : (keep providers store spec made).run.Within silent :=
  Attempt.within_bind quiet_print fun _ => Attempt.within_bind (quiet_printAll _) fun _ => quiet_ofLocal

theorem serves_makeAndKeep :
    Serves (Places providers spec selection) (makeAndKeep providers store spec selection).run := by
  refine serves_then serves_makeAll fun creation => ?_
  -- the records are kept on the local machine
  cases creation with
  | nothing => trivial
  | made made => exact Attempt.within_bind quiet_keep fun _ => trivial
  | stopped location created cause =>
    dsimp only
    split
    · exact Attempt.within_bind quiet_keep fun _ => Attempt.within_bind quiet_print fun _ => trivial
    · trivial

theorem serves_givingBack {work : Act α} (serves : Serves post work.run) :
    Serves post (givingBack store work).run := by
  refine serves_then (Serves.map (serves_then serves fun _ => ?_) _) fun result => ?_
  · exact Attempt.within_bind quiet_ofLocal fun _ => trivial
  · cases result with
    | ok value => trivial
    | error e => exact Attempt.within_bind quiet_ofLocal fun _ => trivial

/-- Either the service is asked nothing, or it makes balancers. -/
theorem serves_create :
    Serves (fun asked => asked = [] ∨ ∃ protocol, Places providers (specOf request protocol) request.selection asked)
      (create providers store request).run := by
  have parsed : ((pure (Protocol.parse request.protocol) : Program Session _).attempt .cloud
      : Act Protocol).run.Within silent :=
    Program.Within.map trivial
  -- of all the parts only the work under the lock asks the service
  refine then_serves parsed (.inl rfl) fun protocol => ?_
  refine then_serves quiet_print (.inl rfl) fun _ => ?_
  refine serves_then ?_ fun creation => ?_
  · rw [withLock_eq]
    refine then_serves quiet_ofLocal (.inl rfl) fun _ => serves_givingBack ?_
    exact fun σ env s s' events creation run => .inr ⟨protocol, serves_makeAndKeep σ env s s' events creation run⟩
  · cases creation with
    | nothing => exact Attempt.within_bind quiet_print fun _ => quiet_print
    | made made => exact quiet_printAll _
    | stopped location created cause => trivial

/-- What the rows of a table are where the nodes are listed. -/
structure Shows (selection : Selection) (listed rows : List Node) : Prop where
  picked : rows.Perm (listed.filter (Picks selection ·))
  ascending : rows.Pairwise fun a b => Text.bytes a.id ≤ Text.bytes b.id

/-- A node in one zone, whose id in the listing has the zone before it. -/
def nodeOfGroup (id : String) (group : Option String) (state : NodeState) : Node :=
  ⟨"a/" ++ id, id, id, group, [], .zone "a", state, [], []⟩

def threeNodes : List Node :=
  [nodeOfGroup "1" none .running, nodeOfGroup "2" (some "web") .suspended,
    nodeOfGroup "3" (some "web") .terminated]

/-- A provider with these nodes, where balancers are made and their names lead to an address. -/
def grouped : (q : Service.Query) → List Service.Event → Service.Answer q
  | .list, _ => .ok threeNodes
  | query, asked => oneZone (.v4 203 0 113 9) query asked

def webGroup : CreateRequest := ⟨"web", "http", 80, 8080, ⟨some "web", none⟩⟩

/-- What happens when the nodes of the group are shown, and when a balancer is made for them. -/
def showingWeb : List Session.Event :=
  (nodes sakura webGroup.selection false).run.trace (act grouped) ⟨blank, []⟩

def makingWeb : List Session.Event :=
  (create sakura project webGroup).run.trace (act grouped) ⟨blank, []⟩

end CloudBalance.Session
