import CloudBalance.Proofs.Sakura.Answering
import CloudBalance.Proofs.Sakura.Reading

/-!
# Destroying what was made at Sakura Cloud

What creations and destructions do to the store of the provider. Main statement: a creation adds one balancer, and
where it is the only one of ours that answers on an address, a destruction there leaves the store as it was.
-/

namespace CloudBalance.Sakura

open Net (Address Resolution)
open Program (Steps)
open World (around calls)

variable {address : Address} {resolver : String → Resolution} {store made after : Store}
  {events : List World.Event} {balancer : Balancer}

/-! ## Destroying -/

theorem quiet_listing {answer : ToolRun} (answered : provider.tool store listing answer after) : after = store := by
  cases (provider_tool .list).mp answered
  rfl

/-- Beside the provider a destruction settles the balancers that answer on the address. -/
theorem settles_served {result : Option (Except CloudError Bool)}
    (run : (destroy address).run.Runs (around provider resolver) store events result after) :
    ∃ outcome asked, result = some outcome ∧
      Settles address (answering resolver address (store.map (·.1))) asked outcome ∧
      Steps (around provider resolver) store asked after := by
  obtain ⟨outcome, found, rfl, course⟩ := course_of_runs run
  have steps := World.steps_calls run.steps
  generalize calls events = asked at course steps
  cases course with
  | unlisted refused =>
    obtain ⟨between, answered, _⟩ := steps.of_cons
    cases (provider_tool .list).mp answered with
    | list told =>
      rw [refused] at told
      cases told
  | settled known tried settles =>
    obtain ⟨between, answered, _⟩ := steps.of_cons
    cases (provider_tool .list).mp answered with
    | list told =>
      rw [known] at told
      cases told
      obtain ⟨settled, looked⟩ := steps_settled (fun _ => quiet_listing) steps
      rw [found_of_looked tried looked] at settles
      exact ⟨outcome, _, rfl, settles, settled⟩

theorem yields_true (only : answering resolver address (store.map (·.1)) = [balancer])
    (argument : isArgument balancer.id = true) :
    (destroy address).run.Yields (around provider resolver) store (.ok true)
      (store.filter (·.1.id ≠ balancer.id)) := by
  refine World.yields_around provider_total within_destroy fun events result after run => ?_
  obtain ⟨outcome, asked, rfl, settles, steps⟩ := settles_served run
  rw [only] at settles
  cases settles with
  | one _ =>
    obtain ⟨between, answered, rest⟩ := steps.of_cons
    rw [rest.of_nil]
    cases (provider_tool (.delete balancer.id)).mp answered with
    | delete told =>
      rw [told]
      exact ⟨rfl, rfl⟩
  | unfit unfit => simp [argument] at unfit
  | many several => simp at several

/-! ## Making -/

variable {plan : UInt32} {location : Location} {spec : BalancerSpec} {ids : List String} {host : String}

/-- Reading servers changes nothing. -/
theorem unchanged_of_serverAddresses {result : Option (Except SakuraError (List String))}
    (run : (serverAddresses location.id ids).run.Runs (around provider resolver) store events result after) :
    after = store := by
  refine within_serverAddresses.unchanged (fun s query answer s' asks answered => ?_) run
  cases query with
  | tool arguments =>
    obtain ⟨rest, rfl⟩ := asks
    exact provider_zone.mp answered
  | here query => exact answered
  | _ => cases asks

/-- A store to which a balancer was added, anywhere and under a new id. -/
inductive Adds (balancer : Balancer) : Store → Store → Prop where
  | intro {front back : Store} {parameters : Parameters} (fresh : ∀ other ∈ front ++ back, other.1.id ≠ balancer.id) :
      Adds balancer (front ++ back) (front ++ (balancer, parameters) :: back)

theorem Adds.without (adds : Adds balancer store made) : made.filter (·.1.id ≠ balancer.id) = store := by
  obtain ⟨fresh⟩ := adds
  rw [List.filter_append, List.filter_cons_of_neg (by simp), ← List.filter_append]
  exact List.filter_eq_self.mpr fun other member => by simp [fresh other member]

theorem Adds.answering (adds : Adds balancer store made) (managed : isManaged balancer = true)
    (reaches : answersBy resolver address balancer = true)
    (alone : answering resolver address (store.map (·.1)) = []) :
    Sakura.answering resolver address (made.map (·.1)) = [balancer] := by
  obtain ⟨_⟩ := adds
  simp only [Sakura.answering, List.map_append, List.filter_append, List.append_eq_nil_iff] at alone
  simp [Sakura.answering, managed, reaches, alone]

/-- Beside the provider a creation adds the balancer whose name it returns. -/
theorem adds_of_create
    (run : (create plan location spec ids).run.Runs (around provider resolver) store events (some (.ok host)) made) :
    ∃ (addresses : List String) (id : String) (virtualAddress : Option String), isArgument id = true ∧
      Adds ((parametersOf location spec plan addresses).at id (some host) virtualAddress) store made := by
  obtain ⟨first, read, between, rest, reading, rfl, ends⟩ := runs_create run
  -- reading the servers left the store alone, so the rest starts from it
  rw [unchanged_of_serverAddresses reading] at ends
  cases read with
  | error e =>
    obtain ⟨_, _, same⟩ := ends
    cases same
  | ok addresses =>
    obtain ⟨steps, answer, asked, named⟩ := ends
    replace steps := World.steps_calls steps
    rw [asked] at steps
    obtain ⟨last, answered, steps⟩ := steps.of_cons
    rw [steps.of_nil]
    cases (provider_tool (.create (parametersOf location spec plan addresses))).mp answered with
    | @create _ front back id fqdn virtualAddress _ fresh argument told =>
      rw [told] at named
      have assigned : fqdn = some host := (nameOf_eq_ok.mp named.symm).1
      rw [assigned]
      exact ⟨addresses, id, virtualAddress, argument, .intro fresh⟩

/-- The servers can be read whatever balancers there are. -/
theorem steps_readings {zone : String} {asked : List World.Event} (readings : List (Reading zone))
    (steps : Steps (around provider resolver) store asked after) :
    Steps (around provider resolver) store (readings.map Reading.call ++ asked) after := by
  induction readings with
  | nil => exact steps
  | cons reading readings later => exact .cons (provider_zone.mpr rfl) later

/-- Beside the provider there is a creation that reads these servers. -/
theorem exists_run_create {readings : List (Reading location.id)}
    (order : Text.sortedSet ids = readings.map Reading.id) (plan : UInt32) (spec : BalancerSpec) (store : Store) :
    ∃ events made, (create plan location spec ids).run.Runs (around provider resolver) store events (some (.ok "a"))
      made := by
  obtain ⟨n, fresh⟩ := World.exists_fresh (store.map (·.1.id))
  let parameters := parametersOf location spec plan (readings.map Reading.address)
  let created := parameters.at (World.newId n) (some "a") none
  have told : made (printed created.toJson) = .ok created := made_printed created
  have named : (made (printed created.toJson)).bind nameOf = .ok "a" := by
    rw [told]
    rfl
  have apart : ∀ other ∈ store, other.1.id ≠ created.id :=
    fun other member => fresh other.1.id (List.mem_map_of_mem member)
  have performs : Performs (.create parameters) store (printed created.toJson) ((created, parameters) :: store) :=
    @Performs.create parameters [] store _ _ _ _ apart (by simp [World.newId, isArgument]) told
  -- what the provider says of `created` decides the only run there is
  obtain ⟨events, run, asked⟩ := @exists_run_of_readings plan location spec ids readings order (printed created.toJson)
  rw [named] at run
  have steps : Steps (around provider resolver) store (calls events) ((created, parameters) :: store) := by
    rw [asked]
    exact steps_readings readings (.cons ((provider_tool (.create parameters)).mpr performs) (.nil _))
  exact ⟨events, _, World.runs_around run steps⟩

theorem isManaged_at {addresses : List String} {id : String} {fqdn virtualAddress : Option String} :
    isManaged ((parametersOf location spec plan addresses).at id fqdn virtualAddress) = true := by
  simp [isManaged, Parameters.at, parametersOf]

/-- Where the new balancer is the only one of ours that answers on an address, a destruction there leaves the store
as it was before the creation. -/
theorem restores
    (run : (create plan location spec ids).run.Runs (around provider resolver) store events (some (.ok host)) made) :
    ∃ created, created ∈ made.map (·.1) ∧ created ∉ store.map (·.1) ∧ created.fqdn = some host ∧
      ∀ address, answersBy resolver address created = true →
        answering resolver address (store.map (·.1)) = [] →
        (destroy address).run.Yields (around provider resolver) made (.ok true) store := by
  obtain ⟨addresses, id, virtualAddress, argument, adds⟩ := adds_of_create run
  refine ⟨(parametersOf location spec plan addresses).at id (some host) virtualAddress, ?_, ?_, rfl,
    fun address reaches alone => ?_⟩
  · cases adds
    simp
  · cases adds with
    | intro fresh =>
      intro member
      obtain ⟨other, among, same⟩ := List.mem_map.mp member
      exact fresh other among (congrArg Balancer.id same)
  · have destroyed := yields_true (adds.answering isManaged_at reaches alone) argument
    rwa [adds.without] at destroyed

end CloudBalance.Sakura
