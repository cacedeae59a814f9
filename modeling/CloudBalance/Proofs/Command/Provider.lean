import CloudBalance.Proofs.Command.Answers
import CloudBalance.Proofs.Command.Forget

/-!
# Destroying by a provider

The command that destroys a balancer, with the provider that the settings choose. Main statement: the record that leaves
the ledger is chosen by the address alone, not by the balancer that the provider destroyed.
-/

namespace CloudBalance

open Ledger (Store Record Removes)
open Net (Address)
open Service (steps)
open World (calls)

variable {assembly : Assembly} {colour : Bool} {address : Address}

/-! ## The provider -/

/-- How the provider of the balancers may go about a destruction: what it asks, the names of its balancers that
answer on the address, and the result. -/
inductive Assembly.Course (assembly : Assembly) (address : Address) :
    List World.Event → List (Option String) → Except CloudError Bool → Prop where
  | sakura {plan : UInt32} {asked : List World.Event} {balancers : List Sakura.Balancer}
      {outcome : Except CloudError Bool} (chosen : assembly.balancer = .sakura plan)
      (course : Sakura.Course address asked balancers outcome) :
      assembly.Course address asked (balancers.map (·.fqdn)) outcome
  | cloudflare {account : Cloudflare.Account} {asked : List World.Event} {balancers : List Cloudflare.Balancer}
      {outcome : Except CloudError Bool} (chosen : assembly.balancer = .cloudflare account)
      (course : Cloudflare.Course account address asked balancers outcome) :
      assembly.Course address asked (balancers.map fun balancer => some balancer.name) outcome

theorem Assembly.course_of_answer {disk after : Disk} {events : List World.Event}
    {outcome : Except CloudError Bool}
    (run : (assembly.answerService (.destroy address)).Runs World.onDisk disk events (some outcome) after) :
    ∃ names, assembly.Course address (calls events) names outcome := by
  rw [answerService] at run
  cases chosen : assembly.balancer with
  | sakura plan =>
    rw [chosen] at run
    obtain ⟨balancers, course⟩ := World.ensured_of_runs Sakura.ensures_destroy run
    exact ⟨_, .sakura chosen course⟩
  | cloudflare account =>
    rw [chosen] at run
    obtain ⟨balancers, course⟩ := World.ensured_of_runs Cloudflare.ensures_destroy run
    exact ⟨_, .cloudflare chosen course⟩

namespace Session

/-- Where a destruction is all that the service is asked, its calls are all that is called. -/
theorem Answers.destruction {asked : List Service.Event} {called : List World.Event}
    {outcome : Except CloudError Bool} (answers : Answers assembly asked called)
    (alone : steps asked = [⟨.destroy address, outcome⟩]) :
    ∃ names, assembly.Course address called names outcome := by
  induction answers with
  | nil => cases alone
  | @cons query answer _ _ events _ _ ran rest ih =>
    cases query with
    | log record =>
      obtain ⟨_, _, rfl, _⟩ := Program.runs_perform.mp ran
      exact ih alone
    | destroy its =>
      obtain ⟨same, idle⟩ := List.cons.inj alone
      cases same
      rw [rest.silent idle, List.append_nil]
      exact assembly.course_of_answer ran
    | _ => cases (List.cons.inj alone).1

/-! ## The record -/

/-- The record is one of a balancer with one of these names at the provider. -/
def Describes (assembly : Assembly) (names : List (Option String)) (record : Record) : Prop :=
  record.provider = assembly.providers.recordName ∧ some record.dnsName ∈ names

variable {store : Store} {disk after : Disk} {root : Disk.Place} {entries : List (String × Record)}
  {events : List World.Event} {result : Except CommandError Unit}

/-- A run that fails forgets nothing. Any other run removes a record with the address, if there is one, and it is
not asked whether that record is one of the balancer that the provider destroyed: the right record is removed
where all that have the address are right, and a wrong one where none is. -/
theorem removes_by_address_alone (located : store.At disk root) (remembers : store.Remembers disk entries)
    (run : (World.ofSession assembly colour (destroy store address)).run.Runs World.onDisk disk events
      (some result) after) :
    ((∃ e, result = .error e) ∧ store.Remembers after entries) ∨
    result = .ok () ∧ (∃ names successful, assembly.Course address (calls events) names (.ok successful)) ∧
      ∃ left, store.Remembers after left ∧ Removes address entries left ∧
        ((∀ entry ∈ entries, entry.2.key = entry.1) → ∀ names,
          ((∀ entry ∈ entries, address ∈ entry.2.addresses → Describes assembly names entry.2) →
            ∀ entry ∈ entries, entry ∉ left → Describes assembly names entry.2) ∧
          ((∃ entry ∈ entries, address ∈ entry.2.addresses) →
            (∀ entry ∈ entries, address ∈ entry.2.addresses → ¬ Describes assembly names entry.2) →
            ∃ entry ∈ entries, entry ∉ left ∧ ¬ Describes assembly names entry.2)) := by
  have once : (entries.map (·.1)).Nodup := by
    obtain ⟨ledger, loaded, rfl⟩ := (Store.remembers_iff located.holds).mp remembers
    exact loaded.sane.storable.once
  obtain ⟨session, asked, own, answers⟩ := runs_answered within_destroy run []
  rcases remembers_destroy located remembers own with
    ⟨failed, _, kept⟩ | ⟨successful, left, alone, rfl, found, removes⟩
  · exact .inl ⟨failed, kept⟩
  · obtain ⟨names, course⟩ := answers.destruction alone
    refine .inr ⟨rfl, ⟨names, successful, course⟩, left, found, removes, fun keyed names => ?_⟩
    rcases removes.keyed once keyed with ⟨absent, rfl⟩ | ⟨entry, listed, has, rfl⟩
    · exact ⟨fun _ entry listed gone => absurd listed gone,
        fun ⟨entry, listed, has⟩ => absurd has (absent entry listed)⟩
    · constructor
      · intro right other member gone
        -- what is gone is the record with the address
        have same : other = entry := by
          by_contra differs
          exact gone (List.mem_filter.mpr ⟨member, decide_eq_true differs⟩)
        rw [same]
        exact right entry listed has
      · intro _ wrong
        exact ⟨entry, listed, by simp, wrong entry listed has⟩

/-! ## A run that removes the wrong record -/

/-- A project whose balancers are at Sakura Cloud. -/
def sakuraAssembly : Assembly :=
  ⟨["a"], .sakura Sakura.standardPlan, .fixed 1 0⟩

theorem removes_of_other_provider :
    ∃ events after left names,
      (World.ofSession sakuraAssembly false (destroy project (.v4 198 51 100 1))).run.Runs World.onDisk
        (webDisk "cloudflare" (.v4 198 51 100 1)) events (some (.ok ())) after ∧
      sakuraAssembly.Course (.v4 198 51 100 1) (calls events) names (.ok true) ∧
      project.Remembers after left ∧
      ∃ entry ∈ (single (webRecord "cloudflare" (.v4 198 51 100 1))).entries, entry ∉ left ∧
        ¬ Describes sakuraAssembly names entry.2 := by
  obtain ⟨session, asked, after, own, alone⟩ := exists_run_destroy_web "cloudflare" (.v4 198 51 100 1) true
  have answerable : ∀ event ∈ asked, ∀ disk, ∃ events,
      (sakuraAssembly.answerService event.1).Runs World.onDisk disk events (some event.2) disk := by
    rintro ⟨query, answer⟩ member disk
    by_cases step : Service.isStep ⟨query, answer⟩
    · rw [← Service.mem_steps step, alone] at member
      cases List.mem_singleton.mp member
      exact Sakura.runs_web disk
    · cases query with
      | log record => exact ⟨_, Program.runs_perform.mpr ⟨answer, rfl, rfl, rfl⟩⟩
      | _ => exact absurd rfl step
  obtain ⟨events, served, run, same, answers⟩ := exists_run_answered within_destroy own answerable
  obtain rfl : asked = served := same
  obtain ⟨names, course⟩ := answers.destruction alone
  rcases removes_by_address_alone (at_webDisk _ _) (remembers_webDisk _ _) run with
    ⟨⟨_, impossible⟩, _⟩ | ⟨_, _, left, remembers, _, keyed⟩
  · cases impossible
  · have other : ∀ entry ∈ (single (webRecord "cloudflare" (.v4 198 51 100 1))).entries,
        ¬ Describes sakuraAssembly names entry.2 := by
      intro entry member describes
      cases List.mem_singleton.mp member
      have provider : "cloudflare" = "sakura-cloud" := describes.1
      exact absurd provider (by decide)
    have wrong := (keyed (keyed_web _ _) names).2
    exact ⟨events, after, left, names, run, course, remembers,
      wrong ⟨_, List.mem_cons_self, List.mem_singleton_self _⟩ fun entry member _ => other entry member⟩

end Session

end CloudBalance
