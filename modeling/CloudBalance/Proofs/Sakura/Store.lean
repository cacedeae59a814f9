import CloudBalance.Proofs.Sakura.Create
import CloudBalance.Proofs.Sakura.Output
import CloudBalance.Proofs.World.Provider

/-!
# The store of Sakura Cloud

A provider that keeps balancers. The tool lists them, keeps what is posted under a fresh id, to which a name and a
virtual address are assigned, and says so, and deletes by id. Main statement: whatever the tool is asked it has an
answer, so that every program that leaves the machine alone has a run beside it.
-/

namespace CloudBalance.Sakura

open World (around)

/-! ## Operations -/

/-- The balancers, each with the parameters that were posted for it. -/
abbrev Store := List (Balancer × Parameters)

/-- The balancer that is kept where a new one is posted. -/
def Parameters.at (parameters : Parameters) (id : String) (fqdn virtualAddress : Option String) : Balancer :=
  ⟨id, parameters.name, fqdn, virtualAddress, some parameters.region, parameters.tags⟩

inductive Operation where
  | list
  | create (parameters : Parameters)
  | delete (id : String)

def Operation.arguments : Operation → List String
  | .list => listing
  | .create parameters => creation parameters
  | .delete id => deletion id

/-- The arguments say which operation is meant. -/
theorem Operation.arguments_injective : Function.Injective Operation.arguments := by
  intro first second same
  cases first with
  | list =>
    cases second with
    | list => rfl
    | create | delete => simp [arguments, listing, creation, deletion] at same
  | create parameters =>
    cases second with
    | list | delete => simp [arguments, listing, creation, deletion] at same
    | create other =>
      simp only [arguments, creation, List.cons.injEq, true_and, and_true] at same
      -- the text is read back, and so are the parameters
      have read := Json.parse?_compact parameters.isPlain_toJson
      rw [same, Json.parse?_compact other.isPlain_toJson] at read
      have decoded := parameters.ofJson?_toJson
      rw [← Option.some.inj read, other.ofJson?_toJson] at decoded
      rw [Option.some.inj decoded]
  | delete id =>
    cases second with
    | list | create => simp [arguments, listing, creation, deletion] at same
    | delete other =>
      simp only [arguments, deletion, List.cons.injEq, true_and, and_true] at same
      rw [same]

/-! ## Answers -/

/-- What an operation does to the store, and what is said of it. What is made stands anywhere among the rest, under
an id that a deletion can be told. -/
inductive Performs : Operation → Store → ToolRun → Store → Prop where
  | list {store : Store} {answer : ToolRun} (told : listed answer = .ok (store.map (·.1))) :
      Performs .list store answer store
  | create {parameters : Parameters} {front back : Store} {id : String} {fqdn virtualAddress : Option String}
      {answer : ToolRun} (fresh : ∀ other ∈ front ++ back, other.1.id ≠ id) (argument : isArgument id = true)
      (told : made answer = .ok (parameters.at id fqdn virtualAddress)) :
      Performs (.create parameters) (front ++ back) answer
        (front ++ (parameters.at id fqdn virtualAddress, parameters) :: back)
  | delete {id : String} {store : Store} {answer : ToolRun} (told : deleted answer = .ok ()) :
      Performs (.delete id) store answer (store.filter (·.1.id ≠ id))

/-- The tool performs these operations, and otherwise it changes nothing. -/
def provider : World.Provider Store where
  tool store arguments answer after :=
    (∃ operation : Operation, arguments = operation.arguments ∧ Performs operation store answer after) ∨
      (∀ operation : Operation, arguments ≠ operation.arguments) ∧ after = store
  send store _ _ after := after = store

variable {store after : Store} {answer : ToolRun}

theorem provider_tool (operation : Operation) :
    provider.tool store operation.arguments answer after ↔ Performs operation store answer after := by
  constructor
  · rintro (⟨other, same, performs⟩ | ⟨unknown, _⟩)
    · rwa [Operation.arguments_injective same]
    · exact absurd rfl (unknown operation)
  · exact fun performs => .inl ⟨operation, rfl, performs⟩

/-- What the tool does in a zone is not done to balancers. -/
theorem provider_zone {zone : String} {rest : List String} :
    provider.tool store ("--zone" :: zone :: rest) answer after ↔ after = store := by
  have unknown : ∀ operation : Operation, "--zone" :: zone :: rest ≠ operation.arguments := by
    intro operation
    cases operation <;> simp [Operation.arguments, listing, creation, deletion]
  constructor
  · rintro (⟨operation, same, _⟩ | ⟨_, unchanged⟩)
    · exact absurd same (unknown operation)
    · exact unchanged
  · exact fun unchanged => .inr ⟨unknown, unchanged⟩

/-- What the tool prints where it succeeds. -/
def printed (value : Json) : ToolRun :=
  .exited 0 (Text.encode value.compact) ByteArray.empty

theorem made_printed (balancer : Balancer) : made (printed balancer.toJson) = .ok balancer := by
  rw [printed, made, if_pos rfl, Text.decodeLossy_encode]
  exact readOne_compact balancer

theorem exists_performs (operation : Operation) (store : Store) :
    ∃ answer after, Performs operation store answer after := by
  cases operation with
  | list =>
    have told : listed (printed (.ofList Balancer.toJson (store.map (·.1)))) = .ok (store.map (·.1)) := by
      rw [listed, printed, outputOf, if_pos rfl, Text.decodeLossy_encode]
      exact readList_compact _
    exact ⟨_, store, .list told⟩
  | create parameters =>
    obtain ⟨n, fresh⟩ := World.exists_fresh (store.map (·.1.id))
    let id := World.newId n
    have argument : isArgument id = true := by simp [id, World.newId, isArgument]
    have told := made_printed (parameters.at id none none)
    have apart : ∀ other ∈ [] ++ store, other.1.id ≠ id :=
      fun other member => fresh other.1.id (List.mem_map_of_mem member)
    exact ⟨_, _, .create apart argument told⟩
  | delete id => exact ⟨.exited 0 ByteArray.empty ByteArray.empty, _, .delete rfl⟩

theorem provider_total : provider.Total where
  tool store arguments := by
    by_cases known : ∃ operation : Operation, arguments = operation.arguments
    · obtain ⟨operation, rfl⟩ := known
      obtain ⟨answer, after, performs⟩ := exists_performs operation store
      exact ⟨answer, after, (provider_tool operation).mpr performs⟩
    · exact ⟨.notFound, store, .inr ⟨not_exists.mp known, rfl⟩⟩
  send store _ := ⟨.error "not found", store, rfl⟩

end CloudBalance.Sakura
