import CloudBalance.Proofs.Cloudflare.Create
import CloudBalance.Proofs.Cloudflare.Record
import CloudBalance.Proofs.Json.Compact
import CloudBalance.Proofs.World.Provider

/-!
# The store of Cloudflare

A provider that keeps balancers and pools. It lists its balancers, keeps what is posted under a fresh id and
says so, and deletes by id. Main statement: whatever it is asked it has an answer, so that every program that
leaves the machine alone has a run beside it.
-/

namespace CloudBalance.Cloudflare

open Net (Address HttpRequest Resolution)
open World (around)

variable {α : Type} {account : Account}

/-! ## Replies -/

/-- The reply that holds a result. -/
def reply (result : Json) : Except String ByteArray :=
  .ok (Text.encode (Json.object [("success", .bool true), ("result", result)]).compact)

theorem received_reply {decode : Json → Option α} {result : Json} {a : α} (plain : result.IsPlain)
    (present : result ≠ .null) (decodes : decode result = some a) : received decode (reply result) = .ok a := by
  have whole : (Json.object [("success", .bool true), ("result", result)]).IsPlain := by
    simp [Json.IsPlain, Json.MembersPlain, plain]
  have given : result.toOption? decode = some (some a) := by
    cases result with
    | null => exact absurd rfl present
    | _ => exact congrArg (Option.map some) decodes
  have slots : (Json.object [("success", .bool true), ("result", result)]).slots? ["success", "result", "errors"] =
      some [.given (.bool true), .given result, .absent] := by
    rw [Json.slots?, if_pos (by simp [Json.countName])]
    rfl
  rw [reply, received, readReply, Text.decode?_encode, Option.bind_some, Json.decode?, Json.parse?_compact whole,
    Option.bind_some, Envelope.ofJson?]
  simp only [slots, Option.bind_eq_bind, Option.bind_some, Json.Slot.required, Json.toBool?, Json.Slot.optional,
    given, Json.Slot.orElse]
  rfl

/-- Balancers that are listed are received as they are. -/
theorem received_balancers (balancers : List Balancer) :
    received (Json.toList? Balancer.ofJson?) (reply (.ofList Balancer.toJson balancers)) = .ok balancers :=
  received_reply (Json.isPlain_ofList fun balancer _ => balancer.isPlain_toJson) (by simp [Json.ofList])
    (Json.toList?_ofList fun balancer _ => balancer.ofJson?_toJson)

theorem received_deleted (id : String) :
    received deletedOfJson? (reply (.object [("id", .string id)])) = .ok id :=
  received_reply (by simp [Json.IsPlain, Json.MembersPlain]) (by simp) rfl

/-! ## Contents -/

/-- Something that can be deleted by its id. -/
inductive Resource where
  | balancer (id : String)
  | pool (id : String)
  deriving DecidableEq

def Resource.url (account : Account) : Resource → String
  | .balancer id => account.balancersUrl ++ "/" ++ id
  | .pool id => account.poolsUrl ++ "/" ++ id

/-- What a balancer consists of, in the order in which it is deleted. -/
def Balancer.resources (balancer : Balancer) : List Resource :=
  .balancer balancer.id :: balancer.poolIds.map .pool

theorem deletions_eq (balancer : Balancer) :
    account.deletions balancer = balancer.resources.map fun resource => account.deletion (resource.url account) := by
  rw [Account.deletions, Balancer.resources, List.map_cons, List.map_map]
  rfl

structure Store where
  balancers : List Balancer
  /-- The pools as they were posted, each with its id. -/
  pools : List (String × NewPool)

namespace Store

/-- What is left when resources are deleted. -/
def without (store : Store) (gone : List Resource) : Store where
  balancers := store.balancers.filter fun balancer => Resource.balancer balancer.id ∉ gone
  pools := store.pools.filter fun pool => Resource.pool pool.1 ∉ gone

@[simp] theorem without_nil (store : Store) : store.without [] = store := by
  simp [without]

theorem without_without (store : Store) (first rest : List Resource) :
    (store.without first).without rest = store.without (first ++ rest) := by
  simp [without, List.filter_filter, Bool.and_comm]

end Store

/-! ## Operations -/

/-- The balancer that is kept where a new one is posted. -/
def NewBalancer.at (balancer : NewBalancer) (id : String) : Balancer :=
  ⟨id, balancer.name, some balancer.description, balancer.defaultPools, some balancer.fallbackPool,
    balancer.proxied⟩

inductive Operation where
  | list
  | makePool (pool : NewPool)
  | makeBalancer (balancer : NewBalancer)
  | delete (resource : Resource)

def Operation.request (account : Account) : Operation → HttpRequest
  | .list => account.listing
  | .makePool pool => account.newPool pool
  | .makeBalancer balancer => account.newBalancer balancer
  | .delete resource => account.deletion (resource.url account)

theorem toJson_injective_of_ofJson? {encode : α → Json} {decode : Json → Option α}
    (decodes : ∀ a, decode (encode a) = some a) : Function.Injective encode := by
  intro a b same
  have read := decodes a
  rw [same, decodes b] at read
  exact (Option.some.inj read).symm

theorem NewPool.toJson_injective : Function.Injective NewPool.toJson := by
  rintro ⟨name, description, origins⟩ ⟨name', description', origins'⟩ same
  simp only [NewPool.toJson, Json.ofList, Json.object.injEq, List.cons.injEq, Prod.mk.injEq, Json.string.injEq,
    Json.array.injEq, true_and, and_true] at same
  obtain ⟨rfl, rfl, listed⟩ := same
  rw [(toJson_injective_of_ofJson? Origin.ofJson?_toJson).list_map listed]

theorem NewBalancer.toJson_injective : Function.Injective NewBalancer.toJson := by
  rintro ⟨name, description, pools, fallback, proxied⟩ ⟨name', description', pools', fallback', proxied'⟩ same
  simp only [NewBalancer.toJson, Json.strings, Json.ofList, Json.object.injEq, List.cons.injEq, Prod.mk.injEq,
    Json.string.injEq, Json.array.injEq, Json.bool.injEq, true_and, and_true] at same
  obtain ⟨rfl, rfl, listed, rfl, rfl⟩ := same
  have texts : Function.Injective Json.string := fun _ _ => Json.string.inj
  rw [texts.list_map listed]

theorem Resource.url_injective : Function.Injective (Resource.url account) := by
  intro first second same
  -- under one place the ids differ, and the places are no two of one kind
  have ends : ∀ {base a b : String}, base ++ "/" ++ a = base ++ "/" ++ b → a = b := by
    intro base a b same
    exact String.toList_inj.mp (by simpa using congrArg String.toList same)
  cases first with
  | balancer id =>
    cases second with
    | balancer other => rw [ends same]
    | pool other => exact absurd same (balancersUrl_ne_poolsUrl id other)
  | pool id =>
    cases second with
    | balancer other => exact absurd same.symm (balancersUrl_ne_poolsUrl other id)
    | pool other => rw [ends same]

theorem deletion_injective :
    Function.Injective fun resource : Resource => account.deletion (resource.url account) :=
  fun _ _ same => Resource.url_injective (congrArg HttpRequest.url same)

/-- A request says which operation is meant. -/
theorem Operation.request_injective : Function.Injective (Operation.request account) := by
  intro first second same
  have methods := congrArg HttpRequest.method same
  have urls := congrArg HttpRequest.url same
  have bodies := congrArg HttpRequest.body same
  -- the methods leave operations of one kind and the two posts, which the urls tell apart
  cases first <;> cases second <;> try cases methods
  case list.list => rfl
  case makePool.makePool => rw [NewPool.toJson_injective (Option.some.inj bodies)]
  case makePool.makeBalancer => exact absurd urls.symm (balancersUrl_ne account)
  case makeBalancer.makePool => exact absurd urls (balancersUrl_ne account)
  case makeBalancer.makeBalancer => rw [NewBalancer.toJson_injective (Option.some.inj bodies)]
  case delete.delete => rw [Resource.url_injective urls]

/-! ## Answers -/

/-- What an operation does to the store, and what is said of it. What is made stands anywhere among the rest. -/
inductive Performs : Operation → Store → Except String ByteArray → Store → Prop where
  | list {store : Store} {answer : Except String ByteArray}
      (told : received (Json.toList? Balancer.ofJson?) answer = .ok store.balancers) :
      Performs .list store answer store
  | makePool {pool : NewPool} {balancers : List Balancer} {front back : List (String × NewPool)} {id : String}
      {answer : Except String ByteArray} (fresh : ∀ other ∈ front ++ back, other.1 ≠ id)
      (told : received Pool.ofJson? answer = .ok ⟨id, pool.name, pool.origins⟩) :
      Performs (.makePool pool) ⟨balancers, front ++ back⟩ answer ⟨balancers, front ++ (id, pool) :: back⟩
  | makeBalancer {balancer : NewBalancer} {pools : List (String × NewPool)} {front back : List Balancer}
      {id : String} {answer : Except String ByteArray} (fresh : ∀ other ∈ front ++ back, other.id ≠ id)
      (told : received Balancer.ofJson? answer = .ok (balancer.at id)) :
      Performs (.makeBalancer balancer) ⟨front ++ back, pools⟩ answer ⟨front ++ balancer.at id :: back, pools⟩
  | delete {resource : Resource} {store : Store} {answer : Except String ByteArray} {id : String}
      (told : received deletedOfJson? answer = .ok id) :
      Performs (.delete resource) store answer (store.without [resource])

theorem Performs.pooled {pool : NewPool} {store after : Store} {answer : Except String ByteArray}
    (performs : Performs (.makePool pool) store answer after) :
    ∃ id, received Pool.ofJson? answer = .ok ⟨id, pool.name, pool.origins⟩ := by
  cases performs with
  | makePool _ told => exact ⟨_, told⟩

theorem Performs.balanced {balancer : NewBalancer} {store after : Store} {answer : Except String ByteArray}
    (performs : Performs (.makeBalancer balancer) store answer after) :
    ∃ id, received Balancer.ofJson? answer = .ok (balancer.at id) := by
  cases performs with
  | makeBalancer _ told => exact ⟨_, told⟩

/-- The provider performs the operations of an account and takes no notice of anything else. -/
def provider (account : Account) : World.Provider Store where
  tool store _ _ after := after = store
  send store request answer after :=
    (∃ operation : Operation, request = operation.request account ∧ Performs operation store answer after) ∨
      (∀ operation : Operation, request ≠ operation.request account) ∧ after = store

variable {store after : Store} {answer : Except String ByteArray}

theorem provider_send (operation : Operation) :
    (provider account).send store (operation.request account) answer after ↔
      Performs operation store answer after := by
  constructor
  · rintro (⟨other, same, performs⟩ | ⟨unknown, _⟩)
    · rwa [Operation.request_injective same]
    · exact absurd rfl (unknown operation)
  · exact fun performs => .inl ⟨operation, rfl, performs⟩

theorem exists_performs (operation : Operation) (store : Store) :
    ∃ answer after, Performs operation store answer after := by
  cases operation with
  | list => exact ⟨_, store, .list (received_balancers store.balancers)⟩
  | makePool pool =>
    obtain ⟨balancers, pools⟩ := store
    obtain ⟨n, fresh⟩ := World.exists_fresh (pools.map (·.1))
    let id := World.newId n
    have told := received_reply (Pool.isPlain_toJson ⟨id, pool.name, pool.origins⟩) (by simp [Pool.toJson])
      (Pool.ofJson?_toJson _)
    have apart : ∀ other ∈ [] ++ pools, other.1 ≠ id :=
      fun other member => fresh other.1 (List.mem_map_of_mem member)
    exact ⟨_, _, .makePool apart told⟩
  | makeBalancer balancer =>
    obtain ⟨balancers, pools⟩ := store
    obtain ⟨n, fresh⟩ := World.exists_fresh (balancers.map (·.id))
    let id := World.newId n
    have told := received_reply (balancer.at id).isPlain_toJson (by simp [Balancer.toJson]) (Balancer.ofJson?_toJson _)
    have apart : ∀ other ∈ [] ++ balancers, other.id ≠ id :=
      fun other member => fresh other.id (List.mem_map_of_mem member)
    exact ⟨_, _, .makeBalancer apart told⟩
  | delete resource => exact ⟨_, _, .delete (received_deleted "")⟩

theorem provider_total : (provider account).Total where
  tool store _ := ⟨.notFound, store, rfl⟩
  send store request := by
    by_cases known : ∃ operation : Operation, request = operation.request account
    · obtain ⟨operation, rfl⟩ := known
      obtain ⟨answer, after, performs⟩ := exists_performs operation store
      exact ⟨answer, after, (provider_send operation).mpr performs⟩
    · exact ⟨.error "not found", store, .inr ⟨not_exists.mp known, rfl⟩⟩

end CloudBalance.Cloudflare
