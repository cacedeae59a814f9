import CloudBalance.Proofs.Cloudflare.Create
import CloudBalance.Proofs.Json.Compact
import CloudBalance.Proofs.Json.Members
import Mathlib.Data.List.Forall2

/-!
# Requests that are refused

A reply is read with its result before anything else in it is looked at. Main statement: of a reply that says that the
request failed and why, the first fault is told exactly if there is no result or one of the form that the operation
returns; otherwise all that is told is that the reply cannot be read.
-/

namespace CloudBalance.Cloudflare

open Json (IsReadIfAny slotOf valuesOf)
open Net (HttpMethod HttpRequest)
open World (abroad calls recording)

variable {α β : Type} {account : Account} {s : List World.Event}

/-! ## Operations -/

/-- The operations of the API, each with what it is given. -/
inductive Endpoint where
  | verifyToken
  | createPool (pool : NewPool)
  | deletePool (id : String)
  | createBalancer (balancer : NewBalancer)
  | listBalancers
  | deleteBalancer (id : String)

namespace Endpoint

/-- What the operation returns. -/
def Result : Endpoint → Type
  | verifyToken => Token
  | createPool _ => Pool
  | deletePool _ => Unit
  | createBalancer _ => Balancer
  | listBalancers => List Balancer
  | deleteBalancer _ => Unit

def call (account : Account) : (endpoint : Endpoint) → Call endpoint.Result
  | verifyToken => Cloudflare.verifyToken account
  | createPool pool => Cloudflare.createPool account pool
  | deletePool id => Cloudflare.deletePool account id
  | createBalancer balancer => Cloudflare.createBalancer account balancer
  | listBalancers => Cloudflare.listBalancers account
  | deleteBalancer id => Cloudflare.deleteBalancer account id

/-- The one request that the operation makes. -/
def request (account : Account) : Endpoint → HttpRequest
  | verifyToken => ⟨.get, account.apiBase ++ "/user/tokens/verify", account.token, none⟩
  | createPool pool => account.newPool pool
  | deletePool id => account.deletion (account.poolsUrl ++ "/" ++ id)
  | createBalancer balancer => account.newBalancer balancer
  | listBalancers => account.listing
  | deleteBalancer id => account.deletion (account.balancersUrl ++ "/" ++ id)

/-- What the reply to the request holds. -/
def Held : Endpoint → Type
  | verifyToken => Token
  | createPool _ => Pool
  | deletePool _ => String
  | createBalancer _ => Balancer
  | listBalancers => List Balancer
  | deleteBalancer _ => String

def read : (endpoint : Endpoint) → Json → Option endpoint.Held
  | verifyToken => Token.ofJson?
  | createPool _ => Pool.ofJson?
  | deletePool _ => deletedOfJson?
  | createBalancer _ => Balancer.ofJson?
  | listBalancers => Json.toList? Balancer.ofJson?
  | deleteBalancer _ => deletedOfJson?

/-- What is returned of what the reply holds: all of it but the id of what was deleted. -/
def returned : (endpoint : Endpoint) → endpoint.Held → endpoint.Result
  | verifyToken => id
  | createPool _ => id
  | deletePool _ => fun _ => ()
  | createBalancer _ => id
  | listBalancers => id
  | deleteBalancer _ => fun _ => ()

end Endpoint

variable {endpoint : Endpoint}

/-- A reply is received, and then what is done with what it holds. -/
theorem ensures_endpoint (sendable : account.isSendable = true)
    {post : Except CloudflareError endpoint.Result → List World.Event → Prop} :
    (endpoint.call account).run.Ensures recording s post ↔
      ∀ answer, post ((received endpoint.read answer).map endpoint.returned)
        (s ++ [⟨.send (endpoint.request account), answer⟩]) := by
  have whole : ∀ {α : Type} {decode : Json → Option α} {method : HttpMethod} {url : String} {body : Option Json}
      {post : Except CloudflareError α → List World.Event → Prop},
      (request account decode method url body).run.Ensures recording s post ↔
        ∀ answer, post ((received decode answer).map id)
          (s ++ [⟨.send ⟨method, url, account.token, body⟩, answer⟩]) := by
    intro α decode method url body post
    rw [ensures_request sendable, Except.map_id]
    rfl
  cases endpoint with
  | verifyToken => exact whole
  | createPool pool => exact whole
  | deletePool id => exact ensures_delete sendable
  | createBalancer balancer => exact whole
  | listBalancers => exact whole
  | deleteBalancer id => exact ensures_delete sendable

theorem within_endpoint (endpoint : Endpoint) : (endpoint.call account).run.Within abroad := by
  cases endpoint with
  | deletePool id => exact within_delete
  | deleteBalancer id => exact within_delete
  | _ => exact within_request

/-- Where its one request is answered so, the operation ends so. -/
structure Ends (account : Account) (endpoint : Endpoint) (answer : Except String ByteArray)
    (outcome : Except CloudflareError endpoint.Result) : Prop where
  possible : ∃ events, (endpoint.call account).run.Runs recording [] events (some outcome) (calls events) ∧
    calls events = [⟨.send (endpoint.request account), answer⟩]
  always : ∀ {σ : Type} {env : Environment World σ} {before after : σ} {events : List World.Event}
    {result : Option (Except CloudflareError endpoint.Result)},
    (endpoint.call account).run.Runs env before events result after →
    ⟨.send (endpoint.request account), answer⟩ ∈ events →
    result = some outcome ∧ calls events = [⟨.send (endpoint.request account), answer⟩]

theorem ends (endpoint : Endpoint) (sendable : account.isSendable = true) (answer : Except String ByteArray) :
    Ends account endpoint answer ((received endpoint.read answer).map endpoint.returned) where
  possible := by
    refine World.exists_run_of_possible fun never => ?_
    exact (ensures_endpoint sendable).mp never answer ⟨rfl, rfl⟩
  always := by
    intro σ env before after events result run member
    obtain ⟨outcome, rfl⟩ := (within_endpoint endpoint).returns not_false run
    have ensured : (endpoint.call account).run.Ensures recording [] fun outcome asked =>
        ∃ answer, asked = [⟨.send (endpoint.request account), answer⟩] ∧
          outcome = (received endpoint.read answer).map endpoint.returned :=
      (ensures_endpoint sendable).mpr fun answer => ⟨answer, rfl, rfl⟩
    obtain ⟨other, called, ended⟩ := World.ensured_of_runs ensured run
    have among := World.mem_calls.mpr ⟨member, trivial⟩
    rw [called, List.mem_singleton] at among
    cases among
    exact ⟨congrArg some ended, called⟩

theorem Ends.unique {answer : Except String ByteArray} {first second : Except CloudflareError endpoint.Result}
    (ends : Ends account endpoint answer first) (again : Ends account endpoint answer second) : first = second := by
  obtain ⟨events, run, called⟩ := ends.possible
  have member : ⟨.send (endpoint.request account), answer⟩ ∈ calls events := called ▸ List.mem_singleton_self _
  exact Option.some.inj (again.always run (World.mem_calls.mp member).1).1

/-! ## Replies -/

/-- The value tells a fault, among whatever else. -/
structure Fault.IsToldBy (fault : Fault) (value : Json) : Prop where
  fits : Int32.minValue.toInt ≤ fault.code ∧ fault.code ≤ Int32.maxValue.toInt
  told : ∃ members, value = .object members ∧ valuesOf "code" members = [.number (.integer fault.code)] ∧
    valuesOf "message" members = [.string fault.message]

theorem Fault.ofJson?_of_isToldBy {fault : Fault} {value : Json} (tells : fault.IsToldBy value) :
    Fault.ofJson? value = some fault := by
  obtain ⟨⟨least, greatest⟩, members, rfl, code, message⟩ := tells
  have number : Json.toIntIn? Int32.minValue.toInt Int32.maxValue.toInt (.number (.integer fault.code)) =
      some fault.code := by
    rw [Json.toIntIn?, if_pos (by simp only [least, greatest, decide_true, Bool.and_self])]
  rw [Fault.ofJson?, Json.slots?_members, if_pos (by simp [code, message])]
  simp only [List.map_cons, List.map_nil, code, message, slotOf, Option.bind_eq_bind, Option.bind_some,
    Json.Slot.required, number, Json.toString?]
  rfl

theorem toList?_faults {faults : List Fault} {values : List Json} (told : List.Forall₂ Fault.IsToldBy faults values) :
    (Json.array values).toList? Fault.ofJson? = some faults := by
  rw [Json.toList?]
  induction told with
  | nil => rfl
  | cons tells _ ih => rw [List.mapM_cons, Fault.ofJson?_of_isToldBy tells, ih]; rfl

/-- The reply says that the request failed, with this fault before all others. -/
structure Refusal (body : ByteArray) (members : List (String × Json)) (fault : Fault) : Prop where
  parsed : ∃ text, Text.decode? body = some text ∧ Json.parse? text = some (.object members)
  failed : valuesOf "success" members = [.bool false]
  told : ∃ values faults, valuesOf "errors" members = [.array values] ∧
    List.Forall₂ Fault.IsToldBy (fault :: faults) values

variable {body : ByteArray} {members : List (String × Json)} {fault : Fault}

theorem envelope_of_refusal (refusal : Refusal body members fault) (decode : Json → Option α) :
    (IsReadIfAny decode (valuesOf "result" members) → ∃ result faults,
      Envelope.ofJson? decode (.object members) = some ⟨false, result, fault :: faults⟩) ∧
    (¬ IsReadIfAny decode (valuesOf "result" members) → Envelope.ofJson? decode (.object members) = none) := by
  obtain ⟨values, faults, errors, told⟩ := refusal.told
  rw [Envelope.ofJson?, Json.slots?_members]
  -- of two results none is taken, as if the one could not be read
  by_cases once : (valuesOf "result" members).length ≤ 1
  · have success : (slotOf (valuesOf "success" members)).required Json.toBool? = some false := by
      rw [refusal.failed]
      rfl
    have given : (slotOf (valuesOf "errors" members)).orElse [] (Json.toList? Fault.ofJson?) =
        some (fault :: faults) := by
      rw [errors]
      exact toList?_faults told
    rw [if_pos (by simp [refusal.failed, errors, once]), ← Json.isSome_optional once]
    simp only [List.map_cons, List.map_nil, Option.bind_eq_bind, Option.bind_some, success, given]
    cases (slotOf (valuesOf "result" members)).optional decode with
    | some result => exact ⟨fun _ => ⟨result, faults, rfl⟩, fun unread => absurd rfl unread⟩
    | none => exact ⟨nofun, fun _ => rfl⟩
  · rw [if_neg (by simpa [refusal.failed, errors] using once)]
    exact ⟨fun read => absurd read.once once, fun _ => rfl⟩

theorem received_refusal (refusal : Refusal body members fault) (decode : Json → Option α) :
    (IsReadIfAny decode (valuesOf "result" members) →
      received decode (.ok body) = .error (.api (fault.message ++ " (code " ++ toString fault.code ++ ")"))) ∧
    (¬ IsReadIfAny decode (valuesOf "result" members) →
      received decode (.ok body) = .error (.http "error decoding response body")) := by
  obtain ⟨text, decoded, parsed⟩ := refusal.parsed
  obtain ⟨read, unread⟩ := envelope_of_refusal refusal decode
  rw [received, readReply, decoded, Option.bind_some, Json.decode?, parsed, Option.bind_some]
  constructor
  · intro readable
    obtain ⟨result, faults, envelope⟩ := read readable
    rw [envelope]
    rfl
  · intro unreadable
    rw [unread unreadable]

/-- Where a reply says that the request failed and why, each operation ends with its first fault exactly if the reply
has no result, or one that can be read as what the operation returns. Otherwise it ends without any fault, as if
nothing could be read. -/
theorem tells_fault_iff (endpoint : Endpoint) (sendable : account.isSendable = true)
    (refusal : Refusal body members fault) :
    (Ends account endpoint (.ok body) (.error (.api (fault.message ++ " (code " ++ toString fault.code ++ ")"))) ↔
      IsReadIfAny endpoint.read (valuesOf "result" members)) ∧
    (Ends account endpoint (.ok body) (.error (.http "error decoding response body")) ↔
      ¬ IsReadIfAny endpoint.read (valuesOf "result" members)) := by
  obtain ⟨read, unread⟩ := received_refusal refusal endpoint.read
  have ended := ends endpoint sendable (.ok body)
  by_cases readable : IsReadIfAny endpoint.read (valuesOf "result" members)
  · rw [read readable] at ended
    refine ⟨iff_of_true ended readable, iff_of_false (fun other => ?_) (not_not_intro readable)⟩
    cases ended.unique other
  · rw [unread readable] at ended
    refine ⟨iff_of_false (fun other => ?_) readable, iff_of_true ended readable⟩
    cases ended.unique other

/-- A reply that says of a pool that it is in use, with a result that says nothing. -/
def inUse : List (String × Json) :=
  [("success", .bool false),
    ("errors", .array [.object [("code", .ofNat 1002), ("message", .string "pool in use")]]), ("result", .object [])]

theorem refusal_inUse : Refusal (Text.encode (Json.object inUse).compact) inUse ⟨1002, "pool in use"⟩ where
  parsed := by
    have plain : (Json.object inUse).IsPlain := by
      simp only [inUse, Json.IsPlain, Json.AllPlain, Json.MembersPlain, and_true, true_and]
      exact Json.isPlain_ofNat (by decide)
    exact ⟨_, Text.decode?_encode _, Json.parse?_compact plain⟩
  failed := by simp [inUse, valuesOf]
  told := by
    have tells : Fault.IsToldBy ⟨1002, "pool in use"⟩
        (.object [("code", .ofNat 1002), ("message", .string "pool in use")]) :=
      ⟨by decide, _, rfl, by simp [valuesOf, Json.ofNat], by simp [valuesOf]⟩
    exact ⟨_, [], by simp [inUse, valuesOf], .cons tells .nil⟩

/-- Deleting the pool does not tell that it is in use. -/
theorem tells_fault_iff_inUse :
    webAccount.isSendable = true ∧ Refusal (Text.encode (Json.object inUse).compact) inUse ⟨1002, "pool in use"⟩ ∧
    Ends webAccount (.deletePool "p") (.ok (Text.encode (Json.object inUse).compact))
      (.error (.http "error decoding response body")) := by
  have unreadable : ¬ IsReadIfAny (Endpoint.deletePool "p").read (valuesOf "result" inUse) := by
    have result : valuesOf "result" inUse = [.object []] := by simp [inUse, valuesOf]
    rw [result]
    rintro (none | null | ⟨value, same, read⟩)
    · cases none
    · cases null
    · cases same
      cases read
  exact ⟨sendable_web, refusal_inUse,
    (tells_fault_iff (.deletePool "p") sendable_web refusal_inUse).2.mpr unreadable⟩

end CloudBalance.Cloudflare
