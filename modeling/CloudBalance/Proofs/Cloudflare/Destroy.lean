import CloudBalance.Cloudflare.Placement
import CloudBalance.Proofs.World.Machine

/-!
# What is deleted at Cloudflare

All that a destruction asks, from the list of the balancers to the last pool. Main statement: of the balancers
of the list ours are looked up, each once, and only where one of them alone leads to the address is anything
deleted, which is that balancer and then its pools until a deletion fails.
-/

namespace CloudBalance.Cloudflare

open Net (Address HttpMethod HttpRequest Resolution)
open World (calls recording abroad leadsTo)

variable {α : Type} {account : Account} {address : Address} {s : List World.Event}

/-! ## Requests -/

/-- Whether requests of the account can be sent: the token must fit into a header. -/
def Account.isSendable (account : Account) : Bool :=
  account.token.toList.all HttpRequest.isHeaderChar

/-- The request that lists the balancers. -/
def Account.listing (account : Account) : HttpRequest :=
  ⟨.get, account.balancersUrl, account.token, none⟩

/-- The request that deletes a resource. -/
def Account.deletion (account : Account) (url : String) : HttpRequest :=
  ⟨.delete, url, account.token, none⟩

/-- What the reply to a request says. -/
def received (decode : Json → Option α) : Except String ByteArray → Except CloudflareError α
  | .ok body => readReply decode body
  | .error e => .error (.http e)

theorem ensures_request (sendable : account.isSendable = true) {decode : Json → Option α} {method : HttpMethod}
    {url : String} {body : Option Json} {post : Except CloudflareError α → List World.Event → Prop} :
    (request account decode method url body).run.Ensures recording s post ↔
      ∀ answer, post (received decode answer) (s ++ [⟨.send ⟨method, url, account.token, body⟩, answer⟩]) := by
  have writable : (HttpRequest.mk method url account.token body).isWritable = true := sendable
  rw [request]
  dsimp only
  rw [if_pos writable, Attempt.ensures_bind, Attempt.ensures_attempt, World.ensures_send]
  refine forall_congr' fun answer => ?_
  cases answer with
  | ok body => exact Attempt.ensures_known
  | error e => exact Iff.rfl

theorem ensures_request_unsendable (unsendable : account.isSendable = false) {decode : Json → Option α}
    {method : HttpMethod} {url : String} {body : Option Json}
    {post : Except CloudflareError α → List World.Event → Prop} :
    (request account decode method url body).run.Ensures recording s post ↔
      post (.error (.http "builder error")) s := by
  have unwritable : (HttpRequest.mk method url account.token body).isWritable = false := unsendable
  rw [request, if_neg (by simp [unwritable]), Attempt.ensures_throw]

theorem within_request {decode : Json → Option α} {method : HttpMethod} {url : String} {body : Option Json} :
    (request account decode method url body).run.Within abroad := by
  rw [request]
  split
  · exact Attempt.within_bind (Program.Within.map (Program.within_perform.mpr trivial))
      fun _ => Attempt.within_known
  · trivial

/-! ## Deletions -/

/-- The requests that delete a balancer and then its pools. -/
def Account.deletions (account : Account) (balancer : Balancer) : List HttpRequest :=
  account.deletion (account.balancersUrl ++ "/" ++ balancer.id) ::
    balancer.poolIds.map fun id => account.deletion (account.poolsUrl ++ "/" ++ id)

/-- Requests that delete something are sent one after another until one fails, with whose failure that
ends. -/
inductive Carried : List HttpRequest → List World.Event → Except CloudflareError Unit → Prop where
  | done : Carried [] [] (.ok ())
  | failed {request : HttpRequest} {rest : List HttpRequest} {answer : Except String ByteArray}
      {e : CloudflareError} (refused : received deletedOfJson? answer = .error e) :
      Carried (request :: rest) [⟨.send request, answer⟩] (.error e)
  | next {request : HttpRequest} {rest : List HttpRequest} {answer : Except String ByteArray} {id : String}
      {asked : List World.Event} {result : Except CloudflareError Unit}
      (deleted : received deletedOfJson? answer = .ok id) (later : Carried rest asked result) :
      Carried (request :: rest) (⟨.send request, answer⟩ :: asked) result

theorem Carried.sent {requests : List HttpRequest} {asked : List World.Event}
    {result : Except CloudflareError Unit} (carried : Carried requests asked result) :
    ∀ event ∈ asked, ∃ request ∈ requests, event.1 = .send request := by
  induction carried with
  | done => simp
  | @failed request => exact List.forall_mem_cons.mpr ⟨⟨request, List.mem_cons_self, rfl⟩, by simp⟩
  | @next request _ _ _ _ _ _ _ ih =>
    refine List.forall_mem_cons.mpr ⟨⟨request, List.mem_cons_self, rfl⟩, fun event member => ?_⟩
    obtain ⟨later, among, sent⟩ := ih event member
    exact ⟨later, List.mem_cons_of_mem _ among, sent⟩

theorem Carried.ok_iff {requests : List HttpRequest} {asked : List World.Event}
    {result : Except CloudflareError Unit} (carried : Carried requests asked result) :
    result = .ok () ↔ ∀ request answer, ⟨.send request, answer⟩ ∈ asked →
      ∃ id, received deletedOfJson? answer = .ok id := by
  induction carried with
  | done => simp
  | @failed request _ answer e refused =>
    -- the refusal is the last answer
    have last : (⟨.send request, answer⟩ : World.Event) ∈ [⟨.send request, answer⟩] := List.mem_singleton_self _
    constructor
    · intro impossible
      cases impossible
    · intro all
      obtain ⟨id, deleted⟩ := all request answer last
      rw [refused] at deleted
      cases deleted
  | @next request _ answer id _ _ deleted _ ih =>
    rw [ih]
    constructor
    · rintro all other reply (_ | ⟨_, member⟩)
      · exact ⟨id, deleted⟩
      · exact all other reply member
    · intro all other reply member
      exact all other reply (List.mem_cons_of_mem _ member)

def delete (account : Account) (url : String) : Call Unit := do
  let _ ← request account deletedOfJson? .delete url none

theorem ensures_delete (sendable : account.isSendable = true) {url : String}
    {post : Except CloudflareError Unit → List World.Event → Prop} :
    (delete account url).run.Ensures recording s post ↔
      ∀ answer, post ((received deletedOfJson? answer).map fun _ => ())
        (s ++ [⟨.send (account.deletion url), answer⟩]) := by
  rw [delete, Attempt.ensures_bind, ensures_request sendable]
  refine forall_congr' fun answer => ?_
  cases received deletedOfJson? answer with
  | ok id => exact Attempt.ensures_pure
  | error e => exact Iff.rfl

theorem ensures_delete_bind (sendable : account.isSendable = true) {url : String} {next : Unit → Call Unit}
    {requests : List HttpRequest}
    (later : ∀ s, (next ()).run.Ensures recording s fun result after =>
      ∃ asked, after = s ++ asked ∧ Carried requests asked result) :
    (delete account url >>= next).run.Ensures recording s fun result after =>
      ∃ asked, after = s ++ asked ∧ Carried (account.deletion url :: requests) asked result := by
  rw [Attempt.ensures_bind, ensures_delete sendable]
  intro answer
  cases told : received deletedOfJson? answer with
  | error e => exact ⟨_, rfl, .failed told⟩
  | ok id =>
    refine (later _).mono ?_
    rintro result _ ⟨asked, rfl, carried⟩
    exact ⟨_ :: asked, List.append_assoc _ _ _, .next told carried⟩

theorem ensures_deletePools (sendable : account.isSendable = true) (ids : List String) :
    (deletePools account ids).run.Ensures recording s fun result after =>
      ∃ asked, after = s ++ asked ∧
        Carried (ids.map fun id => account.deletion (account.poolsUrl ++ "/" ++ id)) asked result := by
  induction ids generalizing s with
  | nil => exact Attempt.ensures_pure.mpr ⟨[], (List.append_nil s).symm, .done⟩
  | cons id ids ih =>
    rw [deletePools, Attempt.ensures_bind, Attempt.ensures_lift, World.ensures_note]
    exact ensures_delete_bind sendable fun s => ih

theorem ensures_deleteWithPools (sendable : account.isSendable = true) (balancer : Balancer) :
    (deleteWithPools account balancer).run.Ensures recording s fun result after =>
      ∃ asked, after = s ++ asked ∧ Carried (account.deletions balancer) asked result := by
  rw [deleteWithPools, Attempt.ensures_bind, Attempt.ensures_lift, World.ensures_note]
  exact ensures_delete_bind sendable fun s => ensures_deletePools sendable balancer.poolIds

theorem within_delete {url : String} : (delete account url).run.Within abroad :=
  Attempt.within_bind within_request fun _ => trivial

theorem within_deletePools (ids : List String) : (deletePools account ids).run.Within abroad := by
  induction ids with
  | nil => trivial
  | cons id ids ih =>
    exact Attempt.within_bind World.within_note fun _ => Attempt.within_bind within_delete fun _ => ih

theorem within_deleteWithPools (balancer : Balancer) :
    (deleteWithPools account balancer).run.Within abroad :=
  Attempt.within_bind World.within_note fun _ =>
    Attempt.within_bind within_delete fun _ => within_deletePools balancer.poolIds

/-! ## Looking up -/

/-- A balancer whose name was looked up, and the answer. -/
structure Trial where
  balancer : Balancer
  answer : Resolution

def Trial.event (trial : Trial) : World.Event :=
  ⟨.resolve trial.balancer.name, trial.answer⟩

/-- The balancers whose names lead to the address. -/
def found (address : Address) (trials : List Trial) : List Balancer :=
  (trials.filter (leadsTo address ·.answer)).map (·.balancer)

theorem ensures_answersOn (balancer : Balancer) :
    (answersOn address balancer).Ensures recording s fun passed after =>
      ∃ trial : Trial, trial.balancer = balancer ∧ after = s ++ [trial.event] ∧
        passed = leadsTo address trial.answer := by
  rw [answersOn, Program.ensures_bind, World.ensures_resolve]
  intro answer
  cases answer with
  | ok addresses => exact Program.ensures_done.mpr ⟨⟨balancer, .ok addresses⟩, rfl, rfl, rfl⟩
  | error e =>
    rw [Program.ensures_bind, World.ensures_note]
    exact Program.ensures_done.mpr ⟨⟨balancer, .error e⟩, rfl, rfl, rfl⟩

theorem ensures_candidates (balancers : List Balancer) :
    (candidates address balancers).Ensures recording s fun chosen after =>
      ∃ trials : List Trial, trials.map (·.balancer) = balancers.filter isManaged ∧
        after = s ++ trials.map Trial.event ∧ chosen = found address trials := by
  refine (World.ensures_filterM fun balancer s => ensures_answersOn balancer).mono ?_
  rintro chosen _ ⟨trials, tried, rfl, rfl⟩
  exact ⟨trials, tried, by rw [List.map_eq_flatMap], rfl⟩

theorem within_candidates (balancers : List Balancer) : (candidates address balancers).Within abroad := by
  refine Program.Within.filterM fun balancer => ?_
  rw [answersOn]
  refine (Program.within_perform.mpr trivial).bind fun answer => ?_
  cases answer with
  | ok addresses => trivial
  | error e => exact (Program.within_perform.mpr trivial).bind fun _ => trivial

/-! ## Destroying -/

/-- What is said of balancers that cannot be told apart. -/
def ambiguity (address : Address) (balancers : List Balancer) : CloudError :=
  .invalidArgument (address.text ++ " resolves to more than one Cloudflare load balancer: "
    ++ ", ".intercalate (balancers.map (·.name)))

/-- What is done with the balancers that lead to the address: what is asked, and the result. -/
inductive Settles (account : Account) (address : Address) :
    List Balancer → List World.Event → Except CloudError Bool → Prop where
  | none : Settles account address [] [] (.ok false)
  | one {balancer : Balancer} {asked : List World.Event} {result : Except CloudflareError Unit}
      (carried : Carried (account.deletions balancer) asked result) :
      Settles account address [balancer] asked
        ((result.map fun _ => true).mapError CloudflareError.toCloudError)
  | many {balancers : List Balancer} (several : 2 ≤ balancers.length) :
      Settles account address balancers [] (.error (ambiguity address balancers))

/-- How a destruction may go: what is asked, which of our balancers lead to the address, and the result. -/
inductive Course (account : Account) (address : Address) :
    List World.Event → List Balancer → Except CloudError Bool → Prop where
  /-- The token fits into no header, so nothing can be asked. -/
  | unsent (unsendable : account.isSendable = false) :
      Course account address [] [] (.error (CloudflareError.http "builder error").toCloudError)
  /-- The balancers are not to be had. -/
  | unlisted {answer : Except String ByteArray} {e : CloudflareError}
      (refused : received (Json.toList? Balancer.ofJson?) answer = .error e) :
      Course account address [⟨.send account.listing, answer⟩] [] (.error e.toCloudError)
  /-- Ours are looked up, in the order of the list, and those that lead to the address are settled. -/
  | settled {answer : Except String ByteArray} {balancers : List Balancer} {trials : List Trial}
      {asked : List World.Event} {outcome : Except CloudError Bool}
      (listed : received (Json.toList? Balancer.ofJson?) answer = .ok balancers)
      (tried : trials.map (·.balancer) = balancers.filter isManaged)
      (settles : Settles account address (found address trials) asked outcome) :
      Course account address (⟨.send account.listing, answer⟩ :: (trials.map Trial.event ++ asked))
        (found address trials) outcome

theorem ensures_destroy :
    (destroy account address).run.Ensures recording [] fun outcome asked =>
      ∃ found, Course account address asked found outcome := by
  cases sendable : account.isSendable with
  | false =>
    -- a token that fits into no header stops the very list
    rw [destroy, Attempt.ensures_bind, Attempt.ensures_adapt, listBalancers, ensures_request_unsendable sendable]
    exact ⟨[], .unsent sendable⟩
  | true =>
    rw [destroy, Attempt.ensures_bind, Attempt.ensures_adapt, listBalancers, ensures_request sendable]
    intro answer
    cases listed : received (Json.toList? Balancer.ofJson?) answer with
    | error e => exact ⟨[], .unlisted listed⟩
    | ok balancers =>
      dsimp only [Except.mapError]
      rw [Attempt.ensures_bind, Attempt.ensures_lift]
      refine (ensures_candidates balancers).mono ?_
      rintro _ _ ⟨trials, tried, rfl, rfl⟩
      dsimp only
      rw [Attempt.ensures_bind, Attempt.ensures_known]
      -- from here on only the number of balancers that were found decides
      have course : ∀ {asked outcome}, Settles account address (found address trials) asked outcome →
          ∃ found, Course account address
            ([⟨.send account.listing, answer⟩] ++ trials.map Trial.event ++ asked) found outcome :=
        fun settles => ⟨_, .settled listed tried settles⟩
      have idle : ∀ {outcome}, Settles account address (found address trials) [] outcome →
          ∃ found, Course account address
            ([⟨.send account.listing, answer⟩] ++ trials.map Trial.event) found outcome :=
        fun settles => by simpa only [List.append_nil] using course settles
      rcases chosen : found address trials with _ | ⟨balancer, _ | ⟨second, others⟩⟩
      all_goals rw [chosen] at course idle
      · dsimp only [deletionTarget]
        rw [Attempt.ensures_bind, Attempt.ensures_lift, World.ensures_note]
        exact Attempt.ensures_pure.mpr (idle .none)
      · dsimp only [deletionTarget]
        rw [Attempt.ensures_bind, Attempt.ensures_adapt]
        refine (ensures_deleteWithPools sendable balancer).mono ?_
        rintro result _ ⟨asked, rfl, carried⟩
        cases result with
        | ok _ => exact Attempt.ensures_pure.mpr (course (.one carried))
        | error e => exact course (.one carried)
      · exact idle (.many (by simp))

theorem within_destroy : (destroy account address).run.Within abroad := by
  refine Attempt.within_bind (Attempt.within_adapt within_request) fun balancers => ?_
  refine Attempt.within_bind (Attempt.within_lift (within_candidates balancers)) fun candidates => ?_
  refine Attempt.within_bind Attempt.within_known fun target => ?_
  cases target with
  | some balancer =>
    exact Attempt.within_bind (Attempt.within_adapt (within_deleteWithPools balancer)) fun _ => trivial
  | none => exact Attempt.within_bind World.within_note fun _ => trivial

/-! ## What is deleted -/

theorem balancersUrl_ne_poolsUrl (id pool : String) :
    account.balancersUrl ++ "/" ++ id ≠ account.poolsUrl ++ "/" ++ pool := by
  intro same
  -- the paths differ before any id begins
  have letters := congrArg String.toList same
  simp [Account.balancersUrl, Account.poolsUrl] at letters

theorem eq_of_mem_deletions {balancer : Balancer} {id : String}
    (member : account.deletion (account.balancersUrl ++ "/" ++ id) ∈ account.deletions balancer) :
    id = balancer.id := by
  rcases List.mem_cons.mp member with same | among
  · have place : account.balancersUrl ++ "/" ++ id = account.balancersUrl ++ "/" ++ balancer.id :=
      congrArg HttpRequest.url same
    have letters := congrArg String.toList place
    exact String.toList_inj.mp (by simpa using letters)
  · obtain ⟨pool, _, same⟩ := List.mem_map.mp among
    exact absurd (congrArg HttpRequest.url same).symm (balancersUrl_ne_poolsUrl id pool)

theorem method_of_mem_deletions {balancer : Balancer} {request : HttpRequest}
    (member : request ∈ account.deletions balancer) : request.method = .delete := by
  rcases List.mem_cons.mp member with rfl | among
  · rfl
  · obtain ⟨pool, _, rfl⟩ := List.mem_map.mp among
    rfl

variable {asked : List World.Event} {balancers : List Balancer} {outcome : Except CloudError Bool}

theorem Settles.deletes (settles : Settles account address balancers asked outcome) {request : HttpRequest}
    {answer : Except String ByteArray} (sent : ⟨.send request, answer⟩ ∈ asked) :
    ∃ balancer, balancers = [balancer] ∧ request ∈ account.deletions balancer := by
  cases settles with
  | none | many => cases sent
  | @one balancer _ _ carried =>
    obtain ⟨other, member, same⟩ := carried.sent _ sent
    cases same
    exact ⟨balancer, rfl, member⟩

theorem Settles.true_iff (settles : Settles account address balancers asked outcome) :
    outcome = .ok true ↔ (∃ balancer, balancers = [balancer]) ∧
      ∀ request answer, ⟨.send request, answer⟩ ∈ asked → ∃ id, received deletedOfJson? answer = .ok id := by
  cases settles with
  | none => simp
  | many several =>
    constructor
    · intro impossible
      cases impossible
    · rintro ⟨⟨balancer, rfl⟩, _⟩
      exact absurd several (by simp)
  | @one balancer _ result carried =>
    have one : ∃ other, [balancer] = [other] := ⟨balancer, rfl⟩
    rw [and_iff_right one, ← carried.ok_iff]
    cases result with
    | ok _ => exact ⟨fun _ => rfl, fun _ => rfl⟩
    | error e => exact ⟨fun impossible => (by cases impossible), fun impossible => (by cases impossible)⟩

/-- Of the requests that are sent, those that delete are the ones by which the balancers are settled. -/
theorem mem_deletions {answer reply : Except String ByteArray} {trials : List Trial} {request : HttpRequest}
    (deletes : request.method = .delete) :
    ⟨.send request, reply⟩ ∈
        (⟨.send account.listing, answer⟩ :: (trials.map Trial.event ++ asked) : List World.Event) ↔
      ⟨.send request, reply⟩ ∈ asked := by
  have first : (⟨.send request, reply⟩ : World.Event) ≠ ⟨.send account.listing, answer⟩ := by
    intro same
    cases same
    cases deletes
  have looked : (⟨.send request, reply⟩ : World.Event) ∉ trials.map Trial.event := by
    intro member
    obtain ⟨trial, _, same⟩ := List.mem_map.mp member
    cases same
  rw [List.mem_cons, or_iff_right first, List.mem_append, or_iff_right looked]

theorem Course.deletes (course : Course account address asked balancers outcome) {request : HttpRequest}
    {answer : Except String ByteArray} (sent : ⟨.send request, answer⟩ ∈ asked)
    (deletes : request.method = .delete) :
    ∃ balancer, balancers = [balancer] ∧ isManaged balancer = true ∧ request ∈ account.deletions balancer := by
  cases course with
  | unsent => cases sent
  | unlisted =>
    cases List.mem_singleton.mp sent
    cases deletes
  | @settled _ _ trials _ _ _ tried settles =>
    obtain ⟨balancer, chosen, member⟩ := settles.deletes ((mem_deletions deletes).mp sent)
    have among : balancer ∈ found address trials := chosen ▸ List.mem_singleton_self balancer
    exact ⟨balancer, chosen, (World.mem_of_chosen tried among).2, member⟩

theorem Course.true_iff (course : Course account address asked balancers outcome) :
    outcome = .ok true ↔ (∃ balancer, balancers = [balancer]) ∧
      ∀ request answer, ⟨.send request, answer⟩ ∈ asked → request.method = .delete →
        ∃ id, received deletedOfJson? answer = .ok id := by
  cases course with
  | unsent | unlisted => simp
  | settled _ _ settles =>
    rw [settles.true_iff]
    refine and_congr_right fun _ => forall₂_congr fun request answer => ?_
    constructor
    · intro deleted sent deletes
      exact deleted ((mem_deletions deletes).mp sent)
    · intro deleted sent
      obtain ⟨balancer, _, member⟩ := settles.deletes sent
      have deletes := method_of_mem_deletions member
      exact deleted ((mem_deletions deletes).mpr sent) deletes

/-- What a destruction asks in full. Of the balancers of the list ours are looked up, and those that lead to the
address decide. Nothing is deleted but the only one of them, with its pools, and it is true that a balancer was
destroyed exactly if there is one and all deletions succeed. -/
theorem deletes_only_found {σ : Type} {env : Environment World σ} {before after : σ}
    {events : List World.Event} {result : Option (Except CloudError Bool)}
    (run : (destroy account address).run.Runs env before events result after) :
    ∃ outcome balancers, result = some outcome ∧
      Course account address (calls events) balancers outcome ∧
      (outcome = .ok true ↔ (∃ balancer, balancers = [balancer]) ∧
        ∀ request answer, ⟨.send request, answer⟩ ∈ events → request.method = .delete →
          ∃ id, received deletedOfJson? answer = .ok id) ∧
      (∀ request answer, ⟨.send request, answer⟩ ∈ events → request.method = .delete →
        ∃ balancer, balancers = [balancer] ∧ isManaged balancer = true ∧
          request ∈ account.deletions balancer) ∧
      ∀ id answer, ⟨.send (account.deletion (account.balancersUrl ++ "/" ++ id)), answer⟩ ∈ events →
        ∃ balancer, balancers = [balancer] ∧ isManaged balancer = true ∧ balancer.id = id := by
  obtain ⟨outcome, rfl⟩ := within_destroy.returns not_false run
  obtain ⟨balancers, course⟩ := World.ensured_of_runs ensures_destroy run
  -- what is sent is a call, so it is found among the calls
  have sent : ∀ {request answer}, ⟨.send request, answer⟩ ∈ calls events ↔ ⟨.send request, answer⟩ ∈ events :=
    World.mem_calls.trans (and_iff_left trivial)
  have deletes : ∀ request answer, ⟨.send request, answer⟩ ∈ events → request.method = .delete →
      ∃ balancer, balancers = [balancer] ∧ isManaged balancer = true ∧ request ∈ account.deletions balancer :=
    fun request answer member => course.deletes (sent.mpr member)
  refine ⟨outcome, balancers, rfl, course, ?_, deletes, fun id answer member => ?_⟩
  · simpa only [sent] using course.true_iff
  · obtain ⟨balancer, chosen, managed, among⟩ := deletes _ answer member rfl
    exact ⟨balancer, chosen, managed, (eq_of_mem_deletions among).symm⟩

def webAccount : Account :=
  .of "token" "account" "zone" "example.com"

/-- Two balancers, one of which is ours, whose names lead to one address. -/
def webOutside (address : Address) : World.Outside where
  tool _ := .notFound
  send request :=
    match request.method with
    | .get => .ok (Text.encode ("\x7b\"success\":true,\"result\":[\x7b\"id\":\"a\",\"name\":\"a\"\x7d,"
        ++ "\x7b\"id\":\"b\",\"name\":\"b\",\"description\":\"nimbus \",\"default_pools\":[\"c\"]\x7d]\x7d"))
    | _ => .ok (Text.encode "\x7b\"success\":true,\"result\":\x7b\"id\":\"\"\x7d\x7d")
  resolve _ := .ok [address]

theorem deletes_only_found_web :
    ∃ events balancers, (destroy webAccount (.v4 203 0 113 9)).run.Runs World.onDisk ⟨[], []⟩ events
        (some (.ok true)) ⟨[], []⟩ ∧
      Course webAccount (.v4 203 0 113 9) (calls events) balancers (.ok true) ∧
      ∃ balancer, balancers = [balancer] := by
  have ended : ((destroy webAccount (.v4 203 0 113 9)).run.run (World.reply (webOutside (.v4 203 0 113 9)))
      ()).1 = some (.ok true) := by
    decide +kernel
  obtain ⟨events, run⟩ := World.exists_run_of_abroad _ within_destroy ended ⟨[], []⟩
  obtain ⟨outcome, balancers, same, course, destroyed, _⟩ := deletes_only_found run
  cases same
  exact ⟨events, balancers, run, course, (destroyed.mp rfl).1⟩

end CloudBalance.Cloudflare
