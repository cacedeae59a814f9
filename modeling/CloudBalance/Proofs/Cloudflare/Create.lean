import CloudBalance.Proofs.Cloudflare.Destroy

/-!
# What is made at Cloudflare

All that a creation asks once the nodes are listed: for a pool of origins, and for a balancer in front of it.
Main statements: a creation may go as `Makes` says and in no other way, and where it fails it deletes nothing,
so that the pool of a balancer that was refused stays.
-/

namespace CloudBalance.Cloudflare

open Net (Address HttpRequest)
open World (calls recording)

variable {account : Account} {location : Location} {spec : BalancerSpec} {ids : List String}
  {nodes : List Node} {s : List World.Event}

/-! ## Requests -/

/-- The request that makes something of a value. -/
def Account.posting (account : Account) (url : String) (value : Json) : HttpRequest :=
  ⟨.post, url, account.token, some value⟩

/-- The pool of the nodes at a location. -/
def poolFor (location : Location) (spec : BalancerSpec) (ids : List String) (nodes : List Node) : NewPool :=
  ⟨spec.nameAt location.id, descriptionOf spec, originsFor nodes location ids spec.instancePort⟩

/-- The balancer in front of a pool. -/
def balancerFor (account : Account) (location : Location) (spec : BalancerSpec) (poolId : String) : NewBalancer :=
  ⟨hostname account location spec, descriptionOf spec, [poolId], poolId, spec.protocol == .http⟩

def Account.newPool (account : Account) (pool : NewPool) : HttpRequest :=
  account.posting account.poolsUrl pool.toJson

def Account.newBalancer (account : Account) (balancer : NewBalancer) : HttpRequest :=
  account.posting account.balancersUrl balancer.toJson

/-! ## Making -/

/-- What comes of asking for a pool and then for a balancer in front of it. -/
inductive Posts (account : Account) (location : Location) (spec : BalancerSpec) (pool : NewPool) :
    List World.Event → Except CloudflareError String → Prop where
  | poolRefused {answer : Except String ByteArray} {e : CloudflareError}
      (refused : received Pool.ofJson? answer = .error e) :
      Posts account location spec pool [⟨.send (account.newPool pool), answer⟩] (.error e)
  | balancerRefused {answer reply : Except String ByteArray} {made : Pool} {e : CloudflareError}
      (pooled : received Pool.ofJson? answer = .ok made) (refused : received Balancer.ofJson? reply = .error e) :
      Posts account location spec pool
        [⟨.send (account.newPool pool), answer⟩,
          ⟨.send (account.newBalancer (balancerFor account location spec made.id)), reply⟩] (.error e)
  | made {answer reply : Except String ByteArray} {made : Pool} {balancer : Balancer}
      (pooled : received Pool.ofJson? answer = .ok made) (balanced : received Balancer.ofJson? reply = .ok balancer) :
      Posts account location spec pool
        [⟨.send (account.newPool pool), answer⟩,
          ⟨.send (account.newBalancer (balancerFor account location spec made.id)), reply⟩] (.ok balancer.name)

/-- How the creation may go for the nodes of a listing: what is asked, and the result. -/
inductive Makes (account : Account) (location : Location) (spec : BalancerSpec) (ids : List String)
    (nodes : List Node) : List World.Event → Except CloudError String → Prop where
  /-- None of the nodes can be an origin. -/
  | noOrigins (empty : (poolFor location spec ids nodes).origins = []) :
      Makes account location spec ids nodes []
        (.error (CloudflareError.noOrigins (Text.sortedSet ids)).toCloudError)
  /-- The token fits into no header. -/
  | unsent (chosen : (poolFor location spec ids nodes).origins ≠ []) (unsendable : account.isSendable = false) :
      Makes account location spec ids nodes [] (.error (CloudflareError.http "builder error").toCloudError)
  | sent {asked : List World.Event} {result : Except CloudflareError String}
      (chosen : (poolFor location spec ids nodes).origins ≠ []) (sendable : account.isSendable = true)
      (posts : Posts account location spec (poolFor location spec ids nodes) asked result) :
      Makes account location spec ids nodes asked (result.mapError CloudflareError.toCloudError)

theorem ensures_createBalancer_at (sendable : account.isSendable = true) {message : String} {poolId : String}
    {post : Except CloudError String → List World.Event → Prop} :
    (do
      World.note .info .cloudflareBalancer message
      let balancer ← ExceptT.adapt CloudflareError.toCloudError
        (createBalancer account (balancerFor account location spec poolId))
      return balancer.name : Attempt World CloudError String).run.Ensures recording s post ↔
      ∀ reply, post (((received Balancer.ofJson? reply).map (·.name)).mapError CloudflareError.toCloudError)
        (s ++ [⟨.send (account.newBalancer (balancerFor account location spec poolId)), reply⟩]) := by
  rw [Attempt.ensures_bind, Attempt.ensures_lift, World.ensures_note]
  dsimp only
  rw [Attempt.ensures_bind, Attempt.ensures_adapt, createBalancer, ensures_request sendable]
  refine forall_congr' fun reply => ?_
  rw [Account.newBalancer, Account.posting]
  cases received Balancer.ofJson? reply with
  | ok balancer => exact Attempt.ensures_pure
  | error e => exact Iff.rfl

theorem forall_posts {pool : NewPool} {post : Except CloudflareError String → List World.Event → Prop} :
    (∀ asked result, Posts account location spec pool asked result → post result asked) ↔
      ∀ answer, match received Pool.ofJson? answer with
        | .error e => post (.error e) [⟨.send (account.newPool pool), answer⟩]
        | .ok made => ∀ reply, post ((received Balancer.ofJson? reply).map (·.name))
            [⟨.send (account.newPool pool), answer⟩,
              ⟨.send (account.newBalancer (balancerFor account location spec made.id)), reply⟩] := by
  constructor
  · intro each answer
    cases pooled : received Pool.ofJson? answer with
    | error e => exact each _ _ (.poolRefused pooled)
    | ok made =>
      intro reply
      cases balanced : received Balancer.ofJson? reply with
      | error e => exact each _ _ (.balancerRefused pooled balanced)
      | ok balancer => exact each _ _ (.made pooled balanced)
  · intro each asked result posts
    cases posts with
    | @poolRefused answer e refused =>
      have ends := each answer
      rwa [refused] at ends
    | @balancerRefused answer reply made e pooled refused =>
      have ends := each answer
      rw [pooled] at ends
      have ends := ends reply
      rw [refused] at ends
      exact ends
    | @made answer reply made balancer pooled balanced =>
      have ends := each answer
      rw [pooled] at ends
      have ends := ends reply
      rw [balanced] at ends
      exact ends

/-- For the nodes of a listing a creation may go as `Makes` says and in no other way. -/
theorem ensures_create_listed {post : Except CloudError String → List World.Event → Prop} :
    (create account (pure nodes) location spec ids).run.Ensures recording s post ↔
      ∀ asked outcome, Makes account location spec ids nodes asked outcome → post outcome (s ++ asked) := by
  rw [create, Attempt.ensures_bind, Attempt.ensures_pure]
  dsimp only
  by_cases empty : originsFor nodes location ids spec.instancePort = []
  · rw [if_pos (by rw [empty]; rfl), Attempt.ensures_bind, Attempt.ensures_throw]
    constructor
    · rintro ends asked outcome (_ | _ | _)
      · rwa [List.append_nil]
      all_goals contradiction
    · intro each
      simpa only [List.append_nil] using each _ _ (.noOrigins empty)
  · rw [if_neg (by simpa using empty), Attempt.ensures_bind, Attempt.ensures_lift, World.ensures_note]
    dsimp only
    rw [Attempt.ensures_bind, Attempt.ensures_adapt, createPool]
    cases sendable : account.isSendable with
    | false =>
      rw [ensures_request_unsendable sendable]
      constructor
      · rintro ends asked outcome (_ | _ | _)
        · contradiction
        · rwa [List.append_nil]
        · simp_all
      · intro each
        have ends := each _ _ (.unsent empty sendable)
        rwa [List.append_nil] at ends
    | true =>
      -- here all is sent, and only the two replies decide
      have sent : (∀ asked outcome, Makes account location spec ids nodes asked outcome → post outcome (s ++ asked)) ↔
          ∀ asked result, Posts account location spec (poolFor location spec ids nodes) asked result →
            post (result.mapError CloudflareError.toCloudError) (s ++ asked) := by
        constructor
        · exact fun each asked result posts => each _ _ (.sent empty sendable posts)
        · rintro each asked outcome (_ | _ | ⟨_, _, posts⟩)
          · contradiction
          · simp_all
          · exact each _ _ posts
      rw [sent, forall_posts, ensures_request sendable]
      refine forall_congr' fun answer => ?_
      cases received Pool.ofJson? answer with
      | error e => exact Iff.rfl
      | ok made =>
        refine (ensures_createBalancer_at sendable).trans (forall_congr' fun reply => ?_)
        rw [List.append_assoc]
        rfl

variable {σ α : Type} {env : Environment World σ} {list : Attempt World CloudError (List Node)} {before after : σ}
  {events : List World.Event} {outcome : Except CloudError String}

/-- A creation first lists the nodes, and where it gets them it goes on as `Makes` says. -/
theorem runs_create
    (run : (create account list location spec ids).run.Runs env before events (some outcome) after) :
    ∃ first listing between rest, list.run.Runs env before first (some listing) between ∧ events = first ++ rest ∧
      match listing with
      | .error e => rest = [] ∧ after = between ∧ outcome = .error e
      | .ok nodes =>
        (create account (pure nodes) location spec ids).run.Runs env between rest (some outcome) after ∧
          Makes account location spec ids nodes (calls rest) outcome := by
  rcases Attempt.runs_bind.mp run with ⟨first, nodes, between, rest, listed, later, rfl⟩ | ⟨e, listed, same⟩ | ⟨_, same⟩
  · have made : (create account (pure nodes) location spec ids).run.Ensures recording [] fun outcome asked =>
        Makes account location spec ids nodes asked outcome :=
      ensures_create_listed.mpr fun asked outcome makes => by rwa [List.nil_append]
    exact ⟨first, .ok nodes, between, rest, listed, rfl, later, World.ensured_of_runs made later⟩
  · cases same
    exact ⟨events, .error e, after, [], listed, (List.append_nil events).symm, rfl, rfl, rfl⟩
  · cases same

/-! ## What is left -/

/-- What was made at a place by a request, if it was. -/
def postedBy (decode : Json → Option α) (url : String) : World.Event → Option α
  | ⟨.send request, answer⟩ =>
    if request.method = .post ∧ request.url = url then (received decode answer).toOption else none
  | _ => none

/-- What was made at a place. -/
def posted (decode : Json → Option α) (url : String) (events : List World.Event) : List α :=
  events.filterMap (postedBy decode url)

theorem posted_calls (decode : Json → Option α) (url : String) (events : List World.Event) :
    posted decode url (calls events) = posted decode url events := by
  rw [posted, calls, List.filterMap_filter]
  refine congrArg (List.filterMap · events) (funext fun event => ?_)
  obtain ⟨query, answer⟩ := event
  cases query <;> rfl

theorem balancersUrl_ne (account : Account) : account.balancersUrl ≠ account.poolsUrl := by
  intro same
  exact balancersUrl_ne_poolsUrl "" "" (congrArg (· ++ "/" ++ "") same)

section
variable {pool : NewPool} {balancer : NewBalancer} {answer : Except String ByteArray} {rest : List World.Event}

theorem posted_newPool :
    posted Pool.ofJson? account.poolsUrl (⟨.send (account.newPool pool), answer⟩ :: rest) =
      (received Pool.ofJson? answer).toOption.toList ++ posted Pool.ofJson? account.poolsUrl rest := by
  have made : postedBy Pool.ofJson? account.poolsUrl ⟨.send (account.newPool pool), answer⟩ =
      (received Pool.ofJson? answer).toOption := if_pos ⟨rfl, rfl⟩
  rw [posted, List.filterMap_cons, made]
  cases received Pool.ofJson? answer <;> rfl

theorem posted_newBalancer :
    posted Balancer.ofJson? account.balancersUrl (⟨.send (account.newBalancer balancer), answer⟩ :: rest) =
      (received Balancer.ofJson? answer).toOption.toList ++ posted Balancer.ofJson? account.balancersUrl rest := by
  have made : postedBy Balancer.ofJson? account.balancersUrl ⟨.send (account.newBalancer balancer), answer⟩ =
      (received Balancer.ofJson? answer).toOption := if_pos ⟨rfl, rfl⟩
  rw [posted, List.filterMap_cons, made]
  cases received Balancer.ofJson? answer <;> rfl

theorem posted_newPool_elsewhere :
    posted Balancer.ofJson? account.balancersUrl (⟨.send (account.newPool pool), answer⟩ :: rest) =
      posted Balancer.ofJson? account.balancersUrl rest :=
  List.filterMap_cons_none (if_neg fun posts => balancersUrl_ne account posts.2.symm)

theorem posted_newBalancer_elsewhere :
    posted Pool.ofJson? account.poolsUrl (⟨.send (account.newBalancer balancer), answer⟩ :: rest) =
      posted Pool.ofJson? account.poolsUrl rest :=
  List.filterMap_cons_none (if_neg fun posts => balancersUrl_ne account posts.2)

end

/-- The resource at a place is deleted. -/
def Account.Deletes (account : Account) (url : String) (events : List World.Event) : Prop :=
  ∃ answer id, ⟨.send (account.deletion url), answer⟩ ∈ events ∧ received deletedOfJson? answer = .ok id

/-- Every pool and every balancer that was made is deleted again. -/
def LeavesNothing (account : Account) (events : List World.Event) : Prop :=
  (∀ pool ∈ posted Pool.ofJson? account.poolsUrl events,
    account.Deletes (account.poolsUrl ++ "/" ++ pool.id) events) ∧
  ∀ balancer ∈ posted Balancer.ofJson? account.balancersUrl events,
    account.Deletes (account.balancersUrl ++ "/" ++ balancer.id) events

theorem not_deletes {url : String}
    (posts : ∀ request answer, ⟨.send request, answer⟩ ∈ events → request.method = .post) :
    ¬ account.Deletes url events := by
  rintro ⟨answer, _, sent, _⟩
  cases posts _ _ sent

theorem sent_calls {request : HttpRequest} {answer : Except String ByteArray} :
    ⟨.send request, answer⟩ ∈ calls events ↔ ⟨.send request, answer⟩ ∈ events :=
  World.mem_calls.trans (and_iff_left trivial)

theorem deletes_calls {url : String} : account.Deletes url (calls events) ↔ account.Deletes url events :=
  exists₂_congr fun _ _ => and_congr_left fun _ => sent_calls

theorem leavesNothing_calls : LeavesNothing account (calls events) ↔ LeavesNothing account events := by
  simp only [LeavesNothing, posted_calls, deletes_calls]

/-- What a failed creation asked for after the listing. -/
inductive Leaves (account : Account) (location : Location) (spec : BalancerSpec) (asked : List World.Event) :
    CloudError → Prop where
  /-- There is no pool, and nothing to delete. -/
  | nothing {e : CloudError} (none : posted Pool.ofJson? account.poolsUrl asked = [])
      (clean : LeavesNothing account asked) : Leaves account location spec asked e
  /-- There is a pool, the balancer in front of it was refused, and the pool stays. -/
  | pool {made : Pool} {reply : Except String ByteArray} {refusal : CloudflareError}
      (one : posted Pool.ofJson? account.poolsUrl asked = [made])
      (sent : ⟨.send (account.newBalancer (balancerFor account location spec made.id)), reply⟩ ∈ asked)
      (refused : received Balancer.ofJson? reply = .error refusal)
      (left : ¬ account.Deletes (account.poolsUrl ++ "/" ++ made.id) asked) :
      Leaves account location spec asked refusal.toCloudError

theorem Makes.leaves {asked : List World.Event} {e : CloudError}
    (makes : Makes account location spec ids nodes asked (.error e)) :
    (∀ request answer, ⟨.send request, answer⟩ ∈ asked → request.method = .post) ∧
      posted Balancer.ofJson? account.balancersUrl asked = [] ∧ Leaves account location spec asked e := by
  generalize same : Except.error e = outcome at makes
  cases makes with
  | noOrigins | unsent => exact ⟨by simp, rfl, .nothing rfl (by simp [LeavesNothing, posted])⟩
  | sent chosen sendable posts =>
    cases posts with
    | @poolRefused answer e refused =>
      have none : posted Pool.ofJson? account.poolsUrl
          [⟨.send (account.newPool (poolFor location spec ids nodes)), answer⟩] = [] := by
        rw [posted_newPool, refused]
        rfl
      have empty : posted Balancer.ofJson? account.balancersUrl
          [⟨.send (account.newPool (poolFor location spec ids nodes)), answer⟩] = [] := posted_newPool_elsewhere
      refine ⟨?_, empty, .nothing none ⟨by simp [none], by simp [empty]⟩⟩
      intro request answer member
      cases List.mem_singleton.mp member
      rfl
    | @balancerRefused answer reply made e pooled refused =>
      cases same
      have posts : ∀ request answer', ⟨.send request, answer'⟩ ∈
          ([⟨.send (account.newPool (poolFor location spec ids nodes)), answer⟩,
            ⟨.send (account.newBalancer (balancerFor account location spec made.id)), reply⟩] : List World.Event) →
          request.method = .post := by
        rintro request answer' (_ | ⟨_, _ | ⟨_, ⟨⟩⟩⟩) <;> rfl
      refine ⟨posts, ?_, .pool ?_ (List.mem_cons_of_mem _ (List.mem_singleton_self _)) refused (not_deletes posts)⟩
      · rw [posted_newPool_elsewhere, posted_newBalancer, refused]
        rfl
      · rw [posted_newPool, posted_newBalancer_elsewhere, pooled]
        rfl
    | made => cases same

theorem leaves_calls {e : CloudError} (leaves : Leaves account location spec (calls events) e) :
    Leaves account location spec events e := by
  cases leaves with
  | nothing none clean => exact .nothing (by rwa [posted_calls] at none) (leavesNothing_calls.mp clean)
  | pool one sent refused left =>
    exact .pool (by rwa [posted_calls] at one) (sent_calls.mp sent) refused (mt deletes_calls.mpr left)

theorem exists_run_of_makes {asked : List World.Event}
    (makes : Makes account location spec ids nodes asked outcome) :
    ∃ events, (create account (pure nodes) location spec ids).run.Runs recording [] events (some outcome) asked ∧
      calls events = asked := by
  have possible : ¬ (create account (pure nodes) location spec ids).run.Ensures recording []
      fun result after => ¬ (result = outcome ∧ after = asked) :=
    fun never => ensures_create_listed.mp never asked outcome makes ⟨rfl, rfl⟩
  obtain ⟨events, run, rfl⟩ := World.exists_run_of_possible possible
  exact ⟨events, run, rfl⟩

def webNode : Node :=
  ⟨"tk1a/1", "1", "web", none, [], .zone "tk1a", .running, [.v4 203 0 113 9], []⟩

def webSpec : BalancerSpec :=
  ⟨"web", .tcp, 80, 8080⟩

theorem sendable_web : webAccount.isSendable = true := by
  decide +kernel

theorem chosen_web : (poolFor (.zone "tk1a") webSpec ["1"] [webNode]).origins ≠ [] := by
  decide +kernel

/-- The reply to a request that made a pool. -/
def webPooled : Except String ByteArray :=
  .ok (Text.encode "\x7b\"success\":true,\"result\":\x7b\"id\":\"p\",\"name\":\"web-tk1a\"\x7d\x7d")

theorem received_webPooled : received Pool.ofJson? webPooled = .ok ⟨"p", "web-tk1a", []⟩ := by
  decide +kernel

/-- There is a pool, and then the balancer is refused. -/
theorem makes_refused :
    ∃ asked, Makes webAccount (.zone "tk1a") webSpec ["1"] [webNode] asked
      (.error (CloudflareError.api "refused (code 1000)").toCloudError) ∧
      posted Pool.ofJson? webAccount.poolsUrl asked = [⟨"p", "web-tk1a", []⟩] := by
  have refused : received Balancer.ofJson? (.ok (Text.encode
      "\x7b\"success\":false,\"errors\":[\x7b\"code\":1000,\"message\":\"refused\"\x7d]\x7d")) =
      .error (.api "refused (code 1000)") := by
    decide +kernel
  refine ⟨_, .sent chosen_web sendable_web (.balancerRefused received_webPooled refused), ?_⟩
  rw [posted_newPool, posted_newBalancer_elsewhere, received_webPooled]
  rfl

end CloudBalance.Cloudflare
