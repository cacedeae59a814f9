import CloudBalance.Proofs.Cloudflare.Guess
import CloudBalance.Proofs.Cloudflare.Store
import CloudBalance.Proofs.Sakura.Guess
import CloudBalance.Proofs.Sakura.Output

/-!
# Deletions on a guess

A destruction skips the balancers whose names cannot be looked up. Main statement: where several of ours answer on
an address nothing is deleted, but if look-ups fail until one of them is left, that one is deleted.
-/

namespace CloudBalance

open Net (Address Resolution)
open World (FailsMore)

variable {σ τ : Type} {env : Environment World σ} {env' : Environment World τ} {s s' : σ} {t t' : τ}
  {address : Address} {resolver failing : String → Resolution}

/-- Of an address on which several balancers of ours answer nothing is deleted. Beside a resolver that fails on more
names fewer of them answer, and something is deleted exactly if that is one. -/
theorem deletes_where_one_is_left (fails : FailsMore resolver failing) :
    (∀ (account : Cloudflare.Account) (balancers : List Cloudflare.Balancer) (text : String)
      (events events' : List World.Event) (result : Option (Except CloudError Bool)),
      Cloudflare.Sees account balancers resolver events → Cloudflare.Sees account balancers failing events' →
      (Cloudflare.destroy account address).run.Runs env s events (some (.error (.invalidArgument text))) s' →
      (Cloudflare.destroy account address).run.Runs env' t events' result t' →
      ¬ Cloudflare.SendsDeletion events ∧
        (Cloudflare.answering failing address balancers).Sublist
          (Cloudflare.answering resolver address balancers) ∧
        (Cloudflare.SendsDeletion events' ↔
          ∃ balancer, Cloudflare.answering failing address balancers = [balancer])) ∧
    ∀ (balancers : List Sakura.Balancer) (text : String) (events events' : List World.Event)
      (result : Option (Except CloudError Bool)),
      Sakura.Sees balancers resolver events → Sakura.Sees balancers failing events' →
      (Sakura.destroy address).run.Runs env s events (some (.error (.invalidArgument text))) s' →
      (Sakura.destroy address).run.Runs env' t events' result t' →
      ¬ Sakura.RunsDeletion events ∧
        (Sakura.answering failing address balancers).Sublist (Sakura.answering resolver address balancers) ∧
        (Sakura.RunsDeletion events' ↔ ∃ balancer,
          Sakura.answering failing address balancers = [balancer] ∧ Sakura.isArgument balancer.id = true) :=
  ⟨fun _ _ _ _ _ _ => Cloudflare.guess fails, fun _ _ _ _ _ => Sakura.guess fails⟩

/-! ## A name that cannot be looked up -/

def pairAddress : Address :=
  .v4 198 51 100 1

/-- Each name leads to the address, unless it is one on which the resolver fails. -/
def pairResolver (failed : List String) (host : String) : Resolution :=
  if host ∈ failed then .error (.unknownHost host) else .ok [pairAddress]

theorem failsMore_pair : FailsMore (pairResolver []) (pairResolver ["b"]) := by
  intro host
  by_cases same : host = "b"
  · exact .inr ⟨.unknownHost host, by rw [same]; rfl⟩
  · exact .inl (by simp [pairResolver, same])

def Cloudflare.pair : List Balancer :=
  [⟨"1", "a", some "nimbus ", [], none, false⟩, ⟨"2", "b", some "nimbus ", [], none, false⟩]

def Sakura.pair : List Balancer :=
  [⟨"1", "a", some "a", none, none, ["nimbus"]⟩, ⟨"2", "b", some "b", none, none, ["nimbus"]⟩]

/-- Both providers list two balancers of ours, whatever they are asked. -/
def pairOutside (failed : List String) : World.Outside where
  tool _ := .exited 0 (Text.encode (Json.ofList Sakura.Balancer.toJson Sakura.pair).compact) ByteArray.empty
  send _ := Cloudflare.reply (.ofList Cloudflare.Balancer.toJson Cloudflare.pair)
  resolve := pairResolver failed

def pairWorld (failed : List String) : Environment World Unit :=
  .ofHandler (World.reply (pairOutside failed))

section
variable {failed : List String} {α : Type} {p : Program World α} {events : List World.Event} {result : Option α}
  {u u' : Unit}

theorem answer_eq (run : p.Runs (pairWorld failed) u events result u') {query : World.Query}
    {answer : World.Answer query} (member : ⟨query, answer⟩ ∈ events) :
    answer = (World.reply (pairOutside failed) query ()).1 := by
  obtain ⟨before, after, answered⟩ := run.steps.answered member
  exact (congrArg Prod.fst answered).symm

theorem Cloudflare.sees_pair (run : p.Runs (pairWorld failed) u events result u') :
    Sees webAccount pair (pairResolver failed) events where
  listed answer member := by
    rw [answer_eq run member]
    exact received_balancers pair
  looked host answer member := answer_eq run member

theorem Sakura.sees_pair (run : p.Runs (pairWorld failed) u events result u') :
    Sees pair (pairResolver failed) events where
  told answer member := by
    rw [answer_eq run member]
    change listed (.exited 0 (Text.encode (Json.ofList Balancer.toJson pair).compact) ByteArray.empty) = .ok pair
    rw [listed, outputOf, if_pos rfl, Text.decodeLossy_encode]
    exact readList_compact pair
  looked host answer member := answer_eq run member

end

theorem exists_run_pair (failed : List String) {α : Type} {p : Program World α} (within : p.Within World.abroad) :
    ∃ events a, p.Runs (pairWorld failed) () events (some a) () := by
  have answers : ∀ s q, World.abroad.asks q → ∃ answer s', pairWorld failed s q answer s' :=
    fun s q _ => ⟨_, _, (Eq.refl _ : World.reply (pairOutside failed) q s = _)⟩
  obtain ⟨events, a, _, run⟩ := within.exists_run not_false answers ()
  exact ⟨events, a, run⟩

theorem Cloudflare.exists_run_refused :
    ∃ text events, (destroy webAccount pairAddress).run.Runs (pairWorld []) () events
      (some (.error (.invalidArgument text))) () := by
  obtain ⟨events, outcome, run⟩ := exists_run_pair [] (@within_destroy webAccount pairAddress)
  have both : 2 ≤ (answering (pairResolver []) pairAddress pair).length := by decide +kernel
  obtain ⟨text, same⟩ := (refused_iff_several sendable_web (sees_pair run) run).mpr both
  rw [same] at run
  exact ⟨text, events, run⟩

theorem Sakura.exists_run_refused :
    ∃ text events, (destroy pairAddress).run.Runs (pairWorld []) () events
      (some (.error (.invalidArgument text))) () := by
  obtain ⟨events, outcome, run⟩ := exists_run_pair [] (@within_destroy pairAddress)
  have both : 2 ≤ (answering (pairResolver []) pairAddress pair).length := by decide +kernel
  obtain ⟨text, same⟩ := (refused_iff_several (sees_pair run) run).mpr both
  rw [same] at run
  exact ⟨text, events, run⟩

/-- Where one of the two names cannot be looked up, the other balancer is left. -/
theorem Cloudflare.left_pair :
    answering (pairResolver ["b"]) pairAddress pair = [⟨"1", "a", some "nimbus ", [], none, false⟩] := by
  decide +kernel

theorem Sakura.left_pair :
    answering (pairResolver ["b"]) pairAddress pair = [⟨"1", "a", some "a", none, none, ["nimbus"]⟩] := by
  decide +kernel

theorem deletes_where_one_is_left_pair :
    (∃ text events events' result,
      (Cloudflare.destroy Cloudflare.webAccount pairAddress).run.Runs (pairWorld []) () events
        (some (.error (.invalidArgument text))) () ∧
      (Cloudflare.destroy Cloudflare.webAccount pairAddress).run.Runs (pairWorld ["b"]) () events' result () ∧
      ¬ Cloudflare.SendsDeletion events ∧ Cloudflare.SendsDeletion events') ∧
    ∃ text events events' result,
      (Sakura.destroy pairAddress).run.Runs (pairWorld []) () events (some (.error (.invalidArgument text))) () ∧
      (Sakura.destroy pairAddress).run.Runs (pairWorld ["b"]) () events' result () ∧
      ¬ Sakura.RunsDeletion events ∧ Sakura.RunsDeletion events' := by
  constructor
  · obtain ⟨text, events, run⟩ := Cloudflare.exists_run_refused
    obtain ⟨events', result, run'⟩ := exists_run_pair ["b"]
      (@Cloudflare.within_destroy Cloudflare.webAccount pairAddress)
    obtain ⟨nothing, _, iff⟩ := (deletes_where_one_is_left failsMore_pair).1 _ _ _ _ _ _ (Cloudflare.sees_pair run)
      (Cloudflare.sees_pair run') run run'
    exact ⟨text, events, events', _, run, run', nothing, iff.mpr ⟨_, Cloudflare.left_pair⟩⟩
  · obtain ⟨text, events, run⟩ := Sakura.exists_run_refused
    obtain ⟨events', result, run'⟩ := exists_run_pair ["b"] (@Sakura.within_destroy pairAddress)
    obtain ⟨nothing, _, iff⟩ := (deletes_where_one_is_left failsMore_pair).2 _ _ _ _ _ (Sakura.sees_pair run)
      (Sakura.sees_pair run') run run'
    exact ⟨text, events, events', _, run, run', nothing, iff.mpr ⟨_, Sakura.left_pair, by decide⟩⟩

/-- At both providers a destruction that is refused, because two balancers of ours answer, deletes one of them where
the name of the other cannot be looked up. -/
theorem not_spared_where_lookup_fails :
    FailsMore (pairResolver []) (pairResolver ["b"]) ∧
    (∃ text events events' result,
      Cloudflare.Sees Cloudflare.webAccount Cloudflare.pair (pairResolver []) events ∧
      Cloudflare.Sees Cloudflare.webAccount Cloudflare.pair (pairResolver ["b"]) events' ∧
      (Cloudflare.destroy Cloudflare.webAccount pairAddress).run.Runs (pairWorld []) () events
        (some (.error (.invalidArgument text))) () ∧
      (Cloudflare.destroy Cloudflare.webAccount pairAddress).run.Runs (pairWorld ["b"]) () events' result () ∧
      Cloudflare.SendsDeletion events') ∧
    ∃ text events events' result,
      Sakura.Sees Sakura.pair (pairResolver []) events ∧ Sakura.Sees Sakura.pair (pairResolver ["b"]) events' ∧
      (Sakura.destroy pairAddress).run.Runs (pairWorld []) () events (some (.error (.invalidArgument text))) () ∧
      (Sakura.destroy pairAddress).run.Runs (pairWorld ["b"]) () events' result () ∧
      Sakura.RunsDeletion events' := by
  refine ⟨failsMore_pair, ?_, ?_⟩
  · obtain ⟨text, events, run⟩ := Cloudflare.exists_run_refused
    obtain ⟨events', result, run'⟩ := exists_run_pair ["b"]
      (@Cloudflare.within_destroy Cloudflare.webAccount pairAddress)
    have sees := Cloudflare.sees_pair run'
    have deletes := (Cloudflare.deletes_iff_answering Cloudflare.sendable_web sees run').mpr ⟨_, Cloudflare.left_pair⟩
    exact ⟨text, events, events', _, Cloudflare.sees_pair run, sees, run, run', deletes⟩
  · obtain ⟨text, events, run⟩ := Sakura.exists_run_refused
    obtain ⟨events', result, run'⟩ := exists_run_pair ["b"] (@Sakura.within_destroy pairAddress)
    have sees := Sakura.sees_pair run'
    have deletes := (Sakura.deletes_iff_answering sees run').mpr ⟨_, Sakura.left_pair, by decide⟩
    exact ⟨text, events, events', _, Sakura.sees_pair run, sees, run, run', deletes⟩

end CloudBalance
