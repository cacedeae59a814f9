import CloudBalance.Proofs.Balancer.Names
import CloudBalance.Proofs.World.Provider

/-!
# Attempts to look a name up

What comes of looking a name up several times, by the answers that the resolver would give one after another. Main
statement: the first answer with an address is the result, after as many look-ups as it took and the policy's wait
between each two of them; if none of the answers that the policy allows has an address, there is no result, and
nobody waits after the last look-up.
-/

namespace CloudBalance.Service

open Net (Address Resolution)
open Program (Steps)
open Time (RetryPolicy)

variable {policy : RetryPolicy} {host : String} {events : List Service.Event}

/-! ## Look-ups and waits -/

/-- The names that were looked up. -/
def namesIn (events : List Service.Event) : List String :=
  events.filterMap fun
    | ⟨.resolve host, _⟩ => some host
    | _ => none

/-- The answers to the look-ups. -/
def answersIn (events : List Service.Event) : List Resolution :=
  events.filterMap fun
    | ⟨.resolve _, answer⟩ => some answer
    | _ => none

/-- How long was waited, in nanoseconds. -/
def waitsIn (events : List Service.Event) : List Nat :=
  events.filterMap fun
    | ⟨.sleep nanos, _⟩ => some nanos
    | _ => none

theorem namesIn_lookups (attempt : Nat) (answers : List Resolution) :
    namesIn (lookups policy host attempt answers) = List.replicate answers.length host := by
  fun_induction lookups policy host attempt answers with
  | case1 => rfl
  | case2 => rfl
  | case3 attempt answer next rest ih => exact congrArg (host :: ·) ih

theorem answersIn_lookups (attempt : Nat) (answers : List Resolution) :
    answersIn (lookups policy host attempt answers) = answers := by
  fun_induction lookups policy host attempt answers with
  | case1 => rfl
  | case2 => rfl
  | case3 attempt answer next rest ih => exact congrArg (answer :: ·) ih

theorem waitsIn_lookups (attempt : Nat) (answers : List Resolution) :
    waitsIn (lookups policy host attempt answers) =
      (List.range' attempt (answers.length - 1)).map fun n => (policy.delayAfter n).getD 0 := by
  fun_induction lookups policy host attempt answers with
  | case1 => rfl
  | case2 => rfl
  | case3 attempt answer next rest ih => exact congrArg ((policy.delayAfter attempt).getD 0 :: ·) ih

/-! ## Answers one after another -/

/-- A resolver that gives these answers, counted from one; how many it gave is the state. -/
def answering (answers : Nat → Resolution) : Environment Service Nat
  | given, .resolve _, answer, after => answer = answers (given + 1) ∧ after = given + 1
  | given, _, _, after => after = given

variable {answers : Nat → Resolution} {given last : Nat}

theorem answersIn_of_steps (steps : Steps (answering answers) given events last) :
    ∃ count, last = given + count ∧ answersIn events = (List.range' (given + 1) count).map answers := by
  induction steps with
  | nil => exact ⟨0, rfl, rfl⟩
  | @cons given between last event rest answered _ ih =>
    obtain ⟨count, rfl, told⟩ := ih
    obtain ⟨query, answer⟩ := event
    cases query with
    | resolve host =>
      obtain ⟨rfl, rfl⟩ := answered
      exact ⟨count + 1, by omega, congrArg (answers (given + 1) :: ·) told⟩
    | _ =>
      obtain rfl := answered
      exact ⟨count, rfl, told⟩

/-! ## The first answer with an address -/

/-- Of the answers, the one of this number is the first with an address. -/
structure FirstFound (answers : Nat → Resolution) (number : Nat) (addresses : List Address) : Prop where
  counted : 1 ≤ number
  answered : answers number = .ok addresses
  found : addresses ≠ []
  before : ∀ n, 1 ≤ n → n < number → found? (answers n) = none

theorem found?_ok {addresses : List Address} (some : addresses ≠ []) : found? (.ok addresses) = .some addresses := by
  obtain ⟨address, more, rfl⟩ := List.exists_cons_of_ne_nil some
  rfl

theorem findSome?_eq_none {count : Nat} (none : ∀ n, 1 ≤ n → n ≤ count → found? (answers n) = none) :
    ((List.range' 1 count).map answers).findSome? found? = .none := by
  refine List.findSome?_eq_none_iff.mpr fun answer member => ?_
  obtain ⟨n, within, rfl⟩ := List.mem_map.mp member
  obtain ⟨low, high⟩ := List.mem_range'_1.mp within
  exact none n low (by omega)

theorem FirstFound.findSome?_eq {number : Nat} {addresses : List Address}
    (first : FirstFound answers number addresses) :
    ((List.range' 1 number).map answers).findSome? found? = some addresses := by
  have counted := first.counted
  obtain ⟨before, rfl⟩ : ∃ before, number = before + 1 := ⟨number - 1, by omega⟩
  rw [List.range'_concat, List.map_append, List.findSome?_append,
    findSome?_eq_none fun n low high => first.before n low (by omega), Option.none_or]
  have last : 1 + 1 * before = before + 1 := by omega
  rw [last, List.map_singleton, List.findSome?_singleton, first.answered, found?_ok first.found]

/-- An answer before the last one has no address. -/
theorem Tries.before {most count : Nat} (tries : Tries most ((List.range' 1 count).map answers)) {n : Nat}
    (low : 1 ≤ n) (high : n < count) : found? (answers n) = none := by
  refine tries.stops _ ?_
  obtain ⟨before, rfl⟩ : ∃ before, count = before + 1 := ⟨count - 1, by omega⟩
  rw [List.range'_concat, List.map_append, List.map_singleton, List.dropLast_concat]
  exact List.mem_map_of_mem (List.mem_range'_1.mpr ⟨low, by omega⟩)

/-- As many look-ups are made as it takes to find an address. -/
theorem Tries.count_eq_of_found {most count number : Nat} {addresses : List Address}
    (tries : Tries most ((List.range' 1 count).map answers)) (first : FirstFound answers number addresses)
    (allowed : number ≤ most) : count = number := by
  rcases Nat.lt_trichotomy count number with fewer | same | more
  · -- without an address all look-ups that are allowed are made
    have none := findSome?_eq_none fun n low high => first.before n low (Nat.lt_of_le_of_lt high fewer)
    have all := tries.goes_on none
    rw [List.length_map, List.length_range'] at all
    omega
  · exact same
  · have none := tries.before first.counted more
    rw [first.answered, found?_ok first.found] at none
    cases none

/-! ## Runs -/

theorem within_resolveWithRetry (waits : CanWait policy) : (resolveWithRetry policy host).Within looking :=
  within_resolveFrom (fun _ asks => asks) (.inr fun n low high => waits n low (by omega))

/-- There is a run for whatever answers. -/
theorem exists_run_resolveWithRetry (waits : CanWait policy) (host : String) (answers : Nat → Resolution) :
    ∃ events result last, (resolveWithRetry policy host).Runs (answering answers) 0 events (some result) last := by
  refine (within_resolveWithRetry waits).exists_run not_false (fun given query asks => ?_) 0
  cases query with
  | resolve host => exact ⟨_, _, rfl, rfl⟩
  | sleep | log => exact ⟨(), given, rfl⟩
  | list | create | destroy => cases asks

/-! ## Looking a name up -/

/-- So many look-ups of a name are made, with the policy's wait between each two of them. -/
structure Alternates (policy : RetryPolicy) (host : String) (answers : Nat → Resolution) (count : Nat)
    (happened : List Service.Event) : Prop where
  asked : happened = lookups policy host 1 ((List.range' 1 count).map answers)
  names : namesIn happened = List.replicate count host
  waits : (waitsIn happened).map some = (List.range' 1 (count - 1)).map policy.delayAfter

theorem alternates_lookups (waits : CanWait policy) {count : Nat} (allowed : count ≤ max 1 policy.maxAttempts) :
    Alternates policy host answers count (lookups policy host 1 ((List.range' 1 count).map answers)) where
  asked := rfl
  names := by rw [namesIn_lookups, List.length_map, List.length_range']
  waits := by
    rw [waitsIn_lookups, List.length_map, List.length_range', List.map_map]
    refine List.map_congr_left fun n within => ?_
    obtain ⟨low, high⟩ := List.mem_range'_1.mp within
    obtain ⟨nanos, delay⟩ := Option.isSome_iff_exists.mp (waits n low (by omega))
    rw [Function.comp_apply, delay, Option.getD_some]

/-- Where these are the answers, looking a name up ends in the result after so many look-ups. -/
structure EndsIn (policy : RetryPolicy) (host : String) (answers : Nat → Resolution) (count : Nat)
    (result : Option (List Address)) : Prop where
  runs : ∃ events last, (resolveWithRetry policy host).Runs (answering answers) 0 events (some result) last
  only : ∀ events ended last, (resolveWithRetry policy host).Runs (answering answers) 0 events ended last →
    ended = some result ∧ Alternates policy host answers count (steps events)

/-- Every run makes the look-ups of one number, and its result is the first address that they find. -/
theorem counts_of_runs (waits : CanWait policy) {ended : Option (Option (List Address))}
    (run : (resolveWithRetry policy host).Runs (answering answers) 0 events ended last) :
    ∃ count, Tries (max 1 policy.maxAttempts) ((List.range' 1 count).map answers) ∧
      ended = some (((List.range' 1 count).map answers).findSome? found?) ∧
      Alternates policy host answers count (steps events) := by
  obtain ⟨tried, tries, asked, rfl⟩ := runs_resolveWithRetry (.inl waits) run
  have happened : Steps (answering answers) 0 (steps events) last := by
    refine run.steps.filter fun event silent before after answered => ?_
    obtain ⟨query, answer⟩ := event
    cases query with
    | log record => exact answered
    | _ => cases silent
  -- the look-ups were answered in turn, so the answers to them are the first ones
  obtain ⟨count, _, told⟩ := answersIn_of_steps happened
  rw [asked, answersIn_lookups] at told
  subst told
  have allowed := tries.at_most
  rw [List.length_map, List.length_range'] at allowed
  rw [asked]
  exact ⟨count, tries, rfl, alternates_lookups waits allowed⟩

theorem endsIn_of_count (waits : CanWait policy) {count : Nat} {result : Option (List Address)}
    (only : ∀ made, Tries (max 1 policy.maxAttempts) ((List.range' 1 made).map answers) → made = count)
    (found : ((List.range' 1 count).map answers).findSome? found? = result) :
    EndsIn policy host answers count result := by
  have each : ∀ events ended last, (resolveWithRetry policy host).Runs (answering answers) 0 events ended last →
      ended = some result ∧ Alternates policy host answers count (steps events) := by
    intro events ended last run
    obtain ⟨made, tries, rfl, alternates⟩ := counts_of_runs waits run
    obtain rfl := only made tries
    exact ⟨congrArg some found, alternates⟩
  obtain ⟨events, its, last, run⟩ := exists_run_resolveWithRetry waits host answers
  have same := Option.some.inj (each _ _ _ run).1
  exact ⟨⟨events, last, same ▸ run⟩, each⟩

/-- A name is looked up until an answer has an address, which is the result then; if none of the answers that the
policy allows has one, all look-ups are made and there is no result. Between each two look-ups is the wait that the
policy asks for after the first of them, and there is no other wait. -/
theorem ends_at_first_found (waits : CanWait policy) (host : String) (answers : Nat → Resolution) :
    (∀ number addresses, FirstFound answers number addresses → number ≤ max 1 policy.maxAttempts →
      EndsIn policy host answers number (some addresses)) ∧
    ((∀ n, 1 ≤ n → n ≤ max 1 policy.maxAttempts → found? (answers n) = none) →
      EndsIn policy host answers (max 1 policy.maxAttempts) none) := by
  constructor
  · intro number addresses first allowed
    exact endsIn_of_count waits (fun made tries => tries.count_eq_of_found first allowed) first.findSome?_eq
  · intro none
    refine endsIn_of_count waits (fun made tries => ?_) (findSome?_eq_none none)
    have allowed := tries.at_most
    rw [List.length_map, List.length_range'] at allowed
    have all := tries.goes_on (findSome?_eq_none fun n low high => none n low (by omega))
    rwa [List.length_map, List.length_range'] at all

/-- A resolver that fails, then knows no address, and finds one from the third time on. -/
def hesitating : Nat → Resolution
  | 1 => .error (.unknownHost "a.example")
  | 2 => .ok []
  | _ => .ok [.v4 203 0 113 9]

theorem firstFound_hesitating : FirstFound hesitating 3 [.v4 203 0 113 9] where
  counted := by decide
  answered := rfl
  found := List.cons_ne_nil _ _
  before n low high := by
    obtain rfl | rfl : n = 1 ∨ n = 2 := by omega
    · rfl
    · rfl

/-- The third of three look-ups may find the address; a policy without attempts allows one look-up. -/
theorem ends_at_first_found_third :
    EndsIn .dns "a.example" hesitating 3 (some [.v4 203 0 113 9]) ∧
      (RetryPolicy.dns.delayAfter 1 = some 1000000000 ∧ RetryPolicy.dns.delayAfter 2 = some 1000000000) ∧
      EndsIn (.fixed 0 0) "a.example" hesitating 1 none := by
  refine ⟨(ends_at_first_found canWait_dns "a.example" hesitating).1 3 _ firstFound_hesitating (by decide),
    by decide +kernel, (ends_at_first_found ?_ "a.example" hesitating).2 ?_⟩
  · intro attempt low high
    cases high
  · intro n low high
    obtain rfl : n = 1 := Nat.le_antisymm high low
    rfl

end CloudBalance.Service
