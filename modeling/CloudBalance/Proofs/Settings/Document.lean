import CloudBalance.Settings.Document
import Mathlib.Data.List.Induction

/-!
# What the settings say

What a node of the settings says, told by its arguments and children and not by the way in which it is read.
Main statements: each kind of node is read as what it says, and a document is accepted exactly if all of its
nodes of the three kinds are valid by themselves and one of them is a `compute` node; the last one of each
kind is in force, whatever stands around it.
-/

namespace CloudBalance

/-- The nodes of a name, in their order. -/
def Kdl.named (name : String) (nodes : List Kdl.Node) : List Kdl.Node :=
  nodes.filter (·.name == name)

open Kdl (named)

namespace Settings

/-! ## Results -/

section Results

variable {ε α β : Type} {p : Except ε α} {a : α} {b : β}

theorem pure_eq_ok {b : α} : (pure a : Except ε α) = .ok b ↔ a = b :=
  ⟨Except.ok.inj, congrArg Except.ok⟩

theorem throw_ne_ok {e : ε} : (throw e : Except ε α) ≠ .ok a :=
  fun same => by cases same

theorem bind_eq_ok {f : α → Except ε β} : (p >>= f) = .ok b ↔ ∃ a, p = .ok a ∧ f a = .ok b := by
  cases p with
  | ok a => exact ⟨fun ended => ⟨a, rfl, ended⟩, fun ⟨_, same, ended⟩ => by cases same; exact ended⟩
  | error e => exact ⟨fun ended => (by cases ended), fun ⟨_, same, _⟩ => by cases same⟩

theorem map_eq_ok {f : α → β} : f <$> p = .ok b ↔ ∃ a, p = .ok a ∧ f a = b := by
  rw [← bind_pure_comp, bind_eq_ok]
  simp only [pure_eq_ok]

end Results

/-! ## The last of several nodes -/

variable {α : Type} {means : Kdl.Node → α → Prop} {nodes : List Kdl.Node} {node : Kdl.Node} {name : String}
  {otherwise : Option α} {value : α}

/-- Each of the nodes says something, and what the last one says is in force. Without a node it is what
holds otherwise. -/
structure InForce (means : Kdl.Node → α → Prop) (nodes : List Kdl.Node) (otherwise : Option α) (value : α) :
    Prop where
  each : ∀ node ∈ nodes, ∃ said, means node said
  last : match nodes.getLast? with
    | some node => means node value
    | none => otherwise = some value

theorem inForce_nil : InForce means [] otherwise value ↔ otherwise = some value :=
  ⟨fun inForce => inForce.last, fun same => ⟨by simp, same⟩⟩

theorem inForce_append_singleton :
    InForce means (nodes ++ [node]) otherwise value ↔
      (∀ other ∈ nodes, ∃ said, means other said) ∧ means node value := by
  constructor
  · intro inForce
    have last := inForce.last
    rw [List.getLast?_append, List.getLast?_singleton] at last
    exact ⟨fun other member => inForce.each other (List.mem_append_left _ member), last⟩
  · rintro ⟨each, means⟩
    refine ⟨fun other member => ?_, by simpa using means⟩
    rcases List.mem_append.mp member with earlier | latest
    · exact each other earlier
    · obtain rfl := List.mem_singleton.mp latest
      exact ⟨value, means⟩

/-- There is something in force if each node is valid and there is a node or something that holds otherwise. -/
theorem exists_inForce :
    (∃ value, InForce means nodes otherwise value) ↔
      (∀ node ∈ nodes, ∃ said, means node said) ∧ (nodes = [] → otherwise.isSome) := by
  cases nodes using List.reverseRecOn with
  | nil => simp [inForce_nil, Option.isSome_iff_exists]
  | append_singleton nodes node =>
    simp only [inForce_append_singleton]
    constructor
    · rintro ⟨value, each, means⟩
      exact ⟨by simpa [or_imp, forall_and] using ⟨each, value, means⟩, by simp⟩
    · rintro ⟨each, -⟩
      obtain ⟨value, means⟩ := each node (by simp)
      exact ⟨value, fun other member => each other (by simp [member]), means⟩

/-- One more node either has the name, and then it is in force, or leaves in force what was. -/
theorem inForce_named_append {before : α} :
    InForce means (named name (nodes ++ [node])) (some before) value ↔
      ∃ earlier, InForce means (named name nodes) (some before) earlier ∧
        if node.name = name then means node value else value = earlier := by
  have split : named name (nodes ++ [node]) =
      named name nodes ++ if node.name = name then [node] else [] := by
    by_cases same : node.name = name <;> simp [named, same]
  rw [split]
  by_cases same : node.name = name
  · -- The earlier value is overwritten, but it has to exist: an invalid node is refused even if a valid one follows.
    simp only [if_pos same, inForce_append_singleton, exists_and_right, exists_inForce]
    simp
  · simp [if_neg same]

/-- A slot that is empty until a node fills it. -/
def Fills (means : Kdl.Node → α → Prop) (node : Kdl.Node) (slot : Option α) : Prop :=
  ∃ said, means node said ∧ slot = some said

/-- What is in force is what the slot holds, or what holds otherwise. -/
theorem inForce_of_slot :
    (∃ slot, InForce (Fills means) nodes (some none) slot ∧ slot.or otherwise = some value) ↔
      InForce means nodes otherwise value := by
  cases nodes using List.reverseRecOn with
  | nil => simp [inForce_nil]
  | append_singleton nodes node => simp [inForce_append_singleton, Fills, and_assoc]

/-! ## Integers -/

/-- An integer within the bound is taken as it is written. -/
theorem integerOf_eq_ok {bound n : Nat} {child : Kdl.Node} :
    integerOf bound child = .ok n ↔ child.firstInteger = some (n : Int) ∧ n < bound := by
  rw [integerOf]
  cases child.firstInteger with
  | none => simp
  | some i =>
    by_cases within : 0 ≤ i ∧ i < bound
    · simp only [within, decide_true, Bool.and_self, if_true, Except.ok.injEq, Option.some.injEq]
      omega
    · have refused : ¬ (decide (0 ≤ i) && decide (i < bound)) = true := by simpa using within
      simp only [if_neg refused, reduceCtorEq, Option.some.injEq, false_iff]
      omega

/-- An integer that is kept in a word is the one that is written: none is wrapped around. -/
theorem integerOf_word {word : Type} {bound : Nat} {ofNat : Nat → word} {toNat : word → Nat}
    {child : Kdl.Node} (fits : ∀ w, toNat w < bound) (ofNat_toNat : ∀ w, ofNat (toNat w) = w)
    (toNat_ofNat : ∀ n < bound, toNat (ofNat n) = n) {w : word} :
    (∃ n, integerOf bound child = .ok n ∧ ofNat n = w) ↔ child.firstInteger = some (toNat w : Int) := by
  simp only [integerOf_eq_ok]
  constructor
  · rintro ⟨n, ⟨written, below⟩, rfl⟩
    rw [toNat_ofNat n below, written]
  · intro written
    exact ⟨toNat w, ⟨written, fits w⟩, ofNat_toNat w⟩

theorem integerOf_uint32 {child : Kdl.Node} {w : UInt32} :
    (∃ n, integerOf UInt32.size child = .ok n ∧ n.toUInt32 = w) ↔
      child.firstInteger = some (w.toNat : Int) :=
  integerOf_word UInt32.toNat_lt_size (fun _ => UInt32.ofNat_toNat) fun _ => UInt32.toNat_ofNat_of_lt'

theorem integerOf_uint64 {child : Kdl.Node} {w : UInt64} :
    (∃ n, integerOf UInt64.size child = .ok n ∧ n.toUInt64 = w) ↔
      child.firstInteger = some (w.toNat : Int) :=
  integerOf_word UInt64.toNat_lt_size (fun _ => UInt64.ofNat_toNat) fun _ => UInt64.toNat_ofNat_of_lt'

end Settings

/-! ## Nodes by themselves -/

open Settings

theorem Settings.providerOf_eq_ok {kind provider : String} {node : Kdl.Node} :
    providerOf kind node = .ok provider ↔ node.firstString = some provider := by
  rw [providerOf]
  cases node.firstString <;> simp

theorem Settings.textOf_eq_ok {key text : String} {node : Kdl.Node} :
    textOf key node = .ok text ↔ textOf? key node = some text := by
  rw [textOf]
  cases textOf? key node <;> simp

/-- What a `compute` node says: Sakura Cloud with the texts of its `zone` children, of which there is one. -/
inductive ComputeSettings.Means (node : Kdl.Node) : ComputeSettings → Prop where
  | sakura (provider : node.firstString = some "sakura")
      (filled : (node.childrenNamed "zone").filterMap Kdl.Node.firstString ≠ []) :
      Means node (.sakura ((node.childrenNamed "zone").filterMap Kdl.Node.firstString))

theorem ComputeSettings.ofNode_eq_ok {node : Kdl.Node} {settings : ComputeSettings} :
    ofNode node = .ok settings ↔ Means node settings := by
  simp only [ofNode, bind_eq_ok, providerOf_eq_ok]
  constructor
  · rintro ⟨provider, named, read⟩
    by_cases sakura : provider = "sakura"
    · subst sakura
      by_cases empty : (node.childrenNamed "zone").filterMap Kdl.Node.firstString = []
      · simp [empty, map_eq_ok, throw_ne_ok] at read
      · simp only [if_true, List.isEmpty_iff, empty, if_false, pure_eq_ok] at read
        obtain rfl := read
        exact .sakura named empty
    · simp only [if_neg sakura] at read
      exact absurd read throw_ne_ok
  · rintro ⟨provider, filled⟩
    refine ⟨_, provider, ?_⟩
    simp [filled, pure_eq_ok]

/-- What a `load-balancer` node says. At Sakura Cloud its first `plan` child, if there is one, has the plan. -/
inductive BalancerSettings.Means (node : Kdl.Node) : BalancerSettings → Prop where
  | standard (provider : node.firstString = some "sakura") (unplanned : node.child? "plan" = none) :
      Means node (.sakura standardPlan)
  | planned {child : Kdl.Node} {plan : UInt32} (provider : node.firstString = some "sakura")
      (first : node.child? "plan" = some child) (written : child.firstInteger = some (plan.toNat : Int)) :
      Means node (.sakura plan)
  | cloudflare {accountId zoneId domain : String} (provider : node.firstString = some "cloudflare")
      (account : textOf? "account-id" node = some accountId) (zone : textOf? "zone-id" node = some zoneId)
      (host : textOf? "domain" node = some domain) :
      Means node (.cloudflare accountId zoneId domain
        ((textOf? "api-token-env" node).getD standardTokenVariable) (textOf? "api-base" node))

/-- What a `resolver` node says: all of its `attempts` and `delay-ms` children are integers that fit, the last ones
are in force, and there is one attempt at least. -/
structure ResolverSettings.Means (node : Kdl.Node) (settings : ResolverSettings) : Prop where
  attempts : InForce (fun child (n : UInt32) => child.firstInteger = some (n.toNat : Int))
    (node.childrenNamed "attempts") (some standard.attempts) settings.attempts
  delayMs : InForce (fun child (n : UInt64) => child.firstInteger = some (n.toNat : Int))
    (node.childrenNamed "delay-ms") (some standard.delayMs) settings.delayMs
  positive : settings.attempts ≠ 0

theorem BalancerSettings.ofNode_eq_ok {node : Kdl.Node} {settings : BalancerSettings} :
    ofNode node = .ok settings ↔ Means node settings := by
  simp only [ofNode, bind_eq_ok, providerOf_eq_ok]
  constructor
  · rintro ⟨provider, named, read⟩
    by_cases sakura : provider = "sakura"
    · subst sakura
      cases first : node.child? "plan" with
      | none =>
        simp only [if_true, first, pure_eq_ok] at read
        obtain rfl := read
        exact .standard named first
      | some child =>
        simp only [if_true, first, bind_eq_ok, pure_eq_ok] at read
        obtain ⟨n, integer, rfl⟩ := read
        exact .planned named first (integerOf_uint32.mp ⟨n, integer, rfl⟩)
    · by_cases cloudflare : provider = "cloudflare"
      · subst cloudflare
        simp only [if_neg sakura, if_true, bind_eq_ok, textOf_eq_ok, pure_eq_ok] at read
        obtain ⟨accountId, account, zoneId, zone, domain, host, rfl⟩ := read
        exact .cloudflare named account zone host
      · simp only [if_neg sakura, if_neg cloudflare] at read
        exact absurd read throw_ne_ok
  · intro means
    cases means with
    | standard provider unplanned => exact ⟨_, provider, by simp [unplanned, pure_eq_ok]⟩
    | planned provider first written =>
      obtain ⟨n, integer, rfl⟩ := integerOf_uint32.mpr written
      exact ⟨_, provider, by simp [first, integer]⟩
    | cloudflare provider account zone host =>
      refine ⟨_, provider, ?_⟩
      simp [bind_eq_ok, map_eq_ok, textOf_eq_ok, account, zone, host]

/-- A child of a `resolver` node is read for the value that has its name and leaves the others as they are. -/
theorem ResolverSettings.add_eq_ok {before after : ResolverSettings} {child : Kdl.Node} :
    before.add child = .ok after ↔
      (if child.name = "attempts" then child.firstInteger = some (after.attempts.toNat : Int)
        else after.attempts = before.attempts) ∧
      (if child.name = "delay-ms" then child.firstInteger = some (after.delayMs.toNat : Int)
        else after.delayMs = before.delayMs) := by
  rw [add]
  by_cases attempts : child.name = "attempts"
  · have other : child.name ≠ "delay-ms" := by simp [attempts]
    simp only [if_pos attempts, if_neg other, bind_eq_ok, pure_eq_ok, ← integerOf_uint32]
    constructor
    · rintro ⟨n, integer, rfl⟩
      exact ⟨⟨n, integer, rfl⟩, rfl⟩
    · rintro ⟨⟨n, integer, same⟩, kept⟩
      exact ⟨n, integer, by rw [same, ← kept]⟩
  · by_cases delay : child.name = "delay-ms"
    · simp only [if_neg attempts, if_pos delay, bind_eq_ok, pure_eq_ok, ← integerOf_uint64]
      constructor
      · rintro ⟨n, integer, rfl⟩
        exact ⟨rfl, n, integer, rfl⟩
      · rintro ⟨kept, n, integer, same⟩
        exact ⟨n, integer, by rw [same, ← kept]⟩
    · simp only [if_neg attempts, if_neg delay, pure_eq_ok]
      constructor
      · rintro rfl
        exact ⟨rfl, rfl⟩
      · rintro ⟨first, second⟩
        cases before; cases after
        simp_all

theorem ResolverSettings.foldlM_add {children : List Kdl.Node} {settings : ResolverSettings} :
    children.foldlM add standard = .ok settings ↔
      InForce (fun child (n : UInt32) => child.firstInteger = some (n.toNat : Int))
        (named "attempts" children) (some standard.attempts) settings.attempts ∧
      InForce (fun child (n : UInt64) => child.firstInteger = some (n.toNat : Int))
        (named "delay-ms" children) (some standard.delayMs) settings.delayMs := by
  -- from the left, since the child that is read last decides
  induction children using List.reverseRecOn generalizing settings with
  | nil =>
    simp only [List.foldlM_nil, pure_eq_ok, named, List.filter_nil, inForce_nil, Option.some.injEq]
    cases settings
    simp [standard]
  | append_singleton children child ih =>
    simp only [List.foldlM_append, List.foldlM_cons, List.foldlM_nil, bind_pure, bind_eq_ok, ih, add_eq_ok,
      inForce_named_append]
    constructor
    · rintro ⟨before, ⟨attempts, delayMs⟩, lastAttempts, lastDelay⟩
      exact ⟨⟨_, attempts, lastAttempts⟩, ⟨_, delayMs, lastDelay⟩⟩
    · rintro ⟨⟨n, attempts, lastAttempts⟩, ⟨m, delayMs, lastDelay⟩⟩
      exact ⟨⟨n, m⟩, ⟨attempts, delayMs⟩, lastAttempts, lastDelay⟩

theorem ResolverSettings.ofNode_eq_ok {node : Kdl.Node} {settings : ResolverSettings} :
    ofNode node = .ok settings ↔ Means node settings := by
  simp only [ofNode, bind_eq_ok, foldlM_add]
  constructor
  · rintro ⟨found, ⟨attempts, delayMs⟩, read⟩
    by_cases none : found.attempts = 0
    · simp only [if_pos none] at read
      exact absurd read throw_ne_ok
    · simp only [if_neg none, pure_eq_ok] at read
      obtain rfl := read
      exact ⟨attempts, delayMs, none⟩
  · rintro ⟨attempts, delayMs, positive⟩
    refine ⟨settings, ⟨attempts, delayMs⟩, ?_⟩
    simp [positive, pure_eq_ok]

/-! ## Documents -/

namespace Settings

/-- A node is read for the part of the settings that has its name and leaves the others as they are. -/
theorem Found.add_eq_ok {before after : Found} {node : Kdl.Node} :
    before.add node = .ok after ↔
      (if node.name = "compute" then Fills ComputeSettings.Means node after.compute
        else after.compute = before.compute) ∧
      (if node.name = "load-balancer" then Fills BalancerSettings.Means node after.balancer
        else after.balancer = before.balancer) ∧
      (if node.name = "resolver" then ResolverSettings.Means node after.resolver
        else after.resolver = before.resolver) := by
  obtain ⟨compute, balancer, resolver⟩ := before
  obtain ⟨itsCompute, itsBalancer, itsResolver⟩ := after
  rw [add]
  by_cases isCompute : node.name = "compute"
  · have others : node.name ≠ "load-balancer" ∧ node.name ≠ "resolver" := by simp [isCompute]
    simp only [if_pos isCompute, if_neg others.1, if_neg others.2, bind_eq_ok, pure_eq_ok, Found.mk.injEq,
      ComputeSettings.ofNode_eq_ok, Fills]
    constructor
    · rintro ⟨said, means, rfl, rfl, rfl⟩
      exact ⟨⟨said, means, rfl⟩, rfl, rfl⟩
    · rintro ⟨⟨said, means, rfl⟩, rfl, rfl⟩
      exact ⟨said, means, rfl, rfl, rfl⟩
  · by_cases isBalancer : node.name = "load-balancer"
    · have other : node.name ≠ "resolver" := by simp [isBalancer]
      simp only [if_neg isCompute, if_pos isBalancer, if_neg other, bind_eq_ok, pure_eq_ok, Found.mk.injEq,
        BalancerSettings.ofNode_eq_ok, Fills]
      constructor
      · rintro ⟨said, means, rfl, rfl, rfl⟩
        exact ⟨rfl, ⟨said, means, rfl⟩, rfl⟩
      · rintro ⟨rfl, ⟨said, means, rfl⟩, rfl⟩
        exact ⟨said, means, rfl, rfl, rfl⟩
    · by_cases isResolver : node.name = "resolver"
      · simp only [if_neg isCompute, if_neg isBalancer, if_pos isResolver, bind_eq_ok, pure_eq_ok,
          Found.mk.injEq, ResolverSettings.ofNode_eq_ok]
        constructor
        · rintro ⟨said, means, rfl, rfl, rfl⟩
          exact ⟨rfl, rfl, means⟩
        · rintro ⟨rfl, rfl, means⟩
          exact ⟨_, means, rfl, rfl, rfl⟩
      · simp only [if_neg isCompute, if_neg isBalancer, if_neg isResolver, pure_eq_ok, Found.mk.injEq]
        constructor
        · rintro ⟨rfl, rfl, rfl⟩
          exact ⟨rfl, rfl, rfl⟩
        · rintro ⟨rfl, rfl, rfl⟩
          exact ⟨rfl, rfl, rfl⟩

theorem Found.foldlM_add {document : Kdl.Document} {found : Found} :
    document.foldlM add empty = .ok found ↔
      InForce (Fills ComputeSettings.Means) (named "compute" document) (some none) found.compute ∧
      InForce (Fills BalancerSettings.Means) (named "load-balancer" document) (some none) found.balancer ∧
      InForce ResolverSettings.Means (named "resolver" document) (some .standard) found.resolver := by
  -- from the left, since the node that is read last decides
  induction document using List.reverseRecOn generalizing found with
  | nil =>
    simp only [List.foldlM_nil, pure_eq_ok, named, List.filter_nil, inForce_nil, Option.some.injEq]
    cases found
    simp [empty]
  | append_singleton document node ih =>
    simp only [List.foldlM_append, List.foldlM_cons, List.foldlM_nil, bind_pure, bind_eq_ok, ih, add_eq_ok,
      inForce_named_append]
    constructor
    · rintro ⟨before, ⟨compute, balancer, resolver⟩, lastCompute, lastBalancer, lastResolver⟩
      exact ⟨⟨_, compute, lastCompute⟩, ⟨_, balancer, lastBalancer⟩, ⟨_, resolver, lastResolver⟩⟩
    · rintro ⟨⟨c, compute, lastCompute⟩, ⟨b, balancer, lastBalancer⟩, ⟨r, resolver, lastResolver⟩⟩
      exact ⟨⟨c, b, r⟩, ⟨compute, balancer, resolver⟩, lastCompute, lastBalancer, lastResolver⟩

theorem Found.finish_eq_ok {found : Found} {settings : Settings} :
    found.finish = .ok settings ↔
      found.compute.or none = some settings.compute ∧
      found.balancer.or (some (.sakura BalancerSettings.standardPlan)) = some settings.balancer ∧
      found.resolver = settings.resolver := by
  obtain ⟨compute, balancer, resolver⟩ := found
  obtain ⟨itsCompute, itsBalancer, itsResolver⟩ := settings
  cases compute with
  | none => simp [finish]
  | some compute =>
    obtain ⟨zones⟩ := compute
    cases balancer <;> simp [finish]

/-- What a document says: the last node of each kind is in force. Without a `load-balancer` node Sakura Cloud
makes the balancers on the standard plan, and without a `resolver` node the standard values hold. There is no
settings without a `compute` node. -/
structure Means (document : Kdl.Document) (settings : Settings) : Prop where
  compute : InForce ComputeSettings.Means (named "compute" document) none settings.compute
  balancer : InForce BalancerSettings.Means (named "load-balancer" document)
    (some (.sakura BalancerSettings.standardPlan)) settings.balancer
  resolver : InForce ResolverSettings.Means (named "resolver" document) (some .standard) settings.resolver

theorem ofDocument_eq_ok {document : Kdl.Document} {settings : Settings} :
    ofDocument document = .ok settings ↔ Means document settings := by
  simp only [ofDocument, bind_eq_ok, Found.foldlM_add, Found.finish_eq_ok]
  constructor
  · rintro ⟨found, ⟨compute, balancer, resolver⟩, onlyCompute, onlyBalancer, same⟩
    exact ⟨inForce_of_slot.mp ⟨_, compute, onlyCompute⟩, inForce_of_slot.mp ⟨_, balancer, onlyBalancer⟩,
      same ▸ resolver⟩
  · rintro ⟨compute, balancer, resolver⟩
    obtain ⟨c, filled, isCompute⟩ := inForce_of_slot.mpr compute
    obtain ⟨b, chosen, isBalancer⟩ := inForce_of_slot.mpr balancer
    exact ⟨⟨c, b, settings.resolver⟩, ⟨filled, chosen, resolver⟩, isCompute, isBalancer, rfl⟩

/-- A node that is valid by itself: if it is of one of the three kinds, it says something of that kind. -/
structure IsValid (node : Kdl.Node) : Prop where
  compute : node.name = "compute" → ∃ said, ComputeSettings.Means node said
  balancer : node.name = "load-balancer" → ∃ said, BalancerSettings.Means node said
  resolver : node.name = "resolver" → ∃ said, ResolverSettings.Means node said

theorem exists_means {document : Kdl.Document} :
    (∃ settings, Means document settings) ↔
      (∀ node ∈ document, IsValid node) ∧ ∃ node ∈ document, node.name = "compute" := by
  have parts : (∃ settings, Means document settings) ↔
      (∃ compute, InForce ComputeSettings.Means (named "compute" document) none compute) ∧
      (∃ balancer, InForce BalancerSettings.Means (named "load-balancer" document)
        (some (.sakura BalancerSettings.standardPlan)) balancer) ∧
      ∃ resolver, InForce ResolverSettings.Means (named "resolver" document) (some .standard) resolver := by
    constructor
    · rintro ⟨settings, compute, balancer, resolver⟩
      exact ⟨⟨_, compute⟩, ⟨_, balancer⟩, ⟨_, resolver⟩⟩
    · rintro ⟨⟨c, compute⟩, ⟨b, balancer⟩, ⟨r, resolver⟩⟩
      exact ⟨⟨c, b, r⟩, compute, balancer, resolver⟩
  have member : ∀ {node name}, node ∈ named name document ↔ node ∈ document ∧ node.name = name := by
    simp [named]
  have present : (named "compute" document = [] → (none : Option ComputeSettings).isSome) ↔
      ∃ node ∈ document, node.name = "compute" := by
    simp [named]
  simp only [parts, exists_inForce, present, member]
  constructor
  · rintro ⟨⟨computes, some⟩, ⟨balancers, -⟩, ⟨resolvers, -⟩⟩
    exact ⟨fun node among => ⟨fun its => computes node ⟨among, its⟩, fun its => balancers node ⟨among, its⟩,
      fun its => resolvers node ⟨among, its⟩⟩, some⟩
  · rintro ⟨valid, some⟩
    exact ⟨⟨fun node its => (valid node its.1).compute its.2, some⟩,
      ⟨fun node its => (valid node its.1).balancer its.2, fun _ => rfl⟩,
      ⟨fun node its => (valid node its.1).resolver its.2, fun _ => rfl⟩⟩

/-- The values of the settings are in their ranges, and where the node in force writes an integer, it is the
value: that of the first `plan` child, of the last `attempts` and of the last `delay-ms` child. -/
structure Exact (document : Kdl.Document) (settings : Settings) : Prop where
  zones : ∃ zones, settings.compute = .sakura zones ∧ zones ≠ []
  attempts : 1 ≤ settings.resolver.attempts.toNat ∧ settings.resolver.attempts.toNat < UInt32.size
  delayMs : settings.resolver.delayMs.toNat < UInt64.size
  plan : ∀ plan, settings.balancer = .sakura plan → plan.toNat < UInt32.size
  writtenPlan : ∀ plan node child, settings.balancer = .sakura plan →
    (named "load-balancer" document).getLast? = some node → node.child? "plan" = some child →
    child.firstInteger = some (plan.toNat : Int)
  writtenAttempts : ∀ node child, (named "resolver" document).getLast? = some node →
    (named "attempts" node.children).getLast? = some child →
    child.firstInteger = some (settings.resolver.attempts.toNat : Int)
  writtenDelay : ∀ node child, (named "resolver" document).getLast? = some node →
    (named "delay-ms" node.children).getLast? = some child →
    child.firstInteger = some (settings.resolver.delayMs.toNat : Int)

theorem InForce.of_last (inForce : InForce means nodes otherwise value) (last : nodes.getLast? = some node) :
    means node value := by
  have holds := inForce.last
  rwa [last] at holds

/-- Either a node says what is in force, or it is what holds otherwise. -/
theorem InForce.cases (inForce : InForce means nodes otherwise value) :
    (∃ node, means node value) ∨ otherwise = some value := by
  have holds := inForce.last
  cases last : nodes.getLast? with
  | none => exact .inr (by rwa [last] at holds)
  | some node => exact .inl ⟨node, by rwa [last] at holds⟩

theorem Means.exact {document : Kdl.Document} {settings : Settings} (means : Means document settings) :
    Exact document settings where
  zones := by
    rcases means.compute.cases with ⟨node, its⟩ | impossible
    · cases its' : settings.compute with
      | sakura zones =>
        rw [its'] at its
        cases its with
        | sakura provider filled => exact ⟨_, rfl, filled⟩
    · cases impossible
  attempts := by
    have positive : settings.resolver.attempts ≠ 0 := by
      rcases means.resolver.cases with ⟨node, its⟩ | standard
      · exact its.positive
      · rw [← Option.some.inj standard]
        decide
    have above : settings.resolver.attempts.toNat ≠ 0 := fun none => positive (UInt32.toNat_inj.mp none)
    exact ⟨Nat.one_le_iff_ne_zero.mpr above, settings.resolver.attempts.toNat_lt_size⟩
  delayMs := settings.resolver.delayMs.toNat_lt_size
  plan := fun plan _ => plan.toNat_lt_size
  writtenPlan := by
    intro plan node child chosen last first
    have its := means.balancer.of_last last
    rw [chosen] at its
    cases its with
    | standard provider unplanned =>
      rw [unplanned] at first
      cases first
    | planned provider same written =>
      rw [same] at first
      exact Option.some.inj first ▸ written
  writtenAttempts := fun node child last written => (means.resolver.of_last last).attempts.of_last written
  writtenDelay := fun node child last written => (means.resolver.of_last last).delayMs.of_last written

/-- The kinds of nodes that say something of the settings. -/
def kinds : List String :=
  ["compute", "load-balancer", "resolver"]

theorem ofText_of_parsed {text : String} {document : Kdl.Document} (parsed : Kdl.parse? text = some document) :
    ofText text = ofDocument document := by
  rw [ofText, parsed]

/-- A document is accepted exactly if each of its nodes is valid by itself and there is a `compute` node, and then
the last node of each kind is in force. So nothing matters but the nodes of each kind and their order among
themselves. The integers in force are those that are written. -/
theorem accepts_last_of_each (document twin : Kdl.Document) :
    (∀ text, Kdl.parse? text = some document → ofText text = ofDocument document) ∧
    (∀ settings, ofDocument document = .ok settings ↔ Means document settings) ∧
    ((∃ settings, ofDocument document = .ok settings) ↔
      (∀ node ∈ document, IsValid node) ∧ ∃ node ∈ document, node.name = "compute") ∧
    ((∀ kind ∈ kinds, named kind document = named kind twin) →
      ∀ settings, ofDocument document = .ok settings ↔ ofDocument twin = .ok settings) ∧
    ∀ settings, ofDocument document = .ok settings → Exact document settings := by
  simp only [ofDocument_eq_ok]
  refine ⟨fun _ => ofText_of_parsed, fun _ => trivial, exists_means, ?_, fun settings means => means.exact⟩
  intro alike settings
  have compute := alike "compute" (by decide)
  have balancer := alike "load-balancer" (by decide)
  have resolver := alike "resolver" (by decide)
  -- what a document means is told by its nodes of the three kinds alone
  constructor
  · rintro ⟨c, b, r⟩
    exact ⟨compute ▸ c, balancer ▸ b, resolver ▸ r⟩
  · rintro ⟨c, b, r⟩
    exact ⟨compute ▸ c, balancer ▸ b, resolver ▸ r⟩

section Interleaved

def firstCompute : Kdl.Node :=
  .mk "compute" [⟨none, .string "sakura"⟩] [.mk "zone" [⟨none, .string "a"⟩] []]

def lastCompute : Kdl.Node :=
  .mk "compute" [⟨none, .string "sakura"⟩]
    [.mk "zone" [⟨none, .string "tk1a"⟩] [], .mk "zone" [⟨none, .string "is1b"⟩] []]

def twoPlans : Kdl.Node :=
  .mk "load-balancer" [⟨none, .string "sakura"⟩]
    [.mk "plan" [⟨none, .integer 500⟩] [], .mk "plan" [⟨none, .integer 7⟩] []]

def twoAttempts : Kdl.Node :=
  .mk "resolver" [] [.mk "attempts" [⟨none, .integer 2⟩] [], .mk "attempts" [⟨none, .integer 5⟩] []]

def orderly : Kdl.Document :=
  [firstCompute, twoPlans, lastCompute, twoAttempts]

/-- The nodes of `orderly` in another order, and one that says nothing of the settings. -/
def interleaved : Kdl.Document :=
  [twoAttempts, firstCompute, .mk "note" [⟨none, .integer (-1)⟩] [], lastCompute, twoPlans]

def mixed : String :=
  "resolver \x7b attempts 2; attempts 5; \x7d
compute sakura \x7b zone a; \x7d
note -1
compute sakura \x7b zone tk1a; zone is1b; \x7d
load-balancer sakura \x7b plan 0x1f4; plan 7; \x7d"

theorem accepts_last_of_each_mixed :
    ofText mixed = .ok ⟨.sakura ["tk1a", "is1b"], .sakura 500, ⟨5, 1000⟩⟩ := by
  have parsed : Kdl.parse? mixed = some interleaved := by decide +kernel
  have alike : ∀ kind ∈ kinds, named kind interleaved = named kind orderly := by decide +kernel
  have accepted : ofDocument orderly = .ok ⟨.sakura ["tk1a", "is1b"], .sakura 500, ⟨5, 1000⟩⟩ := by
    decide +kernel
  obtain ⟨readAs, -, -, sameAs, -⟩ := accepts_last_of_each interleaved orderly
  rw [readAs mixed parsed]
  exact (sameAs alike _).mpr accepted

end Interleaved

end Settings

end CloudBalance
