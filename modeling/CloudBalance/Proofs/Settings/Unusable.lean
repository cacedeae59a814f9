import CloudBalance.Proofs.Settings.Document
import Mathlib.Data.List.Basic

/-!
# Settings without a text

A `zone` of the nodes, and the variable and the address of Cloudflare, have to be texts. One that is none is no fault.
Main statement: a document says the same without all of these children, so one that is accepted is heeded in all that
it writes exactly if each of those in the nodes in force has a text.
-/

namespace CloudBalance

open Kdl (named)

/-- The names of the children whose text may be missing at Cloudflare. -/
def BalancerSettings.optionalTexts : List String :=
  ["api-token-env", "api-base"]

open BalancerSettings (optionalTexts)

namespace Settings

/-! ## Leaving out what has no text -/

/-- A child is passed over: it is where a text may stand and has none. At Cloudflare the first child of a name counts
for all of them. -/
def passesOver (node child : Kdl.Node) : Bool :=
  if node.name = "compute" then child.name == "zone" && child.firstString.isNone
  else if node.name = "load-balancer" then child.name ∈ optionalTexts && (textOf? child.name node).isNone
  else false

/-- The node without the children that are passed over. -/
def heeded (node : Kdl.Node) : Kdl.Node :=
  .mk node.name node.entries (node.children.filter (!passesOver node ·))

variable {node child : Kdl.Node} {key : String} {document : Kdl.Document} {settings : Settings}

theorem firstString_heeded : (heeded node).firstString = node.firstString :=
  rfl

theorem childrenNamed_heeded (kept : ∀ child : Kdl.Node, child.name = key → passesOver node child = false) :
    (heeded node).childrenNamed key = node.childrenNamed key := by
  rw [Kdl.Node.childrenNamed, Kdl.Node.childrenNamed, heeded, Kdl.Node.children, List.filter_filter]
  refine List.filter_congr fun child _ => ?_
  by_cases same : child.name = key
  · simp [same, kept child same]
  · simp [same]

theorem child?_eq_head? (node : Kdl.Node) (key : String) : node.child? key = (node.childrenNamed key).head? :=
  List.head?_filter.symm

theorem child?_heeded (kept : ∀ child : Kdl.Node, child.name = key → passesOver node child = false) :
    (heeded node).child? key = node.child? key := by
  rw [child?_eq_head?, child?_eq_head?, childrenNamed_heeded kept]

theorem zones_heeded (named : node.name = "compute") :
    ((heeded node).childrenNamed "zone").filterMap Kdl.Node.firstString =
      (node.childrenNamed "zone").filterMap Kdl.Node.firstString := by
  rw [Kdl.Node.childrenNamed, Kdl.Node.childrenNamed, heeded, Kdl.Node.children, List.filter_filter,
    List.filterMap_filter, List.filterMap_filter]
  refine List.filterMap_congr fun child _ => ?_
  by_cases zone : child.name = "zone"
  · cases said : child.firstString <;> simp [passesOver, named, zone, said]
  · simp [zone]

theorem textOf?_heeded (named : node.name = "load-balancer") (key : String) :
    textOf? key (heeded node) = textOf? key node := by
  have passes : ∀ child : Kdl.Node, child.name = key →
      passesOver node child = (key ∈ optionalTexts && (textOf? key node).isNone : Bool) := by
    rintro child rfl
    simp [passesOver, named]
  cases gone : (key ∈ optionalTexts && (textOf? key node).isNone : Bool) with
  | false => rw [textOf?, textOf?, child?_heeded fun child same => (passes child same).trans gone]
  | true =>
    -- no child of the name is left
    have none : (heeded node).child? key = none := by
      rw [Kdl.Node.child?, heeded, Kdl.Node.children, List.find?_eq_none]
      intro child member same
      have left := (List.mem_filter.mp member).2
      rw [passes child (beq_iff_eq.mp same), gone] at left
      cases left
    rw [Bool.and_eq_true, Option.isNone_iff_eq_none] at gone
    rw [gone.2, textOf?, none]
    rfl

theorem Found.add_heeded (found : Found) (node : Kdl.Node) : found.add (heeded node) = found.add node := by
  have same : (heeded node).name = node.name := rfl
  rw [Found.add, Found.add, same]
  by_cases compute : node.name = "compute"
  · have read : ComputeSettings.ofNode (heeded node) = ComputeSettings.ofNode node := by
      rw [ComputeSettings.ofNode, ComputeSettings.ofNode, providerOf, providerOf, firstString_heeded,
        zones_heeded compute]
    rw [if_pos compute, if_pos compute, read]
  · by_cases balancer : node.name = "load-balancer"
    · have plan : (heeded node).child? "plan" = node.child? "plan" := by
        refine child?_heeded fun child named => ?_
        simp [passesOver, balancer, named, optionalTexts]
      have read : BalancerSettings.ofNode (heeded node) = BalancerSettings.ofNode node := by
        simp only [BalancerSettings.ofNode, providerOf, firstString_heeded, plan, textOf, textOf?_heeded balancer]
      rw [if_neg compute, if_neg compute, if_pos balancer, if_pos balancer, read]
    · have whole : heeded node = node := by
        cases node
        simp_all [heeded, passesOver, Kdl.Node.name, Kdl.Node.entries, Kdl.Node.children]
      rw [whole]

theorem ofDocument_heeded (document : Kdl.Document) : ofDocument (document.map heeded) = ofDocument document := by
  simp only [ofDocument, List.foldlM_map, Found.add_heeded]

/-! ## What an accepted document writes -/

/-- In the nodes in force each child where a text may stand has one. -/
structure Usable (document : Kdl.Document) : Prop where
  zones : ∀ node ∈ (named "compute" document).getLast?, ∀ child ∈ node.childrenNamed "zone", child.firstString.isSome
  texts : ∀ node ∈ (named "load-balancer" document).getLast?, node.firstString = some "cloudflare" →
    ∀ key ∈ optionalTexts, ∀ child ∈ node.child? key, child.firstString.isSome

/-- The settings have all that the nodes in force write: each `zone` child is one of the zones, and at Cloudflare a
child for the variable or the address says what they are. -/
structure Heeds (settings : Settings) (document : Kdl.Document) : Prop where
  zones : ∀ node ∈ (named "compute" document).getLast?, ∃ zones, settings.compute = .sakura zones ∧
    zones.length = (node.childrenNamed "zone").length
  texts : ∀ node ∈ (named "load-balancer" document).getLast?,
    ∀ accountId zoneId domain tokenVariable apiBase,
      settings.balancer = .cloudflare accountId zoneId domain tokenVariable apiBase →
        (∀ child ∈ node.child? "api-token-env", child.firstString = some tokenVariable) ∧
        ∀ child ∈ node.child? "api-base", ∃ base, apiBase = some base ∧ child.firstString = some base

theorem textOf?_eq_firstString (first : child ∈ node.child? key) : textOf? key node = child.firstString := by
  rw [textOf?, Option.mem_def.mp first, Option.bind_some]

theorem Means.zones_iff (means : Means document settings) (last : node ∈ (named "compute" document).getLast?) :
    (∃ zones, settings.compute = .sakura zones ∧ zones.length = (node.childrenNamed "zone").length) ↔
      ∀ child ∈ node.childrenNamed "zone", child.firstString.isSome := by
  have said := means.compute.of_last last
  generalize settings.compute = compute at said
  cases said
  rw [← List.filterMap_length_eq_length]
  constructor
  · rintro ⟨zones, same, all⟩
    cases same
    exact all
  · intro all
    exact ⟨_, rfl, all⟩

theorem Means.texts_iff (means : Means document settings) (last : node ∈ (named "load-balancer" document).getLast?) :
    (∀ accountId zoneId domain tokenVariable apiBase,
      settings.balancer = .cloudflare accountId zoneId domain tokenVariable apiBase →
        (∀ child ∈ node.child? "api-token-env", child.firstString = some tokenVariable) ∧
        ∀ child ∈ node.child? "api-base", ∃ base, apiBase = some base ∧ child.firstString = some base) ↔
      (node.firstString = some "cloudflare" →
        ∀ key ∈ optionalTexts, ∀ child ∈ node.child? key, child.firstString.isSome) := by
  have said := means.balancer.of_last last
  generalize settings.balancer = balancer at said
  cases said with
  | standard sakura => simp [sakura]
  | planned sakura => simp [sakura]
  | cloudflare provider =>
    simp only [optionalTexts, List.forall_mem_cons, List.not_mem_nil, false_implies, implies_true, and_true, provider,
      forall_const]
    constructor
    · intro heeds
      obtain ⟨token, address⟩ := heeds _ _ _ _ _ rfl
      refine ⟨fun child first => ?_, fun child first => ?_⟩
      · exact Option.isSome_of_mem (token child first)
      · obtain ⟨base, _, text⟩ := address child first
        exact Option.isSome_of_mem text
    · rintro ⟨token, address⟩ _ _ _ _ _ ⟨⟩
      refine ⟨fun child first => ?_, fun child first => ?_⟩
      · obtain ⟨text, written⟩ := Option.isSome_iff_exists.mp (token child first)
        rw [textOf?_eq_firstString first, written]
        rfl
      · obtain ⟨text, written⟩ := Option.isSome_iff_exists.mp (address child first)
        exact ⟨text, (textOf?_eq_firstString first).trans written, written⟩

theorem Means.heeds_iff (means : Means document settings) : Heeds settings document ↔ Usable document := by
  constructor
  · intro heeds
    exact ⟨fun node last => (means.zones_iff last).mp (heeds.zones node last),
      fun node last => (means.texts_iff last).mp (heeds.texts node last)⟩
  · intro usable
    exact ⟨fun node last => (means.zones_iff last).mpr (usable.zones node last),
      fun node last => (means.texts_iff last).mpr (usable.texts node last)⟩

/-- A text is read as it would be without the children that are passed over, in each of its nodes. So where it is
accepted the settings have all that the nodes in force write exactly if each child where a text may stand has one. -/
theorem heeds_iff_usable {text : String} (accepted : ofText text = .ok settings) :
    ∃ document, Kdl.parse? text = some document ∧ ofDocument (document.map heeded) = .ok settings ∧
      (Heeds settings document ↔ Usable document) := by
  cases parsed : Kdl.parse? text with
  | none =>
    rw [ofText, parsed] at accepted
    cases accepted
  | some document =>
    rw [ofText_of_parsed parsed] at accepted
    exact ⟨document, rfl, (ofDocument_heeded document).trans accepted, (ofDocument_eq_ok.mp accepted).heeds_iff⟩

section Careless

/-- The second zone is a number. -/
def carelessCompute : Kdl.Node :=
  .mk "compute" [⟨none, .string "sakura"⟩]
    [.mk "zone" [⟨none, .string "tk1a"⟩] [], .mk "zone" [⟨none, .integer 31001⟩] []]

/-- The variable is a number, and the address is missing. -/
def carelessBalancer : Kdl.Node :=
  .mk "load-balancer" [⟨none, .string "cloudflare"⟩]
    [.mk "account-id" [⟨none, .string "acc"⟩] [], .mk "zone-id" [⟨none, .string "zone"⟩] [],
      .mk "domain" [⟨none, .string "example.com"⟩] [], .mk "api-token-env" [⟨none, .integer 5⟩] [],
      .mk "api-base" [] []]

def careless : String :=
  "compute sakura \x7b zone tk1a; zone 31001; \x7d
load-balancer cloudflare \x7b account-id acc; zone-id zone; domain example.com; api-token-env 5; api-base; \x7d"

/-- One zone is listed, and for the variable and the address there is what holds without any. -/
def carelessly : Settings :=
  ⟨.sakura ["tk1a"], .cloudflare "acc" "zone" "example.com" BalancerSettings.standardTokenVariable none, .standard⟩

theorem not_heeds_careless :
    Kdl.parse? careless = some [carelessCompute, carelessBalancer] ∧ ofText careless = .ok carelessly ∧
      ofDocument ([carelessCompute, carelessBalancer].map heeded) = .ok carelessly ∧
      ¬ Heeds carelessly [carelessCompute, carelessBalancer] := by
  have parsed : Kdl.parse? careless = some [carelessCompute, carelessBalancer] := by decide +kernel
  have accepted : ofText careless = .ok carelessly := by
    rw [ofText_of_parsed parsed]
    decide +kernel
  obtain ⟨document, same, without, heeds⟩ := heeds_iff_usable accepted
  obtain rfl := Option.some.inj (parsed.symm.trans same)
  refine ⟨parsed, accepted, without, fun heeded => ?_⟩
  have all := (heeds.mp heeded).zones carelessCompute rfl (.mk "zone" [⟨none, .integer 31001⟩] [])
  exact absurd (all (by decide)) (by decide)

end Careless

end Settings

end CloudBalance
