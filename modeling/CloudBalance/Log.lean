import CloudBalance.Text.Blank
import CloudBalance.Text.Lowercase
import CloudBalance.Text.Split
import CloudBalance.Text.Start

/-!
# Log records

A record has a level, the topic that it is about and a message. Which records are written is decided
by a filter: a list of directives, each for the topics whose name starts with a text. Of the
directives that fit a topic, the one with the longest text holds.
-/

namespace CloudBalance.Log

inductive Level where
  | error
  | warn
  | info
  | debug
  | trace
  deriving DecidableEq, Repr

namespace Level

def name : Level → String
  | .error => "ERROR"
  | .warn => "WARN"
  | .info => "INFO"
  | .debug => "DEBUG"
  | .trace => "TRACE"

/-- How much is written at this level: one for errors only, five for everything. -/
def rank : Level → Nat
  | .error => 1
  | .warn => 2
  | .info => 3
  | .debug => 4
  | .trace => 5

end Level

/-- The parts of the program that write records. -/
inductive Topic where
  | program
  | providers
  | settingsSearch
  | settings
  | names
  | balancer
  | ledger
  | sakuraTool
  | sakuraNodes
  | sakuraBalancer
  | cloudflareBalancer
  deriving DecidableEq, Repr

/-- The name by which a filter selects the topic. -/
def Topic.name : Topic → String
  | .program => "nimbus"
  | .providers => "nimbus::providers"
  | .settingsSearch => "nimbus_config"
  | .settings => "nimbus_config::parser"
  | .names => "nimbus_cloud::resolver"
  | .balancer => "nimbus_cloud::load_balancer"
  | .ledger => "nimbus_cloud::state"
  | .sakuraTool => "nimbus_cloud_sakura::usacloud"
  | .sakuraNodes => "nimbus_cloud_sakura::provider"
  | .sakuraBalancer => "nimbus_cloud_sakura::proxylb"
  | .cloudflareBalancer => "nimbus_cloud_cloudflare::strategy"

structure Record where
  level : Level
  topic : Topic
  message : String
  deriving DecidableEq, Repr

/-- The record on one line. -/
def Record.text (record : Record) : String :=
  record.level.name ++ " " ++ record.message

/-! ## Filters -/

/-- Lets the records up to a rank through, for the topics whose name starts with `start`. -/
structure Directive where
  start : String
  rank : Nat
  deriving DecidableEq, Repr

/-- The directives in force, later ones before earlier ones. -/
abbrev Filter := List Directive

namespace Filter

/-- One rank for all topics. -/
def everywhere (rank : Nat) : Filter :=
  [⟨"", rank⟩]

/-- The directive that holds for a topic. -/
def directive? (filter : Filter) (topic : Topic) : Option Directive :=
  (filter.filter fun d => Text.hasStart d.start topic.name).foldl
    (fun best d =>
      match best with
      | some found => if found.start.length < d.start.length then some d else best
      | none => some d)
    none

/-- Whether the record is written. -/
def admits (filter : Filter) (record : Record) : Bool :=
  match filter.directive? record.topic with
  | some d => record.level.rank ≤ d.rank
  | none => false

end Filter

/-- The rank of a level that is written as a number or as a word in any case. -/
def rank? (text : String) : Option Nat :=
  match Text.lowercase text with
  | "off" | "0" => some 0
  | "error" | "1" => some 1
  | "warn" | "2" => some 2
  | "info" | "3" => some 3
  | "debug" | "4" => some 4
  | "trace" | "5" => some 5
  | _ => none

/-- The directive that a text stands for: a level, a start of topic names, or both with `=` between
them. Without a level everything is let through. -/
def directive? (text : String) : Option Directive :=
  let cs := (Text.trim text).toList
  let start := String.ofList (cs.takeWhile (· != '='))
  match cs.dropWhile (· != '=') with
  | [] =>
    match rank? start with
    | some rank => some ⟨"", rank⟩
    | none => some ⟨start, Level.trace.rank⟩
  | _ :: level =>
    if level.isEmpty then some ⟨start, Level.trace.rank⟩
    else (rank? (String.ofList level)).map (⟨start, ·⟩)

/-- Whether a directive may start with the character. -/
def startsDirective (c : Char) : Bool :=
  c.isAlphanum || c = '-' || c = ':' || c = '_' || 0x7f < c.toNat

/-- The filter that a text stands for: directives between commas. Without a directive only errors
are written. -/
def filter? (text : String) : Option Filter := do
  let parts := (Text.split ',' text).filter (!·.isEmpty)
  let directives ← parts.mapM fun part =>
    if (Text.trim part).toList.head?.all startsDirective then directive? part else none
  return if directives.isEmpty then Filter.everywhere Level.error.rank else directives.reverse

end CloudBalance.Log
