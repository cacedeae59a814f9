import CloudBalance.Balancer.Report
import CloudBalance.Balancer.Spec
import CloudBalance.Text.Column
import CloudBalance.Time.Json

/-!
# The ledger

What is remembered of the balancers that were made: a record for each, found by a key that is made of
the balancer's name and the id of its location.
-/

namespace CloudBalance

open Net (Address)
open Time (Instant)

/-- One balancer at one location. -/
structure Ledger.Record where
  name : String
  /-- The name of the provider that has the balancer. -/
  provider : String
  location : Location
  spec : BalancerSpec
  dnsName : String
  /-- Empty if the name never led to an address. -/
  addresses : List Address
  createdAt : Instant
  deriving DecidableEq, Repr

structure Ledger where
  /-- The version of the form in which the ledger is stored. -/
  version : UInt32
  updatedAt : Instant
  /-- The records with their keys, each key once. -/
  entries : List (String × Ledger.Record)
  deriving DecidableEq, Repr

namespace Ledger

namespace Record

/-- The record of a balancer that was made now. -/
def ofOutcome (provider : String) (location : Location) (spec : BalancerSpec) (outcome : Outcome)
    (now : Instant) : Record :=
  ⟨spec.name, provider, location, spec, outcome.dnsName, outcome.addresses, now⟩

/-- What a record is found by. -/
def key (record : Record) : String :=
  record.name ++ ":" ++ record.location.id

def toJson (record : Record) : Json :=
  .object [("name", .string record.name), ("provider", .string record.provider),
    ("location", record.location.toJson), ("spec", record.spec.toJson),
    ("dns_name", .string record.dnsName), ("addresses", .ofList Address.toJson record.addresses),
    ("created_at", record.createdAt.toJson)]

def ofJson? (value : Json) : Option Record := do
  match ← value.slots? ["name", "provider", "location", "spec", "dns_name", "addresses",
      "created_at"] with
  | [name, provider, location, spec, dnsName, addresses, createdAt] =>
    return ⟨← name.required Json.toString?, ← provider.required Json.toString?,
      ← location.required Location.ofJson?, ← spec.required BalancerSpec.ofJson?,
      ← dnsName.required Json.toString?, ← addresses.required (Json.toList? Address.ofJson?),
      ← createdAt.required Instant.ofJson?⟩
  | _ => none

end Record

/-- The version of the form in which ledgers are stored now. -/
def currentVersion : UInt32 := 1

/-- A ledger without records. -/
def new (now : Instant) : Ledger :=
  ⟨currentVersion, now, []⟩

def count (ledger : Ledger) : Nat :=
  ledger.entries.length

/-- Entries with one more, which replaces the one that has its key. -/
def putEntry (entries : List (String × Record)) (key : String) (record : Record) :
    List (String × Record) :=
  if entries.any (·.1 == key) then
    entries.map fun entry => if entry.1 == key then (key, record) else entry
  else entries ++ [(key, record)]

/-- Adds a record, or puts it in the place of the one with its key. -/
def insert (ledger : Ledger) (record : Record) (now : Instant) : Ledger :=
  { ledger with entries := putEntry ledger.entries record.key record, updatedAt := now }

/-- A record with the address. -/
def findByAddress? (ledger : Ledger) (address : Address) : Option Record :=
  (ledger.entries.find? (·.2.addresses.contains address)).map (·.2)

/-- Removes the record that the key of a record with the address finds, and says which it was. -/
def removeByAddress (ledger : Ledger) (address : Address) (now : Instant) :
    Option Record × Ledger :=
  match ledger.findByAddress? address with
  | none => (none, ledger)
  | some found =>
    match ledger.entries.lookup found.key with
    | none => (none, ledger)
    | some removed =>
      (some removed,
        { ledger with entries := ledger.entries.filter (·.1 != found.key), updatedAt := now })

/-- The records by name, and those of one name by the id of the location. -/
def records (ledger : Ledger) : List Record :=
  Text.sortBy (·.name) (Text.sortBy (·.location.id) (ledger.entries.map (·.2)))

def toJson (ledger : Ledger) : Json :=
  .object [("version", .ofNat ledger.version.toNat), ("updated_at", ledger.updatedAt.toJson),
    ("load_balancers", .object (ledger.entries.map fun (key, record) => (key, record.toJson)))]

/-- Reads the records with their keys. Of several records with one key the last one holds. -/
def entriesOfJson? : Json → Option (List (String × Record))
  | .object members => do
    let entries ← members.mapM fun (key, value) => (Record.ofJson? value).map (key, ·)
    return Json.lastMembers entries
  | _ => none

def ofJson? (value : Json) : Option Ledger := do
  match ← value.slots? ["version", "updated_at", "load_balancers"] with
  | [version, updatedAt, entries] =>
    return ⟨(← version.required (Json.toNatBelow? UInt32.size)).toUInt32,
      ← updatedAt.required Instant.ofJson?, ← entries.required entriesOfJson?⟩
  | _ => none

end Ledger

end CloudBalance
