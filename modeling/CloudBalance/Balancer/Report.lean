import CloudBalance.Location
import CloudBalance.Net.Json

/-!
# What became of a balancer

What came out at each location where a balancer was made: its name and the addresses that the name
leads to, or that it never led to any.
-/

namespace CloudBalance

open Net (Address)

inductive Outcome where
  | resolved (dnsName : String) (addresses : List Address)
  | unresolved (dnsName : String)
  deriving DecidableEq, Repr

namespace Outcome

def dnsName : Outcome → String
  | .resolved dnsName _ => dnsName
  | .unresolved dnsName => dnsName

/-- The addresses of the balancer, none if its name leads nowhere. -/
def addresses : Outcome → List Address
  | .resolved _ addresses => addresses
  | .unresolved _ => []

def toJson : Outcome → Json
  | .resolved dnsName addresses =>
    .object [("status", .string "resolved"), ("dns_name", .string dnsName),
      ("addresses", .ofList Address.toJson addresses)]
  | .unresolved dnsName =>
    .object [("status", .string "unresolved"), ("dns_name", .string dnsName)]

def ofJson? (value : Json) : Option Outcome := do
  match ← value.tagged? "status" (Json.maxDepth - 1) with
  | ("resolved", fields) =>
    match ← fields.slots? ["dns_name", "addresses"] with
    | [dnsName, addresses] =>
      return .resolved (← dnsName.required Json.toString?)
        (← addresses.required (Json.toList? Address.ofJson?))
    | _ => none
  | ("unresolved", fields) =>
    match ← fields.slots? ["dns_name"] with
    | [dnsName] => return .unresolved (← dnsName.required Json.toString?)
    | _ => none
  | _ => none

end Outcome

/-- The outcome at each location, in the order in which they came about. -/
structure Report where
  locations : List (Location × Outcome)
  deriving DecidableEq, Repr

namespace Report

def empty : Report := ⟨[]⟩

instance : Inhabited Report := ⟨empty⟩

/-- The report with one more outcome, which replaces an earlier one at the same location. -/
def insert (report : Report) (location : Location) (outcome : Outcome) : Report :=
  if report.locations.any (·.1 == location) then
    ⟨report.locations.map fun entry => if entry.1 == location then (location, outcome) else entry⟩
  else ⟨report.locations ++ [(location, outcome)]⟩

/-- All addresses, each once and in ascending order. -/
def addresses (report : Report) : List Address :=
  Address.sortedSet (report.locations.flatMap (·.2.addresses))

/-- The locations whose balancer has no address, with its name. -/
def unresolved (report : Report) : List (Location × String) :=
  report.locations.filterMap fun (location, outcome) =>
    match outcome with
    | .unresolved dnsName => some (location, dnsName)
    | .resolved .. => none

/-- Reads a report. Locations cannot be written as the names of members, so only the empty report
can be read. -/
def ofJson? (value : Json) : Option Report := do
  match ← value.slots? ["locations"] with
  | [locations] =>
    locations.required fun
      | .object [] => some empty
      | _ => none
  | _ => none

end Report

end CloudBalance
