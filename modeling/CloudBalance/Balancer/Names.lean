import CloudBalance.Balancer.Service

/-!
# Waiting for a name

The name of a new balancer often leads nowhere for a few seconds, so it is looked up several times
with a wait in between.
-/

namespace CloudBalance.Service

open Net (Address)
open Time (RetryPolicy)

/-- Addresses as a message shows them. -/
def showAddresses (addresses : List Address) : String :=
  "[" ++ ", ".intercalate (addresses.map Address.text) ++ "]"

/-- Looks a name up for the attempt of number `attempt`. An answer without addresses is none. -/
def resolveOnce (host : String) (attempt : Nat) : Program Service (Option (List Address)) := do
  let mark := " (attempt " ++ toString attempt ++ ")"
  match ← resolve host with
  | .ok [] =>
    note .debug .names (host ++ " resolved to no addresses" ++ mark)
    return none
  | .ok addresses =>
    note .debug .names ("Resolved " ++ host ++ " to " ++ showAddresses addresses ++ mark)
    return some addresses
  | .error e =>
    note .debug .names ("Resolving " ++ host ++ " failed" ++ mark ++ ": " ++ e.message)
    return none

/-- Looks a name up from the attempt of number `attempt` on, and, while that finds no address, up to
`left` more times. A wait that no clock can measure ends the program. -/
def resolveFrom (policy : RetryPolicy) (host : String) (attempt : Nat) :
    Nat → Program Service (Option (List Address))
  | 0 => resolveOnce host attempt
  | left + 1 => do
    match ← resolveOnce host attempt with
    | some addresses => return some addresses
    | none =>
      match policy.delayAfter attempt with
      | none => .halt
      | some nanos =>
        sleep nanos
        resolveFrom policy host (attempt + 1) left

/-- The addresses that a name leads to, if one of the attempts finds any. There is always a first
attempt. -/
def resolveWithRetry (policy : RetryPolicy) (host : String) : Program Service (Option (List Address)) :=
  resolveFrom policy host 1 (policy.maxAttempts - 1)

end CloudBalance.Service
