import CloudBalance.Net.Address

/-!
# Looking up names

A resolver turns the name of a host into addresses. The one of the machine takes a written address
for itself and asks the operating system for all other names.
-/

namespace CloudBalance.Net

/-- Why a name has no address. -/
inductive ResolveError where
  | unknownHost (host : String)
  | lookup (host : String) (cause : String)
  deriving DecidableEq, Repr

def ResolveError.message : ResolveError → String
  | .unknownHost host => "Unknown host: " ++ host
  | .lookup host cause => "Lookup of " ++ host ++ " failed: " ++ cause

/-- The answer of a resolver. -/
abbrev Resolution := Except ResolveError (List Address)

/-- The answer that a look-up by the operating system gives: each address once, in the order found. -/
def Resolution.ofLookup (host : String) : Except String (List Address) → Resolution
  | .error cause => .error (.lookup host cause)
  | .ok addresses =>
    if addresses.isEmpty then .error (.unknownHost host) else .ok addresses.eraseDups

/-- The machine's resolver over the look-up of the operating system. -/
def Resolution.bySystem (lookUp : String → Except String (List Address)) (host : String) :
    Resolution :=
  match Address.parse? host with
  | some address => .ok [address]
  | none => ofLookup host (lookUp host)

end CloudBalance.Net
