import CloudBalance.Json.Decode

/-!
# Authentication

Whether a provider takes the credentials that there are.
-/

namespace CloudBalance

structure AuthStatus where
  authenticated : Bool
  /-- Who is authenticated, if that is known. -/
  account : Option String
  /-- Why not, if not. -/
  error : Option String
  deriving DecidableEq, Repr

namespace AuthStatus

def ok (account : String) : AuthStatus :=
  ⟨true, some account, none⟩

def failed (error : String) : AuthStatus :=
  ⟨false, none, some error⟩

def toJson (status : AuthStatus) : Json :=
  .object [("authenticated", .bool status.authenticated),
    ("account_info", .ofOption .string status.account), ("error", .ofOption .string status.error)]

def ofJson? (value : Json) : Option AuthStatus := do
  match ← value.slots? ["authenticated", "account_info", "error"] with
  | [authenticated, account, error] =>
    return ⟨← authenticated.required Json.toBool?, ← account.optional Json.toString?,
      ← error.optional Json.toString?⟩
  | _ => none

end AuthStatus

end CloudBalance
