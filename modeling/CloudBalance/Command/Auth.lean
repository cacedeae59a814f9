import CloudBalance.Command.Session

/-!
# Showing who is authenticated

One line for each provider that has credentials of its own.
-/

namespace CloudBalance.Session

open Terminal (Span Line)

/-- The line for a provider. -/
def authLine (name : String) (status : AuthStatus) : Line :=
  if status.authenticated then
    [.plain "  ", .styled .green "✓", .plain " ", .styled .bold name, .plain " (",
      .styled .dimmed (status.account.getD "-"), .plain ")"]
  else
    [.plain "  ", .styled .red "✗", .plain " ", .styled .bold name, .plain ": ",
      .styled .red (status.error.getD "unknown error")]

/-- Shows whether a provider takes its credentials, and says so. -/
def showAuth (role : ProviderRole) (name : String) : Program Session Bool := do
  let status ← authStatus role
  print (authLine name status)
  return status.authenticated

/-- Shows this for all providers; all must take their credentials. -/
def auth (providers : Providers) : Act Unit := do
  print (.styled .blue "認証状態を確認中...")
  print .empty
  let computeOk ← showAuth .compute providers.computeName
  let balancerOk ←
    match providers.balancerName with
    | some name => showAuth .balancer name
    | none => pure true
  print .empty
  if !(computeOk && balancerOk) then throw .notAuthenticated
  print (.styled .boldGreen "✓ すべてのプロバイダーで認証済みです")

end CloudBalance.Session
