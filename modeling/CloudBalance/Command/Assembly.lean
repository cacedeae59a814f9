import CloudBalance.Cloudflare.Placement
import CloudBalance.Command.Session
import CloudBalance.Sakura.Directory
import CloudBalance.Sakura.Placement
import CloudBalance.Settings.Basic

/-!
# Putting the providers together

The settings choose the providers. `World.ofSession` answers the questions of a command by them, so
that only questions to the world are left.
-/

namespace CloudBalance

/-- Who makes the balancers. -/
inductive BalancerProvider where
  | sakura (plan : UInt32)
  | cloudflare (account : Cloudflare.Account)
  deriving DecidableEq, Repr

/-- The providers of a run. -/
structure Assembly where
  zones : List String
  balancer : BalancerProvider
  policy : Time.RetryPolicy

namespace Assembly

/-- How the settings say that names are looked up. -/
def policyOf (settings : ResolverSettings) : Time.RetryPolicy :=
  .fixed settings.attempts.toNat (settings.delayMs.toNat * 1000000)

/-- The provider of the balancers. The token of Cloudflare is taken from the environment. -/
def balancerOf : BalancerSettings → Attempt Local CommandError BalancerProvider
  | .sakura plan => return .sakura plan
  | .cloudflare accountId zoneId domain tokenVariable apiBase => do
    let some token ← Local.environment tokenVariable | throw (.noToken tokenVariable)
    let account := Cloudflare.Account.of token accountId zoneId domain
    return .cloudflare (apiBase.elim account account.withApiBase)

/-- The providers that the settings choose. -/
def ofSettings (settings : Settings) : Attempt Local CommandError Assembly := do
  let .sakura zones := settings.compute
  let balancer ← balancerOf settings.balancer
  Local.note .debug .providers
    ("compute=sakura-cloud load-balancer=" ++ settings.balancer.providerName)
  return ⟨zones, balancer, policyOf settings.resolver⟩

/-- What the commands need to know of them. -/
def providers (assembly : Assembly) : Providers where
  computeName := Sakura.displayName
  balancerName :=
    match assembly.balancer with
    | .sakura _ => none
    | .cloudflare _ => some Cloudflare.displayName
  recordName :=
    match assembly.balancer with
    | .sakura _ => "sakura-cloud"
    | .cloudflare _ => "cloudflare"
  policy := assembly.policy

/-! ## Answers -/

/-- The nodes. -/
def list (assembly : Assembly) : Attempt World CloudError (List Node) :=
  ExceptT.adapt SakuraError.toCloudError (Sakura.listNodes assembly.zones)

/-- Answers the questions of the service. -/
def answerService (assembly : Assembly) :
    (query : Service.Query) → Program World (Service.Answer query)
  | .list => assembly.list.run
  | .create location spec ids =>
    match assembly.balancer with
    | .sakura plan =>
      (ExceptT.adapt SakuraError.toCloudError (Sakura.create plan location spec ids)).run
    | .cloudflare account => (Cloudflare.create account assembly.list location spec ids).run
  | .destroy address =>
    match assembly.balancer with
    | .sakura _ => (Sakura.destroy address).run
    | .cloudflare account => (Cloudflare.destroy account address).run
  | .resolve host => World.resolve host
  | .sleep nanos => World.sleep nanos
  | .log record => .perform (S := World) (.here (.log record))

/-- Whether the provider of a role takes its credentials. -/
def authStatus (assembly : Assembly) : ProviderRole → Program World AuthStatus
  | .compute => Sakura.authStatus assembly.zones
  | .balancer =>
    match assembly.balancer with
    | .sakura _ => Sakura.authStatus assembly.zones
    | .cloudflare account => Cloudflare.authStatus account

/-- Answers the questions of a command. Lines are printed with or without styles. -/
def answer (assembly : Assembly) (colour : Bool) :
    (query : Session.Query) → Program World (Session.Answer query)
  | .service query => assembly.answerService query
  | .here query => .perform (S := World) (.here query)
  | .authStatus role => assembly.authStatus role
  | .print line => World.print (line.render colour)

end Assembly

/-- A command as questions to the world. -/
def World.ofSession {α : Type} (assembly : Assembly) (colour : Bool) (act : Session.Act α) :
    Attempt World CommandError α :=
  .mk (act.run.expand (assembly.answer colour))

end CloudBalance
