import CloudBalance.AuthStatus
import CloudBalance.Balancer.Service
import CloudBalance.Command.Error
import CloudBalance.Ledger.Lock
import CloudBalance.Terminal.Style

/-!
# Sessions

The questions that a command asks: those of the service behind the balancers, those of the local
machine, whether a provider takes the credentials, and to print a line.
-/

namespace CloudBalance

/-- The parts that a provider may play. -/
inductive ProviderRole where
  | compute
  | balancer
  deriving DecidableEq, Repr

inductive Session.Query where
  | service (query : Service.Query)
  | here (query : Local.Query)
  | authStatus (role : ProviderRole)
  | print (line : Terminal.Line)

abbrev Session : Signature where
  Query := Session.Query
  Answer
    | .service query => Service.Answer query
    | .here query => Local.Answer query
    | .authStatus _ => AuthStatus
    | .print _ => Unit

/-- What the commands need to know of the providers. -/
structure Providers where
  /-- How users see the name of the provider of the nodes. -/
  computeName : String
  /-- The same for the provider of the balancers, if it has credentials of its own. -/
  balancerName : Option String
  /-- The name of the provider of the balancers in the ledger. -/
  recordName : String
  /-- How the names of new balancers are looked up. -/
  policy : Time.RetryPolicy

namespace Session

/-- A command, which ends in a failure or without a result to speak of. -/
abbrev Act := Attempt Session CommandError

/-- What the service does as part of a session. -/
def ofService {α : Type} (p : Attempt Service CloudError α) : Act α :=
  (p.run.expand fun q => .perform (S := Session) (.service q)).attempt .cloud

/-- What is done on the local machine as part of a session. -/
def ofLocal {α : Type} (p : Attempt Local CloudError α) : Act α :=
  (p.run.expand fun q => .perform (S := Session) (.here q)).attempt .cloud

def authStatus (role : ProviderRole) : Program Session AuthStatus :=
  .perform (S := Session) (.authStatus role)

def print (line : Terminal.Line) : Program Session Unit :=
  .perform (S := Session) (.print line)

/-- Works under the lock for an operation, which is given back however the work ends. -/
def withLock {α : Type} (store : Ledger.Store) (operation : String) (work : Act α) : Act α := do
  ofLocal (store.acquireLock operation)
  let worked : Act α := do
    let result ← work
    ofLocal store.releaseLock
    return result
  match ← Attempt.outcome worked with
  | .ok result => return result
  | .error e =>
    ofLocal (ExceptT.lift store.dropLock)
    throw e

end Session

end CloudBalance
