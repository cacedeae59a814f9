import CloudBalance.Balancer.Error
import CloudBalance.Local
import CloudBalance.Net.Resolve
import CloudBalance.Node.Basic
import CloudBalance.Time.Delay

/-!
# The service behind the balancers

The questions that are put to a provider of nodes, a provider of balancers and a resolver of names:
list the nodes, make a balancer at a location for the nodes of some ids, destroy the balancer that
answers on an address, look up a name, wait. Whoever answers them decides what a balancer is.
-/

namespace CloudBalance

open Net (Address Resolution)

inductive Service.Query where
  | list
  | create (location : Location) (spec : BalancerSpec) (providerIds : List String)
  | destroy (address : Address)
  | resolve (host : String)
  | sleep (nanos : Nat)
  | log (record : Log.Record)

abbrev Service : Signature where
  Query := Service.Query
  Answer
    | .list => Except CloudError (List Node)
    /- The name of the new balancer. -/
    | .create .. => Except CloudError String
    /- Whether there was a balancer to destroy. -/
    | .destroy _ => Except CloudError Bool
    | .resolve _ => Resolution
    | .sleep _ | .log _ => Unit

namespace Service

def list : Attempt Service CloudError (List Node) :=
  .mk (Program.perform (S := Service) .list)

def create (location : Location) (spec : BalancerSpec) (providerIds : List String) :
    Attempt Service CloudError String :=
  .mk (Program.perform (S := Service) (.create location spec providerIds))

def destroy (address : Address) : Attempt Service CloudError Bool :=
  .mk (Program.perform (S := Service) (.destroy address))

def resolve (host : String) : Program Service Resolution :=
  .perform (S := Service) (.resolve host)

def sleep (nanos : Nat) : Program Service Unit :=
  .perform (S := Service) (.sleep nanos)

def note (level : Log.Level) (topic : Log.Topic) (message : String) : Program Service Unit :=
  .perform (S := Service) (.log ⟨level, topic, message⟩)

end Service

end CloudBalance
