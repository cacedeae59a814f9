import CloudBalance.Balancer.Error

/-!
# Failures at Sakura Cloud

Why the tool `usacloud` did not do what was asked, or why its answer is of no use.
-/

namespace CloudBalance

inductive SakuraError where
  | toolNotFound
  | notAuthenticated (text : String)
  | commandFailed (text : String)
  | serverNotFound (id : String)
  | serverWithoutAddress (id : String)
  | balancerWithoutName (name : String)
  | creationFailed (text : String)
  | deletionFailed (text : String)
  | malformed
  | notStarted (cause : FileError)
  deriving DecidableEq, Repr

namespace SakuraError

def message : SakuraError → String
  | .toolNotFound => "usacloud not found. Please install: brew install usacloud"
  | .notAuthenticated text => "usacloud authentication failed: " ++ text
  | .commandFailed text => "usacloud command failed: " ++ text
  | .serverNotFound id => "Server not found: " ++ id
  | .serverWithoutAddress id => "Server " ++ id ++ " has no IP address"
  | .balancerWithoutName name => "Enhanced load balancer " ++ name ++ " returned no FQDN"
  | .creationFailed text => "Resource creation failed: " ++ text
  | .deletionFailed text => "Resource deletion failed: " ++ text
  | .malformed => "JSON parse error: " ++ CloudError.malformedText
  | .notStarted cause => "IO error: " ++ cause.message

/-- The failure in terms that all providers share. -/
def toCloudError : SakuraError → CloudError
  | .notAuthenticated text => .authenticationFailed text
  | .serverNotFound id => .resourceNotFound id
  | .toolNotFound => .commandFailed toolNotFound.message
  | .commandFailed text => .commandFailed (commandFailed text).message
  | other => .api other.message

end SakuraError

end CloudBalance
