import CloudBalance.Balancer.Error

/-!
# Failures at Cloudflare

Why a request was refused or could not be sent, or why there is nothing to request.
-/

namespace CloudBalance

inductive CloudflareError where
  | missingVariable (name : String)
  | api (text : String)
  | http (text : String)
  | noOrigins (ids : List String)
  deriving DecidableEq, Repr

namespace CloudflareError

def message : CloudflareError → String
  | .missingVariable name => "Environment variable not set: " ++ name
  | .api text => "Cloudflare API error: " ++ text
  | .http text => "HTTP error: " ++ text
  | .noOrigins ids => "No origin address for nodes " ++ Text.quoteList ids

/-- The failure in terms that all providers share. -/
def toCloudError : CloudflareError → CloudError
  | .missingVariable name => .invalidConfig (missingVariable name).message
  | other => .api other.message

end CloudflareError

end CloudBalance
