import CloudBalance.Balancer.Report
import CloudBalance.Balancer.Spec
import CloudBalance.Files.Error
import CloudBalance.Text.Quoted

/-!
# Failures

Why a balancer could not be made, destroyed or recorded, in terms that all providers share. When the
making of several balancers stops on the way, the failure holds those that were made before it.
-/

namespace CloudBalance

inductive CloudError where
  | invalidArgument (text : String)
  | createAborted (location : String) (created : Report) (cause : CloudError)
  | resourceNotFound (text : String)
  | authenticationFailed (text : String)
  | api (text : String)
  | commandFailed (text : String)
  | invalidConfig (text : String)
  | state (text : String)
  | lock (text : String)
  | files (cause : FileError)
  /-- A stored record is not what it should be. -/
  | malformed
  deriving DecidableEq, Repr

namespace CloudError

/-- What is said of a record that cannot be read. -/
def malformedText : String := "not a valid record"

def message : CloudError → String
  | .invalidArgument text => "Invalid argument: " ++ text
  | .createAborted location _ cause =>
    "Load balancer creation stopped at " ++ location ++ ": " ++ cause.message
  | .resourceNotFound text => "Resource not found: " ++ text
  | .authenticationFailed text => "Authentication failed: " ++ text
  | .api text => "API error: " ++ text
  | .commandFailed text => "Command execution failed: " ++ text
  | .invalidConfig text => "Invalid configuration: " ++ text
  | .state text => "State file error: " ++ text
  | .lock text => "Lock acquisition failed: " ++ text
  | .files cause => "IO error: " ++ cause.message
  | .malformed => "JSON error: " ++ malformedText

/-- The messages of the failures behind this one, the nearest first. -/
def causes : CloudError → List String
  | .createAborted _ _ cause => cause.message :: cause.causes
  | .files cause => [cause.message]
  | .malformed => [malformedText]
  | _ => []

end CloudError

/-- The protocol that a user names. -/
def Protocol.parse (text : String) : Except CloudError Protocol :=
  match parse? text with
  | some protocol => .ok protocol
  | none =>
    .error (.invalidArgument
      ("Acceptable values for protocol are HTTP or TCP (got " ++ Text.quote text ++ ")"))

end CloudBalance
