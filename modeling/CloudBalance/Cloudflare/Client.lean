import CloudBalance.Cloudflare.Error
import CloudBalance.Cloudflare.Record
import CloudBalance.Text.Blank
import CloudBalance.World

/-!
# Requests to Cloudflare

The operations of the API, each of which is one request, and the account for which they are made.
-/

namespace CloudBalance.Cloudflare

open Net (HttpMethod)

/-- What a request may end in. -/
abbrev Call := Attempt World CloudflareError

/-! ## Accounts -/

structure Account where
  token : String
  accountId : String
  zoneId : String
  /-- The domain under which the names of balancers are made. -/
  domain : String
  apiBase : String
  deriving DecidableEq, Repr

namespace Account

/-- Where the API is, unless the settings name another place. -/
def standardApiBase : String := "https://api.cloudflare.com/client/v4"

def of (token accountId zoneId domain : String) : Account :=
  ⟨token, accountId, zoneId, domain, standardApiBase⟩

/-- The account with the API at another place. -/
def withApiBase (account : Account) (apiBase : String) : Account :=
  { account with apiBase := Text.trimEnd '/' apiBase }

/-- The value of a variable of the environment, which must be set. -/
def required (name : String) : Attempt Local CloudflareError String := do
  match ← Local.environment name with
  | some value => return value
  | none => throw (.missingVariable name)

/-- The account that the environment describes. -/
def ofEnvironment : Attempt Local CloudflareError Account := do
  return .of (← required "CLOUDFLARE_API_TOKEN") (← required "CLOUDFLARE_ACCOUNT_ID")
    (← required "CLOUDFLARE_ZONE_ID") (← required "CLOUDFLARE_DOMAIN")

def poolsUrl (account : Account) : String :=
  account.apiBase ++ "/accounts/" ++ account.accountId ++ "/load_balancers/pools"

def balancersUrl (account : Account) : String :=
  account.apiBase ++ "/zones/" ++ account.zoneId ++ "/load_balancers"

end Account

/-! ## Requests -/

/-- What a failure says: the first fault of the reply. -/
def faultText : List Fault → String
  | fault :: _ => fault.message ++ " (code " ++ toString fault.code ++ ")"
  | [] => "Unknown error"

/-- The result that an envelope holds. -/
def Envelope.contents {α : Type} (envelope : Envelope α) : Except CloudflareError α :=
  if envelope.success then
    match envelope.result with
    | some result => .ok result
    | none => .error (.api "Response has no result")
  else .error (.api (faultText envelope.faults))

/-- The result that the text of a reply holds. -/
def readReply {α : Type} (decode : Json → Option α) (body : ByteArray) : Except CloudflareError α :=
  match (Text.decode? body).bind (Json.decode? (Envelope.ofJson? decode)) with
  | some envelope => envelope.contents
  | none => .error (.http "error decoding response body")

/-- Sends a request and reads the result from the reply. -/
def request {α : Type} (account : Account) (decode : Json → Option α) (method : HttpMethod)
    (url : String) (body : Option Json) : Call α := do
  let request : Net.HttpRequest := ⟨method, url, account.token, body⟩
  if request.isWritable then
    readReply decode (← (World.send request).attempt .http)
  else throw (.http "builder error")

/-! ## Operations -/

/-- Asks what is known of the token. -/
def verifyToken (account : Account) : Call Token :=
  request account Token.ofJson? .get (account.apiBase ++ "/user/tokens/verify") none

def createPool (account : Account) (pool : NewPool) : Call Pool :=
  request account Pool.ofJson? .post account.poolsUrl (some pool.toJson)

def deletePool (account : Account) (id : String) : Call Unit := do
  let _ ← request account deletedOfJson? .delete (account.poolsUrl ++ "/" ++ id) none

def createBalancer (account : Account) (balancer : NewBalancer) : Call Balancer :=
  request account Balancer.ofJson? .post account.balancersUrl (some balancer.toJson)

def listBalancers (account : Account) : Call (List Balancer) :=
  request account (Json.toList? Balancer.ofJson?) .get account.balancersUrl none

def deleteBalancer (account : Account) (id : String) : Call Unit := do
  let _ ← request account deletedOfJson? .delete (account.balancersUrl ++ "/" ++ id) none

end CloudBalance.Cloudflare
