import CloudBalance.Json.Value

/-!
# HTTP requests

What is asked of a server: a method, the address of a resource, the token that proves who asks, and
possibly a JSON value.
-/

namespace CloudBalance.Net

inductive HttpMethod where
  | get
  | post
  | delete
  deriving DecidableEq, Repr

def HttpMethod.text : HttpMethod → String
  | .get => "GET"
  | .post => "POST"
  | .delete => "DELETE"

structure HttpRequest where
  method : HttpMethod
  url : String
  token : String
  body : Option Json

namespace HttpRequest

/-- The value of the header that proves who asks. -/
def authorization (request : HttpRequest) : String :=
  "Bearer " ++ request.token

/-- Whether a header may hold the character. -/
def isHeaderChar (c : Char) : Bool :=
  c = '\t' || (0x20 ≤ c.toNat && c.toNat ≠ 0x7f)

/-- Whether the request can be written down: the token must fit into a header. -/
def isWritable (request : HttpRequest) : Bool :=
  request.token.toList.all isHeaderChar

end HttpRequest

end CloudBalance.Net
