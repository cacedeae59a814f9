import CloudBalance.Json.Decode
import CloudBalance.Net.Address

/-!
# Addresses in JSON

An address is stored as its written form.
-/

namespace CloudBalance.Net.Address

def toJson (address : Address) : Json :=
  .string address.text

def ofJson? (value : Json) : Option Address :=
  value.toString?.bind parse?

end CloudBalance.Net.Address
