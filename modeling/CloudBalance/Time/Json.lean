import CloudBalance.Json.Decode
import CloudBalance.Time.Instant

/-!
# Times in JSON

A time is stored as its written form.
-/

namespace CloudBalance.Time.Instant

def toJson (t : Instant) : Json :=
  .string t.text

def ofJson? (value : Json) : Option Instant :=
  value.toString?.bind parse?

end CloudBalance.Time.Instant
