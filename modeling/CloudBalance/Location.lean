import CloudBalance.Json.Decode

/-!
# Locations

Where nodes run. Locations are compared by all of their parts.
-/

namespace CloudBalance

/-- How large a location is. -/
inductive LocationScope where
  | provider
  | region
  | zone
  deriving DecidableEq, Repr

def LocationScope.text : LocationScope → String
  | .provider => "provider"
  | .region => "region"
  | .zone => "zone"

def LocationScope.ofText? : String → Option LocationScope
  | "provider" => some .provider
  | "region" => some .region
  | "zone" => some .zone
  | _ => none

structure Location where
  scope : LocationScope
  id : String
  description : String
  deriving DecidableEq, Repr

namespace Location

/-- The zone of an id, which is its description, too. -/
def zone (id : String) : Location :=
  ⟨.zone, id, id⟩

/-- The form in which messages show a location. -/
def text (location : Location) : String :=
  location.scope.text ++ ":" ++ location.id

def toJson (location : Location) : Json :=
  .object [("scope", .string location.scope.text), ("id", .string location.id),
    ("description", .string location.description)]

def ofJson? (value : Json) : Option Location := do
  match ← value.slots? ["scope", "id", "description"] with
  | [scope, id, description] =>
    return ⟨← scope.required fun v => v.toChoice?.bind LocationScope.ofText?,
      ← id.required Json.toString?, ← description.required Json.toString?⟩
  | _ => none

end Location

end CloudBalance
