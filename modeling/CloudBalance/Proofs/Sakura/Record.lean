import CloudBalance.Proofs.Json.Decode
import CloudBalance.Sakura.Record

/-!
# Records as the tool takes and prints them

Main statements: from the values of accounts, servers and balancers, and of the parameters of new balancers, these are
read, and the values can be written as texts. An id that is printed as a number is read as the text of its digits.
-/

namespace CloudBalance.Sakura

/-! ## Ids -/

/-- An id in the form of a text. -/
def idAsText : Json → Json
  | .number (.integer n) => if 0 ≤ n then .string (toString n) else .number (.integer n)
  | value => value

theorem idOfJson?_idAsText (value : Json) : idOfJson? (idAsText value) = idOfJson? value := by
  cases value with
  | number n =>
    cases n with
    | integer n =>
      by_cases natural : 0 ≤ n
      · rw [idAsText, if_pos natural, idOfJson?, idOfJson?, if_pos natural]
      · rw [idAsText, if_neg natural]
    | decimal => rfl
  | _ => rfl

/-- A member of a record: the id in the form of a text, any other value as it is. -/
def memberAsText (name : String) (value : Json) : Json :=
  if name = "ID" then idAsText value else value

/-- A record, written either way, with the id that is its first field in the form of a text. -/
def withIdAsText : Json → Json
  | .object members => .object (members.map fun member => (member.1, memberAsText member.1 member.2))
  | .array (id :: rest) => .array (idAsText id :: rest)
  | value => value

/-- What is given for the id, in the form of a text. -/
def slotAsText : Json.Slot → Json.Slot
  | .given value => .given (idAsText value)
  | slot => slot

theorem required_slotAsText (slot : Json.Slot) : (slotAsText slot).required idOfJson? = slot.required idOfJson? := by
  cases slot with
  | given value => exact idOfJson?_idAsText value
  | absent | beyond => rfl

/-- Where the id stands first, only what is given for it differs. -/
theorem slots?_withIdAsText {names : List String} (other : "ID" ∉ names) (value : Json) :
    (withIdAsText value).slots? ("ID" :: names) =
      (value.slots? ("ID" :: names)).map (List.modifyHead slotAsText) := by
  cases value with
  | object members =>
    have counts : ∀ name, Json.countName name (members.map fun member => (member.1, memberAsText member.1 member.2)) =
        Json.countName name members := by
      intro name
      rw [Json.countName, Json.countName, List.countP_map]
      rfl
    have first : (((members.lookup "ID").map (memberAsText "ID")).map Json.Slot.given).getD .absent =
        slotAsText (((members.lookup "ID").map .given).getD .absent) := by
      cases members.lookup "ID" <;> rfl
    have rest : names.map (fun name =>
          (((members.lookup name).map (memberAsText name)).map Json.Slot.given).getD .absent) =
        names.map fun name => ((members.lookup name).map .given).getD .absent := by
      refine List.map_congr_left fun name member => ?_
      have same : memberAsText name = id := by
        funext value
        rw [memberAsText, if_neg fun same : name = "ID" => other (same ▸ member), id]
      rw [same, Option.map_id]
      rfl
    simp only [withIdAsText, Json.slots?, counts, lookup_map_values, List.map_cons, first, rest]
    split <;> rfl
  | array items =>
    cases items with
    | nil => rfl
    | cons id rest =>
      simp only [withIdAsText, Json.slots?, List.length_cons, List.map_cons, List.cons_append]
      split <;> rfl
  | _ => rfl

/-- Whatever is made of the fields, where the id is read only as one, its form is no question. -/
theorem bind_slots?_withIdAsText {α : Type} {names : List String} (other : "ID" ∉ names)
    {read : List Json.Slot → Option α} (alike : ∀ id rest, read (slotAsText id :: rest) = read (id :: rest))
    (value : Json) :
    ((withIdAsText value).slots? ("ID" :: names)).bind read = (value.slots? ("ID" :: names)).bind read := by
  have blind : ∀ slots, read (slots.modifyHead slotAsText) = read slots := by
    intro slots
    cases slots with
    | nil => rfl
    | cons id rest => exact alike id rest
  rw [slots?_withIdAsText other, Option.bind_map]
  exact congrArg _ (funext blind)

/-! ## Accounts -/

theorem Account.ofJson?_toJson (account : Account) : Account.ofJson? account.toJson = some account := by
  have slots := Json.slots?_object account.toJson ["ID", "Name"] rfl rfl (by decide)
  simp only [Account.ofJson?, slots, List.map, Option.bind_eq_bind, Option.bind_some, Json.Slot.required,
    Json.toString?, idOfJson?]
  rfl

theorem Account.isPlain_toJson (account : Account) : account.toJson.IsPlain := by
  simp [Account.toJson, Json.IsPlain, Json.MembersPlain]

theorem Login.ofJson?_toJson (login : Login) : Login.ofJson? login.toJson = some login := by
  have slots := Json.slots?_object login.toJson ["Account"] rfl rfl (by decide)
  have account : (Json.ofOption Account.toJson login.account).toOption? Account.ofJson? = some login.account :=
    Json.toOption?_encoded Account.ofJson?_toJson (by simp [Account.toJson]) login.account
  simp only [Login.ofJson?, slots, List.map, Option.bind_eq_bind, Option.bind_some, Json.Slot.optional, account]
  rfl

theorem Login.isPlain_toJson (login : Login) : login.toJson.IsPlain := by
  obtain ⟨_ | account⟩ := login
  · simp [Login.toJson, Json.ofOption, Json.IsPlain, Json.MembersPlain]
  · simp [Login.toJson, Json.ofOption, Json.IsPlain, Json.MembersPlain, account.isPlain_toJson]

/-! ## Servers -/

theorem Interface.ofJson?_toJson (interface : Interface) : Interface.ofJson? interface.toJson = some interface := by
  have slots := Json.slots?_object interface.toJson ["IPAddress", "UserIPAddress"] rfl rfl (by decide)
  simp only [Interface.ofJson?, slots, List.map, Option.bind_eq_bind, Option.bind_some, Json.Slot.optional,
    Json.Slot.orElse, Json.toOption?_ofOption]
  rfl

theorem Interface.isPlain_toJson (interface : Interface) : interface.toJson.IsPlain := by
  simp [Interface.toJson, Json.IsPlain, Json.MembersPlain, Json.isPlain_optionalText]

theorem int32OfJson?_ofInt (n : Int32) : int32OfJson? (.ofInt n.toInt) = some n := by
  have inside : (Int32.minValue.toInt ≤ n.toInt && n.toInt ≤ Int32.maxValue.toInt) = true := by
    simp only [Int32.minValue_le_toInt, Int32.toInt_le, decide_true, Bool.and_self]
  rw [int32OfJson?, Json.ofInt, Json.toIntIn?, if_pos inside, Option.map_some, Int32.ofInt_toInt]

theorem toOption?_int32 (n : Option Int32) :
    (Json.ofOption (fun n : Int32 => .ofInt n.toInt) n).toOption? int32OfJson? = some n :=
  Json.toOption?_encoded int32OfJson?_ofInt (by simp [Json.ofInt]) n

theorem isPlain_int32 (n : Option Int32) : (Json.ofOption (fun n : Int32 => .ofInt n.toInt) n).IsPlain := by
  cases n with
  | none => simp [Json.ofOption, Json.IsPlain]
  | some n =>
    have low := n.le_toInt
    have high := n.toInt_lt
    have least : Int64.minValue.toInt = -2 ^ 63 := by decide
    have size : (UInt64.size : Int) = 2 ^ 64 := by decide
    rw [Json.ofOption, Json.ofInt, Json.IsPlain, Json.IsWord, least, size]
    omega

theorem Server.ofJson?_toJson (server : Server) : Server.ofJson? server.toJson = some server := by
  have slots := Json.slots?_object server.toJson
    ["ID", "Name", "Tags", "CPU", "MemoryMB", "InstanceStatus", "Interfaces"] rfl rfl (by decide)
  have interfaces : (Json.ofOption (.ofList Interface.toJson) server.interfaces).toOption?
      (Json.toList? Interface.ofJson?) = some server.interfaces :=
    Json.toOption?_encoded (fun _ => Json.toList?_ofList fun interface _ => interface.ofJson?_toJson)
      (by simp [Json.ofList]) server.interfaces
  simp only [Server.ofJson?, slots, List.map, Option.bind_eq_bind, Option.bind_some, Json.Slot.required,
    Json.Slot.optional, Json.Slot.orElse, Json.toString?, idOfJson?, Json.toOption?_ofOption, Json.toList?_strings,
    toOption?_int32, interfaces]
  rfl

theorem Server.isPlain_toJson (server : Server) : server.toJson.IsPlain := by
  have interfaces : (Json.ofOption (.ofList Interface.toJson) server.interfaces).IsPlain := by
    cases server.interfaces with
    | none => simp [Json.ofOption, Json.IsPlain]
    | some interfaces => exact Json.isPlain_ofList fun interface _ => interface.isPlain_toJson
  simp [Server.toJson, Json.IsPlain, Json.MembersPlain, Json.isPlain_optionalText, Json.isPlain_strings, isPlain_int32,
    interfaces]

/-- A server is read whether its id is a number or the text of the digits. -/
theorem Server.ofJson?_withIdAsText (value : Json) :
    Server.ofJson? (withIdAsText value) = Server.ofJson? value := by
  refine bind_slots?_withIdAsText (by decide) (fun id rest => ?_) value
  split
  · rename_i same
    cases same
    simp only [required_slotAsText]
  · rename_i shape
    split
    · rename_i same
      cases same
      exact absurd rfl (shape _ _ _ _ _ _ _)
    · rfl

/-! ## Balancers -/

theorem Balancer.ofJson?_toJson (balancer : Balancer) : Balancer.ofJson? balancer.toJson = some balancer := by
  have slots := Json.slots?_object balancer.toJson ["ID", "Name", "FQDN", "VirtualIPAddress", "Region", "Tags"]
    rfl rfl (by decide)
  simp only [Balancer.ofJson?, slots, List.map, Option.bind_eq_bind, Option.bind_some, Json.Slot.required,
    Json.Slot.orElse, Json.toString?, idOfJson?, Json.toOption?_ofOption, Json.toList?_strings]
  rfl

theorem Balancer.isPlain_toJson (balancer : Balancer) : balancer.toJson.IsPlain := by
  simp [Balancer.toJson, Json.IsPlain, Json.MembersPlain, Json.isPlain_optionalText, Json.isPlain_strings]

/-- A balancer is read whether its id is a number or the text of the digits. -/
theorem Balancer.ofJson?_withIdAsText (value : Json) :
    Balancer.ofJson? (withIdAsText value) = Balancer.ofJson? value := by
  refine bind_slots?_withIdAsText (by decide) (fun id rest => ?_) value
  split
  · rename_i same
    cases same
    simp only [required_slotAsText]
  · rename_i shape
    split
    · rename_i same
      cases same
      exact absurd rfl (shape _ _ _ _ _ _)
    · rfl

/-! ## Parameters -/

theorem HealthCheck.ofJson?_toJson (check : HealthCheck) : HealthCheck.ofJson? check.toJson = some check := by
  obtain ⟨protocol, delayLoop, path⟩ := check
  have number : (Json.ofNat delayLoop.toNat).toNatBelow? UInt32.size = some delayLoop.toNat :=
    Json.toNatBelow?_ofNat delayLoop.toNat_lt
  have same : delayLoop.toNat.toUInt32 = delayLoop := UInt32.ofNat_toNat
  cases path with
  | none =>
    have slots : (HealthCheck.toJson ⟨protocol, delayLoop, none⟩).slots? ["Protocol", "DelayLoop", "Path"] =
        some [.given (.string protocol), .given (.ofNat delayLoop.toNat), .absent] := by
      rw [HealthCheck.toJson, Json.present]
      rfl
    simp only [HealthCheck.ofJson?, slots, Option.bind_eq_bind, Option.bind_some, Json.Slot.required,
      Json.Slot.optional, Json.toString?, number, same]
    rfl
  | some path =>
    have slots : (HealthCheck.toJson ⟨protocol, delayLoop, some path⟩).slots? ["Protocol", "DelayLoop", "Path"] =
        some [.given (.string protocol), .given (.ofNat delayLoop.toNat), .given (.string path)] :=
      Json.slots?_object _ _ rfl rfl (by decide)
    simp only [HealthCheck.ofJson?, slots, Option.bind_eq_bind, Option.bind_some, Json.Slot.required,
      Json.Slot.optional, Json.toString?, number, same]
    rfl

theorem HealthCheck.isPlain_toJson (check : HealthCheck) : check.toJson.IsPlain := by
  obtain ⟨protocol, delayLoop, path⟩ := check
  have small := Json.isPlain_ofNat (Nat.lt_trans delayLoop.toNat_lt (by decide))
  cases path <;> simp [HealthCheck.toJson, Json.present, Json.IsPlain, Json.MembersPlain, small]

theorem BindPort.ofJson?_toJson (bind : BindPort) : BindPort.ofJson? bind.toJson = some bind := by
  have slots := Json.slots?_object bind.toJson ["ProxyMode", "Port"] rfl rfl (by decide)
  have number : (Json.ofNat bind.port.toNat).toNatBelow? UInt16.size = some bind.port.toNat :=
    Json.toNatBelow?_ofNat bind.port.toNat_lt
  have same : bind.port.toNat.toUInt16 = bind.port := UInt16.ofNat_toNat
  simp only [BindPort.ofJson?, slots, List.map, Option.bind_eq_bind, Option.bind_some, Json.Slot.required,
    Json.toString?, number, same]
  rfl

theorem BindPort.isPlain_toJson (bind : BindPort) : bind.toJson.IsPlain := by
  have small := Json.isPlain_ofNat (Nat.lt_trans bind.port.toNat_lt (by decide))
  simp [BindPort.toJson, Json.IsPlain, Json.MembersPlain, small]

theorem Target.ofJson?_toJson (target : Target) : Target.ofJson? target.toJson = some target := by
  have slots := Json.slots?_object target.toJson ["IPAddress", "Port", "Enabled"] rfl rfl (by decide)
  have number : (Json.ofNat target.port.toNat).toNatBelow? UInt16.size = some target.port.toNat :=
    Json.toNatBelow?_ofNat target.port.toNat_lt
  have same : target.port.toNat.toUInt16 = target.port := UInt16.ofNat_toNat
  simp only [Target.ofJson?, slots, List.map, Option.bind_eq_bind, Option.bind_some, Json.Slot.required,
    Json.toString?, Json.toBool?, number, same]
  rfl

theorem Target.isPlain_toJson (target : Target) : target.toJson.IsPlain := by
  have small := Json.isPlain_ofNat (Nat.lt_trans target.port.toNat_lt (by decide))
  simp [Target.toJson, Json.IsPlain, Json.MembersPlain, small]

theorem Parameters.ofJson?_toJson (parameters : Parameters) :
    Parameters.ofJson? parameters.toJson = some parameters := by
  have slots := Json.slots?_object parameters.toJson
    ["Name", "Plan", "Region", "HealthCheck", "BindPorts", "Servers", "Tags"] rfl rfl (by decide)
  have number : (Json.ofNat parameters.plan.toNat).toNatBelow? UInt32.size = some parameters.plan.toNat :=
    Json.toNatBelow?_ofNat parameters.plan.toNat_lt
  have same : parameters.plan.toNat.toUInt32 = parameters.plan := UInt32.ofNat_toNat
  have ports : (Json.ofList BindPort.toJson parameters.bindPorts).toList? BindPort.ofJson? =
      some parameters.bindPorts := Json.toList?_ofList fun bind _ => bind.ofJson?_toJson
  have servers : (Json.ofList Target.toJson parameters.servers).toList? Target.ofJson? =
      some parameters.servers := Json.toList?_ofList fun target _ => target.ofJson?_toJson
  simp only [Parameters.ofJson?, slots, List.map, Option.bind_eq_bind, Option.bind_some, Json.Slot.required,
    Json.toString?, number, same, HealthCheck.ofJson?_toJson, ports, servers, Json.toList?_strings]
  rfl

theorem Parameters.isPlain_toJson (parameters : Parameters) : parameters.toJson.IsPlain := by
  have small := Json.isPlain_ofNat (Nat.lt_trans parameters.plan.toNat_lt (by decide))
  simp only [Parameters.toJson, Json.IsPlain, Json.MembersPlain, true_and, and_true]
  refine ⟨small, parameters.healthCheck.isPlain_toJson, ?_, ?_, Json.isPlain_strings _⟩
  · exact Json.isPlain_ofList fun bind _ => bind.isPlain_toJson
  · exact Json.isPlain_ofList fun target _ => target.isPlain_toJson

end CloudBalance.Sakura
