import CloudBalance.Json.Decode
import CloudBalance.Proofs.Json.Printer
import CloudBalance.Proofs.Lookup

/-!
# Decoding what is encoded

The records, lists and numbers that are written as JSON values are decoded from these values, and the
values can be written as text and read again.
-/

namespace CloudBalance.Json

/-! ## Fields -/

theorem countName_of_nodup {name : String} {members : List (String × Json)}
    (once : (members.map (·.1)).Nodup) : countName name members ≤ 1 := by
  have count : countName name members = (members.map (·.1)).count name := by
    rw [countName, List.count, List.countP_map]
    rfl
  rw [count]
  exact List.nodup_iff_count.mp once name

/-- An object gives a value for each of its own names. -/
theorem slots?_object (value : Json) (names : List String) {members : List (String × Json)}
    (shape : value = .object members) (listed : members.map (·.1) = names) (once : names.Nodup) :
    value.slots? names = some (members.map fun member => .given member.2) := by
  subst shape listed
  have counts : (members.map (·.1)).all fun name => countName name members ≤ 1 :=
    List.all_eq_true.mpr fun name _ => decide_eq_true (countName_of_nodup once)
  rw [slots?, if_pos counts, List.map_map, Option.some.injEq, List.map_inj_left]
  intro member inside
  rw [Function.comp_apply, lookup_of_nodup once inside]
  rfl

theorem Slot.given_of_required {α : Type} {decode : Json → Option α} {slot : Slot} {a : α}
    (read : slot.required decode = some a) : ∃ value, slot = .given value ∧ decode value = some a := by
  cases slot with
  | given value => exact ⟨value, rfl, read⟩
  | absent => cases read
  | beyond => cases read

/-! ## Simple values -/

theorem toNatBelow?_ofNat {n bound : Nat} (small : n < bound) :
    (Json.ofNat n).toNatBelow? bound = some n := by
  have low : (0 : Int) ≤ n := by omega
  have high : (n : Int) ≤ bound - 1 := by omega
  rw [toNatBelow?, ofNat, toIntIn?, if_pos (by simp only [low, high, decide_true, Bool.and_self])]
  rfl

theorem toOption?_encoded {α : Type} {encode : α → Json} {decode : Json → Option α}
    (decodes : ∀ a, decode (encode a) = some a) (present : ∀ a, encode a ≠ .null) (value : Option α) :
    (Json.ofOption encode value).toOption? decode = some value := by
  cases value with
  | none => rfl
  | some a => rw [ofOption, toOption?.eq_2 decode _ (present a), decodes, Option.map_some]

theorem toOption?_ofOption (text : Option String) :
    (Json.ofOption .string text).toOption? Json.toString? = some text :=
  @toOption?_encoded String .string Json.toString? (fun _ => rfl) (by simp) text

theorem toList?_ofList {α : Type} {encode : α → Json} {decode : Json → Option α} {items : List α}
    (decodes : ∀ item ∈ items, decode (encode item) = some item) :
    (Json.ofList encode items).toList? decode = some items := by
  rw [ofList, toList?]
  exact mapM_map_of_read decodes

theorem toList?_strings (items : List String) : (Json.strings items).toList? Json.toString? = some items :=
  toList?_ofList fun _ _ => rfl

/-- What is decoded from a list comes from its items. -/
theorem exists_of_mem_mapM {α β : Type} {decode : α → Option β} {items : List α} {results : List β}
    (all : items.mapM decode = some results) {b : β} (inside : b ∈ results) :
    ∃ a ∈ items, decode a = some b := by
  induction items generalizing results with
  | nil =>
    cases all
    cases inside
  | cons item items ih =>
    simp only [List.mapM_cons, Option.bind_eq_bind, Option.bind_eq_some_iff] at all
    obtain ⟨first, decoded, rest, others, same⟩ := all
    cases same
    rcases List.mem_cons.mp inside with rfl | later
    · exact ⟨item, List.mem_cons_self, decoded⟩
    · obtain ⟨a, member, found⟩ := ih others later
      exact ⟨a, List.mem_cons_of_mem item member, found⟩

/-! ## Choices between records -/

theorem allReadable_map {α : Type} {encode : α → Json} {items : List α} {room : Nat}
    (each : ∀ item ∈ items, (encode item).isReadable room = true) : allReadable room (items.map encode) = true := by
  induction items with
  | nil => rfl
  | cons item items ih =>
    obtain ⟨first, rest⟩ := List.forall_mem_cons.mp each
    rw [List.map_cons, allReadable, first, ih rest, Bool.and_self]

theorem isReadable_strings (room : Nat) (items : List String) :
    (strings items).isReadable (room + 1) = true := by
  have each : allReadable room (items.map .string) = true := allReadable_map fun _ _ => by simp [isReadable]
  simp [strings, ofList, isReadable, each]

/-- The name of a choice stands before the fields of the record that is chosen. -/
theorem tagged?_object {tag choice : String} {fields : List (String × Json)} {room : Nat}
    (readable : membersReadable room fields = true) (other : tag ∉ fields.map (·.1)) :
    (Json.object ((tag, .string choice) :: fields)).tagged? tag (room + 1) = some (choice, .object fields) := by
  have whole : (Json.object ((tag, .string choice) :: fields)).isReadable (room + 1) = true := by
    simp [isReadable, membersReadable, readable]
  have apart : ∀ field ∈ fields, field.1 ≠ tag :=
    fun field member same => other (List.mem_map.mpr ⟨field, member, same⟩)
  have once : countName tag ((tag, .string choice) :: fields) = 1 := by
    rw [countName, List.countP_cons_of_pos (by simp), List.countP_eq_zero.mpr (by simpa using apart)]
  have left : ((tag, .string choice) :: fields).filter (·.1 != tag) = fields := by
    rw [List.filter_cons_of_neg (by simp), List.filter_eq_self.mpr (by simpa using apart)]
  simp only [tagged?, whole, once, left, if_true, List.lookup_cons_self]
  rfl

/-! ## Values that can be written -/

theorem isPlain_ofNat {n : Nat} (small : n < UInt64.size) : (Json.ofNat n).IsPlain := by
  rw [ofNat, IsPlain]
  exact ⟨Int.le_trans (by decide) (Int.natCast_nonneg n), by exact_mod_cast small⟩

theorem isPlain_ofList {α : Type} {encode : α → Json} {items : List α}
    (plain : ∀ item ∈ items, (encode item).IsPlain) : (Json.ofList encode items).IsPlain := by
  rw [ofList, IsPlain]
  induction items with
  | nil => rw [List.map_nil, AllPlain]; trivial
  | cons item items ih =>
    obtain ⟨first, rest⟩ := List.forall_mem_cons.mp plain
    rw [List.map_cons, AllPlain]
    exact ⟨first, ih rest⟩

theorem isPlain_optionalText (text : Option String) : (Json.ofOption .string text).IsPlain := by
  cases text <;> simp [Json.ofOption, Json.IsPlain]

theorem isPlain_strings (items : List String) : (Json.strings items).IsPlain :=
  isPlain_ofList fun item _ => by simp [Json.IsPlain]

theorem membersPlain_of_forall {members : List (String × Json)}
    (plain : ∀ member ∈ members, member.2.IsPlain) : MembersPlain members := by
  induction members with
  | nil => rw [MembersPlain]; trivial
  | cons member members ih =>
    obtain ⟨first, rest⟩ := List.forall_mem_cons.mp plain
    rw [MembersPlain]
    exact ⟨first, ih rest⟩

end CloudBalance.Json
