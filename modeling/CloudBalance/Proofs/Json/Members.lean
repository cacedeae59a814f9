import CloudBalance.Json.Decode

/-!
# Members of an object

An object may have several members of one name, or none. Main statements: a record is read from an object by the
values under the names of its fields, of which there is at most one for each, and when what is under a name can be read.
-/

namespace CloudBalance.Json

variable {α : Type} {decode : Json → Option α} {values : List Json} {members : List (String × Json)}

/-- The values of all members of a name, in their order. -/
def valuesOf (name : String) (members : List (String × Json)) : List Json :=
  (members.filter (·.1 == name)).map (·.2)

theorem countName_eq_length (name : String) (members : List (String × Json)) :
    countName name members = (valuesOf name members).length := by
  rw [countName, valuesOf, List.length_map, List.countP_eq_length_filter]

theorem lookup_eq_head? (name : String) (members : List (String × Json)) :
    members.lookup name = (valuesOf name members).head? := by
  induction members with
  | nil => rfl
  | cons member members ih =>
    obtain ⟨its, value⟩ := member
    by_cases same : its = name
    · subst same
      simp [valuesOf]
    · have apart : (name == its) = false := beq_eq_false_iff_ne.mpr (Ne.symm same)
      rw [List.lookup_cons, apart]
      simpa [valuesOf, same] using ih

/-- What the values under the name of a field give for it. -/
def slotOf : List Json → Slot
  | [] => .absent
  | value :: _ => .given value

/-- Of several members of one name none is taken. -/
theorem slots?_members (names : List String) (members : List (String × Json)) :
    (Json.object members).slots? names =
      if ∀ name ∈ names, (valuesOf name members).length ≤ 1 then
        some (names.map fun name => slotOf (valuesOf name members))
      else none := by
  have slot : ∀ name, ((members.lookup name).map Slot.given).getD .absent = slotOf (valuesOf name members) := by
    intro name
    rw [lookup_eq_head?]
    cases valuesOf name members <;> rfl
  simp only [slots?, slot, countName_eq_length, List.all_eq_true, decide_eq_true_eq]

/-! ## Fields that can be read -/

/-- All items of a list are decoded, or none of it is. -/
theorem isSome_mapM {β : Type} {decode : β → Option α} {items : List β} :
    (items.mapM decode).isSome ↔ ∀ item ∈ items, (decode item).isSome := by
  induction items with
  | nil => simp
  | cons item items ih =>
    rw [List.mapM_cons, List.forall_mem_cons, ← ih]
    cases decode item <;> cases items.mapM decode <;> simp

/-- The field must be there, and it is read. -/
def IsRead (decode : Json → Option α) (values : List Json) : Prop :=
  ∃ value, values = [value] ∧ (decode value).isSome

/-- The field is missing or `null`, or it is read. -/
def IsReadIfAny (decode : Json → Option α) (values : List Json) : Prop :=
  values = [] ∨ values = [.null] ∨ IsRead decode values

theorem isSome_required (once : values.length ≤ 1) :
    ((slotOf values).required decode).isSome ↔ IsRead decode values := by
  match values, once with
  | [], _ => simp [slotOf, Slot.required, IsRead]
  | [value], _ => simp [slotOf, Slot.required, IsRead]

theorem isSome_optional (once : values.length ≤ 1) :
    ((slotOf values).optional decode).isSome ↔ IsReadIfAny decode values := by
  match values, once with
  | [], _ => simp [slotOf, Slot.optional, IsReadIfAny]
  | [value], _ =>
    rw [slotOf, Slot.optional]
    cases value <;> simp [toOption?, IsReadIfAny, IsRead]

theorem IsRead.once (read : IsRead decode values) : values.length ≤ 1 := by
  obtain ⟨value, rfl, _⟩ := read
  exact Nat.le_refl 1

theorem IsReadIfAny.once (read : IsReadIfAny decode values) : values.length ≤ 1 := by
  rcases read with rfl | rfl | read
  · exact Nat.zero_le 1
  · exact Nat.le_refl 1
  · exact read.once

end CloudBalance.Json
