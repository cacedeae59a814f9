/-!
# Entries with keys

Lists of entries in which an entry is looked up by its key. Main statements: where each key stands once,
looking up finds exactly the entries of the list, in whatever order they are, also after entries are left out or
values are changed.
-/

namespace CloudBalance

variable {α β : Type} [BEq α] [LawfulBEq α] {entries : List (α × β)} {key other : α} {value : β}

theorem mem_of_lookup (found : entries.lookup key = some value) : (key, value) ∈ entries := by
  obtain ⟨before, rest, rfl, _⟩ := List.lookup_eq_some_iff.mp found
  exact List.mem_append_right before List.mem_cons_self

theorem lookup_of_nodup (once : (entries.map (·.1)).Nodup) (member : (key, value) ∈ entries) :
    entries.lookup key = some value := by
  induction entries with
  | nil => cases member
  | cons first rest ih =>
    obtain ⟨its, held⟩ := first
    rw [List.map_cons, List.nodup_cons] at once
    rcases List.mem_cons.mp member with same | later
    · cases same
      exact List.lookup_cons_self
    · have differs : (key == its) = false := by
        rw [beq_eq_false_iff_ne]
        rintro rfl
        exact once.1 (List.mem_map.mpr ⟨_, later, rfl⟩)
      rw [List.lookup_cons, differs]
      exact ih once.2 later

theorem lookup_eq_some_iff (once : (entries.map (·.1)).Nodup) :
    entries.lookup key = some value ↔ (key, value) ∈ entries :=
  ⟨mem_of_lookup, lookup_of_nodup once⟩

/-- The order of the entries is no question. -/
theorem lookup_perm {others : List (α × β)} (once : (entries.map (·.1)).Nodup) (same : others.Perm entries) :
    others.lookup key = entries.lookup key := by
  have twice : (others.map (·.1)).Nodup := (same.map _).nodup_iff.mpr once
  refine Option.ext fun value => ?_
  rw [lookup_eq_some_iff once, lookup_eq_some_iff twice, same.mem_iff]

/-- Where each value is changed under its key, the changed value is found. -/
theorem lookup_map_values {γ : Type} (change : α → β → γ) (entries : List (α × β)) (key : α) :
    (entries.map fun entry => (entry.1, change entry.1 entry.2)).lookup key =
      (entries.lookup key).map (change key) := by
  induction entries with
  | nil => rfl
  | cons entry entries ih =>
    obtain ⟨its, value⟩ := entry
    rw [List.map_cons, List.lookup_cons, List.lookup_cons]
    cases same : key == its with
    | true =>
      rw [eq_of_beq same]
      rfl
    | false => exact ih

theorem lookup_filter_ne [DecidableEq α] (entries : List (α × β)) (key other : α) :
    (entries.filter (·.1 != key)).lookup other = if other = key then none else entries.lookup other := by
  induction entries with
  | nil => simp
  | cons entry entries ih =>
    obtain ⟨its, value⟩ := entry
    by_cases here : its = key
    · subst here
      rw [List.filter_cons_of_neg (by simp), ih, List.lookup_cons]
      split
      · rfl
      · rename_i differs
        rw [beq_eq_false_iff_ne.mpr differs]
    · rw [List.filter_cons_of_pos (by simpa using here), List.lookup_cons, List.lookup_cons, ih]
      by_cases same : other = its
      · subst same
        simp [here]
      · rw [beq_eq_false_iff_ne.mpr same]

/-- What lies under a key stands once, among what lies under other keys. -/
theorem perm_cons_filter_ne (once : (entries.map (·.1)).Nodup) (found : entries.lookup key = some value) :
    entries.Perm ((key, value) :: entries.filter (·.1 != key)) := by
  obtain ⟨before, rest, rfl, _⟩ := List.lookup_eq_some_iff.mp found
  have first := (List.perm_middle.map Prod.fst).nodup_iff.mp once
  rw [List.map_cons, List.nodup_cons] at first
  have others : ∀ entry ∈ before ++ rest, (entry.1 != key) = true := by
    intro entry member
    rw [bne_iff_ne]
    rintro rfl
    exact first.1 (List.mem_map.mpr ⟨entry, member, rfl⟩)
  have left : (before ++ (key, value) :: rest).filter (·.1 != key) = before ++ rest := by
    rw [List.filter_append, List.filter_cons_of_neg (by simp), ← List.filter_append, List.filter_eq_self.mpr others]
  rw [left]
  exact List.perm_middle

end CloudBalance
