import CloudBalance.Proofs.Ledger.Text
import CloudBalance.Proofs.Lookup

/-!
# The entries of a ledger

Main statements: an entry that is put is found by its key, and no other key finds anything else than
before; of the records of balancers at locations with distinct ids each is found by its own key.
-/

namespace CloudBalance.Ledger

open Time (Instant)

variable {entries : List (String × Record)} {key : String} {record : Record}

theorem keys_putEntry :
    (putEntry entries key record).map (·.1) =
      if key ∈ entries.map (·.1) then entries.map (·.1) else entries.map (·.1) ++ [key] := by
  have present : entries.any (·.1 == key) = true ↔ key ∈ entries.map (·.1) := by
    simp
  rw [putEntry]
  by_cases known : key ∈ entries.map (·.1)
  · rw [if_pos known, if_pos (present.mpr known), List.map_map]
    refine List.map_congr_left fun entry _ => ?_
    rw [Function.comp_apply]
    split
    · rename_i same
      exact (beq_iff_eq.mp same).symm
    · rfl
  · rw [if_neg known, if_neg (fun there => known (present.mp there)), List.map_append]
    rfl

theorem nodup_putEntry (once : (entries.map (·.1)).Nodup) :
    ((putEntry entries key record).map (·.1)).Nodup := by
  rw [keys_putEntry]
  split
  · exact once
  · rename_i fresh
    rw [List.nodup_append]
    refine ⟨once, by simp, ?_⟩
    rintro other member _ single rfl
    cases List.mem_singleton.mp single
    exact fresh member

theorem mem_putEntry {entry : String × Record} (member : entry ∈ putEntry entries key record) :
    entry = (key, record) ∨ entry ∈ entries := by
  rw [putEntry] at member
  split at member
  · obtain ⟨old, listed, rfl⟩ := List.mem_map.mp member
    split
    · exact .inl rfl
    · exact .inr listed
  · rcases List.mem_append.mp member with old | new
    · exact .inr old
    · exact .inl (List.mem_singleton.mp new)

theorem lookup_replace (other : String) :
    (entries.map fun entry => if entry.1 == key then (key, record) else entry).lookup other =
      if other = key then (entries.lookup key).map fun _ => record else entries.lookup other := by
  induction entries with
  | nil => simp
  | cons entry entries ih =>
    obtain ⟨its, old⟩ := entry
    simp only [beq_iff_eq] at ih ⊢
    rw [List.map_cons]
    by_cases here : its = key
    · subst here
      by_cases same : other = its
      · simp [same]
      · simp [same, List.lookup_cons, beq_eq_false_iff_ne.mpr same, ih]
    · by_cases same : other = its
      · simp [here, same]
      · simp [here, List.lookup_cons, beq_eq_false_iff_ne.mpr same,
          beq_eq_false_iff_ne.mpr (Ne.symm here), ih]

theorem lookup_putEntry (other : String) :
    (putEntry entries key record).lookup other =
      if other = key then some record else entries.lookup other := by
  rw [putEntry]
  split
  · -- the entry of the key is replaced
    rename_i present
    obtain ⟨entry, member, same⟩ := List.any_eq_true.mp present
    have found : (entries.lookup key).isSome :=
      List.lookup_isSome_iff.mpr ⟨entry, member, beq_iff_eq.mpr (beq_iff_eq.mp same).symm⟩
    obtain ⟨old, found⟩ := Option.isSome_iff_exists.mp found
    rw [lookup_replace, found]
    rfl
  · -- the entry comes last, behind entries with other keys
    rename_i absent
    have unknown : entries.lookup key = none := by
      rw [List.lookup_eq_none_iff]
      intro entry member
      rw [bne_iff_ne]
      rintro rfl
      exact absent (List.any_eq_true.mpr ⟨entry, member, beq_self_eq_true _⟩)
    rw [List.lookup_append]
    by_cases same : other = key
    · rw [same, unknown, if_pos rfl, Option.none_or, List.lookup_cons_self]
    · rw [if_neg same, List.lookup_cons, beq_eq_false_iff_ne.mpr same, List.lookup_nil, Option.or_none]

/-- What is put takes the place of what has its key, and all else stays. -/
theorem mem_putEntry_iff (once : (entries.map (·.1)).Nodup) {entry : String × Record} :
    entry ∈ putEntry entries key record ↔ entry = (key, record) ∨ entry ∈ entries ∧ entry.1 ≠ key := by
  obtain ⟨its, held⟩ := entry
  rw [← lookup_eq_some_iff (nodup_putEntry once), ← lookup_eq_some_iff once, lookup_putEntry, Prod.mk.injEq]
  by_cases same : its = key
  · simp [same, eq_comm]
  · simp [same]

theorem Storable.putEntry (storable : Storable entries) (held : record.IsStorable) :
    Storable (putEntry entries key record) where
  once := nodup_putEntry storable.once
  held entry member := by
    rcases mem_putEntry member with rfl | old
    · exact held
    · exact storable.held entry old

theorem Storable.filter (storable : Storable entries) (keep : String × Record → Bool) :
    Storable (entries.filter keep) where
  once := storable.once.sublist (List.filter_sublist.map _)
  held entry member := storable.held entry (List.mem_filter.mp member).1

/-! ## Removing by address -/

/-- The ledger without the entry that a record is found by. -/
def without (ledger : Ledger) (found : Record) (now : Instant) : Ledger :=
  { ledger with entries := ledger.entries.filter (·.1 != found.key), updatedAt := now }

theorem removeByAddress_cases (ledger : Ledger) (address : Net.Address) (now : Instant) :
    ledger.removeByAddress address now = (none, ledger) ∨
      ∃ found removed, (∃ key, (key, found) ∈ ledger.entries) ∧ address ∈ found.addresses ∧
        ledger.removeByAddress address now = (some removed, ledger.without found now) := by
  rw [removeByAddress]
  cases known : ledger.findByAddress? address with
  | none => exact .inl rfl
  | some found =>
    obtain ⟨⟨key, its⟩, search, rfl⟩ := Option.map_eq_some_iff.mp known
    dsimp only
    -- the record is searched by its addresses but removed by its key
    cases there : ledger.entries.lookup its.key with
    | none => exact .inl rfl
    | some removed =>
      have listed := List.find?_some search
      exact .inr ⟨its, removed, ⟨key, List.mem_of_find?_eq_some search⟩,
        List.contains_iff_mem.mp listed, rfl⟩

/-- What may be left of entries where a record with an address is removed. The record is searched by its
addresses, and what goes is what lies under its key. -/
inductive Removes (address : Net.Address) (before : List (String × Record)) : List (String × Record) → Prop where
  | none (absent : ∀ entry ∈ before, address ∉ entry.2.addresses) : Removes address before before
  | one {entry : String × Record} (listed : entry ∈ before) (has : address ∈ entry.2.addresses) :
      Removes address before (before.filter (·.1 != entry.2.key))

theorem removes_removeByAddress (ledger : Ledger) (address : Net.Address) (now : Instant) :
    Removes address ledger.entries (ledger.removeByAddress address now).2.entries := by
  rw [removeByAddress, findByAddress?]
  cases search : ledger.entries.find? (·.2.addresses.contains address) with
  | none =>
    rw [List.find?_eq_none] at search
    exact .none fun entry member has => search entry member (List.contains_iff_mem.mpr has)
  | some entry =>
    have found := List.find?_some search
    have has : address ∈ entry.2.addresses := List.contains_iff_mem.mp found
    have removes := Removes.one (List.mem_of_find?_eq_some search) has
    dsimp only [Option.map_some]
    cases there : ledger.entries.lookup entry.2.key with
    | some removed => exact removes
    | none =>
      -- nothing lies under the key, so nothing is left out
      have all : ledger.entries.filter (·.1 != entry.2.key) = ledger.entries := by
        refine List.filter_eq_self.mpr fun other member => bne_iff_ne.mpr (Ne.symm ?_)
        exact bne_iff_ne.mp (List.lookup_eq_none_iff.mp there other member)
      rwa [all] at removes

/-- Where each record lies under its own key, the record with the address is the one that goes. -/
theorem Removes.keyed {address : Net.Address} {before after : List (String × Record)}
    (removes : Removes address before after) (once : (before.map (·.1)).Nodup)
    (keyed : ∀ entry ∈ before, entry.2.key = entry.1) :
    (∀ entry ∈ before, address ∉ entry.2.addresses) ∧ after = before ∨
      ∃ entry ∈ before, address ∈ entry.2.addresses ∧ after = before.filter (· ≠ entry) := by
  cases removes with
  | none absent => exact .inl ⟨absent, rfl⟩
  | @one entry listed has =>
    refine .inr ⟨entry, listed, has, List.filter_congr fun other member => ?_⟩
    have same : other.1 = entry.2.key ↔ other = entry := by
      rw [keyed entry listed]
      constructor
      · intro same
        have its := lookup_of_nodup once member
        rw [same, lookup_of_nodup once listed] at its
        exact Prod.ext same (Option.some.inj its).symm
      · rintro rfl
        rfl
    rw [Bool.eq_iff_iff, bne_iff_ne, decide_eq_true_iff]
    exact not_congr same

/-! ## The balancers of a run -/

/-- What the record of a balancer at a location is found by. -/
def keyAt (name : String) (location : Location) : String :=
  name ++ ":" ++ location.id

theorem keyAt_inj {name : String} {first second : Location} :
    keyAt name first = keyAt name second ↔ first.id = second.id := by
  simp [keyAt, ← String.toList_inj]

/-- Records of balancers are put one after another, each with the time at which it is made. -/
inductive Inserts (provider : String) (spec : BalancerSpec) :
    List (Location × Outcome) → List (String × Record) → List (String × Record) → Prop where
  | nil {entries : List (String × Record)} : Inserts provider spec [] entries entries
  | cons {location : Location} {outcome : Outcome} {made : List (Location × Outcome)}
      {entries after : List (String × Record)} {now : Instant} (held : Instant.IsYear now.date.year)
      (rest : Inserts provider spec made (putEntry entries (keyAt spec.name location)
        (Record.ofOutcome provider location spec outcome now)) after) :
      Inserts provider spec ((location, outcome) :: made) entries after

variable {provider : String} {spec : BalancerSpec} {made : List (Location × Outcome)}
  {after : List (String × Record)}

theorem Inserts.storable (inserts : Inserts provider spec made entries after)
    (storable : Storable entries) : Storable after := by
  induction inserts with
  | nil => exact storable
  | cons held _ ih => exact ih (storable.putEntry held)

theorem Inserts.lookup_other (inserts : Inserts provider spec made entries after)
    (other : ∀ entry ∈ made, key ≠ keyAt spec.name entry.1) : after.lookup key = entries.lookup key := by
  induction inserts with
  | nil => rfl
  | cons held _ ih =>
    obtain ⟨first, rest⟩ := List.forall_mem_cons.mp other
    rw [ih rest, lookup_putEntry, if_neg first]

/-- The entries after a run that made these balancers. -/
structure Updates (provider : String) (spec : BalancerSpec) (made : List (Location × Outcome))
    (before after : List (String × Record)) : Prop where
  /-- Each key stands once. -/
  once : (after.map (·.1)).Nodup
  /-- The record of a balancer that was made is found by its key. -/
  fresh : ∀ entry ∈ made, ∃ now, after.lookup (keyAt spec.name entry.1) =
    some (Record.ofOutcome provider entry.1 spec entry.2 now)
  /-- Any other key finds what it found before. -/
  old : ∀ key, (∀ entry ∈ made, key ≠ keyAt spec.name entry.1) → after.lookup key = before.lookup key

theorem Inserts.updates (inserts : Inserts provider spec made entries after) (storable : Storable entries)
    (distinct : (made.map (·.1.id)).Nodup) : Updates provider spec made entries after where
  once := (inserts.storable storable).once
  fresh := by
    clear storable
    induction inserts with
    | nil => simp
    | @cons location outcome made entries after now held rest ih =>
      rw [List.map_cons, List.nodup_cons] at distinct
      refine List.forall_mem_cons.mpr ⟨⟨now, ?_⟩, ih distinct.2⟩
      -- no later balancer has the key
      rw [rest.lookup_other, lookup_putEntry, if_pos rfl]
      intro entry member same
      exact distinct.1 (List.mem_map.mpr ⟨entry, member, (keyAt_inj.mp same).symm⟩)
  old _ other := inserts.lookup_other other

end CloudBalance.Ledger
