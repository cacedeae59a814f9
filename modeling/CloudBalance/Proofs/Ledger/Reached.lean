import CloudBalance.Proofs.Ledger.Reload
import CloudBalance.Proofs.Text.Order

/-!
# Ledgers that are reached

A ledger begins without records; records are inserted and removed, and the ledger is saved and read again. In a
ledger that is reached in this way each record lies under its own key. Main statement: so removing by an address
removes a record with the address if there is one, and nothing else, and the records are listed once each, by name
and location, in whatever order the ledger holds them.
-/

namespace CloudBalance.Ledger

open Net (Address)
open Store (Sane sane_new atRoot spoiledTwice two)
open Time (Instant)

/-- The ledgers that come of inserting and removing records, and of saving and reading, from a new one. A ledger may
hold its entries in any order. Every time is one that can be held. -/
inductive Reached : Ledger → Prop where
  | new {now : Instant} (held : Instant.IsYear now.date.year) : Reached (Ledger.new now)
  | insert {ledger : Ledger} {record : Record} {now : Instant} (reached : Reached ledger)
      (storable : record.IsStorable) (held : Instant.IsYear now.date.year) : Reached (ledger.insert record now)
  | remove {ledger : Ledger} {address : Address} {now : Instant} (reached : Reached ledger)
      (held : Instant.IsYear now.date.year) : Reached (ledger.removeByAddress address now).2
  | reload {ledger loaded : Ledger} {store : Store} {disk between after : Disk} {saving reading : List Local.Event}
      (reached : Reached ledger)
      (saves : (store.save ledger).run.Runs Local.faltering disk saving (some (.ok ())) between)
      (loads : store.load.run.Runs Local.faltering between reading (some (.ok loaded)) after) : Reached loaded
  | reorder {ledger : Ledger} {entries : List (String × Record)} (reached : Reached ledger)
      (same : entries.Perm ledger.entries) : Reached { ledger with entries }

variable {ledger : Ledger} {entries : List (String × Record)} {record : Record} {address : Address} {now : Instant}

/-! ## Records under their own keys -/

/-- Each key stands once, and each record lies under its own one. -/
structure Keyed (entries : List (String × Record)) : Prop where
  once : (entries.map (·.1)).Nodup
  own : ∀ entry ∈ entries, entry.2.key = entry.1

theorem Keyed.lookup_own (keyed : Keyed entries) {entry : String × Record} (member : entry ∈ entries) :
    entries.lookup entry.2.key = some entry.2 := by
  rw [keyed.own entry member]
  exact lookup_of_nodup keyed.once member

theorem Keyed.nodup_keys (keyed : Keyed entries) : ((entries.map (·.2)).map Record.key).Nodup := by
  have same : (entries.map (·.2)).map Record.key = entries.map (·.1) := by
    rw [List.map_map]
    exact List.map_congr_left keyed.own
  rw [same]
  exact keyed.once

theorem Keyed.putEntry (keyed : Keyed entries) : Keyed (putEntry entries record.key record) where
  once := nodup_putEntry keyed.once
  own entry member := by
    rcases mem_putEntry member with rfl | old
    · rfl
    · exact keyed.own entry old

theorem Keyed.filter (keyed : Keyed entries) (keep : String × Record → Bool) : Keyed (entries.filter keep) where
  once := keyed.once.sublist (List.filter_sublist.map _)
  own entry member := keyed.own entry (List.mem_filter.mp member).1

theorem Keyed.perm {others : List (String × Record)} (keyed : Keyed entries) (same : others.Perm entries) :
    Keyed others where
  once := (same.map _).nodup_iff.mpr keyed.once
  own entry member := keyed.own entry (same.mem_iff.mp member)

/-! ## Removing by address -/

/-- What comes of removing by an address: the record that was removed, if any, and the ledger that is left. -/
structure TakesOut (address : Address) (before : Ledger) (removed : Option Record) (after : Ledger) : Prop where
  some_iff : removed.isSome ↔ ∃ entry ∈ before.entries, address ∈ entry.2.addresses
  unchanged : removed = none → after = before
  listed : ∀ record ∈ removed, address ∈ record.addresses ∧ before.entries.lookup record.key = some record
  /-- No other entry changes. -/
  gone : ∀ record ∈ removed, after.version = before.version ∧
    ∀ key, after.entries.lookup key = if key = record.key then none else before.entries.lookup key

theorem takesOut_removeByAddress (keyed : Keyed ledger.entries) (address : Address) (now : Instant) :
    TakesOut address ledger (ledger.removeByAddress address now).1 (ledger.removeByAddress address now).2 := by
  rw [removeByAddress, findByAddress?]
  cases search : ledger.entries.find? (·.2.addresses.contains address) with
  | none =>
    rw [List.find?_eq_none] at search
    refine ⟨⟨by simp, ?_⟩, fun _ => rfl, by simp, by simp⟩
    rintro ⟨entry, member, has⟩
    exact absurd (List.contains_iff_mem.mpr has) (search entry member)
  | some entry =>
    -- the record is found under its key, so it is the one that goes
    have member := List.mem_of_find?_eq_some search
    have found := List.find?_some search
    have has : address ∈ entry.2.addresses := List.contains_iff_mem.mp found
    have known := keyed.lookup_own member
    dsimp only [Option.map_some]
    rw [known]
    refine ⟨⟨fun _ => ⟨entry, member, has⟩, fun _ => rfl⟩, by simp, ?_, ?_⟩
    · rintro _ ⟨⟩
      exact ⟨has, known⟩
    · rintro _ ⟨⟩
      exact ⟨rfl, fun key => lookup_filter_ne ledger.entries entry.2.key key⟩

/-! ## The list of records -/

/-- A record comes before another one by its name, or for the same name by the id of the location. -/
def Record.Before (first second : Record) : Prop :=
  first.name < second.name ∨ first.name = second.name ∧ first.location.id < second.location.id

theorem Record.Before.asymm {first second : Record} (before : first.Before second) : ¬ second.Before first := by
  rintro (name | ⟨same, id⟩)
  · rcases before with name' | ⟨same', _⟩
    · exact String.lt_irrefl _ (String.lt_trans name name')
    · exact String.lt_irrefl _ (same' ▸ name)
  · rcases before with name' | ⟨_, id'⟩
    · exact String.lt_irrefl _ (same ▸ name')
    · exact String.lt_irrefl _ (String.lt_trans id id')

theorem records_perm (ledger : Ledger) : ledger.records.Perm (ledger.entries.map (·.2)) :=
  Text.sortBy_perm.trans Text.sortBy_perm

theorem pairwise_records (keyed : Keyed ledger.entries) : ledger.records.Pairwise Record.Before := by
  have distinct : ledger.records.Pairwise fun first second => first.key ≠ second.key :=
    List.pairwise_map.mp (((records_perm ledger).map _).nodup_iff.mpr keyed.nodup_keys)
  refine (Text.pairwise_sortBy_sortBy.and distinct).imp fun {first second} both => ?_
  obtain ⟨earlier | ⟨name, id⟩, differs⟩ := both
  · exact .inl earlier
  · refine .inr ⟨name, Decidable.by_contra fun above => differs ?_⟩
    have same : first.location.id = second.location.id := Text.le_antisymm id (by simpa [Text.le] using above)
    rw [Record.key, Record.key, name, same]

theorem records_reorder {others : List (String × Record)} (keyed : Keyed ledger.entries)
    (same : others.Perm ledger.entries) : { ledger with entries := others }.records = ledger.records := by
  refine List.Perm.eq_of_pairwise (fun _ _ _ _ before after => absurd after before.asymm)
    (pairwise_records (keyed.perm same)) (pairwise_records keyed) ?_
  exact (records_perm _).trans ((same.map _).trans (records_perm ledger).symm)

/-! ## What each of the steps keeps -/

/-- What holds of a ledger that is reached. -/
structure Settled (ledger : Ledger) : Prop where
  sane : Sane ledger
  updated : Instant.IsYear ledger.updatedAt.date.year
  keyed : Keyed ledger.entries

theorem settled_new (held : Instant.IsYear now.date.year) : Settled (Ledger.new now) :=
  ⟨sane_new now, held, ⟨List.nodup_nil, by simp [Ledger.new]⟩⟩

theorem Settled.insert (settled : Settled ledger) (storable : record.IsStorable)
    (held : Instant.IsYear now.date.year) : Settled (ledger.insert record now) :=
  ⟨settled.sane.insert storable now, held, settled.keyed.putEntry⟩

theorem Settled.remove (settled : Settled ledger) (held : Instant.IsYear now.date.year) :
    Settled (ledger.removeByAddress address now).2 := by
  rcases ledger.removeByAddress_cases address now with same | ⟨found, removed, _, _, same⟩
  · rwa [same]
  · rw [same]
    exact ⟨settled.sane.without found now, held, settled.keyed.filter _⟩

theorem Settled.reorder (settled : Settled ledger) (same : entries.Perm ledger.entries) :
    Settled { ledger with entries } :=
  ⟨settled.sane.reorder same, settled.updated, settled.keyed.perm same⟩

theorem Reached.settled (reached : Reached ledger) : Settled ledger := by
  induction reached with
  | new held => exact settled_new held
  | insert _ storable held ih => exact ih.insert storable held
  | remove _ held ih => exact ih.remove held
  | reload _ saves loads ih =>
    rw [Store.eq_of_reload ih.sane ih.updated saves loads]
    exact ih
  | reorder _ same ih => exact ih.reorder same

/-- In a ledger that is reached each record lies under its own key. Removing by an address removes a record that has
it, if there is one, and no other. The records are listed once each, in the order of their names and locations,
which does not depend on the order of the entries. -/
theorem reached_keyed (reached : Reached ledger) :
    (∀ entry ∈ ledger.entries, entry.2.key = entry.1) ∧
    (∀ address now, TakesOut address ledger (ledger.removeByAddress address now).1
      (ledger.removeByAddress address now).2) ∧
    ledger.records.Perm (ledger.entries.map (·.2)) ∧ ledger.records.Pairwise Record.Before ∧
    ∀ others, others.Perm ledger.entries → { ledger with entries := others }.records = ledger.records := by
  have keyed := reached.settled.keyed
  exact ⟨keyed.own, takesOut_removeByAddress keyed, records_perm ledger, pairwise_records keyed,
    fun _ => records_reorder keyed⟩

theorem reached_keyed_two :
    Reached two ∧ (∀ entry ∈ two.entries, entry.2.key = entry.1) ∧
      TakesOut (.v4 192 0 2 1) two (two.entries.lookup "wéb:東京:1")
        { two with entries := two.entries.filter (·.1 != "wéb:東京:1") } ∧
      ({ two with entries := two.entries.reverse } : Ledger).records = two.records := by
  have year := Instant.isYear_default
  have reached : Reached two :=
    .insert (.insert (.new year) (Store.storable_recordIn _ _ _) year) (Store.storable_recordIn _ _ _) year
  have run : ∃ events after, (atRoot.save two).run.Runs Local.onDisk spoiledTwice events (some (.ok ())) after :=
    ⟨_, _, Local.runs_act rfl rfl⟩
  obtain ⟨_, _, run⟩ := run
  have saves := run.mono Local.faltering_of_onDisk
  have file := Store.ensures_save_found _ _ _ saves rfl
  obtain ⟨_, reads⟩ := (Store.yields_load file (Store.ledgerOfBytes_encode Store.sane_two year)).runs
  have again : Reached two := reached.reload saves (reads.mono Local.faltering_of_onDisk)
  obtain ⟨own, removes, _, _, listed⟩ := reached_keyed again
  have gone : two.removeByAddress (.v4 192 0 2 1) default = (two.entries.lookup "wéb:東京:1",
      { two with entries := two.entries.filter (·.1 != "wéb:東京:1") }) := by
    decide +kernel
  have takes := removes (.v4 192 0 2 1) default
  rw [gone] at takes
  exact ⟨again, own, takes, listed _ (List.reverse_perm _)⟩

end CloudBalance.Ledger
