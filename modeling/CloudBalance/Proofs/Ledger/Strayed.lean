import CloudBalance.Proofs.Ledger.Reached
import CloudBalance.Proofs.Ledger.Saving

/-!
# Records under other keys

A ledger is read as its file has it, also where a record does not lie under its own key. Removing by an address searches
a record by its addresses, but what goes is what lies under the key that this record should have. Main statement: so
removing is safe exactly if under the key of each record with the address there is a record with the address.
-/

namespace CloudBalance.Ledger

open Net (Address)
open Store (Sane ensures_load_faltering exists_run_load loads_encode)
open Time (Instant)

variable {ledger : Ledger} {entries : List (String × Record)} {address : Address} {now : Instant}

/-- Removing by an address is safe: a change is that one record with the address is gone, which is the one that is
returned, and one is returned if there is any. -/
structure RemovesSafely (address : Address) (before : Ledger) (removed : Option Record) (after : Ledger) : Prop where
  changes : after ≠ before → ∃ entry, removed = some entry.2 ∧ address ∈ entry.2.addresses ∧
    before.entries.Perm (entry :: after.entries)
  answers : (∃ entry ∈ before.entries, address ∈ entry.2.addresses) → removed.isSome

/-- What lies under the key of each record with the address has the address, too. -/
def Agrees (address : Address) (entries : List (String × Record)) : Prop :=
  ∀ entry ∈ entries, address ∈ entry.2.addresses →
    ∃ record, entries.lookup entry.2.key = some record ∧ address ∈ record.addresses

theorem Agrees.perm {others : List (String × Record)} (agrees : Agrees address entries)
    (once : (entries.map (·.1)).Nodup) (same : others.Perm entries) : Agrees address others := by
  intro entry member has
  rw [lookup_perm once same]
  exact agrees entry (same.mem_iff.mp member) has

theorem Keyed.agrees (keyed : Keyed entries) (address : Address) : Agrees address entries :=
  fun _ member has => ⟨_, keyed.lookup_own member, has⟩

/-- What was found is removed if it lies under its key. -/
theorem removeByAddress_of_find? {entry : String × Record}
    (search : ledger.entries.find? (·.2.addresses.contains address) = some entry) :
    ledger.removeByAddress address now =
      match ledger.entries.lookup entry.2.key with
      | none => (none, ledger)
      | some removed => (some removed, ledger.without entry.2 now) := by
  rw [removeByAddress, findByAddress?, search]
  rfl

theorem removesSafely_of_agrees (once : (ledger.entries.map (·.1)).Nodup) (agrees : Agrees address ledger.entries)
    (now : Instant) :
    RemovesSafely address ledger (ledger.removeByAddress address now).1 (ledger.removeByAddress address now).2 := by
  cases search : ledger.entries.find? (·.2.addresses.contains address) with
  | none =>
    have same : ledger.removeByAddress address now = (none, ledger) := by
      rw [removeByAddress, findByAddress?, search]
      rfl
    rw [same]
    rw [List.find?_eq_none] at search
    refine ⟨fun changed => absurd rfl changed, ?_⟩
    rintro ⟨entry, member, has⟩
    exact absurd (List.contains_iff_mem.mpr has) (search entry member)
  | some entry =>
    have found := List.find?_some search
    have has : address ∈ entry.2.addresses := List.contains_iff_mem.mp found
    obtain ⟨record, known, its⟩ := agrees entry (List.mem_of_find?_eq_some search) has
    rw [removeByAddress_of_find? search, known]
    exact ⟨fun _ => ⟨(entry.2.key, record), rfl, its, perm_cons_filter_ne once known⟩, fun _ => rfl⟩

/-- Whatever is found first has to agree with what lies under its key. -/
theorem exists_lookup_of_removesSafely {entry : String × Record} (has : address ∈ entry.2.addresses)
    (search : ledger.entries.find? (·.2.addresses.contains address) = some entry)
    (safe : RemovesSafely address ledger (ledger.removeByAddress address now).1
      (ledger.removeByAddress address now).2) :
    ∃ record, ledger.entries.lookup entry.2.key = some record ∧ address ∈ record.addresses := by
  have answered := safe.answers ⟨entry, List.mem_of_find?_eq_some search, has⟩
  have changes := safe.changes
  rw [removeByAddress_of_find? search] at answered changes
  cases known : ledger.entries.lookup entry.2.key with
  | none =>
    rw [known] at answered
    cases answered
  | some record =>
    rw [known] at changes
    have changed : ledger.without entry.2 now ≠ ledger := by
      intro same
      have kept : (ledger.entries.filter (·.1 != entry.2.key)).lookup entry.2.key = some record := by
        rw [show ledger.entries.filter (·.1 != entry.2.key) = ledger.entries from congrArg Ledger.entries same, known]
      rw [lookup_filter_ne, if_pos rfl] at kept
      cases kept
    obtain ⟨gone, same, its, _⟩ := changes changed
    exact ⟨record, rfl, Option.some.inj same ▸ its⟩

/-- In a ledger that was read, removing by an address is safe, in whatever order the entries are searched, exactly if
what lies under the key of each record with the address has the address, too. So it is safe for each address where each
record lies under its own key. -/
theorem removesSafely_iff_agrees {store : Store} {disk after : Disk} {events : List Local.Event}
    (loads : store.load.run.Runs Local.faltering disk events (some (.ok ledger)) after) (now : Instant) :
    (∀ address, (∀ entries, entries.Perm ledger.entries →
        RemovesSafely address { ledger with entries } (({ ledger with entries } : Ledger).removeByAddress address now).1
          (({ ledger with entries } : Ledger).removeByAddress address now).2) ↔ Agrees address ledger.entries) ∧
      ((∀ entry ∈ ledger.entries, entry.2.key = entry.1) → ∀ address, RemovesSafely address ledger
        (ledger.removeByAddress address now).1 (ledger.removeByAddress address now).2) := by
  have once := ((ensures_load_faltering _ _ _ loads).2 ledger rfl).sane.storable.once
  refine ⟨fun address => ⟨fun safe entry member has => ?_, fun agrees entries same => ?_⟩, fun own address => ?_⟩
  · -- there is an order in which this record comes first
    obtain ⟨before, behind, split⟩ := List.append_of_mem member
    have same : (entry :: (before ++ behind)).Perm ledger.entries := by
      rw [split]
      exact List.perm_middle.symm
    have search : (entry :: (before ++ behind)).find? (·.2.addresses.contains address) = some entry :=
      List.find?_cons_of_pos (List.contains_iff_mem.mpr has)
    have found := exists_lookup_of_removesSafely has search (safe _ same)
    rwa [lookup_perm once same] at found
  · exact removesSafely_of_agrees ((same.map _).nodup_iff.mpr once) (agrees.perm once same) now
  · exact removesSafely_of_agrees once (Keyed.agrees ⟨once, own⟩ address) now

section Stray

open Store (atRoot at_saved recordIn saved storable_recordIn)

/-- The balancer `web` of the zone `tk1a` does not lie under its key, and `api` of the zone `is1a` does. -/
def strayed : Ledger :=
  ⟨currentVersion, default,
    [("stray", recordIn "web" "tk1a" (.resolved "one.example.net" [.v4 198 51 100 1])),
      ("web:tk1a", recordIn "api" "is1a" (.resolved "two.example.net" [.v4 198 51 100 2]))]⟩

theorem sane_strayed : Sane strayed where
  known := UInt32.le_refl _
  storable :=
    { once := by decide
      held := by
        intro entry member
        rcases List.mem_cons.mp member with rfl | later
        · exact storable_recordIn _ _ _
        · cases List.mem_singleton.mp later
          exact storable_recordIn _ _ _ }

/-- The address is that of `web`, and `api` goes. -/
theorem removes_other_of_strayed :
    ∃ events, atRoot.load.run.Runs Local.faltering (saved strayed) events (some (.ok strayed)) (saved strayed) ∧
      (strayed.removeByAddress (.v4 198 51 100 1) default).1 = strayed.entries.lookup "web:tk1a" ∧
      ¬ ∀ entries, entries.Perm strayed.entries → RemovesSafely (.v4 198 51 100 1) { strayed with entries }
        (({ strayed with entries } : Ledger).removeByAddress (.v4 198 51 100 1) default).1
        (({ strayed with entries } : Ledger).removeByAddress (.v4 198 51 100 1) default).2 := by
  have loaded := loads_encode sane_strayed Instant.isYear_default
  obtain ⟨events, run⟩ := exists_run_load (at_saved strayed).holds loaded
  have loads := run.mono Local.faltering_of_onDisk
  refine ⟨events, loads, by decide +kernel, fun safe => ?_⟩
  have agrees := ((removesSafely_iff_agrees loads default).1 _).mp safe
  obtain ⟨record, known, has⟩ := agrees _ List.mem_cons_self (by decide)
  cases Option.some.inj known
  exact absurd has (by decide)

end Stray

end CloudBalance.Ledger
