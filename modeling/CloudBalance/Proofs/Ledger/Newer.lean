import CloudBalance.Proofs.Json.Members
import CloudBalance.Proofs.Ledger.Reload

/-!
# Ledgers of a newer version

The version of a ledger is looked at once the whole of it is read in the form that is known. Main statement: a ledger of
a newer version is told from one that cannot be read exactly if all else that is known of a ledger has the known form
in it, too.
-/

namespace CloudBalance.Ledger

open Json (IsRead slotOf valuesOf)
open Time (Instant)

variable {members entries : List (String × Json)} {values : List Json} {v : Nat} {text : String}

/-! ## Ledgers that can be read -/

theorem isSome_entriesOfJson? :
    (entriesOfJson? (.object entries)).isSome ↔ ∀ entry ∈ entries, (Record.ofJson? entry.2).isSome := by
  rw [entriesOfJson?, Option.bind_eq_bind, Option.isSome_bind, Option.any_eq_true_iff_get]
  simp only [Option.pure_def, Option.isSome_some, exists_prop, and_true]
  rw [Json.isSome_mapM]
  simp only [Option.isSome_map]

theorem isRead_entries :
    IsRead entriesOfJson? values ↔
      ∃ entries, values = [.object entries] ∧ ∀ entry ∈ entries, (Record.ofJson? entry.2).isSome := by
  constructor
  · rintro ⟨value, rfl, read⟩
    cases value with
    | object entries => exact ⟨entries, rfl, isSome_entriesOfJson?.mp read⟩
    | _ => cases read
  · rintro ⟨entries, rfl, read⟩
    exact ⟨_, rfl, isSome_entriesOfJson?.mpr read⟩

/-- Beside the version the members of an object are as those of a ledger must be: there is one time and one object
of records. -/
structure HasKnownForm (members : List (String × Json)) : Prop where
  updated : IsRead Instant.ofJson? (valuesOf "updated_at" members)
  entries : ∃ entries, valuesOf "load_balancers" members = [.object entries] ∧
    ∀ entry ∈ entries, (Record.ofJson? entry.2).isSome

theorem HasKnownForm.once (form : HasKnownForm members) (version : valuesOf "version" members = [.ofNat v]) :
    ∀ name ∈ ["version", "updated_at", "load_balancers"], (valuesOf name members).length ≤ 1 := by
  obtain ⟨entries, alone, _⟩ := form.entries
  simp only [List.forall_mem_cons, List.not_mem_nil, false_imp_iff, implies_true, and_true]
  exact ⟨by simp [version], form.updated.once, by simp [alone]⟩

/-- An object with a version is read as a ledger of it exactly if the other members have the known form. -/
theorem ofJson?_members (version : valuesOf "version" members = [.ofNat v]) (fits : v < UInt32.size) :
    (HasKnownForm members → ∃ ledger, ofJson? (.object members) = some ledger ∧ ledger.version = v.toUInt32) ∧
    (¬ HasKnownForm members → ofJson? (.object members) = none) := by
  rw [ofJson?, Json.slots?_members]
  -- a name that comes twice spoils the whole, and so it does the known form
  by_cases once : ∀ name ∈ ["version", "updated_at", "load_balancers"], (valuesOf name members).length ≤ 1
  · rw [if_pos once]
    have read : (slotOf (valuesOf "version" members)).required (Json.toNatBelow? UInt32.size) = some v := by
      rw [version]
      exact Json.toNatBelow?_ofNat fits
    have updated : ((slotOf (valuesOf "updated_at" members)).required Instant.ofJson?).isSome ↔ _ :=
      Json.isSome_required (once "updated_at" (by simp))
    have entries : ((slotOf (valuesOf "load_balancers" members)).required entriesOfJson?).isSome ↔ _ :=
      (Json.isSome_required (once "load_balancers" (by simp))).trans isRead_entries
    simp only [List.map_cons, List.map_nil, Option.bind_eq_bind, Option.bind_some, read, Option.pure_def]
    constructor
    · intro form
      obtain ⟨updatedAt, time⟩ := Option.isSome_iff_exists.mp (updated.mpr form.updated)
      obtain ⟨records, held⟩ := Option.isSome_iff_exists.mp (entries.mpr form.entries)
      exact ⟨⟨v.toUInt32, updatedAt, records⟩, by rw [time, held]; rfl, rfl⟩
    · intro unknown
      by_contra found
      obtain ⟨ledger, found⟩ := Option.ne_none_iff_exists'.mp found
      simp only [Option.bind_eq_some_iff] at found
      obtain ⟨updatedAt, time, records, held, _⟩ := found
      exact unknown ⟨updated.mp (by rw [time]; rfl), entries.mp (by rw [held]; rfl)⟩
  · rw [if_neg once]
    exact ⟨fun form => absurd (form.once version) once, fun _ => rfl⟩

/-! ## What is said of them -/

/-- A ledger of a newer version is refused as such exactly if it is read at all. -/
theorem ledgerOfText_newer (newer : currentVersion.toNat < v) (fits : v < UInt32.size)
    (parsed : Json.parse? text = some (.object members)) (version : valuesOf "version" members = [.ofNat v]) :
    (HasKnownForm members → Store.ledgerOfText text = .error (.state ("State file version " ++ toString v
      ++ " is newer than supported version " ++ toString currentVersion))) ∧
    (¬ HasKnownForm members → Store.ledgerOfText text = .error .malformed) := by
  obtain ⟨known, unknown⟩ := ofJson?_members version fits
  rw [Store.ledgerOfText, Json.decode?, parsed, Option.bind_some]
  constructor
  · intro form
    obtain ⟨ledger, read, its⟩ := known form
    have same : v.toUInt32.toNat = v := UInt32.toNat_ofNat_of_lt' fits
    have less : currentVersion < ledger.version := by
      rw [its, UInt32.lt_iff_toNat_lt, same]
      exact newer
    have named : toString ledger.version = toString v := by
      rw [its]
      exact congrArg toString same
    rw [read]
    dsimp only
    rw [if_pos less, named]
  · intro other
    rw [unknown other]

variable {store : Store} {disk : Disk}

/-- A ledger whose version is newer is refused by its version exactly if all else that is known of a ledger has the
known form in it. Otherwise nothing is said of its version. Either way the disk stays as it is. -/
theorem newer_recognised_iff (newer : currentVersion.toNat < v) (fits : v < UInt32.size)
    (lies : disk.find? store.ledgerPath = some (.file (Text.encode text)))
    (parsed : Json.parse? text = some (.object members)) (version : valuesOf "version" members = [.ofNat v]) :
    (store.load.run.Yields Local.onDisk disk (.error (.state ("State file version " ++ toString v
      ++ " is newer than supported version " ++ toString currentVersion))) disk ↔ HasKnownForm members) ∧
    (store.load.run.Yields Local.onDisk disk (.error .malformed) disk ↔ ¬ HasKnownForm members) := by
  obtain ⟨known, unknown⟩ := ledgerOfText_newer newer fits parsed version
  have yields : ∀ {result}, Store.ledgerOfText text = result → store.load.run.Yields Local.onDisk disk result disk := by
    intro result held
    refine Store.yields_load lies ?_
    rw [Store.ledgerOfBytes, Local.textOf, Text.decode?_encode]
    exact held
  -- reading returns one thing, so either refusal rules the other out
  refine ⟨⟨fun refused => ?_, fun form => yields (known form)⟩, fun refused form => ?_,
    fun other => yields (unknown other)⟩
  · by_contra other
    cases (refused.unique (yields (unknown other))).1
  · cases (refused.unique (yields (known form))).1

/-- A later form in which the records have another name. -/
def renamed : List (String × Json) :=
  [("version", .ofNat 2), ("updated_at", .string "2020-01-01T00:00:00Z"), ("balancers", .object [])]

/-- The disk of a project whose ledger has this form. -/
def renamedDisk : Disk :=
  ⟨[([".nimbus"], .directory), ([".nimbus", "state.json"], .file (Text.encode (Json.object renamed).pretty))], []⟩

theorem newer_recognised_iff_renamed :
    currentVersion.toNat < 2 ∧ 2 < UInt32.size ∧
    renamedDisk.find? Store.atRoot.ledgerPath = some (.file (Text.encode (Json.object renamed).pretty)) ∧
    Json.parse? (Json.object renamed).pretty = some (.object renamed) ∧
    valuesOf "version" renamed = [.ofNat 2] ∧
    Store.atRoot.load.run.Yields Local.onDisk renamedDisk (.error .malformed) renamedDisk := by
  have plain : (Json.object renamed).IsPlain := by
    simp only [renamed, Json.IsPlain, Json.MembersPlain, and_true]
    exact Json.isPlain_ofNat (by decide)
  have newer : currentVersion.toNat < 2 := by decide
  have fits : 2 < UInt32.size := by decide
  have lies : renamedDisk.find? Store.atRoot.ledgerPath =
      some (.file (Text.encode (Json.object renamed).pretty)) := rfl
  have parsed := Json.parse?_pretty plain
  have version : valuesOf "version" renamed = [.ofNat 2] := by simp [renamed, valuesOf]
  have other : ¬ HasKnownForm renamed := by
    intro form
    obtain ⟨entries, alone, _⟩ := form.entries
    simp [renamed, valuesOf] at alone
  exact ⟨newer, fits, lies, parsed, version, (newer_recognised_iff newer fits lies parsed version).2.mpr other⟩

end CloudBalance.Ledger
