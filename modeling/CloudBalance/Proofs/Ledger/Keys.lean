import CloudBalance.Proofs.Ledger.Reached
import CloudBalance.Proofs.Text.Separator

/-!
# Balancers with one key

The key of a record is put together from the name of the balancer and the id of its location. Main statement: a record
that is inserted replaces the one that has its key and leaves all others as they are. That one is of another balancer
exactly if name and location of the two overlap around a colon, so none is lost where no name has a colon or no
location.
-/

namespace CloudBalance.Ledger

open Time (Instant)

variable {ledger : Ledger} {first second record : Record} {now : Instant}

/-! ## Keys -/

namespace Record

/-- Two records are of one balancer: they have the same name, and their locations the same id. -/
def OfOne (first second : Record) : Prop :=
  first.name = second.name ∧ first.location.id = second.location.id

/-- The name of the first record is that of the second one and, behind a colon, the front of its location. -/
def Overlaps (first second : Record) : Prop :=
  ∃ between, first.name = second.name ++ ":" ++ between ∧ second.location.id = between ++ ":" ++ first.location.id

theorem key_eq_iff :
    first.key = second.key ↔ first.OfOne second ∨ first.Overlaps second ∨ second.Overlaps first := by
  rw [key, key, Text.separator_eq rfl, OfOne, Overlaps, Overlaps]
  exact or_congr_right or_comm

/-- Records with one key are of one balancer where no name has a colon. -/
theorem not_overlaps_of_name (plain : ':' ∉ first.name.toList) : ¬ first.Overlaps second := by
  rintro ⟨between, longer, _⟩
  exact plain (by simp [longer])

/-- The same where no location has one. -/
theorem not_overlaps_of_location (plain : ':' ∉ second.location.id.toList) : ¬ first.Overlaps second := by
  rintro ⟨between, _, longer⟩
  exact plain (by simp [longer])

end Record

/-! ## What is replaced -/

/-- No two of the records can be mixed up: no name has a colon, or no id of a location. -/
def Plain (records : List Record) : Prop :=
  (∀ record ∈ records, ':' ∉ record.name.toList) ∨ ∀ record ∈ records, ':' ∉ record.location.id.toList

theorem Plain.not_overlaps {records : List Record} (plain : Plain records) (member : first ∈ records)
    (other : second ∈ records) : ¬ first.Overlaps second := by
  rcases plain with names | locations
  · exact Record.not_overlaps_of_name (names first member)
  · exact Record.not_overlaps_of_location (locations second other)

/-- The record that is inserted is there afterwards and takes the place of what has its key; nothing else changes. A
record of another balancer is lost exactly if the two overlap, which is not so where the separator is in no name or in
no location. -/
theorem insert_loses_iff_overlaps (reached : Reached ledger) (record : Record) (now : Instant) :
    (∀ entry, entry ∈ (ledger.insert record now).entries ↔
      entry = (record.key, record) ∨ entry ∈ ledger.entries ∧ entry.2.key ≠ record.key) ∧
    (∀ entry ∈ ledger.entries, ¬ entry.2.OfOne record →
      (entry ∉ (ledger.insert record now).entries ↔ entry.2.Overlaps record ∨ record.Overlaps entry.2)) ∧
    (Plain (record :: ledger.entries.map (·.2)) → ∀ entry ∈ ledger.entries, ¬ entry.2.OfOne record →
      entry ∈ (ledger.insert record now).entries) := by
  have keyed := reached.settled.keyed
  have left : ∀ entry, entry ∈ (ledger.insert record now).entries ↔
      entry = (record.key, record) ∨ entry ∈ ledger.entries ∧ entry.2.key ≠ record.key := by
    intro entry
    rw [insert, mem_putEntry_iff keyed.once]
    refine or_congr_right (and_congr_right fun member => ?_)
    rw [keyed.own entry member]
  have lost : ∀ entry ∈ ledger.entries, ¬ entry.2.OfOne record →
      (entry ∉ (ledger.insert record now).entries ↔ entry.2.Overlaps record ∨ record.Overlaps entry.2) := by
    intro entry member other
    have new : entry ≠ (record.key, record) := by
      rintro rfl
      exact other ⟨rfl, rfl⟩
    calc entry ∉ (ledger.insert record now).entries ↔ entry.2.key = record.key := by simp [left, new, member]
      _ ↔ entry.2.Overlaps record ∨ record.Overlaps entry.2 := by rw [Record.key_eq_iff, or_iff_right other]
  refine ⟨left, lost, fun plain entry member other => ?_⟩
  have among : entry.2 ∈ record :: ledger.entries.map (·.2) :=
    List.mem_cons_of_mem _ (List.mem_map_of_mem member)
  have among' : record ∈ record :: ledger.entries.map (·.2) := List.mem_cons_self
  by_contra gone
  rcases (lost entry member other).mp gone with overlaps | overlaps
  · exact plain.not_overlaps among among' overlaps
  · exact plain.not_overlaps among' among overlaps

section Overlapping

/-- A balancer at a zone. -/
def balancerAt (name zone : String) : Record :=
  .ofOutcome "sakura-cloud" (.zone zone) ⟨name, .http, 80, 8080⟩ (.resolved "a.example.com" [.v4 192 0 2 1]) default

/-- The ledger with the balancer `web:a` of the zone `tk1a`. -/
def alone : Ledger :=
  (Ledger.new default).insert (balancerAt "web:a" "tk1a") default

/-- The balancer `web` of the zone `a:tk1a` takes the place of the balancer `web:a` of the zone `tk1a`. -/
theorem insert_loses_other :
    ("web:a:tk1a", balancerAt "web:a" "tk1a") ∈ alone.entries ∧
      ¬ (balancerAt "web:a" "tk1a").OfOne (balancerAt "web" "a:tk1a") ∧
      ("web:a:tk1a", balancerAt "web:a" "tk1a") ∉ (alone.insert (balancerAt "web" "a:tk1a") default).entries := by
  have year := Instant.isYear_default
  have reached : Reached alone := .insert (.new year) year year
  obtain ⟨_, lost, _⟩ := insert_loses_iff_overlaps reached (balancerAt "web" "a:tk1a") default
  have there : ("web:a:tk1a", balancerAt "web:a" "tk1a") ∈ alone.entries := by decide
  have other : ¬ (balancerAt "web:a" "tk1a").OfOne (balancerAt "web" "a:tk1a") := by
    rintro ⟨name, _⟩
    exact absurd name (by decide)
  exact ⟨there, other, (lost _ there other).mpr (.inl ⟨"a", rfl, rfl⟩)⟩

end Overlapping

end CloudBalance.Ledger
