import CloudBalance.Proofs.Files.Faltering
import CloudBalance.Proofs.Files.Made
import CloudBalance.Proofs.Ledger.Store

/-!
# Reading a ledger that was saved

Main statement: whatever lay in the directory of the project before, a ledger that was saved is read again with
each of its records under its key, in whatever order they were written.
-/

namespace CloudBalance.Ledger.Store

open Disk (Entry)
open Time (Instant)

variable {store : Store} {disk after : Disk} {ledger : Ledger} {entries : List (String × Record)}
  {events : List Local.Event}

/-! ## Saving -/

/-- Once a ledger is saved its file is there. -/
theorem ensures_save_found :
    (store.save ledger).run.Ensures Local.faltering disk fun result after => result = .ok () →
      after.find? store.ledgerPath = some (.file (Text.encode ledger.toJson.pretty)) := by
  rw [save, Attempt.ensures_bind]
  refine Program.ensures_any.mono fun result made _ => ?_
  cases result with
  | error e => simp
  | ok _ =>
    dsimp only
    rw [Attempt.ensures_bind]
    refine Program.ensures_any.mono fun result aside _ => ?_
    cases result with
    | error e => simp
    | ok _ =>
      dsimp only
      rw [Attempt.ensures_bind, Attempt.ensures_attempt]
      refine (Local.ensures_write_faltering fun after written => Disk.find?_write written).mono ?_
      intro result after found
      cases result with
      | error e => simp [Except.mapError]
      | ok _ => simpa [Except.mapError] using found rfl

/-! ## Reading -/

theorem within_load : store.load.run.Within Local.looking := by
  refine Attempt.within_bind (Attempt.within_lift Local.within_exists?) fun there => ?_
  cases there with
  | false =>
    refine Attempt.within_bind (Attempt.within_lift Local.within_note) fun _ => ?_
    exact Attempt.within_bind (Attempt.within_lift Local.within_now) fun _ => trivial
  | true =>
    refine Attempt.within_bind (Attempt.within_adapt Local.within_readText) fun text => ?_
    refine Attempt.within_bind Attempt.within_known fun ledger => ?_
    exact Attempt.within_bind (Attempt.within_lift Local.within_note) fun _ => trivial

/-- A ledger is read as it lies there, also where reading may fail. -/
theorem ensures_load_faltering :
    store.load.run.Ensures Local.faltering disk fun result after =>
      after = disk ∧ ∀ ledger, result = .ok ledger → Loads (disk.find? store.ledgerPath) (.ok ledger) := by
  simp only [load, Attempt.ensures_bind, Attempt.ensures_lift, Local.ensures_exists?_faltering]
  split
  · simp only [Attempt.ensures_bind, Attempt.ensures_attempt]
    refine Local.ensures_readText_faltering (fun bytes read => ?_) fun e => ?_
    · have loaded := Loads.stored bytes
      rw [Disk.read_ok.mp read]
      rw [ledgerOfBytes] at loaded
      cases written : Local.textOf bytes with
      | error e => simp [Except.mapError]
      | ok text =>
        rw [written] at loaded
        simp only [Except.mapError, Attempt.ensures_known]
        cases known : ledgerOfText text with
        | error e => simp
        | ok ledger =>
          simp only [Attempt.ensures_lift, Local.ensures_note_faltering, Attempt.ensures_pure]
          exact ⟨trivial, fun _ same => same ▸ known ▸ loaded⟩
    · simp [Except.mapError]
  · rename_i missing
    rw [Disk.exists?, Option.not_isSome_iff_eq_none] at missing
    simp only [Attempt.ensures_bind, Attempt.ensures_lift, Local.ensures_note_faltering,
      Local.ensures_now_faltering, Attempt.ensures_pure, missing]
    exact fun now held => ⟨trivial, fun _ same => same ▸ .absent held⟩

/-- Reading returns what the file holds. -/
theorem yields_load {bytes : ByteArray} {result : Except CloudError Ledger}
    (file : disk.find? store.ledgerPath = some (.file bytes)) (stored : ledgerOfBytes bytes = result) :
    store.load.run.Yields Local.onDisk disk result disk where
  runs := exists_run_load_found (by rw [file, ← stored]; exact .stored bytes)
  only events value last run := by
    obtain ⟨value, rfl⟩ := within_load.returns id run
    obtain ⟨loaded, rfl⟩ := ensures_load_found _ _ _ run
    rw [file] at loaded
    cases loaded
    exact ⟨congrArg some stored, rfl⟩

/-! ## Saving and reading -/

/-- A ledger that was saved and then read is the same, with its entries as they were written. -/
theorem eq_of_reload (sane : Sane ledger) (updated : Instant.IsYear ledger.updatedAt.date.year)
    (saves : (store.save ledger).run.Runs Local.faltering disk events (some (.ok ())) after) {last : Disk}
    {reading : List Local.Event} {loaded : Ledger}
    (loads : store.load.run.Runs Local.faltering after reading (some (.ok loaded)) last) : loaded = ledger := by
  have known := (ensures_load_faltering _ _ _ loads).2 loaded rfl
  rw [ensures_save_found _ _ _ saves rfl] at known
  generalize result : Except.ok loaded = its at known
  cases known
  exact Except.ok.inj (result.trans (ledgerOfBytes_encode sane updated))

/-- After a ledger was saved, its entries in any order and whatever was there before, reading it returns, and what
it returns has the same version, the same time and under each key the same record. -/
theorem reloads_each (sane : Sane ledger) (updated : Instant.IsYear ledger.updatedAt.date.year)
    (order : entries.Perm ledger.entries)
    (saves : (store.save { ledger with entries }).run.Runs Local.faltering disk events (some (.ok ())) after) :
    ∃ loaded, store.load.run.Yields Local.onDisk after (.ok loaded) after ∧
      loaded.version = ledger.version ∧ loaded.updatedAt = ledger.updatedAt ∧
      ∀ key, loaded.entries.lookup key = ledger.entries.lookup key := by
  have file := ensures_save_found _ _ _ saves rfl
  have stored := ledgerOfBytes_encode (sane.reorder order) updated
  exact ⟨_, yields_load file stored, rfl, rfl, fun _ => lookup_perm sane.storable.once order⟩

/-- A balancer of a name in a zone. -/
def recordIn (name zone : String) (outcome : CloudBalance.Outcome) : Record :=
  .ofOutcome "cloudflare" (.zone zone) ⟨name, .tcp, 443, 8443⟩ outcome default

theorem storable_recordIn (name zone : String) (outcome : CloudBalance.Outcome) :
    (recordIn name zone outcome).IsStorable :=
  Instant.isYear_default

/-- Two balancers, one with addresses of both kinds and one whose name never led to any. -/
def two : Ledger :=
  ((Ledger.new default).insert (recordIn "wéb" "東京:1" (.resolved "a\n\"b\"" [.v6 #v[8193, 3512, 0, 0, 0, 0, 0, 1],
    .v4 192 0 2 1])) default).insert (recordIn "" "" (.unresolved "\u0000")) default

theorem sane_two : Sane two :=
  ((sane_new _).insert (storable_recordIn _ _ _) _).insert (storable_recordIn _ _ _) _

/-- The disk of a project whose ledger cannot be read and was kept once before. -/
def spoiledTwice : Disk :=
  ⟨[([".nimbus"], .directory), ([".nimbus", "state.json"], .file (Text.encode "not json")),
    ([".nimbus", "state.json.backup"], .file .empty)], []⟩

theorem reloads_each_two :
    ∃ events after loaded, two.entries.reverse.Perm two.entries ∧
      (atRoot.save { two with entries := two.entries.reverse }).run.Runs Local.faltering spoiledTwice events
        (some (.ok ())) after ∧
      atRoot.load.run.Yields Local.onDisk after (.ok loaded) after ∧ loaded.version = 1 ∧
      ∀ key, loaded.entries.lookup key = two.entries.lookup key := by
  have order := List.reverse_perm two.entries
  have run : ∃ events after, (atRoot.save { two with entries := two.entries.reverse }).run.Runs Local.onDisk
      spoiledTwice events (some (.ok ())) after :=
    ⟨_, _, Local.runs_act rfl rfl⟩
  obtain ⟨events, after, run⟩ := run
  have saves := run.mono Local.faltering_of_onDisk
  obtain ⟨loaded, reads, version, _, same⟩ := reloads_each sane_two Instant.isYear_default order saves
  exact ⟨events, after, loaded, order, saves, reads, version, same⟩

end CloudBalance.Ledger.Store
