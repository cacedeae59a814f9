import CloudBalance.Proofs.Files.Faltering
import CloudBalance.Proofs.Json.Prefix
import CloudBalance.Proofs.Ledger.Entries
import CloudBalance.Proofs.Ledger.Store

/-!
# The ledger while it is saved

Saving moves the file of the ledger aside before it writes the new one, and it may break off anywhere. Main
statements: at each point of it the directory is in one of few stages, and whoever reads the ledger there finds
the former one, the new one or a fault, except between the two steps, where he finds a ledger without records.
-/

namespace CloudBalance.Ledger.Store

open Disk (Entry)
open Time (Instant)

variable {store : Store} {disk after : Disk} {contents : String → Option Entry} {ledger former : Ledger}
  {bytes text : ByteArray}

/-! ## Stages -/

/-- What may lie in the directory at some point while a file is written in the place of the ledger. -/
inductive Stage (contents : String → Option Entry) (text : ByteArray) : (String → Option Entry) → Prop where
  | untouched : Stage contents text contents
  /-- The copy that was kept before is gone. -/
  | cleared : Stage contents text (Function.update contents "state.json.backup" none)
  /-- The file of the ledger has been moved aside. -/
  | aside : Stage contents text (kept contents)
  /-- A part of the new file is there, or all of it. -/
  | written {part more : ByteArray} (begun : text = part ++ more) :
    Stage contents text (Function.update (kept contents) "state.json" (some (.file part)))

/-- The directory of the project is at a stage. -/
def AtStage (store : Store) (contents : String → Option Entry) (text : ByteArray) (disk : Disk) : Prop :=
  ∃ its, store.Holds disk its ∧ Stage contents text its

variable {its : String → Option Entry}

theorem throughout_ensureDirectory (holds : store.Holds disk contents) :
    store.ensureDirectory.run.Throughout Local.faltering (store.AtStage contents text) disk fun result after =>
      result = .ok () → store.Holds after contents := by
  have here : store.AtStage contents text disk := ⟨contents, holds, .untouched⟩
  simp only [ensureDirectory, Attempt.throughout_bind, Attempt.throughout_lift]
  refine Local.throughout_exists? here ?_
  split
  · simp only [Attempt.throughout_bind, Attempt.throughout_attempt, Attempt.throughout_lift]
    refine Local.throughout_makeDirectories here (fun e => ?_) fun after made => ?_
    · simp [Except.mapError]
    · have holds := holds.makeDirectory made
      exact ⟨⟨contents, holds, .untouched⟩, Local.throughout_note ⟨contents, holds, .untouched⟩ fun _ => holds⟩
  · exact ⟨here, fun _ => holds⟩

theorem throughout_setAside (holds : store.Holds disk its) (stage : Stage contents text its)
    (file : its "state.json" = some (.file bytes)) (same : kept its = kept contents) :
    ((Local.rename store.ledgerPath store.backupPath).attempt CloudError.files >>= fun _ =>
      liftM (Local.note .debug .ledger "Created state backup") : Attempt Local CloudError Unit).run.Throughout
        Local.faltering (store.AtStage contents text) disk fun result after =>
          result = .ok () → store.Holds after (kept contents) := by
  simp only [Attempt.throughout_bind, Attempt.throughout_attempt, Attempt.throughout_lift]
  refine Local.throughout_rename ⟨its, holds, stage⟩ (by simp [Except.mapError]) fun after renamed => ?_
  have moved := holds.rename_file isName_ledger isName_backup (by decide) file renamed
  rw [← kept_file file, same] at moved
  have here : store.AtStage contents text after := ⟨_, moved, .aside⟩
  exact ⟨here, Local.throughout_note here fun _ => moved⟩

theorem throughout_keepBackup (holds : store.Holds disk contents)
    (plain : contents "state.json" ≠ some .directory) :
    store.keepBackup.run.Throughout Local.faltering (store.AtStage contents text) disk fun result after =>
      result = .ok () → store.Holds after (kept contents) := by
  have here : store.AtStage contents text disk := ⟨contents, holds, .untouched⟩
  simp only [keepBackup, Attempt.throughout_bind, Attempt.throughout_lift]
  refine Local.throughout_exists? here ?_
  rw [show disk.exists? store.ledgerPath = _ from holds.exists?_file isName_ledger]
  cases there : contents "state.json" with
  | none =>
    rw [kept, there]
    exact ⟨here, fun _ => holds⟩
  | some entry =>
    cases entry with
    | directory => exact absurd there plain
    | file bytes =>
      simp only [Option.isSome_some, if_true, Attempt.throughout_bind, Attempt.throughout_lift]
      refine Local.throughout_exists? here ?_
      split
      · rw [Attempt.throughout_bind, Attempt.throughout_attempt]
        refine Local.throughout_remove here (by simp [Except.mapError]) fun after removed => ?_
        have gone := holds.remove_file isName_backup removed
        refine ⟨⟨_, gone, .cleared⟩, ?_⟩
        exact throughout_setAside gone .cleared (by rw [Function.update_of_ne (by decide), there])
          (kept_cleared there)
      · exact throughout_setAside holds .untouched there rfl

/-- What a saving does once the directory is there. -/
def replace (store : Store) (ledger : Ledger) : Attempt Local CloudError Unit := do
  store.keepBackup
  (Local.write store.ledgerPath (Text.encode ledger.toJson.pretty)).attempt .files
  Local.note .debug .ledger ("Saved state with " ++ countText ledger)

theorem save_eq (store : Store) (ledger : Ledger) :
    store.save ledger = store.ensureDirectory >>= fun _ => store.replace ledger :=
  rfl

theorem throughout_replace (holds : store.Holds disk contents)
    (plain : contents "state.json" ≠ some .directory) (ledger : Ledger) :
    (store.replace ledger).run.Throughout Local.faltering
      (store.AtStage contents (Text.encode ledger.toJson.pretty)) disk fun result after =>
        result = .ok () → store.Holds after (Function.update (kept contents) "state.json"
          (some (.file (Text.encode ledger.toJson.pretty)))) := by
  rw [replace, Attempt.throughout_bind]
  refine (throughout_keepBackup holds plain).mono fun result aside here ensured => ?_
  cases result with
  | error e => simp
  | ok _ =>
    have holds := ensured rfl
    simp only [Attempt.throughout_bind, Attempt.throughout_attempt, Attempt.throughout_lift]
    refine Local.throughout_write here (by simp [Except.mapError]) (fun after written => ?_) ?_
    · have holds := holds.write_file isName_ledger written
      have here : store.AtStage contents (Text.encode ledger.toJson.pretty) after :=
        ⟨_, holds, .written (ByteArray.append_empty).symm⟩
      exact ⟨here, Local.throughout_note here fun _ => holds⟩
    · intro e part more after broken written
      exact ⟨⟨_, holds.write_file isName_ledger written, .written broken⟩, by simp [Except.mapError]⟩

/-- Saving goes through the stages, and if it is done, the whole file has been written. -/
theorem throughout_save (holds : store.Holds disk contents) (plain : contents "state.json" ≠ some .directory)
    (ledger : Ledger) :
    (store.save ledger).run.Throughout Local.faltering
      (store.AtStage contents (Text.encode ledger.toJson.pretty)) disk fun result after =>
        result = .ok () → store.Holds after (Function.update (kept contents) "state.json"
          (some (.file (Text.encode ledger.toJson.pretty)))) := by
  rw [save_eq, Attempt.throughout_bind]
  refine (throughout_ensureDirectory holds).mono fun result made here ensured => ?_
  cases result with
  | error e => simp
  | ok _ => exact throughout_replace (ensured rfl) plain ledger

/-! ## Reading meanwhile -/

/-- A part of the file of a ledger is the file of no ledger. -/
theorem ledgerOfBytes_broken {part more : ByteArray} (begun : Text.encode ledger.toJson.pretty = part ++ more)
    (short : more.size ≠ 0) : ∃ e, ledgerOfBytes part = .error e := by
  rw [ledgerOfBytes, Local.textOf]
  cases read : Text.decode? part with
  | none => exact ⟨_, rfl⟩
  | some text =>
    have broken := Json.parse?_torn ledger.isPlain_toJson begun short read
    refine ⟨.malformed, ?_⟩
    dsimp only
    rw [ledgerOfText, Json.decode?, broken]
    rfl

/-- The whole file is read as the ledger, if this version of the program knows its form. -/
theorem ledgerOfBytes_whole (storable : Storable ledger.entries)
    (updated : Instant.IsYear ledger.updatedAt.date.year) :
    ledgerOfBytes (Text.encode ledger.toJson.pretty) = .ok ledger ∨
      ∃ e, ledgerOfBytes (Text.encode ledger.toJson.pretty) = .error e := by
  by_cases known : ledger.version ≤ currentVersion
  · exact .inl (ledgerOfBytes_encode ⟨known, storable⟩ updated)
  · right
    rw [ledgerOfBytes, Local.textOf, Text.decode?_encode]
    dsimp only
    rw [ledgerOfText, decode?_pretty updated storable]
    exact ⟨_, if_pos (UInt32.not_le.mp known)⟩

/-- What is read at some point while the ledger is saved. -/
def Finds (former ledger : Ledger) (entry : Option Entry) (result : Except CloudError Ledger) : Prop :=
  result = .ok former ∨ result = .ok ledger ∨ (∃ e, result = .error e) ∨
    entry = none ∧ ∃ now, result = .ok (Ledger.new now)

theorem Stage.finds (stage : Stage contents (Text.encode ledger.toJson.pretty) its)
    (file : contents "state.json" = some (.file bytes)) (stored : ledgerOfBytes bytes = .ok former)
    (storable : Storable ledger.entries) (updated : Instant.IsYear ledger.updatedAt.date.year)
    {result : Except CloudError Ledger} (loaded : Loads (its "state.json") result) :
    Finds former ledger (its "state.json") result := by
  have unmoved : its "state.json" = contents "state.json" → Finds former ledger (its "state.json") result := by
    intro same
    rw [same, file] at loaded
    cases loaded
    exact .inl stored
  cases stage with
  | untouched => exact unmoved rfl
  | cleared => exact unmoved (Function.update_of_ne (by decide) _ _)
  | aside =>
    have gone : kept contents "state.json" = none := by
      rw [kept_file file, Function.update_self]
    rw [gone] at loaded ⊢
    cases loaded
    exact .inr (.inr (.inr ⟨rfl, _, rfl⟩))
  | @written part more begun =>
    rw [Function.update_self] at loaded
    cases loaded
    -- if nothing is missing it is the new ledger, and else the text of no ledger
    by_cases whole : more.size = 0
    · rw [ByteArray.size_eq_zero_iff.mp whole, ByteArray.append_empty] at begun
      rw [← begun]
      rcases ledgerOfBytes_whole storable updated with read | ⟨e, newer⟩
      · exact .inr (.inl read)
      · exact .inr (.inr (.inl ⟨e, newer⟩))
    · exact .inr (.inr (.inl (ledgerOfBytes_broken begun whole)))

/-- A saving that is done has come by the point between the two steps. -/
theorem exists_reaches_aside (holds : store.Holds disk contents) (file : contents "state.json" = some (.file bytes))
    {events : List Local.Event} (run : (store.save ledger).run.Runs Local.onDisk disk events (some (.ok ())) after) :
    ∃ between, (store.save ledger).run.Reaches Local.faltering disk between ∧
      store.Holds between (kept contents) := by
  rw [save] at run ⊢
  obtain ⟨_, _, made, _, first, later, _⟩ := Attempt.runs_bind_ok.mp run
  obtain ⟨_, holds⟩ := ensures_ensureDirectory holds _ _ _ first
  obtain ⟨_, _, aside, _, second, _, _⟩ := Attempt.runs_bind_ok.mp later
  obtain ⟨_, holds⟩ := ensures_keepBackup holds (by simp [file]) _ _ _ second
  refine ⟨aside, .mono Local.faltering_of_onDisk ?_, holds⟩
  refine Attempt.reaches_bind first ?_
  exact Attempt.reaches_bind second (.here _ _)

/-- Whoever reads the ledger at some point of a saving, which may break off anywhere, finds the former one, the new
one or a fault, or there is no file and he finds a ledger without records. There is no file at some point of each
saving that is done. -/
theorem load_while_saving (holds : store.Holds disk contents) (file : contents "state.json" = some (.file bytes))
    (stored : ledgerOfBytes bytes = .ok former) (storable : Storable ledger.entries)
    (updated : Instant.IsYear ledger.updatedAt.date.year) :
    (∀ between, (store.save ledger).run.Reaches Local.faltering disk between →
      store.load.run.Ensures Local.onDisk between fun result last =>
        last = between ∧ Finds former ledger (between.find? store.ledgerPath) result) ∧
    ∀ events after, (store.save ledger).run.Runs Local.onDisk disk events (some (.ok ())) after →
      ∃ between, (store.save ledger).run.Reaches Local.faltering disk between ∧
        between.find? store.ledgerPath = none ∧ store.Remembers between [] := by
  constructor
  · intro between reached
    have stages := throughout_save holds (by simp [file]) ledger
    obtain ⟨its, lies, stage⟩ := (Program.throughout_iff.mp stages).1 between reached
    rw [show between.find? store.ledgerPath = _ from lies.find?_file isName_ledger]
    refine (ensures_load lies).mono ?_
    rintro result _ ⟨loaded, rfl⟩
    exact ⟨rfl, stage.finds file stored storable updated loaded⟩
  · intro events after run
    obtain ⟨between, reached, lies⟩ := exists_reaches_aside holds file run
    have gone : kept contents "state.json" = none := by
      rw [kept_file file, Function.update_self]
    refine ⟨between, reached, ?_, remembers_nil lies gone⟩
    rw [show between.find? store.ledgerPath = _ from lies.find?_file isName_ledger, gone]

/-- A ledger with one record. -/
def lone (name : String) : Ledger :=
  (Ledger.new default).insert (.ofOutcome "cloudflare" (.zone "a") ⟨name, .http, 80, 8080⟩
    (.resolved "a.example.com" []) default) default

theorem storable_lone (name : String) : Storable (lone name).entries :=
  storable_nil.putEntry Instant.isYear_default

/-- The disk of a project whose ledger was saved. -/
def saved (ledger : Ledger) : Disk :=
  ⟨[([".nimbus"], .directory), ([".nimbus", "state.json"], .file (Text.encode ledger.toJson.pretty))], []⟩

theorem at_saved (ledger : Ledger) : atRoot.At (saved ledger) [] :=
  at_files (by simp)

/-- One record takes the place of another one, and meanwhile there is none. -/
theorem loads_nothing_between :
    atRoot.Remembers (saved (lone "a")) (lone "a").entries ∧
      ∃ events after between, (atRoot.save (lone "b")).run.Runs Local.onDisk (saved (lone "a")) events
          (some (.ok ())) after ∧
        (atRoot.save (lone "b")).run.Reaches Local.faltering (saved (lone "a")) between ∧
        atRoot.Remembers between [] := by
  have holds := (at_saved (lone "a")).holds
  have sane : Sane (lone "a") := ⟨UInt32.le_refl _, storable_lone "a"⟩
  have stored := ledgerOfBytes_encode sane Instant.isYear_default
  have run : ∃ events after, (atRoot.save (lone "b")).run.Runs Local.onDisk (saved (lone "a")) events
      (some (.ok ())) after :=
    ⟨_, _, Local.runs_act rfl rfl⟩
  obtain ⟨events, after, run⟩ := run
  obtain ⟨between, reached, _, none⟩ :=
    (load_while_saving holds rfl stored (storable_lone "b") Instant.isYear_default).2 events after run
  refine ⟨?_, events, after, between, run, reached, none⟩
  exact (remembers_iff holds).mpr ⟨lone "a", loads_encode sane Instant.isYear_default, rfl⟩

end CloudBalance.Ledger.Store
