import CloudBalance.Proofs.Ledger.Placed
import CloudBalance.Proofs.Ledger.Saving

/-!
# The ledger that was there before

Main statement: the bytes of the former ledger are never lost while another one is saved, and once that is done they
are kept beside it; so after several savings the copy is the ledger before the last one.
-/

namespace CloudBalance.Ledger.Store

open Disk (Entry)

variable {store : Store} {disk after : Disk} {contents : String → Option Entry} {ledger former last : Ledger}
  {ledgers earlier : List Ledger} {bytes : ByteArray}

/-! ## Saving -/

/-- A ledger has been saved, and the file that was there before has been kept. -/
structure Replaces (store : Store) (ledger : Ledger) (disk after : Disk) : Prop where
  placed : store.Placed after
  written : after.find? store.ledgerPath = some (.file (Text.encode ledger.toJson.pretty))
  kept : after.find? store.backupPath = (disk.find? store.ledgerPath).or (disk.find? store.backupPath)

theorem kept_backup :
    kept contents "state.json.backup" = (contents "state.json").or (contents "state.json.backup") := by
  rw [kept]
  cases there : contents "state.json" with
  | none => rfl
  | some entry =>
    rw [if_pos Option.isSome_some, Function.update_of_ne (by decide), Function.update_self]
    rfl

theorem ensures_save_placed (placed : store.Placed disk) (plain : disk.find? store.ledgerPath ≠ some .directory) :
    (store.save ledger).run.Ensures Local.faltering disk fun result after => result = .ok () →
      store.Replaces ledger disk after := by
  rw [save_eq, Attempt.ensures_bind]
  refine (ensures_ensureDirectory_placed placed).mono fun result made ⟨same, ensured⟩ => ?_
  cases result with
  | error e => simp
  | ok _ =>
    obtain ⟨contents, holds⟩ := ensured rfl
    have state : contents "state.json" = disk.find? store.ledgerPath :=
      (holds.find?_file isName_ledger).symm.trans (same _ isName_ledger)
    have copy : contents "state.json.backup" = disk.find? store.backupPath :=
      (holds.find?_file isName_backup).symm.trans (same _ isName_backup)
    have replaced := throughout_replace holds (state ▸ plain) ledger
    refine replaced.ensures.mono fun result after ⟨_, ensured⟩ done => ?_
    have holds := ensured done
    refine ⟨holds.placed, ?_, ?_⟩
    · rw [ledgerPath, holds.find?_file isName_ledger, Function.update_self]
    · rw [backupPath, holds.find?_file isName_backup, Function.update_of_ne (by decide), kept_backup, state, copy]
      rfl

/-- At each stage the former file is at its place or beside it. -/
theorem Stage.spares {its : String → Option Entry} {text : ByteArray} (stage : Stage contents text its)
    (file : contents "state.json" = some (.file bytes)) :
    its "state.json" = some (.file bytes) ∨ its "state.json.backup" = some (.file bytes) := by
  have beside : kept contents "state.json.backup" = some (.file bytes) := by
    rw [kept_backup, file]
    rfl
  cases stage with
  | untouched => exact .inl file
  | cleared => exact .inl ((Function.update_of_ne (by decide) _ _).trans file)
  | aside => exact .inr beside
  | written => exact .inr ((Function.update_of_ne (by decide) _ _).trans beside)

/-! ## Saving several times -/

/-- Ledgers are saved one after the other, and each saving is done. -/
inductive SavedInTurn (store : Store) : Disk → List Ledger → Disk → Prop where
  | none (disk : Disk) : SavedInTurn store disk [] disk
  | next {disk between after : Disk} {ledger : Ledger} {ledgers : List Ledger} {events : List Local.Event}
      (first : (store.save ledger).run.Runs Local.faltering disk events (some (.ok ())) between)
      (rest : SavedInTurn store between ledgers after) : SavedInTurn store disk (ledger :: ledgers) after

theorem SavedInTurn.kept (saved : store.SavedInTurn disk (earlier ++ [former, last]) after)
    (placed : store.Placed disk) (plain : disk.find? store.ledgerPath ≠ some .directory) :
    after.find? store.ledgerPath = some (.file (Text.encode last.toJson.pretty)) ∧
      after.find? store.backupPath = some (.file (Text.encode former.toJson.pretty)) := by
  induction earlier generalizing disk with
  | nil =>
    obtain _ | ⟨first, second⟩ := saved
    obtain _ | ⟨second, none⟩ := second
    cases none
    have before := ensures_save_placed placed plain _ _ _ first rfl
    have done := ensures_save_placed before.placed (by simp [before.written]) _ _ _ second rfl
    refine ⟨done.written, ?_⟩
    rw [done.kept, before.written]
    rfl
  | cons ledger earlier ih =>
    obtain _ | ⟨first, rest⟩ := saved
    have before := ensures_save_placed placed plain _ _ _ first rfl
    exact ih rest before.placed (by simp [before.written])

/-- Wherever a saving breaks off, the bytes of the former ledger are at its place or beside it. If it is done, the
new ledger is in its place and the former one is kept beside it, and where there was none the copy is unchanged. So
after two savings or more the copy is the ledger before the last one. -/
theorem spares_former (placed : store.Placed disk) (plain : disk.find? store.ledgerPath ≠ some .directory) :
    (∀ bytes, disk.find? store.ledgerPath = some (.file bytes) → ∀ ledger between,
      (store.save ledger).run.Reaches Local.faltering disk between →
        between.find? store.ledgerPath = some (.file bytes) ∨ between.find? store.backupPath = some (.file bytes)) ∧
    (∀ ledger events after, (store.save ledger).run.Runs Local.faltering disk events (some (.ok ())) after →
      after.find? store.ledgerPath = some (.file (Text.encode ledger.toJson.pretty)) ∧
        after.find? store.backupPath = (disk.find? store.ledgerPath).or (disk.find? store.backupPath)) ∧
    ∀ earlier former last after, store.SavedInTurn disk (earlier ++ [former, last]) after →
      after.find? store.ledgerPath = some (.file (Text.encode last.toJson.pretty)) ∧
        after.find? store.backupPath = some (.file (Text.encode former.toJson.pretty)) := by
  refine ⟨fun bytes file ledger between reached => ?_, fun ledger events after run => ?_, ?_⟩
  · rcases placed.cases with ⟨contents, holds⟩ | missing
    · have state : contents "state.json" = some (.file bytes) := (holds.find?_file isName_ledger).symm.trans file
      have stages := throughout_save holds (by simp [state]) ledger
      obtain ⟨its, lies, stage⟩ := (Program.throughout_iff.mp stages).1 between reached
      rw [ledgerPath, backupPath, lies.find?_file isName_ledger, lies.find?_file isName_backup]
      exact stage.spares state
    · -- without a directory there is no former file
      rw [show disk.find? store.ledgerPath = none from missing.find?_file isName_ledger] at file
      cases file
  · have done := ensures_save_placed placed plain _ _ _ run rfl
    exact ⟨done.written, done.kept⟩
  · exact fun _ _ _ _ saved => saved.kept placed plain

/-- A project that lies in no directory yet. -/
def homeless : Store := ⟨"/p"⟩

theorem placed_homeless : homeless.Placed ⟨[], []⟩ :=
  .inr ⟨nofun, ⟨by decide, by decide⟩, rfl⟩

theorem SavedInTurn.act (done : (store.save ledger).run.asksOnly Local.works Local.act disk = true)
    (ended : ((store.save ledger).run.run Local.act disk).1.any Except.isOk = true)
    (rest : store.SavedInTurn ((store.save ledger).run.run Local.act disk).2 ledgers after) :
    store.SavedInTurn disk (ledger :: ledgers) after :=
  .next ((Local.runs_act_ok done ended).mono Local.faltering_of_onDisk) rest

theorem spares_former_thrice :
    ∃ after, homeless.SavedInTurn ⟨[], []⟩ [lone "a", lone "b", lone "c"] after ∧
      after.find? homeless.ledgerPath = some (.file (Text.encode (lone "c").toJson.pretty)) ∧
      after.find? homeless.backupPath = some (.file (Text.encode (lone "b").toJson.pretty)) := by
  have saves : ∃ after, homeless.SavedInTurn ⟨[], []⟩ [lone "a", lone "b", lone "c"] after :=
    ⟨_, .act (by decide +kernel) (by decide +kernel) <| .act (by decide +kernel) (by decide +kernel) <|
      .act (by decide +kernel) (by decide +kernel) (.none _)⟩
  obtain ⟨after, saves⟩ := saves
  exact ⟨after, saves, (spares_former placed_homeless nofun).2.2 [lone "a"] _ _ after saves⟩

end CloudBalance.Ledger.Store
