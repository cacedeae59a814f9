import CloudBalance.Files.Disk
import CloudBalance.Proofs.Ensures
import CloudBalance.Proofs.Time.Instant

/-!
# A machine on which files work

The local machine with a disk on which every operation on a file succeeds. Main statements: what each
question that is asked of it ensures.
-/

namespace CloudBalance

open Time (Instant)

/-- The local machine with a disk. Operations on files are answered as the disk has it, and all of them
succeed; the clock shows a time that can be held. -/
def Local.onDisk : Environment Local Disk
  | disk, .exists? path, answer, after => answer = disk.exists? path ∧ after = disk
  | disk, .isDirectory path, answer, after => answer = disk.isDirectory path ∧ after = disk
  | disk, .read path, answer, after =>
    ∃ bytes, disk.read path = .ok bytes ∧ answer = .ok bytes ∧ after = disk
  | disk, .write path bytes, answer, after => disk.write path bytes = .ok after ∧ answer = .ok ()
  | disk, .rename old new, answer, after => disk.rename old new = .ok after ∧ answer = .ok ()
  | disk, .remove path, answer, after => disk.remove path = .ok after ∧ answer = .ok ()
  | disk, .makeDirectories path, answer, after => disk.makeDirectories path = .ok after ∧ answer = .ok ()
  | disk, .now, answer, after => Instant.IsYear answer.date.year ∧ after = disk
  | disk, .workingDirectory, _, after => after = disk
  | disk, .environmentVariable _, _, after => after = disk
  | disk, .processId, _, after => after = disk
  | disk, .log _, _, after => after = disk

namespace Local

variable {disk : Disk} {path : String}

/-- A question that leaves the disk as it is. -/
theorem ensures_ask {env : Environment Local Disk} {q : Local.Query} {answered : Local.Answer q → Prop}
    {post : Local.Answer q → Disk → Prop}
    (asked : ∀ answer after, env disk q answer after ↔ answered answer ∧ after = disk) :
    (Program.perform (S := Local) q).Ensures env disk post ↔
      ∀ answer, answered answer → post answer disk := by
  rw [Program.ensures_perform]
  constructor
  · intro each answer holds
    exact each answer disk ((asked answer disk).mpr ⟨holds, rfl⟩)
  · intro each answer after run
    obtain ⟨holds, rfl⟩ := (asked answer after).mp run
    exact each answer holds

/-- A change of the disk that cannot be refused. -/
theorem ensures_change {q : Local.Query} {change : Except FileError Disk}
    {done : Local.Answer q} {post : Local.Answer q → Disk → Prop}
    (asked : ∀ answer after, onDisk disk q answer after ↔ change = .ok after ∧ answer = done) :
    (Program.perform (S := Local) q).Ensures onDisk disk post ↔
      ∀ after, change = .ok after → post done after := by
  rw [Program.ensures_perform]
  constructor
  · intro each after changed
    exact each done after ((asked done after).mpr ⟨changed, rfl⟩)
  · intro each answer after run
    obtain ⟨changed, rfl⟩ := (asked answer after).mp run
    exact each after changed

@[simp] theorem ensures_exists? {post : Bool → Disk → Prop} :
    (Local.exists? path).Ensures onDisk disk post ↔ post (disk.exists? path) disk :=
  (ensures_ask (q := .exists? path) fun _ _ => Iff.rfl).trans forall_eq

@[simp] theorem ensures_read {post : Except FileError ByteArray → Disk → Prop} :
    (Local.read path).Ensures onDisk disk post ↔
      ∀ bytes, disk.read path = .ok bytes → post (.ok bytes) disk := by
  rw [Local.read, Program.ensures_perform]
  constructor
  · intro each bytes read
    exact each _ _ ⟨bytes, read, rfl, rfl⟩
  · rintro each _ _ ⟨bytes, read, rfl, rfl⟩
    exact each bytes read

@[simp] theorem ensures_write {bytes : ByteArray} {post : Except FileError Unit → Disk → Prop} :
    (Local.write path bytes).Ensures onDisk disk post ↔
      ∀ after, disk.write path bytes = .ok after → post (.ok ()) after :=
  ensures_change (q := .write path bytes) fun _ _ => Iff.rfl

@[simp] theorem ensures_rename {old new : String} {post : Except FileError Unit → Disk → Prop} :
    (Local.rename old new).Ensures onDisk disk post ↔
      ∀ after, disk.rename old new = .ok after → post (.ok ()) after :=
  ensures_change (q := .rename old new) fun _ _ => Iff.rfl

@[simp] theorem ensures_remove {post : Except FileError Unit → Disk → Prop} :
    (Local.remove path).Ensures onDisk disk post ↔
      ∀ after, disk.remove path = .ok after → post (.ok ()) after :=
  ensures_change (q := .remove path) fun _ _ => Iff.rfl

@[simp] theorem ensures_makeDirectories {post : Except FileError Unit → Disk → Prop} :
    (Local.makeDirectories path).Ensures onDisk disk post ↔
      ∀ after, disk.makeDirectories path = .ok after → post (.ok ()) after :=
  ensures_change (q := .makeDirectories path) fun _ _ => Iff.rfl

@[simp] theorem ensures_now {post : Instant → Disk → Prop} :
    Local.now.Ensures onDisk disk post ↔ ∀ now, Instant.IsYear now.date.year → post now disk :=
  ensures_ask (q := .now) fun _ _ => Iff.rfl

@[simp] theorem ensures_note {level : Log.Level} {topic : Log.Topic} {message : String}
    {post : Unit → Disk → Prop} :
    (Local.note level topic message).Ensures onDisk disk post ↔ post () disk :=
  (ensures_ask (q := .log ⟨level, topic, message⟩) fun _ _ => (iff_of_eq (true_and _)).symm).trans
    ⟨fun each => each () trivial, fun here _ _ => here⟩

@[simp] theorem ensures_environment {name : String} {post : Option String → Disk → Prop} :
    (Local.environment name).Ensures onDisk disk post ↔ ∀ value, post value disk :=
  (ensures_ask (q := .environmentVariable name) fun _ _ => (iff_of_eq (true_and _)).symm).trans
    (forall_congr' fun _ => true_imp_iff)

@[simp] theorem ensures_processId {post : UInt32 → Disk → Prop} :
    Local.processId.Ensures onDisk disk post ↔ ∀ id, post id disk :=
  (ensures_ask (q := .processId) fun _ _ => (iff_of_eq (true_and _)).symm).trans
    (forall_congr' fun _ => true_imp_iff)

/-- What comes of reading the bytes of a file as a text. -/
def textOf (bytes : ByteArray) : Except FileError String :=
  match Text.decode? bytes with
  | some text => .ok text
  | none => .error .notText

@[simp] theorem ensures_readText {post : Except FileError String → Disk → Prop} :
    (Local.readText path).Ensures onDisk disk post ↔
      ∀ bytes, disk.read path = .ok bytes → post (textOf bytes) disk := by
  rw [Local.readText, Program.ensures_bind, ensures_read]
  refine forall₂_congr fun bytes _ => ?_
  rw [textOf]
  dsimp only
  cases Text.decode? bytes with
  | some text => exact Program.ensures_done
  | none => exact Program.ensures_done

/-! ## A machine that runs -/

/-- What is left of a disk by an operation, and whether that was done. -/
def finish (disk : Disk) : Except FileError Disk → Except FileError Unit × Disk
  | .ok after => (.ok (), after)
  | .error e => (.error e, disk)

/-- A machine with a disk, at the beginning of its time. -/
def act : (q : Local.Query) → Disk → Local.Answer q × Disk
  | .exists? path, disk => (disk.exists? path, disk)
  | .isDirectory path, disk => (disk.isDirectory path, disk)
  | .read path, disk => (disk.read path, disk)
  | .write path bytes, disk => finish disk (disk.write path bytes)
  | .rename old new, disk => finish disk (disk.rename old new)
  | .remove path, disk => finish disk (disk.remove path)
  | .makeDirectories path, disk => finish disk (disk.makeDirectories path)
  | .now, disk => ((default : Instant), disk)
  | .workingDirectory, disk => (.ok "/", disk)
  | .environmentVariable _, disk => (none, disk)
  | .processId, disk => ((1 : UInt32), disk)
  | .log _, disk => ((), disk)

/-- Whether the disk does not refuse. -/
def works : Local.Query → Disk → Bool
  | .read path, disk => (disk.read path).isOk
  | .write path bytes, disk => (disk.write path bytes).isOk
  | .rename old new, disk => (disk.rename old new).isOk
  | .remove path, disk => (disk.remove path).isOk
  | .makeDirectories path, disk => (disk.makeDirectories path).isOk
  | _, _ => true

theorem finish_ok {change : Except FileError Disk} (done : change.isOk = true) :
    change = .ok (finish disk change).2 ∧ (finish disk change).1 = .ok () := by
  cases change with
  | ok after => exact ⟨rfl, rfl⟩
  | error e => cases done

theorem onDisk_act (q : Local.Query) (disk : Disk) (done : works q disk = true) :
    onDisk disk q (act q disk).1 (act q disk).2 := by
  cases q with
  | exists? | isDirectory => exact ⟨rfl, rfl⟩
  | read path =>
    change (disk.read path).isOk = true at done
    cases read : disk.read path with
    | ok bytes => exact ⟨bytes, read, read, rfl⟩
    | error e =>
      rw [read] at done
      cases done
  | write | rename | remove | makeDirectories => exact finish_ok done
  | now => exact ⟨Instant.isYear_default, rfl⟩
  | workingDirectory | environmentVariable | processId | log => rfl

/-- A program that runs on this machine, while the disk does not refuse. -/
theorem runs_act {α : Type} {p : Program Local α} {disk after : Disk} {a : α}
    (done : p.asksOnly works act disk = true) (ended : p.run act disk = (some a, after)) :
    p.Runs onDisk disk (p.trace act disk) (some a) after := by
  have run := Program.runs_asksOnly onDisk_act p disk done
  rwa [ended] at run

/-- An attempt that is done on this machine; whether it is, can be computed. -/
theorem runs_act_ok {ε : Type} {p : Attempt Local ε Unit} {disk : Disk}
    (done : p.run.asksOnly works act disk = true) (ended : (p.run.run act disk).1.any Except.isOk = true) :
    p.run.Runs onDisk disk (p.run.trace act disk) (some (.ok ())) (p.run.run act disk).2 := by
  have run := Program.runs_asksOnly onDisk_act p.run disk done
  obtain ⟨result, same, ok⟩ := (Option.any_eq_true _ _).mp ended
  cases result with
  | ok _ => rwa [same] at run
  | error e => cases ok

end Local

end CloudBalance
