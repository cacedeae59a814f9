import CloudBalance.Proofs.Files.Clock
import CloudBalance.Proofs.Scope
import CloudBalance.Proofs.Throughout

/-!
# A machine on which files may fail

The local machine with a disk on which any operation on a file may be refused. What is refused changes nothing,
but of what was to be written any part may be left. Main statements: what has to be shown for a question that is
asked of it, so that a condition holds throughout, and that a program which only looks changes nothing.
-/

namespace CloudBalance.Local

open Time (Instant)

/-- An operation is done as the disk has it, or refused and the disk is left as it was. -/
def DoneOrRefused (disk : Disk) (change : Except FileError Disk) (answer : Except FileError Unit) (after : Disk) :
    Prop :=
  change = .ok after ∧ answer = .ok () ∨ (∃ e, answer = .error e) ∧ after = disk

/-- The machine on which files may fail. Whether a file is there can always be seen. -/
def faltering : Environment Local Disk
  | disk, .read path, answer, after => (answer = disk.read path ∨ ∃ e, answer = .error e) ∧ after = disk
  | disk, .write path bytes, answer, after =>
    DoneOrRefused disk (disk.write path bytes) answer after ∨
      (∃ e, answer = .error e) ∧ ∃ part more, bytes = part ++ more ∧ disk.write path part = .ok after
  | disk, .rename old new, answer, after => DoneOrRefused disk (disk.rename old new) answer after
  | disk, .remove path, answer, after => DoneOrRefused disk (disk.remove path) answer after
  | disk, .makeDirectories path, answer, after => DoneOrRefused disk (disk.makeDirectories path) answer after
  | disk, query, answer, after => onDisk disk query answer after

variable {disk after : Disk} {path : String} {inv : Disk → Prop}

theorem faltering_of_onDisk {query : Local.Query} {answer : Local.Answer query}
    (answered : onDisk disk query answer after) : faltering disk query answer after := by
  cases query with
  | read path =>
    obtain ⟨bytes, read, rfl, rfl⟩ := answered
    exact ⟨.inl read.symm, rfl⟩
  | write path bytes => exact .inl (.inl answered)
  | rename | remove | makeDirectories => exact .inl answered
  | _ => exact answered

/-! ## Questions -/

theorem DoneOrRefused.next {change : Except FileError Disk} {answer : Except FileError Unit}
    {post : Except FileError Unit → Disk → Prop} (told : DoneOrRefused disk change answer after) (here : inv disk)
    (done : ∀ after, change = .ok after → inv after ∧ post (.ok ()) after) (refused : ∀ e, post (.error e) disk) :
    inv after ∧ post answer after := by
  obtain ⟨changed, rfl⟩ | ⟨⟨e, rfl⟩, rfl⟩ := told
  · exact done after changed
  · exact ⟨here, refused e⟩

section
variable {post : Except FileError Unit → Disk → Prop} (here : inv disk) (refused : ∀ e, post (.error e) disk)
include here refused

theorem throughout_rename {old new : String}
    (done : ∀ after, disk.rename old new = .ok after → inv after ∧ post (.ok ()) after) :
    (Local.rename old new).Throughout faltering inv disk post :=
  ⟨here, fun _ _ answered => answered.next here done refused⟩

theorem throughout_remove (done : ∀ after, disk.remove path = .ok after → inv after ∧ post (.ok ()) after) :
    (Local.remove path).Throughout faltering inv disk post :=
  ⟨here, fun _ _ answered => answered.next here done refused⟩

theorem throughout_makeDirectories
    (done : ∀ after, disk.makeDirectories path = .ok after → inv after ∧ post (.ok ()) after) :
    (Local.makeDirectories path).Throughout faltering inv disk post :=
  ⟨here, fun _ _ answered => answered.next here done refused⟩

theorem throughout_write {bytes : ByteArray}
    (done : ∀ after, disk.write path bytes = .ok after → inv after ∧ post (.ok ()) after)
    (torn : ∀ e part more after, bytes = part ++ more → disk.write path part = .ok after →
      inv after ∧ post (.error e) after) :
    (Local.write path bytes).Throughout faltering inv disk post := by
  refine ⟨here, fun answer after answered => ?_⟩
  obtain told | ⟨⟨e, rfl⟩, part, more, broken, written⟩ := answered
  · exact told.next here done refused
  · exact torn e part more after broken written

end

theorem throughout_exists? {post : Bool → Disk → Prop} (here : inv disk) (next : post (disk.exists? path) disk) :
    (Local.exists? path).Throughout faltering inv disk post := by
  refine ⟨here, ?_⟩
  rintro _ _ ⟨rfl, rfl⟩
  exact ⟨here, next⟩

theorem throughout_note {level : Log.Level} {topic : Log.Topic} {message : String} {post : Unit → Disk → Prop}
    (here : inv disk) (next : post () disk) :
    (Local.note level topic message).Throughout faltering inv disk post := by
  refine ⟨here, ?_⟩
  rintro _ _ rfl
  exact ⟨here, next⟩

/-! ## What is ensured at the end -/

@[simp] theorem ensures_exists?_faltering {post : Bool → Disk → Prop} :
    (Local.exists? path).Ensures faltering disk post ↔ post (disk.exists? path) disk :=
  (ensures_ask (q := .exists? path) fun _ _ => Iff.rfl).trans forall_eq

@[simp] theorem ensures_now_faltering {post : Instant → Disk → Prop} :
    Local.now.Ensures faltering disk post ↔ ∀ now, Instant.IsYear now.date.year → post now disk :=
  ensures_ask (q := .now) fun _ _ => Iff.rfl

@[simp] theorem ensures_note_faltering {level : Log.Level} {topic : Log.Topic} {message : String}
    {post : Unit → Disk → Prop} :
    (Local.note level topic message).Ensures faltering disk post ↔ post () disk :=
  (ensures_ask (q := .log ⟨level, topic, message⟩) fun _ _ => (iff_of_eq (true_and _)).symm).trans
    ⟨fun each => each () trivial, fun here _ _ => here⟩

/-- A text is read as the disk has it, or reading fails. -/
theorem ensures_readText_faltering {post : Except FileError String → Disk → Prop}
    (read : ∀ bytes, disk.read path = .ok bytes → post (textOf bytes) disk) (refused : ∀ e, post (.error e) disk) :
    (Local.readText path).Ensures faltering disk post := by
  rw [Local.readText, Program.ensures_bind, Local.read, Program.ensures_perform]
  rintro answer last ⟨told, rfl⟩
  cases answer with
  | error e => exact Program.ensures_done.mpr (refused e)
  | ok bytes =>
    have known : last.read path = .ok bytes := by
      rcases told with same | ⟨e, impossible⟩
      · exact same.symm
      · cases impossible
    have done := read bytes known
    rw [textOf] at done
    dsimp only
    cases written : Text.decode? bytes with
    | some text => exact Program.ensures_done.mpr (by rwa [written] at done)
    | none => exact Program.ensures_done.mpr (by rwa [written] at done)

/-- What is written, if that is done, is written as the disk has it. -/
theorem ensures_write_faltering {bytes : ByteArray} {post : Disk → Prop}
    (done : ∀ after, disk.write path bytes = .ok after → post after) :
    (Local.write path bytes).Ensures faltering disk fun result after => result = .ok () → post after := by
  rw [Local.write, Program.ensures_perform]
  rintro _ after ((⟨written, _⟩ | ⟨⟨_, rfl⟩, _⟩) | ⟨⟨_, rfl⟩, _⟩) same
  · exact done after written
  · cases same
  · cases same

/-! ## Looking only -/

/-- What may be asked without a change of the disk. -/
def looking : Program.Scope Local where
  asks
    | .write _ _ | .rename _ _ | .remove _ | .makeDirectories _ => False
    | _ => True
  halts := False

theorem faltering_looking {query : Local.Query} {answer : Local.Answer query} (asks : looking.asks query)
    (answered : faltering disk query answer after) : after = disk := by
  cases query with
  | write | rename | remove | makeDirectories => exact asks.elim
  | exists? | isDirectory | now | read => exact answered.2
  | workingDirectory | environmentVariable | processId | log => exact answered

theorem ensures_looking {α : Type} {p : Program Local α} (within : p.Within looking) :
    p.Ensures faltering disk fun _ after => after = disk :=
  fun _ _ _ run => within.unchanged (fun _ _ _ _ asks answered => faltering_looking asks answered) run

theorem throughout_looking {α : Type} {p : Program Local α} (within : p.Within looking) (here : inv disk) :
    p.Throughout faltering inv disk fun _ after => after = disk := by
  induction p with
  | done a => exact ⟨here, rfl⟩
  | halt => exact here
  | ask query next ih =>
    refine ⟨here, fun answer after answered => ?_⟩
    rw [faltering_looking within.1 answered]
    exact ih answer (within.2 answer)

theorem within_exists? : (Local.exists? path).Within looking :=
  Program.within_perform.mpr trivial

theorem within_now : Local.now.Within looking :=
  Program.within_perform.mpr trivial

theorem within_processId : Local.processId.Within looking :=
  Program.within_perform.mpr trivial

theorem within_note {level : Log.Level} {topic : Log.Topic} {message : String} :
    (Local.note level topic message).Within looking :=
  Program.within_perform.mpr trivial

theorem within_readText_of {scope : Program.Scope Local} (asks : scope.asks (.read path)) :
    (Local.readText path).Within scope := by
  refine .bind (Program.within_perform.mpr asks) fun answer => ?_
  cases answer with
  | error e => trivial
  | ok bytes =>
    dsimp only
    cases Text.decode? bytes <;> trivial

theorem within_readText : (Local.readText path).Within looking :=
  within_readText_of trivial

/-! ## Clocks -/

/-- The machine on which files may fail while its clock shows times of a period. -/
def falteringDuring (period : Instant → Prop) : Environment Local Disk
  | disk, .now, answer, after => period answer ∧ faltering disk .now answer after
  | disk, query, answer, after => faltering disk query answer after

variable {period : Instant → Prop}

theorem faltering_of_falteringDuring {query : Local.Query} {answer : Local.Answer query}
    (answered : falteringDuring period disk query answer after) : faltering disk query answer after := by
  cases query with
  | now => exact answered.2
  | _ => exact answered

theorem falteringDuring_of_faltering {query : Local.Query} {answer : Local.Answer query}
    (answered : faltering disk query answer after) : falteringDuring (fun _ => True) disk query answer after := by
  cases query with
  | now => exact ⟨trivial, answered⟩
  | _ => exact answered

theorem falteringDuring_of_asProcess {own : UInt32 → Prop} {query : Local.Query} {answer : Local.Answer query}
    (answered : asProcess own period disk query answer after) : falteringDuring period disk query answer after := by
  have during := during_of_asProcess answered
  cases query with
  | now => exact during
  | _ => exact faltering_of_onDisk (onDisk_of_during during)

theorem throughout_now_during {post : Instant → Disk → Prop} (here : inv disk)
    (next : ∀ now, period now → Instant.IsYear now.date.year → post now disk) :
    Local.now.Throughout (falteringDuring period) inv disk post := by
  refine ⟨here, ?_⟩
  rintro now _ ⟨shown, year, rfl⟩
  exact ⟨here, next now shown year⟩

/-! ## Removals that are done -/

/-- The machine on which files may fail, but what can be removed is removed. -/
def steady : Environment Local Disk
  | disk, .remove path, answer, after => finish disk (disk.remove path) = (answer, after)
  | disk, query, answer, after => faltering disk query answer after

theorem faltering_of_steady {query : Local.Query} {answer : Local.Answer query}
    (answered : steady disk query answer after) : faltering disk query answer after := by
  cases query with
  | remove path =>
    change finish disk (disk.remove path) = (answer, after) at answered
    cases removed : disk.remove path with
    | ok made =>
      rw [removed] at answered
      cases answered
      exact .inl ⟨removed, rfl⟩
    | error e =>
      rw [removed] at answered
      cases answered
      exact .inr ⟨⟨e, rfl⟩, rfl⟩
  | _ => exact answered

theorem steady_of_onDisk {query : Local.Query} {answer : Local.Answer query}
    (answered : onDisk disk query answer after) : steady disk query answer after := by
  cases query with
  | remove path =>
    obtain ⟨removed, rfl⟩ := answered
    change finish disk (disk.remove path) = (.ok (), after)
    rw [removed]
    rfl
  | _ => exact faltering_of_onDisk answered

theorem ensures_looking_steady {α : Type} {p : Program Local α} (within : p.Within looking) :
    p.Ensures steady disk fun _ after => after = disk :=
  (ensures_looking within).narrow faltering_of_steady

theorem ensures_exists?_steady {post : Bool → Disk → Prop} (next : post (disk.exists? path) disk) :
    (Local.exists? path).Ensures steady disk post :=
  (ensures_exists?_faltering.mpr next).narrow faltering_of_steady

theorem ensures_remove_steady {post : Except FileError Unit → Disk → Prop} {made : Disk}
    (removed : disk.remove path = .ok made) (done : post (.ok ()) made) :
    (Local.remove path).Ensures steady disk post := by
  rw [Local.remove, Program.ensures_perform]
  intro answer after answered
  change finish disk (disk.remove path) = (answer, after) at answered
  rw [removed] at answered
  cases answered
  exact done

end CloudBalance.Local
