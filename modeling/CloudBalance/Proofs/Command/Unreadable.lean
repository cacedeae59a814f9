import CloudBalance.Proofs.Command.Create
import CloudBalance.Proofs.Command.Destroy

/-!
# Commands where the ledger cannot be read

The ledger is read only after the provider was asked for the work, so a ledger that cannot be read does not
hold the work up. Main statement: when balancers are made and destroyed there, and that nothing is recorded
then.
-/

namespace CloudBalance.Session

open Disk (Entry)
open Ledger (Store currentVersion)
open Ledger.Store (Loads LockOnly ledgerOfBytes)
open Net (Address)
open Service (balancersMade)

/-- What makes the bytes of a file no ledger: they are no text, the text is none of a ledger, or the ledger has
a form that is not known yet. -/
theorem ledgerOfBytes_error_iff {bytes : ByteArray} :
    (∃ e, ledgerOfBytes bytes = .error e) ↔
      Text.decode? bytes = none ∨
      (∃ text, Text.decode? bytes = some text ∧ Json.decode? Ledger.ofJson? text = none) ∨
      ∃ text ledger, Text.decode? bytes = some text ∧ Json.decode? Ledger.ofJson? text = some ledger ∧
        currentVersion < ledger.version := by
  rw [ledgerOfBytes, Local.textOf]
  cases written : Text.decode? bytes with
  | none => simp
  | some text =>
    cases read : Json.decode? Ledger.ofJson? text with
    | none => simp [Store.ledgerOfText, read]
    | some ledger =>
      by_cases newer : currentVersion < ledger.version
      · simp [Store.ledgerOfText, read, newer]
      · simp [Store.ledgerOfText, read, newer]

variable {store : Store} {disk after : Disk} {root : Disk.Place} {bytes : ByteArray} {e : CloudError}
  {events : List Session.Event} {asked : List Service.Event} {result : Except CommandError Unit}

/-- What a run that makes balancers does where the ledger cannot be read for the failure `e`. -/
structure CreatesUnread (store : Store) (request : CreateRequest) (e : CloudError) (disk after : Disk)
    (asked : List Service.Event) (result : Except CommandError Unit) : Prop where
  /-- A balancer is asked for exactly if the nodes are listed with one that counts. -/
  asks : (∃ location spec ids answer, ⟨.create location spec ids, answer⟩ ∈ asked) ↔
    ∃ nodes, ⟨.list, .ok nodes⟩ ∈ asked ∧ ∃ node ∈ nodes, (filterOf request.selection).Selects node
  /-- The nodes are listed if nobody has the lock and the protocol is one. -/
  lists : disk.find? store.lockPath = none → (∃ protocol, Protocol.parse request.protocol = .ok protocol) →
    ∃ answer, ⟨.list, answer⟩ ∈ asked
  unchanged : after.find? store.ledgerPath = disk.find? store.ledgerPath ∧
    after.find? store.backupPath = disk.find? store.backupPath
  /-- Nobody hears of the balancers that were made but of the failure. -/
  fails : (∀ event ∈ asked, Service.isPlain event) → balancersMade asked ≠ [] → result = .error (.cloud e)

/-- What a run that destroys a balancer does where the ledger cannot be read for the failure `e`. -/
structure DestroysUnread (store : Store) (address : Address) (e : CloudError) (disk after : Disk)
    (asked : List Service.Event) (result : Except CommandError Unit) : Prop where
  /-- The destruction is asked for if nobody has the lock. -/
  asks : disk.find? store.lockPath = none → ∃ answer, ⟨.destroy address, answer⟩ ∈ asked
  unchanged : after.find? store.ledgerPath = disk.find? store.ledgerPath ∧
    after.find? store.backupPath = disk.find? store.backupPath
  fails : ∀ successful, ⟨.destroy address, .ok successful⟩ ∈ asked → result = .error (.cloud e)

theorem parse_text (protocol : Protocol) : Protocol.parse protocol.text = .ok protocol := by
  cases protocol <;> rfl

theorem create_where_unreadable {providers : Providers} {request : CreateRequest}
    (located : store.At disk root) (there : disk.find? store.ledgerPath = some (.file bytes))
    (rejected : ledgerOfBytes bytes = .error e)
    (run : (create providers store request).run.Runs onDisk ⟨disk, []⟩ events (some result) ⟨after, asked⟩) :
    CreatesUnread store request e disk after asked result := by
  have holds := located.holds
  obtain ⟨left, lies, creates⟩ := ensures_create holds _ _ _ run
  have free : disk.find? store.lockPath = disk.entry? (Store.place root "lock.json") :=
    holds.find?_file Store.isName_lock
  rw [Store.ledgerPath, holds.find?_file Store.isName_ledger] at there
  dsimp only at creates lies
  cases creates with
  | refused reason idle same =>
    subst idle
    refine ⟨by simp, fun unheld parsed => ?_, same.find?_eq holds lies, fun _ made => absurd rfl made⟩
    obtain ⟨protocol, known⟩ := parsed
    rcases reason with unknown | held
    · cases known.symm.trans unknown
    · exact absurd (free.symm.trans unheld) held
  | @made protocol outcome kept its known course keeping same =>
    -- the course of the making is the same as with a ledger; only the keeping of the records fails
    have rejection : Loads ( disk.entry? (Store.place root "state.json")) (.error e) := by
      rw [there, ← rejected]
      exact .stored bytes
    obtain ⟨early, ends⟩ := keeping.unreadable rejection
    refine ⟨course.asks_iff, fun _ _ => course.lists (parse_text protocol),
      (early.trans same).find?_eq holds lies, fun plain made => ?_⟩
    rw [course.balancersMade_eq plain] at made
    rw [ends made]
    rfl

theorem destroy_where_unreadable {address : Address} (located : store.At disk root)
    (there : disk.find? store.ledgerPath = some (.file bytes)) (rejected : ledgerOfBytes bytes = .error e)
    (run : (destroy store address).run.Runs onDisk ⟨disk, []⟩ events (some result) ⟨after, asked⟩) :
    DestroysUnread store address e disk after asked result := by
  have holds := located.holds
  obtain ⟨left, lies, destroys⟩ := ensures_destroy holds _ _ _ run
  have free : disk.find? store.lockPath = disk.entry? (Store.place root "lock.json") :=
    holds.find?_file Store.isName_lock
  rw [Store.ledgerPath, holds.find?_file Store.isName_ledger] at there
  have rejection : Loads ( disk.entry? (Store.place root "state.json")) (.error e) := by
    rw [there, ← rejected]
    exact .stored bytes
  -- the log left out, one call is all that is asked
  have called : ∀ {answer}, Service.steps asked = [⟨.destroy address, answer⟩] →
      ∀ {other}, ⟨.destroy address, other⟩ ∈ asked ↔ other = answer := by
    intro answer call other
    rw [← Service.mem_steps rfl, call, List.mem_singleton]
    simp
  dsimp only at destroys lies
  cases destroys with
  | refused held idle same =>
    subst idle
    exact ⟨fun unheld => absurd (free.symm.trans unheld) held, same.find?_eq holds lies,
      fun _ call => by cases call⟩
  | failed call same =>
    exact ⟨fun _ => ⟨_, (called call).mpr rfl⟩, same.find?_eq holds lies,
      fun _ done => by cases (called call).mp done⟩
  | unread call unreadable same =>
    cases unreadable.unique rejection
    exact ⟨fun _ => ⟨_, (called call).mpr rfl⟩, same.find?_eq holds lies, fun _ _ => rfl⟩
  | forgotten call readable => cases readable.unique rejection

/-- Where the file of the ledger holds none, balancers are made and destroyed all the same, and it is only
then that the run fails: what is asked of the service, and what is left. -/
theorem asks_where_unreadable (located : store.At disk root)
    (there : disk.find? store.ledgerPath = some (.file bytes)) (rejected : ledgerOfBytes bytes = .error e) :
    (∀ providers request events result after asked,
      (create providers store request).run.Runs onDisk ⟨disk, []⟩ events (some result) ⟨after, asked⟩ →
      CreatesUnread store request e disk after asked result) ∧
    ∀ address events result after asked,
      (destroy store address).run.Runs onDisk ⟨disk, []⟩ events (some result) ⟨after, asked⟩ →
      DestroysUnread store address e disk after asked result :=
  ⟨fun _ _ _ _ _ _ run => create_where_unreadable located there rejected run,
    fun _ _ _ _ _ run => destroy_where_unreadable located there rejected run⟩

/-- A disk whose file of the ledger holds none. -/
def spoiled : Disk :=
  ⟨[([".nimbus"], .directory), ([".nimbus", "state.json"], .file (Text.encode "not json"))], []⟩

theorem asks_where_spoiled :
    (∃ location spec ids answer, ⟨.create location spec ids, answer⟩ ∈
      (ran (oneZone (.v4 203 0 113 9)) (create sakura project webRequest) ⟨spoiled, []⟩).asked) ∧
    ∃ answer, ⟨.destroy (.v4 203 0 113 9), answer⟩ ∈
      (ran (oneZone (.v4 203 0 113 9)) (destroy project (.v4 203 0 113 9)) ⟨spoiled, []⟩).asked := by
  have located : project.At spoiled [] := by
    refine ⟨?_, rfl, rfl⟩
    intro place entry member
    rcases List.mem_cons.mp member with same | member
    · cases same
      rfl
    · cases List.mem_singleton.mp member
      rfl
  have there : spoiled.find? project.ledgerPath = some (.file (Text.encode "not json")) := rfl
  have rejected : ledgerOfBytes (Text.encode "not json") = .error .malformed := by decide +kernel
  obtain ⟨creates, destroys⟩ := asks_where_unreadable located there rejected
  have making := runs_act (oneZone (.v4 203 0 113 9)) (create sakura project webRequest) ⟨spoiled, []⟩
    (by decide +kernel)
  have unmade : ((create sakura project webRequest).run.run (act (oneZone (.v4 203 0 113 9)))
      ⟨spoiled, []⟩).1 = some (.error (.cloud .malformed)) := by
    decide +kernel
  rw [unmade] at making
  have listed : ⟨.list, .ok [Service.nodeIn "a"]⟩ ∈
      (ran (oneZone (.v4 203 0 113 9)) (create sakura project webRequest) ⟨spoiled, []⟩).asked := by
    decide +kernel
  have ending := runs_act (oneZone (.v4 203 0 113 9)) (destroy project (.v4 203 0 113 9)) ⟨spoiled, []⟩
    (by decide +kernel)
  have unended : ((destroy project (.v4 203 0 113 9)).run.run (act (oneZone (.v4 203 0 113 9)))
      ⟨spoiled, []⟩).1 = some (.error (.cloud .malformed)) := by
    decide +kernel
  rw [unended] at ending
  exact ⟨(creates _ _ _ _ _ _ making).asks.mpr
      ⟨_, listed, Service.nodeIn "a", List.mem_singleton_self _, rfl, by decide⟩,
    (destroys _ _ _ _ _ ending).asks rfl⟩

end CloudBalance.Session
