import CloudBalance.Proofs.Command.Answers
import CloudBalance.Proofs.Ledger.Entries

/-!
# What making balancers leaves behind

Main statement: after balancers are made, whether for all locations or until a call fails, the ledger
holds a record for each balancer that was made in the run and is otherwise as it was.
-/

namespace CloudBalance.Session

open Disk (Entry)
open Ledger (Store Inserts Record)
open Ledger.Store (Loads LockOnly)
open Net (Address)
open Time (Instant)

/-! ## Recording -/

variable {store : Store} {disk : Disk} {contents : String → Option Entry} {provider : String}
  {spec : BalancerSpec}

theorem ensures_insertOutcomes (ledger : Ledger) (made : List (Location × Outcome)) :
    (insertOutcomes provider spec ledger made).Ensures Local.onDisk disk fun result after =>
      after = disk ∧ Inserts provider spec made ledger.entries result.entries ∧
        result.version = ledger.version ∧
        (Instant.IsYear ledger.updatedAt.date.year ∨ made ≠ [] → Instant.IsYear result.updatedAt.date.year) := by
  induction made generalizing ledger with
  | nil =>
    exact Program.ensures_done.mpr
      ⟨rfl, .nil, rfl, fun held => held.resolve_right fun filled => filled rfl⟩
  | cons entry made ih =>
    -- each record is made at a time of its own
    obtain ⟨location, outcome⟩ := entry
    rw [insertOutcomes, Program.ensures_bind, Local.ensures_now]
    intro now held
    refine (ih _).mono ?_
    rintro result _ ⟨rfl, inserts, version, updated⟩
    exact ⟨rfl, .cons held inserts, version, fun _ => updated (.inl held)⟩

/-- A report is recorded unless the ledger cannot be read, and then nothing is written. -/
theorem ensures_recordReport (holds : store.Holds disk contents) {made : Report}
    (filled : made.locations ≠ []) :
    (recordReport store provider spec made).run.Ensures Local.onDisk disk fun result after =>
      ∃ left, store.Holds after left ∧
        ((∃ e, Loads (contents "state.json") (.error e) ∧ result = .error e ∧ left = contents) ∨
        ∃ ledger updated, Loads (contents "state.json") (.ok ledger) ∧ result = .ok () ∧
          Loads (left "state.json") (.ok updated) ∧
          Inserts provider spec made.locations ledger.entries updated.entries) := by
  rw [recordReport, Attempt.ensures_bind]
  refine (Store.ensures_load holds).mono ?_
  rintro result _ ⟨loaded, rfl⟩
  cases result with
  | error e => exact ⟨contents, holds, .inl ⟨e, loaded, rfl, rfl⟩⟩
  | ok ledger =>
    dsimp only
    rw [Attempt.ensures_bind, Attempt.ensures_lift]
    refine (ensures_insertOutcomes ledger made.locations).mono ?_
    rintro updated _ ⟨rfl, inserts, version, held⟩
    refine (Store.ensures_save holds loaded.file updated).mono ?_
    rintro _ after ⟨rfl, holds⟩
    refine ⟨_, holds, .inr ⟨ledger, updated, loaded, rfl, ?_, inserts⟩⟩
    rw [Function.update_self]
    have sane := loaded.sane
    exact Store.loads_encode ⟨version ▸ sane.known, inserts.storable sane.storable⟩ (held (.inr filled))

/-! ## Making -/

/-- What is asked of the service for balancers as specified. -/
def requestOf (spec : BalancerSpec) : Service.Request :=
  ⟨spec.name, spec.protocol.text, spec.balancerPort, spec.instancePort⟩

/-- What the command makes of what came of the service. -/
def creationOf : Except CloudError Report → Except CommandError Creation
  | .ok made => .ok (if made.locations.isEmpty then .nothing else .made made)
  | .error (.createAborted location created cause) => .ok (.stopped location created cause)
  | .error e => .error (.cloud e)

variable {providers : Providers} {selection : Terminal.Selection} {s : Surroundings}

theorem ensures_makeAll :
    (makeAll providers spec selection).run.Ensures onDisk s fun result after =>
      ∃ events outcome, after = ⟨s.disk, s.asked ++ events⟩ ∧
        Service.Course providers.policy (filterOf selection) (requestOf spec) events outcome ∧
        result = creationOf outcome := by
  rw [makeAll, Attempt.ensures_bind, Attempt.ensures_outcome]
  refine ensures_ofService.mpr fun events outcome run => ?_
  obtain ⟨_, same, course⟩ := Service.course_of_runs (.inr rfl) run
  cases same
  cases outcome with
  | ok made => exact Attempt.ensures_pure.mpr ⟨events, _, rfl, course, rfl⟩
  | error e =>
    cases e with
    | createAborted location created cause => exact Attempt.ensures_pure.mpr ⟨events, _, rfl, course, rfl⟩
    | _ => exact Attempt.ensures_throw.mpr ⟨events, _, rfl, course, rfl⟩

/-- How the records of some balancers are kept: what lies in the directory before and after, and whether
that went well. -/
inductive Keeping (provider : String) (spec : BalancerSpec) (made : List (Location × Outcome))
    (before after : String → Option Entry) : Except CloudError Unit → Prop where
  /-- Nothing was made. -/
  | nothing (none : made = []) (same : LockOnly before after) :
      Keeping provider spec made before after (.ok ())
  /-- The ledger cannot be read. -/
  | unread {e : CloudError} (filled : made ≠ []) (unreadable : Loads (before "state.json") (.error e))
      (same : LockOnly before after) : Keeping provider spec made before after (.error e)
  /-- The records are written. -/
  | recorded {ledger updated : Ledger} (filled : made ≠ [])
      (readable : Loads (before "state.json") (.ok ledger))
      (stored : Loads (after "state.json") (.ok updated))
      (inserts : Inserts provider spec made ledger.entries updated.entries) :
      Keeping provider spec made before after (.ok ())

theorem Keeping.of_lockOnly {made : List (Location × Outcome)} {before its after : String → Option Entry}
    {kept : Except CloudError Unit} (same : LockOnly before its)
    (keeping : Keeping provider spec made its after kept) : Keeping provider spec made before after kept := by
  cases keeping with
  | nothing none later => exact .nothing none (same.trans later)
  | unread filled unreadable later => exact .unread filled (same.ledger ▸ unreadable) (same.trans later)
  | recorded filled readable stored inserts =>
    exact .recorded filled (same.ledger ▸ readable) stored inserts

theorem ensures_keep {made : Report} (holds : store.Holds s.disk contents) (filled : made.locations ≠ []) :
    (keep providers store spec made).run.Ensures onDisk s fun result after =>
      ∃ left, store.Holds after.disk left ∧ after.asked = s.asked ∧ ∃ kept,
        Keeping providers.recordName spec made.locations contents left kept ∧
        result = kept.mapError .cloud := by
  rw [keep]
  simp only [Attempt.ensures_bind, Attempt.ensures_lift, ensures_print, ensures_printAll]
  refine ensures_ofLocal.mpr ((ensures_recordReport holds filled).mono ?_)
  rintro result after ⟨left, lies, kept⟩
  rcases kept with ⟨e, unreadable, rfl, rfl⟩ | ⟨ledger, updated, readable, rfl, stored, inserts⟩
  · exact ⟨left, lies, rfl, _, .unread filled unreadable fun _ _ => rfl, rfl⟩
  · exact ⟨left, lies, rfl, _, .recorded filled readable stored inserts, rfl⟩

/-- How a command ends that goes on after the records are kept. -/
def endOf {α : Type} (kept : Except CloudError Unit) (ended : Except CommandError α) :
    Except CommandError α :=
  match kept with
  | .ok _ => ended
  | .error e => .error (.cloud e)

theorem ensures_makeAndKeep (holds : store.Holds s.disk contents) :
    (makeAndKeep providers store spec selection).run.Ensures onDisk s fun result after =>
      ∃ left, store.Holds after.disk left ∧ ∃ events outcome kept, after.asked = s.asked ++ events ∧
        Service.Course providers.policy (filterOf selection) (requestOf spec) events outcome ∧
        Keeping providers.recordName spec (Service.reported outcome).locations contents left kept ∧
        result = endOf kept (creationOf outcome) := by
  rw [makeAndKeep, Attempt.ensures_bind]
  refine ensures_makeAll.mono ?_
  rintro _ _ ⟨events, outcome, rfl, course, rfl⟩
  -- where nothing is reported, nothing is written
  have idle : (Service.reported outcome).locations = [] →
      Keeping providers.recordName spec (Service.reported outcome).locations contents contents (.ok ()) :=
    fun none => .nothing none fun _ _ => rfl
  cases outcome with
  | ok made =>
    by_cases none : made.locations = []
    · have whole : creationOf (.ok made) = .ok .nothing := by simp [creationOf, none]
      rw [whole]
      exact Attempt.ensures_pure.mpr
        ⟨contents, holds, events, _, _, rfl, course, idle none, whole.symm⟩
    · have whole : creationOf (.ok made) = .ok (.made made) := by simp [creationOf, none]
      rw [whole]
      dsimp only
      rw [Attempt.ensures_bind]
      refine (ensures_keep (s := ⟨s.disk, s.asked ++ events⟩) holds none).mono ?_
      rintro _ after ⟨left, lies, same, kept, keeping, rfl⟩
      cases kept with
      | ok _ =>
        exact Attempt.ensures_pure.mpr ⟨left, lies, events, _, _, same, course, keeping, whole.symm⟩
      | error e => exact ⟨left, lies, events, _, _, same, course, keeping, rfl⟩
  | error e =>
    cases e with
    | createAborted location created cause =>
      rw [creationOf]
      by_cases none : created.locations = []
      · simp only [none, List.isEmpty_nil, Bool.not_true, Bool.false_eq_true, if_false]
        exact Attempt.ensures_pure.mpr ⟨contents, holds, events, _, _, rfl, course, idle none, rfl⟩
      · have filled : (!created.locations.isEmpty) = true := by simpa using none
        simp only [filled, if_true, Attempt.ensures_bind]
        refine (ensures_keep (s := ⟨s.disk, s.asked ++ events⟩) holds none).mono ?_
        rintro _ after ⟨left, lies, same, kept, keeping, rfl⟩
        cases kept with
        | ok _ =>
          dsimp only [Except.mapError]
          rw [Attempt.ensures_lift, ensures_print]
          exact Attempt.ensures_pure.mpr ⟨left, lies, events, _, _, same, course, keeping, rfl⟩
        | error e => exact ⟨left, lies, events, _, _, same, course, keeping, rfl⟩
    | _ => exact ⟨contents, holds, events, _, _, rfl, course, idle rfl, rfl⟩

/-! ## The command -/

variable {request : CreateRequest}

/-- What the request asks for, with the protocol understood. -/
def specOf (request : CreateRequest) (protocol : Protocol) : BalancerSpec :=
  ⟨request.name, protocol, request.balancerPort, request.instancePort⟩

/-- How a run that makes balancers may go: what lies in the directory of the project before and after,
what is asked of the service, and the result. -/
inductive Creates (providers : Providers) (request : CreateRequest) (before after : String → Option Entry)
    (asked : List Service.Event) : Except CommandError Unit → Prop where
  /-- The protocol is none, or the lock is not to be had. -/
  | refused {e : CloudError}
      (reason : Protocol.parse request.protocol = .error e ∨ before "lock.json" ≠ none)
      (idle : asked = []) (same : LockOnly before after) :
      Creates providers request before after asked (.error (.cloud e))
  /-- Balancers are made as the service makes them, and the records of those that were made are kept. -/
  | made {protocol : Protocol} {outcome : Except CloudError Report} {kept : Except CloudError Unit}
      {left : String → Option Entry} (known : Protocol.parse request.protocol = .ok protocol)
      (course : Service.Course providers.policy (filterOf request.selection)
        (requestOf (specOf request protocol)) asked outcome)
      (keeping : Keeping providers.recordName (specOf request protocol)
        (Service.reported outcome).locations before left kept)
      (same : LockOnly left after) :
      Creates providers request before after asked
        (endOf kept ((outcome.map fun _ => ()).mapError .cloud))

theorem ensures_create (holds : store.Holds disk contents) :
    (create providers store request).run.Ensures onDisk ⟨disk, []⟩ fun result after =>
      ∃ left, store.Holds after.disk left ∧ Creates providers request contents left after.asked result := by
  rw [create, Attempt.ensures_bind, Attempt.ensures_attempt, Program.pure_def, Program.ensures_done]
  cases known : Protocol.parse request.protocol with
  | error e => exact ⟨contents, holds, .refused (.inl known) rfl fun _ _ => rfl⟩
  | ok protocol =>
    simp only [Except.mapError, Attempt.ensures_bind, Attempt.ensures_lift, ensures_print]
    refine (ensures_withLock (fun result asked its => ∃ outcome kept,
      Service.Course providers.policy (filterOf request.selection)
        (requestOf (specOf request protocol)) asked outcome ∧
      Keeping providers.recordName (specOf request protocol) (Service.reported outcome).locations contents its
        kept ∧ result = endOf kept (creationOf outcome)) holds ?_).mono ?_
    · intro disk its lies same
      refine (ensures_makeAndKeep lies).mono ?_
      rintro result after ⟨left, lies, asked, outcome, kept, rest, course, keeping, rfl⟩
      rw [rest]
      exact ⟨left, lies, outcome, kept, course, keeping.of_lockOnly same, rfl⟩
    · rintro result after ⟨left, lies, ⟨⟨e, rfl⟩, held, idle, same⟩ |
        ⟨its, same, outcome, kept, course, keeping, rfl⟩⟩
      · exact ⟨left, lies, .refused (.inr held) idle same⟩
      · have creates := Creates.made known course keeping same
        cases kept with
        | error e => exact ⟨left, lies, creates⟩
        | ok _ =>
          cases outcome with
          | ok made =>
            by_cases none : made.locations = []
            · simp only [endOf, creationOf, none, List.isEmpty_nil, if_true, Attempt.ensures_bind,
                Attempt.ensures_lift, ensures_print]
              exact ⟨left, lies, creates⟩
            · simp only [endOf, creationOf, List.isEmpty_iff, none, if_false, Attempt.ensures_lift,
                ensures_printAll]
              exact ⟨left, lies, creates⟩
          | error e =>
            cases e with
            | createAborted location created cause => exact Attempt.ensures_throw.mpr ⟨left, lies, creates⟩
            | _ => exact ⟨left, lies, creates⟩

/-- A run that makes balancers, put together from the runs of its parts. -/
theorem exists_run_create {protocol : Protocol} {locked written after : Disk} {asked : List Service.Event}
    {made : Report} {locking recording releasing : List Local.Event}
    (known : Protocol.parse request.protocol = .ok protocol) (filled : made.locations.isEmpty = false)
    (locks : (store.acquireLock ("lb create " ++ request.name)).run.Runs Local.onDisk disk locking
      (some (.ok ())) locked)
    (makes : (Service.placeReport providers.policy (filterOf request.selection)
      (requestOf (specOf request protocol))).run.Runs (servicePart.environment onDisk) ⟨locked, []⟩ asked
      (some (.ok made)) ⟨locked, asked⟩)
    (records : (recordReport store providers.recordName (specOf request protocol) made).run.Runs Local.onDisk
      locked recording (some (.ok ())) written)
    (releases : store.releaseLock.run.Runs Local.onDisk written releasing (some (.ok ())) after) :
    ∃ events, (create providers store request).run.Runs onDisk ⟨disk, []⟩ events (some (.ok ()))
      ⟨after, asked⟩ := by
  have possible : ¬ (create providers store request).run.Ensures onDisk ⟨disk, []⟩ fun result last =>
      ¬ (result = .ok () ∧ last = ⟨after, asked⟩) := by
    simp only [create, known, withLock, makeAndKeep, makeAll, keep, Attempt.ensures_bind,
      Attempt.ensures_attempt, Attempt.ensures_lift, Attempt.ensures_outcome, ensures_print, ensures_ofLocal,
      ensures_ofService, Program.ensures_done, Program.pure_def, Except.mapError]
    intro never
    have kept := never _ _ _ locks _ _ makes
    simp only [filled, Bool.false_eq_true, if_false, Attempt.ensures_pure, Attempt.ensures_bind,
      Attempt.ensures_lift, ensures_print, ensures_printAll, ensures_ofLocal] at kept
    exact kept _ _ _ records _ _ _ releases ⟨trivial, rfl⟩
  obtain ⟨events, _, _, run, rfl, rfl⟩ := Program.exists_run possible
  exact ⟨events, run⟩

/-! ## The ledger after a run -/

open Ledger (Updates)
open Service (balancersMade)

theorem Keeping.inserts {made : List (Location × Outcome)} {before after : String → Option Entry}
    {kept : Except CloudError Unit} {ledger : Ledger}
    (keeping : Keeping provider spec made before after kept)
    (loaded : Loads (before "state.json") (.ok ledger)) :
    kept = .ok () ∧ ∃ updated, Loads (after "state.json") (.ok updated) ∧
      Inserts provider spec made ledger.entries updated.entries := by
  cases keeping with
  | nothing none same =>
    subst none
    exact ⟨rfl, ledger, same.ledger ▸ loaded, .nil⟩
  | unread filled unreadable _ => cases loaded.unique unreadable
  | @recorded found updated filled readable stored inserts =>
    have known : found.entries = ledger.entries := Except.ok.inj (readable.unique loaded)
    exact ⟨rfl, updated, stored, known ▸ inserts⟩

theorem Keeping.unreadable {made : List (Location × Outcome)} {before after : String → Option Entry}
    {kept : Except CloudError Unit} {e : CloudError} (keeping : Keeping provider spec made before after kept)
    (rejected : Loads (before "state.json") (.error e)) :
    LockOnly before after ∧ (made ≠ [] → kept = .error e) := by
  cases keeping with
  | nothing none same => exact ⟨same, fun filled => absurd none filled⟩
  | unread filled unreadable same =>
    cases unreadable.unique rejected
    exact ⟨same, fun _ => rfl⟩
  | recorded filled readable => cases readable.unique rejected

theorem Keeping.remembers {made : List (Location × Outcome)} {before left after : String → Option Entry}
    {kept : Except CloudError Unit} {entries : List (String × Record)} {last : Disk}
    (keeping : Keeping provider spec made before left kept) (same : LockOnly left after)
    (holds : store.Holds disk before) (lies : store.Holds last after)
    (remembers : store.Remembers disk entries) (distinct : (made.map (·.1.id)).Nodup) :
    kept = .ok () ∧ ∃ updated, store.Remembers last updated ∧ Updates provider spec made entries updated := by
  obtain ⟨ledger, loaded, rfl⟩ := (Store.remembers_iff holds).mp remembers
  obtain ⟨rfl, updated, stored, inserts⟩ := keeping.inserts loaded
  refine ⟨rfl, updated.entries, (Store.remembers_iff lies).mpr ⟨updated, ?_, rfl⟩,
    inserts.updates loaded.sane.storable distinct⟩
  rwa [same.ledger]

variable {root : Disk.Place} {entries : List (String × Record)} {events : List Session.Event}
  {asked : List Service.Event} {result : Except CommandError Unit} {after : Disk}

/-- What a run that makes balancers leaves where the ledger had these entries, by what was asked and answered. -/
structure Recorded (store : Store) (providers : Providers) (request : CreateRequest)
    (entries : List (String × Record)) (asked : List Service.Event) (disk after : Disk)
    (result : Except CommandError Unit) : Prop where
  updates : ∀ protocol, Protocol.parse request.protocol = .ok protocol →
    ∃ updated, store.Remembers after updated ∧
      Updates providers.recordName (specOf request protocol) (balancersMade asked) entries updated
  untouched : balancersMade asked = [] →
    after.find? store.ledgerPath = disk.find? store.ledgerPath ∧
    after.find? store.backupPath = disk.find? store.backupPath
  aborted : ∀ location spec ids cause, ⟨.create location spec ids, .error cause⟩ ∈ asked →
    ∃ created, created.locations = balancersMade asked ∧
      result = .error (.cloud (.createAborted location.id created cause))

theorem recorded_of_run (located : store.At disk root) (remembers : store.Remembers disk entries)
    (plain : ∀ event ∈ asked, Service.isPlain event)
    (distinct : ((balancersMade asked).map (·.1.id)).Nodup)
    (run : (create providers store request).run.Runs onDisk ⟨disk, []⟩ events (some result) ⟨after, asked⟩) :
    Recorded store providers request entries asked disk after result := by
  have holds := located.holds
  obtain ⟨left, lies, creates⟩ := ensures_create holds _ _ _ run
  cases creates with
  | refused reason idle same =>
    -- nothing was asked, so nothing was made
    dsimp only at idle
    subst idle
    refine ⟨fun protocol _ => ?_, fun _ => same.find?_eq holds lies, fun _ _ _ _ call => by cases call⟩
    have keeping : Keeping providers.recordName (specOf request protocol) [] _ left (.ok ()) :=
      .nothing rfl same
    exact (keeping.remembers (.refl _) holds lies remembers distinct).2
  | made known course keeping same =>
    have made := course.balancersMade_eq plain
    rw [made] at distinct
    obtain ⟨rfl, updated, found, updates⟩ := keeping.remembers same holds lies remembers distinct
    refine ⟨fun protocol parsed => ?_, fun none => ?_, fun location spec ids cause call => ?_⟩
    · cases known.symm.trans parsed
      exact ⟨updated, found, made ▸ updates⟩
    · -- without a record nothing is written but the lock
      cases keeping with
      | nothing _ early => exact (early.trans same).find?_eq holds lies
      | recorded filled => exact absurd (made.symm.trans none) filled
    · obtain ⟨created, rfl⟩ := course.failed call
      exact ⟨created, made.symm, rfl⟩

/-- With the providers of the world, balancers are made at locations of different ids. -/
theorem nodup_of_answers {assembly : Assembly} {called : List World.Event} (located : store.At disk root)
    (answers : Answers assembly asked called)
    (run : (create providers store request).run.Runs onDisk ⟨disk, []⟩ events (some result) ⟨after, asked⟩) :
    ((balancersMade asked).map (·.1.id)).Nodup := by
  obtain ⟨left, _, creates⟩ := ensures_create located.holds _ _ _ run
  cases creates with
  | refused _ idle =>
    dsimp only at idle
    subst idle
    exact List.nodup_nil
  | made _ course => exact course.nodup_ids answers.isPlain fun nodes listed node => answers.zone listed

/-- Whatever the world is like, a run with its providers leaves the ledger like that. -/
theorem recorded_of_world {assembly : Assembly} {colour : Bool} {events : List World.Event}
    (located : store.At disk root) (remembers : store.Remembers disk entries)
    (run : (World.ofSession assembly colour (create providers store request)).run.Runs World.onDisk disk events
      (some result) after) :
    ∃ asked, Answers assembly asked (World.calls events) ∧
      Recorded store providers request entries asked disk after result := by
  obtain ⟨session, asked, own, answers⟩ := runs_answered within_create run []
  exact ⟨asked, answers,
    recorded_of_run located remembers answers.isPlain (nodup_of_answers located answers own) own⟩

/-- A provider with a node in one zone, where balancers are made and their names lead to an address. -/
def oneZone (address : Address) : (q : Service.Query) → List Service.Event → Service.Answer q
  | .list, _ => .ok [Service.nodeIn "a"]
  | .create location _ _, _ => .ok (location.id ++ ".example.com")
  | .destroy _, _ => .ok true
  | .resolve _, _ => .ok [address]
  | .sleep _, _ | .log _, _ => ()

def blank : Disk := ⟨[], []⟩

def project : Store := ⟨"/"⟩

theorem at_blank : project.At blank [] where
  sound := by rintro place entry member; cases member
  located := rfl
  directory := rfl

def sakura : Providers := ⟨"sakura", none, "sakura-cloud", .fixed 1 0⟩

def webRequest : CreateRequest := ⟨"web", "http", 80, 8080, ⟨none, none⟩⟩

/-- What is made for `webRequest` where the name leads to an address. -/
def webReport (address : Address) : Report :=
  ⟨[(.zone "a", .resolved "a.example.com" [address])]⟩

def webLedger (address : Address) (ledger : Ledger) : Ledger :=
  ledger.insert (.ofOutcome sakura.recordName (.zone "a") (specOf webRequest .http)
    (.resolved "a.example.com" [address]) default) default

theorem sane_webLedger {address : Address} {ledger : Ledger} (sane : Store.Sane ledger) :
    Store.Sane (webLedger address ledger) := by
  refine sane.insert ?_ _
  exact Instant.isYear_default

/-- A disk with a project that has files. -/
def filled (files : List (Disk.Place × Entry)) : Disk :=
  ⟨([".nimbus"], .directory) :: files, []⟩

def ledgerFile (name : String) (ledger : Ledger) : Disk.Place × Entry :=
  ([".nimbus", name], .file (Text.encode ledger.toJson.pretty))

def lockFile (operation : String) : Disk.Place × Entry :=
  ([".nimbus", "lock.json"],
    .file (Text.encode (Ledger.Lock.mk "unknown" operation 1 default).toJson.pretty))

theorem at_filled {files : List (Disk.Place × Entry)} (within : ∀ file ∈ files, file.1.dropLast = [".nimbus"]) :
    project.At (filled files) [] :=
  Store.at_files within

theorem exists_run_acquireLock (operation : String) (ledger : Ledger) :
    ∃ events, (project.acquireLock operation).run.Runs Local.onDisk (filled [ledgerFile "state.json" ledger])
      events (some (.ok ())) (filled [ledgerFile "state.json" ledger, lockFile operation]) :=
  ⟨_, Local.runs_act rfl rfl⟩

/-- The text of the ledger is not computed, since it is known what is read from it. -/
theorem exists_run_load_filled (operation : String) {ledger : Ledger} (sane : Store.Sane ledger)
    (updated : Instant.IsYear ledger.updatedAt.date.year) :
    ∃ events, project.load.run.Runs Local.onDisk (filled [ledgerFile "state.json" ledger, lockFile operation])
      events (some (.ok ledger)) (filled [ledgerFile "state.json" ledger, lockFile operation]) := by
  have located : project.At (filled [ledgerFile "state.json" ledger, lockFile operation]) [] :=
    at_filled (by simp [ledgerFile, lockFile])
  exact Store.exists_run_load located.holds (Store.loads_encode sane updated)

theorem exists_run_save (operation : String) (ledger left : Ledger) :
    ∃ events, (project.save left).run.Runs Local.onDisk
      (filled [ledgerFile "state.json" ledger, lockFile operation]) events (some (.ok ()))
      (filled [ledgerFile "state.json.backup" ledger, lockFile operation, ledgerFile "state.json" left]) :=
  ⟨_, Local.runs_act rfl rfl⟩

theorem exists_run_releaseLock (operation : String) (ledger left : Ledger) :
    ∃ events, project.releaseLock.run.Runs Local.onDisk
      (filled [ledgerFile "state.json.backup" ledger, lockFile operation, ledgerFile "state.json" left]) events
      (some (.ok ())) (filled [ledgerFile "state.json.backup" ledger, ledgerFile "state.json" left]) :=
  ⟨_, Local.runs_act rfl rfl⟩

/-- There is a run that makes the balancer and takes one disk to another. -/
def WebRuns (address : Address) (disk after : Disk) : Prop :=
  ∃ events asked, (create sakura project webRequest).run.Runs onDisk ⟨disk, []⟩ events (some (.ok ()))
    ⟨after, asked⟩ ∧
    (∀ event ∈ asked, Service.isPlain event) ∧
    balancersMade asked = [(.zone "a", .resolved "a.example.com" [address])]

theorem webRuns_of_parts {address : Address} {locked written after : Disk}
    {locking recording releasing : List Local.Event}
    (locks : (project.acquireLock "lb create web").run.Runs Local.onDisk disk locking (some (.ok ()))
      locked)
    (records : (recordReport project sakura.recordName (specOf webRequest .http) (webReport address)).run.Runs
      Local.onDisk locked recording (some (.ok ())) written)
    (releases : project.releaseLock.run.Runs Local.onDisk written releasing (some (.ok ())) after) :
    WebRuns address disk after := by
  have makes : ((Service.placeReport sakura.policy (filterOf webRequest.selection)
      (requestOf (specOf webRequest .http))).run.run (serve (oneZone address)) ⟨locked, []⟩).1 =
        some (.ok (webReport address)) := by
    with_unfolding_all rfl
  have known : Protocol.parse webRequest.protocol = .ok .http := rfl
  obtain ⟨events, run⟩ := exists_run_create known rfl locks (runs_serve makes) records releases
  refine ⟨events, _, run, List.all_eq_true.mp ?_, ?_⟩
  · with_unfolding_all rfl
  · with_unfolding_all rfl

/-- The balancer is made again where there is a ledger. -/
theorem webRuns_again (address : Address) {ledger : Ledger} (sane : Store.Sane ledger)
    (updated : Instant.IsYear ledger.updatedAt.date.year) :
    WebRuns address (filled [ledgerFile "state.json" ledger])
      (filled [ledgerFile "state.json.backup" ledger,
        ledgerFile "state.json" (webLedger address ledger)]) := by
  obtain ⟨_, locks⟩ := exists_run_acquireLock "lb create web" ledger
  obtain ⟨_, loads⟩ := exists_run_load_filled "lb create web" sane updated
  obtain ⟨_, saves⟩ := exists_run_save "lb create web" ledger (webLedger address ledger)
  obtain ⟨_, releases⟩ := exists_run_releaseLock "lb create web" ledger (webLedger address ledger)
  have inserts : ∃ events, (insertOutcomes sakura.recordName (specOf webRequest .http) ledger
      (webReport address).locations).Runs Local.onDisk
      (filled [ledgerFile "state.json" ledger, lockFile "lb create web"]) events (some (webLedger address ledger))
      (filled [ledgerFile "state.json" ledger, lockFile "lb create web"]) :=
    ⟨_, Local.runs_act rfl rfl⟩
  obtain ⟨_, inserts⟩ := inserts
  have writes := Attempt.runs_lift_bind.mpr (.inl ⟨_, _, _, _, inserts, saves, rfl⟩)
  exact webRuns_of_parts locks (Attempt.runs_bind.mpr (.inl ⟨_, ledger, _, _, loads, writes, rfl⟩)) releases

theorem remembers_filled {ledger : Ledger} (sane : Store.Sane ledger)
    (updated : Instant.IsYear ledger.updatedAt.date.year) :
    project.Remembers (filled [ledgerFile "state.json" ledger]) ledger.entries := by
  have located : project.At (filled [ledgerFile "state.json" ledger]) [] := at_filled (by simp [ledgerFile])
  exact (Store.remembers_iff located.holds).mpr ⟨ledger, Store.loads_encode sane updated, rfl⟩

/-- A record of a balancer whose name led nowhere. -/
def apiRecord : Record :=
  .ofOutcome "cloudflare" (.zone "a") ⟨"api", .http, 80, 8080⟩ (.unresolved "api-a.example.com") default

/-- The ledger has that record, and the balancer `web` was made before. -/
def webAndApi : Ledger :=
  webLedger (.v4 203 0 113 8) ((Ledger.new default).insert apiRecord default)

end CloudBalance.Session
