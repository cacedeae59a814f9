import CloudBalance.Proofs.Command.History

/-!
# What is forgotten when a balancer is destroyed

The provider says whether it destroyed a balancer, but nobody asks. Main statement: after its answer, whichever
it is, a record with the address leaves the ledger if there is one.
-/

namespace CloudBalance.Session

open Ledger (Store Record Removes)
open Net (Address)
open Service (steps)
open Time (Instant)

variable {store : Store} {disk after : Disk} {root : Disk.Place} {entries : List (String × Record)}
  {address : Address} {events : List Session.Event} {asked : List Service.Event}
  {result : Except CommandError Unit}

theorem remembers_destroy (located : store.At disk root) (remembers : store.Remembers disk entries)
    (run : (destroy store address).run.Runs onDisk ⟨disk, []⟩ events (some result) ⟨after, asked⟩) :
    ((∃ e, result = .error e) ∧ (∀ answer, ⟨.destroy address, .ok answer⟩ ∉ asked) ∧
      store.Remembers after entries) ∨
    ∃ successful left, steps asked = [⟨.destroy address, .ok successful⟩] ∧ result = .ok () ∧
      store.Remembers after left ∧ Removes address entries left := by
  have holds := located.holds
  obtain ⟨ledger, loaded, rfl⟩ := (Store.remembers_iff holds).mp remembers
  obtain ⟨left, lies, destroys⟩ := ensures_destroy holds _ _ _ run
  have kept : Store.LockOnly (fun name => disk.entry? (Store.place root name)) left →
      store.Remembers after ledger.entries := fun same =>
    (Store.remembers_iff lies).mpr ⟨ledger, same.ledger ▸ loaded, rfl⟩
  dsimp only at destroys
  cases destroys with
  | refused _ idle same =>
    subst idle
    exact .inl ⟨⟨_, rfl⟩, fun answer => List.not_mem_nil, kept same⟩
  | failed call same =>
    refine .inl ⟨⟨_, rfl⟩, fun answer told => ?_, kept same⟩
    rw [← Service.mem_steps rfl, call, List.mem_singleton] at told
    cases told
  | unread _ unreadable => cases loaded.unique unreadable
  | @forgotten successful found now call readable stored =>
    -- nothing here depends on the answer
    have known : ledger.entries = found.entries := Except.ok.inj (loaded.unique readable)
    refine .inr ⟨successful, _, call, rfl, (Store.remembers_iff lies).mpr ⟨_, stored, rfl⟩, ?_⟩
    rw [known]
    exact Ledger.removes_removeByAddress found address now

/-- Once the provider has answered, the records are exactly those before it only if none of them has the
address, whether or not the provider destroyed anything: a record with the address leaves the ledger. -/
theorem forgets_whatever_answered (located : store.At disk root) (remembers : store.Remembers disk entries)
    (run : (destroy store address).run.Runs onDisk ⟨disk, []⟩ events (some result) ⟨after, asked⟩)
    {successful : Bool} (answered : ⟨.destroy address, .ok successful⟩ ∈ asked) :
    result = .ok () ∧ ∃ left, store.Remembers after left ∧ Removes address entries left ∧
      ((∀ entry ∈ entries, entry.2.key = entry.1) →
        (left = entries ↔ ∀ entry ∈ entries, address ∉ entry.2.addresses)) := by
  have once : (entries.map (·.1)).Nodup := by
    obtain ⟨ledger, loaded, rfl⟩ := (Store.remembers_iff located.holds).mp remembers
    exact loaded.sane.storable.once
  rcases remembers_destroy located remembers run with ⟨_, unanswered, _⟩ | ⟨_, left, _, rfl, found, removes⟩
  · exact absurd answered (unanswered successful)
  · refine ⟨rfl, left, found, removes, fun keyed => ?_⟩
    rcases removes.keyed once keyed with ⟨absent, rfl⟩ | ⟨entry, listed, has, rfl⟩
    · exact ⟨fun _ => absent, fun _ => rfl⟩
    · constructor
      · intro same
        have among : entry ∈ entries.filter (· ≠ entry) := by rwa [same]
        simp at among
      · intro absent
        exact absurd has (absent entry listed)

/-! ## A run that forgets -/

/-- A run that destroys a balancer, put together from the runs of its parts. -/
theorem exists_run_destroy {locked written : Disk} {record : Option Record}
    {locking forgetting releasing : List Local.Event}
    (locks : (store.acquireLock ("lb destroy " ++ address.text)).run.Runs Local.onDisk disk locking
      (some (.ok ())) locked)
    (destroys : (Service.destroyAt address).run.Runs (servicePart.environment onDisk) ⟨locked, []⟩ asked
      (some (.ok ())) ⟨locked, asked⟩)
    (forgets : (forget store address).run.Runs Local.onDisk locked forgetting (some (.ok record)) written)
    (releases : store.releaseLock.run.Runs Local.onDisk written releasing (some (.ok ())) after) :
    ∃ events, (destroy store address).run.Runs onDisk ⟨disk, []⟩ events (some (.ok ())) ⟨after, asked⟩ := by
  have possible : ¬ (destroy store address).run.Ensures onDisk ⟨disk, []⟩ fun result last =>
      ¬ (result = .ok () ∧ last = ⟨after, asked⟩) := by
    simp only [destroy, withLock, Attempt.ensures_bind, Attempt.ensures_lift, Attempt.ensures_outcome,
      ensures_print, ensures_ofLocal, ensures_ofService]
    intro never
    have released := never _ _ _ locks _ _ destroys _ _ _ forgets _ _ _ releases
    simp only [Except.mapError, Attempt.ensures_pure] at released
    exact released ⟨trivial, rfl⟩
  obtain ⟨events, _, _, run, rfl, rfl⟩ := Program.exists_run possible
  exact ⟨events, run⟩

def single (record : Record) : Ledger :=
  (Ledger.new default).insert record default

theorem sane_single {record : Record} (held : record.IsStorable) : Store.Sane (single record) :=
  (Store.sane_new _).insert held _

theorem removeByAddress_single {record : Record} (has : address ∈ record.addresses) :
    (single record).removeByAddress address default = (some record, Ledger.new default) := by
  have found : (single record).findByAddress? address = some record := by
    simp [Ledger.findByAddress?, single, Ledger.insert, Ledger.putEntry, Ledger.new, has]
  have known : (single record).entries.lookup record.key = some record := List.lookup_cons_self
  rw [Ledger.removeByAddress, found]
  dsimp only
  rw [known]
  simp [single, Ledger.insert, Ledger.putEntry, Ledger.new]

theorem exists_run_forget (operation : String) {ledger left : Ledger} {record : Record}
    (sane : Store.Sane ledger) (updated : Instant.IsYear ledger.updatedAt.date.year)
    (removes : ledger.removeByAddress address default = (some record, left)) :
    ∃ events, (forget project address).run.Runs Local.onDisk
      (filled [ledgerFile "state.json" ledger, lockFile operation]) events (some (.ok (some record)))
      (filled [ledgerFile "state.json.backup" ledger, lockFile operation, ledgerFile "state.json" left]) := by
  obtain ⟨_, loads⟩ := exists_run_load_filled operation sane updated
  obtain ⟨_, saves⟩ := exists_run_save operation ledger left
  have possible : ¬ (forget project address).run.Ensures Local.onDisk
      (filled [ledgerFile "state.json" ledger, lockFile operation]) fun result after =>
      ¬ (result = .ok (some record) ∧ after =
        filled [ledgerFile "state.json.backup" ledger, lockFile operation, ledgerFile "state.json" left]) := by
    simp only [forget, Attempt.ensures_bind, Attempt.ensures_lift, Local.ensures_now]
    intro never
    have forgotten := never _ _ _ loads _ Instant.isYear_default
    rw [removes] at forgotten
    simp only [Attempt.ensures_bind] at forgotten
    have saved := forgotten _ _ _ saves
    simp only [Attempt.ensures_pure] at saved
    exact saved ⟨trivial, trivial⟩
  obtain ⟨events, _, _, run, rfl, rfl⟩ := Program.exists_run possible
  exact ⟨events, run⟩

/-- A provider that says whether it destroyed a balancer. -/
def telling (successful : Bool) : (q : Service.Query) → List Service.Event → Service.Answer q
  | .destroy _, _ => .ok successful
  | query, before => oneZone (.v4 203 0 113 9) query before

/-- The record of a balancer in a zone. -/
def webRecord (provider : String) (address : Address) : Record :=
  .ofOutcome provider (.zone "a") ⟨"web", .http, 80, 8080⟩ (.resolved "a.example.com" [address]) default

def webDisk (provider : String) (address : Address) : Disk :=
  filled [ledgerFile "state.json" (single (webRecord provider address))]

theorem at_webDisk (provider : String) (address : Address) : project.At (webDisk provider address) [] :=
  at_filled (by simp [ledgerFile])

theorem sane_web (provider : String) (address : Address) :
    Store.Sane (single (webRecord provider address)) :=
  sane_single Instant.isYear_default

theorem remembers_webDisk (provider : String) (address : Address) :
    project.Remembers (webDisk provider address) (single (webRecord provider address)).entries :=
  remembers_filled (sane_web provider address) Instant.isYear_default

theorem keyed_web (provider : String) (address : Address) :
    ∀ entry ∈ (single (webRecord provider address)).entries, entry.2.key = entry.1 := by
  intro entry member
  cases List.mem_singleton.mp member
  rfl

/-- Whatever the provider says, there is a run after it. -/
theorem exists_run_destroy_web (provider : String) (address : Address) (successful : Bool) :
    ∃ events asked after, (destroy project address).run.Runs onDisk ⟨webDisk provider address, []⟩ events
        (some (.ok ())) ⟨after, asked⟩ ∧
      steps asked = [⟨.destroy address, .ok successful⟩] := by
  have has : address ∈ (webRecord provider address).addresses := List.mem_singleton_self address
  obtain ⟨_, locks⟩ := exists_run_acquireLock ("lb destroy " ++ address.text) _
  obtain ⟨_, forgets⟩ := exists_run_forget ("lb destroy " ++ address.text) (sane_web provider address)
    Instant.isYear_default (removeByAddress_single has)
  obtain ⟨_, releases⟩ := exists_run_releaseLock ("lb destroy " ++ address.text) _ _
  have told : ∀ s, ((Service.destroyAt address).run.run (serve (telling successful)) s).1 = some (.ok ()) :=
    fun _ => rfl
  obtain ⟨events, run⟩ := exists_run_destroy locks (runs_serve (told _)) forgets releases
  exact ⟨events, _, _, run, rfl⟩

theorem forgets_though_not_destroyed :
    ∃ events asked after left, (destroy project (.v4 203 0 113 9)).run.Runs onDisk
        ⟨webDisk "sakura-cloud" (.v4 203 0 113 9), []⟩ events (some (.ok ())) ⟨after, asked⟩ ∧
      ⟨.destroy (.v4 203 0 113 9), .ok false⟩ ∈ asked ∧ project.Remembers after left ∧
      left ≠ (single (webRecord "sakura-cloud" (.v4 203 0 113 9))).entries := by
  obtain ⟨events, asked, after, run, called⟩ := exists_run_destroy_web "sakura-cloud" (.v4 203 0 113 9) false
  have answered : ⟨.destroy (.v4 203 0 113 9), .ok false⟩ ∈ asked := by
    rw [← Service.mem_steps rfl, called]
    exact List.mem_singleton_self _
  obtain ⟨_, left, remembers, _, only⟩ :=
    forgets_whatever_answered (at_webDisk _ _) (remembers_webDisk _ _) run answered
  refine ⟨events, asked, after, left, run, answered, remembers, fun same => ?_⟩
  have absent := (only (keyed_web _ _)).mp same
  exact absent _ List.mem_cons_self (List.mem_singleton_self _)

end CloudBalance.Session
