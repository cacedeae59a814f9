import CloudBalance.Proofs.Command.Create
import CloudBalance.Proofs.Command.Destroy

/-!
# Histories of a project

What the ledger holds after any number of runs that make and destroy balancers. Main statement: the
addresses of a balancer are listed until one of them is destroyed or another balancer is made under the same
key, and where that happens first the addresses are lost.
-/

namespace CloudBalance.Session

open Disk (Entry)
open Ledger (Store Record Storable Inserts keyAt putEntry)
open Ledger.Store (Loads LockOnly)
open Net (Address)
open Service (balancersMade)
open Time (Instant)

/-- A command that may change the ledger. -/
inductive Command where
  | create (providers : Providers) (request : CreateRequest)
  | destroy (address : Address)

def Command.work (store : Store) : Command → Act Unit
  | .create providers request => Session.create providers store request
  | .destroy address => Session.destroy store address

/-- What matters for the ledger: a balancer was made under a key and got addresses, or the destruction of an
address was run. -/
inductive Happening where
  | made (key : String) (addresses : List Address)
  | destroyed (address : Address)
  deriving DecidableEq

/-- What happened when a command ran, the latest first. -/
def Command.happenings (asked : List Service.Event) : Command → List Happening
  | .create _ request =>
    ((balancersMade asked).map fun (location, outcome) =>
      .made (keyAt request.name location) outcome.addresses).reverse
  | .destroy address => [.destroyed address]

/-- Runs of commands one after another: what happened, the latest first, and the disk that is left. -/
inductive History (store : Store) (start : Disk) : List Happening → Disk → Prop where
  | nil : History store start [] start
  | run {past : List Happening} {disk after : Disk} {command : Command} {events : List Session.Event}
      {asked : List Service.Event} {result : Except CommandError Unit}
      (earlier : History store start past disk)
      (ends : (command.work store).run.Runs onDisk ⟨disk, []⟩ events (some result) ⟨after, asked⟩)
      (plain : ∀ event ∈ asked, Service.isPlain event) :
      History store start (command.happenings asked ++ past) after

/-- A run of a command in the world goes on with a history, whatever providers there are and whatever they answer. -/
theorem History.world {store : Store} {start disk after : Disk} {past : List Happening} {command : Command}
    {assembly : Assembly} {colour : Bool} {events : List World.Event} {result : Except CommandError Unit}
    (earlier : History store start past disk)
    (run : (World.ofSession assembly colour (command.work store)).run.Runs World.onDisk disk events (some result)
      after) :
    ∃ asked, Answers assembly asked (World.calls events) ∧
      History store start (command.happenings asked ++ past) after := by
  have within : (command.work store).run.Within serving := by
    cases command with
    | create => exact within_create
    | destroy => exact within_destroy
  obtain ⟨session, asked, own, answers⟩ := runs_answered within run []
  exact ⟨asked, answers, earlier.run own answers.isPlain⟩

/-! ## Entries that follow what happened -/

/-- The entries follow what happened, the latest first. -/
structure Follows (past : List Happening) (entries : List (String × Record)) : Prop where
  storable : Storable entries
  keyed : ∀ entry ∈ entries, entry.2.key = entry.1
  /-- The latest balancer of a key is found until one of its addresses is destroyed. -/
  kept : ∀ later key addresses before, past = later ++ .made key addresses :: before →
    (∀ others, .made key others ∉ later) → (∀ address ∈ addresses, .destroyed address ∉ later) →
    ∃ record, entries.lookup key = some record ∧ record.addresses = addresses
  /-- Only the latest balancer of a key is found. -/
  latest : ∀ key record, entries.lookup key = some record →
    ∃ later before, past = later ++ .made key record.addresses :: before ∧ ∀ others, .made key others ∉ later

variable {past : List Happening} {entries : List (String × Record)}

theorem follows_nil : Follows [] [] where
  storable := Ledger.storable_nil
  keyed := by simp
  kept later key addresses before split := by simp at split
  latest key record found := by cases found

/-- A balancer of the past is still found where what happens now did not concern its key or its addresses. -/
theorem Follows.kept_before (follows : Follows past entries) {now : Happening} {later before : List Happening}
    {key : String} {addresses : List Address}
    (split : now :: past = now :: later ++ .made key addresses :: before)
    (fresh : ∀ others, .made key others ∉ now :: later)
    (intact : ∀ address ∈ addresses, .destroyed address ∉ now :: later) :
    ∃ record, entries.lookup key = some record ∧ record.addresses = addresses :=
  follows.kept later key addresses before (List.cons.inj split).2
    (fun others member => fresh others (List.mem_cons_of_mem _ member))
    (fun address among member => intact address among (List.mem_cons_of_mem _ member))

/-- What is found under a key is still the latest where no balancer is made under it now. -/
theorem Follows.latest_before (follows : Follows past entries) {now : Happening} {key : String}
    {record : Record} (differs : ∀ others, now ≠ .made key others)
    (found : entries.lookup key = some record) :
    ∃ later before, now :: past = later ++ .made key record.addresses :: before ∧
      ∀ others, .made key others ∉ later := by
  obtain ⟨later, before, rfl, fresh⟩ := follows.latest key record found
  refine ⟨now :: later, before, rfl, fun others member => ?_⟩
  rcases List.mem_cons.mp member with same | deeper
  · exact differs others same.symm
  · exact fresh others deeper

theorem Follows.made (follows : Follows past entries) {record : Record} (held : record.IsStorable) :
    Follows (.made record.key record.addresses :: past) (putEntry entries record.key record) where
  storable := follows.storable.putEntry held
  keyed entry member := by
    rcases Ledger.mem_putEntry member with rfl | old
    · rfl
    · exact follows.keyed entry old
  kept later key addresses before split fresh intact := by
    rw [Ledger.lookup_putEntry]
    cases later with
    | nil =>
      -- the balancer is the one that is made now
      cases split
      exact ⟨record, if_pos rfl, rfl⟩
    | cons first later =>
      obtain rfl := (List.cons.inj split).1
      -- no later balancer has the key, so the record stays
      have differs : key ≠ record.key := by
        rintro rfl
        exact fresh _ List.mem_cons_self
      rw [if_neg differs]
      exact follows.kept_before split fresh intact
  latest key found there := by
    rw [Ledger.lookup_putEntry] at there
    split at there
    · rename_i same
      cases there
      subst same
      exact ⟨[], past, rfl, fun _ => List.not_mem_nil⟩
    · rename_i differs
      refine follows.latest_before (fun others same => ?_) there
      cases same
      exact differs rfl

/-- Whatever is left out as the destruction of an address is run, a record that has other addresses
stays. -/
theorem Follows.destroyed (follows : Follows past entries) {address : Address}
    {left : List (String × Record)} (storable : Storable left)
    (among : ∀ entry ∈ left, entry ∈ entries)
    (stays : ∀ key record, entries.lookup key = some record → address ∉ record.addresses →
      left.lookup key = some record) : Follows (.destroyed address :: past) left where
  storable := storable
  keyed entry member := follows.keyed entry (among entry member)
  kept later key addresses before split fresh intact := by
    cases later with
    | nil => cases split
    | cons first later =>
      obtain rfl := (List.cons.inj split).1
      obtain ⟨record, found, rfl⟩ := follows.kept_before split fresh intact
      exact ⟨record, stays key record found fun has => intact address has List.mem_cons_self, rfl⟩
  latest key record found := by
    have there := lookup_of_nodup follows.storable.once (among _ (mem_of_lookup found))
    exact follows.latest_before (fun _ same => by cases same) there

theorem Follows.removeByAddress {ledger : Ledger} (follows : Follows past ledger.entries)
    (address : Address) (now : Instant) :
    Follows (.destroyed address :: past) (ledger.removeByAddress address now).2.entries := by
  rcases ledger.removeByAddress_cases address now with same | ⟨found, removed, ⟨key, listed⟩, has, same⟩
  · rw [same]
    exact follows.destroyed follows.storable (fun _ member => member) fun _ _ there _ => there
  · rw [same]
    refine follows.destroyed (follows.storable.filter _) (fun _ member => (List.mem_filter.mp member).1) ?_
    intro other record there hasNot
    rw [Ledger.without, lookup_filter_ne, if_neg]
    · exact there
    · rintro rfl
      -- the entry of the removed record is found by the record's own key
      have own : found.key = key := follows.keyed _ listed
      rw [own, lookup_of_nodup follows.storable.once listed] at there
      cases there
      exact hasNot has

theorem Follows.inserts {provider : String} {spec : BalancerSpec} {made : List (Location × Outcome)}
    {after : List (String × Record)} (follows : Follows past entries)
    (inserts : Inserts provider spec made entries after) :
    Follows ((made.map fun (location, outcome) =>
      Happening.made (keyAt spec.name location) outcome.addresses).reverse ++ past) after := by
  -- the balancers of a run happen one after another, so the latest one comes first
  induction inserts generalizing past with
  | nil => exact follows
  | @cons location outcome made entries after now held _ ih =>
    have storable : (Record.ofOutcome provider location spec outcome now).IsStorable := held
    rw [List.map_cons, List.reverse_cons, List.append_assoc]
    exact ih (follows.made storable)

/-! ## Histories -/

variable {store : Store} {start disk : Disk}

/-- The ledger of a project follows what happened. -/
def Project (store : Store) (disk : Disk) (past : List Happening) : Prop :=
  ∃ contents ledger, store.Holds disk contents ∧ Loads (contents "state.json") (.ok ledger) ∧
    Follows past ledger.entries

theorem Project.run {after : Disk} {command : Command} {events : List Session.Event}
    {asked : List Service.Event} {result : Except CommandError Unit} (project : Project store disk past)
    (ends : (command.work store).run.Runs onDisk ⟨disk, []⟩ events (some result) ⟨after, asked⟩)
    (plain : ∀ event ∈ asked, Service.isPlain event) :
    Project store after (command.happenings asked ++ past) := by
  obtain ⟨contents, ledger, holds, loaded, follows⟩ := project
  -- what one run preserves: the records that it puts or takes out follow what happened in it
  cases command with
  | create providers request =>
    obtain ⟨left, lies, creates⟩ := ensures_create holds _ _ _ ends
    dsimp only at creates lies
    cases creates with
    | refused reason idle same =>
      subst idle
      exact ⟨left, ledger, lies, same.ledger ▸ loaded, follows⟩
    | made known course keeping same =>
      obtain ⟨_, updated, stored, inserts⟩ := keeping.inserts loaded
      refine ⟨left, updated, lies, same.ledger ▸ stored, ?_⟩
      rw [Command.happenings, course.balancersMade_eq plain]
      exact follows.inserts inserts
  | destroy address =>
    obtain ⟨left, lies, destroys⟩ := ensures_destroy holds _ _ _ ends
    have idle : LockOnly contents left → Project store after (.destroyed address :: past) := fun same =>
      ⟨left, ledger, lies, same.ledger ▸ loaded,
        follows.destroyed follows.storable (fun _ member => member) fun _ _ there _ => there⟩
    cases destroys with
    | refused _ _ same => exact idle same
    | failed _ same => exact idle same
    | unread _ unreadable _ => cases loaded.unique unreadable
    | @forgotten _ found now call readable stored =>
      have known : ledger.entries = found.entries := Except.ok.inj (loaded.unique readable)
      rw [known] at follows
      exact ⟨left, _, lies, stored, follows.removeByAddress address now⟩

theorem History.project {root : Disk.Place} (located : store.At start root)
    (empty : start.find? store.ledgerPath = none) (history : History store start past disk) :
    Project store disk past := by
  induction history with
  | nil =>
    rw [show start.find? store.ledgerPath = _ from located.holds.find?_file Store.isName_ledger] at empty
    refine ⟨_, Ledger.new default, located.holds, ?_, follows_nil⟩
    rw [empty]
    exact .absent Instant.isYear_default
  | run earlier ends plain ih => exact ih.run ends plain

/-! ## A key that is used again -/

theorem WebRuns.history {address : Address} {after : Disk} (runs : WebRuns address disk after)
    (history : History project start past disk) :
    History project start (.made "web:a" [address] :: past) after := by
  obtain ⟨events, asked, run, plain, made⟩ := runs
  have longer : History project start ((Command.create sakura webRequest).happenings asked ++ past) after :=
    .run history run plain
  rwa [Command.happenings, made] at longer

theorem webRuns_blank (address : Address) :
    WebRuns address blank (filled [ledgerFile "state.json" (webLedger address (Ledger.new default))]) :=
  webRuns_of_parts (Local.runs_act rfl rfl) (Local.runs_act rfl rfl) (Local.runs_act rfl rfl)

theorem history_twice (first second : Address) :
    ∃ disk, History project blank [.made "web:a" [second], .made "web:a" [first]] disk := by
  have sane : Store.Sane (webLedger first (Ledger.new default)) := sane_webLedger (Store.sane_new _)
  exact ⟨_, (webRuns_again second sane Instant.isYear_default).history ((webRuns_blank first).history .nil)⟩

/-! ## How long addresses are listed -/

/-- Two ways to single out an element agree, or the element of the second one is among the others. -/
theorem same_or_among {α : Type} {first rest others last : List α} {a b : α}
    (same : first ++ a :: rest = others ++ b :: last) : (first = others ∧ a = b) ∨ b ∈ first ++ rest := by
  rcases List.append_eq_append_iff.mp same with ⟨between, rfl, tail⟩ | ⟨between, rfl, tail⟩
  · cases between with
    | nil =>
      cases tail
      exact .inl ⟨(List.append_nil _).symm, rfl⟩
    | cons c between =>
      cases tail
      exact .inr (by simp)
  · cases between with
    | nil =>
      cases tail
      exact .inl ⟨List.append_nil _, rfl⟩
    | cons c between =>
      cases tail
      exact .inr (by simp)

/-- In a project that begins empty, the addresses of a balancer are those of the record under its key until
one of them is destroyed or another balancer is made under that key. Of its addresses that no other balancer
ever had, one is listed exactly as long as no other balancer is made under the key. -/
theorem listed_until_replaced {root : Disk.Place} (located : store.At start root)
    (empty : start.find? store.ledgerPath = none) {later before : List Happening} {key : String}
    {addresses : List Address}
    (history : History store start (later ++ .made key addresses :: before) disk)
    (intact : ∀ address ∈ addresses, .destroyed address ∉ later) :
    ∃ entries, store.Remembers disk entries ∧
      ((∀ others, .made key others ∉ later) →
        ∃ record, entries.lookup key = some record ∧ record.addresses = addresses) ∧
      ∀ address ∈ addresses,
        (∀ other others, .made other others ∈ later ++ before → address ∉ others) →
        ((∃ entry ∈ entries, address ∈ entry.2.addresses) ↔ ∀ others, .made key others ∉ later) := by
  obtain ⟨contents, ledger, holds, loaded, follows⟩ := history.project located empty
  have kept := follows.kept later key addresses before rfl
  refine ⟨ledger.entries, (Store.remembers_iff holds).mpr ⟨ledger, loaded, rfl⟩,
    fun latest => kept latest intact, fun address among alone => ⟨?_, fun latest => ?_⟩⟩
  · rintro ⟨⟨its, record⟩, listed, has⟩ others replaced
    -- the record is that of the balancer itself, since no other one had the address
    obtain ⟨after, earlier, split, fresh⟩ :=
      follows.latest its record (lookup_of_nodup follows.storable.once listed)
    rcases same_or_among split with ⟨rfl, same⟩ | elsewhere
    · cases same
      exact fresh others replaced
    · exact alone its record.addresses elsewhere has
  · obtain ⟨record, found, rfl⟩ := kept latest intact
    exact ⟨_, mem_of_lookup found, among⟩

/-- The first of two addresses is lost, though none was destroyed. -/
theorem not_listed_twice :
    ∃ disk entries,
      History project blank [.made "web:a" [.v4 203 0 113 10], .made "web:a" [.v4 203 0 113 9]] disk ∧
      project.Remembers disk entries ∧ ¬ ∃ entry ∈ entries, .v4 203 0 113 9 ∈ entry.2.addresses := by
  obtain ⟨disk, history⟩ := history_twice (.v4 203 0 113 9) (.v4 203 0 113 10)
  have twice : History project blank
      ([.made "web:a" [.v4 203 0 113 10]] ++ .made "web:a" [.v4 203 0 113 9] :: []) disk := history
  obtain ⟨entries, remembers, _, listed⟩ := listed_until_replaced at_blank rfl twice (by simp)
  have latest := (listed (.v4 203 0 113 9) (List.mem_singleton_self _) (by simp)).mp
  exact ⟨disk, entries, history, remembers, fun there => latest there _ (List.mem_singleton_self _)⟩

end CloudBalance.Session
