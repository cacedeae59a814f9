import CloudBalance.Command.Assembly
import CloudBalance.Command.Create
import CloudBalance.Command.Destroy
import CloudBalance.Proofs.Balancer.Made
import CloudBalance.Proofs.Cloudflare.Origins
import CloudBalance.Proofs.Command.Session
import CloudBalance.Proofs.Sakura.Listing
import CloudBalance.Proofs.Sakura.Reading

/-!
# Commands and their providers

A command asks a service, and in the world the providers that the settings choose answer for it. Main statements: a run
of a command in the world is a run in a project in which each question to the service is answered by a run of the
providers, and whatever the world is like, a listing of theirs fails otherwise than the making of balancers does and the
balancers of a run are made at locations of different ids.
-/

namespace CloudBalance

open Ledger (Store)
open Net (Address)
open Program (Scope)
open Service (isPlain steps)
open World (calls abroad)

variable {assembly : Assembly} {colour : Bool}

/-! ## The providers -/

namespace Assembly

theorem within_answer (assembly : Assembly) (query : Service.Query) : (assembly.answerService query).Within abroad := by
  cases query with
  | list => exact Sakura.within_list assembly
  | create location spec ids =>
    rw [answerService]
    cases assembly.balancer with
    | sakura plan => exact Attempt.within_adapt Sakura.within_create
    | cloudflare account => exact Cloudflare.within_create (Sakura.within_list assembly)
  | destroy address =>
    rw [answerService]
    cases assembly.balancer with
    | sakura plan => exact Sakura.within_destroy
    | cloudflare account => exact Cloudflare.within_destroy
  | resolve | sleep | log => exact Program.within_perform.mpr trivial

variable {σ : Type} {env : Environment World σ} {before after : σ} {events : List World.Event}

theorem isPlain_list {answer : Except CloudError (List Node)}
    (run : assembly.list.run.Runs env before events (some answer) after) : isPlain ⟨.list, answer⟩ := by
  obtain ⟨outcome, same, _⟩ := Sakura.lists_of_runs run
  cases same
  cases outcome with
  | ok nodes => rfl
  | error e => cases e <;> rfl

theorem zone_of_list {nodes : List Node} {node : Node}
    (run : assembly.list.run.Runs env before events (some (.ok nodes)) after) (member : node ∈ nodes) :
    ∃ zone, node.location = .zone zone := by
  obtain ⟨outcome, same, lists⟩ := Sakura.lists_of_runs run
  cases outcome with
  | error e => cases same
  | ok its =>
    cases same
    obtain ⟨zone, _, located⟩ := lists.zone_of_mem member
    exact ⟨zone, located⟩

end Assembly

/-! ## A session in the world -/

namespace Session

/-- What a command may ask that does not look at the credentials. -/
def serving : Scope Session where
  asks
    | .authStatus _ => False
    | _ => True
  halts := True

variable {α : Type}

theorem within_ofLocal (p : Attempt Local CloudError α) : (ofLocal p).run.Within serving :=
  within_here (fun _ => trivial) trivial p

theorem within_ofService (p : Attempt Service CloudError α) : (ofService p).run.Within serving :=
  Program.Within.map (p.run.within_any.expand (fun _ _ => Program.within_perform.mpr trivial) fun _ => trivial)

theorem within_print (line : Terminal.Line) : (liftM (print line) : Act Unit).run.Within serving :=
  within_line (fun _ => trivial) line

theorem within_printAll (lines : List Terminal.Line) : (liftM (printAll lines) : Act Unit).run.Within serving := by
  refine Attempt.within_lift ?_
  induction lines with
  | nil => trivial
  | cons line lines ih => exact .bind (Program.within_perform.mpr trivial) fun _ => ih

variable {store : Store}

theorem within_withLock {operation : String} {work : Act α} (within : work.run.Within serving) :
    (withLock store operation work).run.Within serving := by
  refine Attempt.within_bind (within_ofLocal _) fun _ => ?_
  have worked := Attempt.within_bind within fun result =>
    Attempt.within_bind (within_ofLocal store.releaseLock) fun _ =>
      (Program.within_done : (pure result : Act α).run.Within serving)
  refine Attempt.within_bind (Attempt.within_lift worked) fun result => ?_
  cases result with
  | ok result => trivial
  | error e => exact Attempt.within_bind (within_ofLocal _) fun _ => trivial

theorem within_destroy {address : Address} : (destroy store address).run.Within serving := by
  refine Attempt.within_bind (within_print _) fun _ => within_withLock ?_
  refine Attempt.within_bind (within_ofService _) fun _ => ?_
  refine Attempt.within_bind (within_ofLocal _) fun record => ?_
  exact Attempt.within_bind (within_print _) fun _ => within_print _

section

-- a placement reads the name of its protocol first, and nothing here depends on what that gives
attribute [local irreducible] Service.placeReport

variable {providers : Providers} {spec : BalancerSpec}

theorem within_keep (made : Report) : (keep providers store spec made).run.Within serving := by
  refine Attempt.within_bind (within_print _) fun _ => ?_
  exact Attempt.within_bind (within_printAll _) fun _ => within_ofLocal _

theorem within_makeAndKeep {selection : Terminal.Selection} :
    (makeAndKeep providers store spec selection).run.Within serving := by
  refine Attempt.within_bind ?_ fun creation => ?_
  · refine Attempt.within_bind (Attempt.within_lift (within_ofService _)) fun made => ?_
    split <;> trivial
  · cases creation with
    | nothing => trivial
    | made made => exact Attempt.within_bind (within_keep made) fun _ => trivial
    | stopped location created cause =>
      dsimp only
      split
      · exact Attempt.within_bind (within_keep created) fun _ => Attempt.within_bind (within_print _) fun _ => trivial
      · trivial

theorem within_create {request : CreateRequest} :
    (create providers store request).run.Within serving := by
  rw [create]
  refine Attempt.within_bind (Attempt.within_adapt trivial) fun protocol => ?_
  refine Attempt.within_bind (within_print _) fun _ => ?_
  refine Attempt.within_bind (within_withLock within_makeAndKeep) fun creation => ?_
  cases creation with
  | nothing => exact Attempt.within_bind (within_print _) fun _ => within_print _
  | made made => exact within_printAll _
  | stopped location created cause => trivial

end

/-! ## Simulation -/

/-- Questions of the service are answered one after another by the provider, which asks the outside. -/
inductive Answers (assembly : Assembly) : List Service.Event → List World.Event → Prop where
  | nil : Answers assembly [] []
  | cons {query : Service.Query} {answer : Service.Answer query} {disk after : Disk}
      {events : List World.Event} {asked : List Service.Event} {called : List World.Event}
      (ran : (assembly.answerService query).Runs World.onDisk disk events (some answer) after)
      (rest : Answers assembly asked called) :
      Answers assembly (⟨query, answer⟩ :: asked) (calls events ++ called)

theorem runs_answered {p : Program Session α} {disk after : Disk} {events : List World.Event} {a : α}
    (within : p.Within serving)
    (run : (p.expand (assembly.answer colour)).Runs World.onDisk disk events (some a) after)
    (before : List Service.Event) :
    ∃ session asked, p.Runs onDisk ⟨disk, before⟩ session (some a) ⟨after, before ++ asked⟩ ∧
      Answers assembly asked (calls events) := by
  -- the questions to the service are answered by runs of the provider, all others stay as they are
  induction p generalizing disk events before with
  | done b =>
    obtain ⟨rfl, same, rfl⟩ := Program.runs_done.mp run
    cases same
    exact ⟨[], [], by rw [List.append_nil]; exact .done a _, .nil⟩
  | halt =>
    obtain ⟨_, impossible, _⟩ := Program.runs_halt.mp run
    cases impossible
  | ask query next ih =>
    change (assembly.answer colour query >>= fun answer => (next answer).expand (assembly.answer colour)).Runs
      World.onDisk disk events (some a) after at run
    rcases Program.runs_bind.mp run with ⟨first, answer, between, rest, head, tail, rfl⟩ | ⟨_, impossible⟩
    · cases query with
      | here query =>
        obtain ⟨_, answered, rfl, same⟩ := Program.runs_perform.mp head
        cases same
        obtain ⟨session, asked, later, answers⟩ := ih answer (within.2 answer) tail before
        have step : onDisk ⟨disk, before⟩ (.here query) answer ⟨between, before⟩ := ⟨answered, rfl⟩
        exact ⟨_, asked, .ask step later, answers⟩
      | print line =>
        obtain ⟨_, answered, rfl, same⟩ := Program.runs_perform.mp head
        cases same
        obtain ⟨session, asked, later, answers⟩ := ih answer (within.2 answer) tail before
        cases answered
        exact ⟨_, asked, .ask rfl later, answers⟩
      | authStatus role => cases within.1
      | service query =>
        -- the provider leaves the disk alone, so that only what was asked grows
        obtain rfl := World.unchanged_of_abroad (assembly.within_answer query) head
        obtain ⟨session, asked, later, answers⟩ :=
          ih answer (within.2 answer) tail (before ++ [⟨query, answer⟩])
        rw [List.append_assoc] at later
        rw [World.calls_append]
        exact ⟨_, _, .ask rfl later, .cons head answers⟩
    · cases impossible

theorem Answers.silent {asked : List Service.Event} {called : List World.Event}
    (answers : Answers assembly asked called) (idle : steps asked = []) : called = [] := by
  induction answers with
  | nil => rfl
  | @cons query _ _ _ _ _ _ ran _ ih =>
    -- only the log is no step, and it is no call
    cases query with
    | log record =>
      obtain ⟨_, _, rfl, _⟩ := Program.runs_perform.mp ran
      exact ih idle
    | _ => cases idle

/-- A run in a project is one in the world, if the provider may answer as the service does there. -/
theorem exists_run_answered {p : Program Session α} {s s' : Surroundings} {session : List Session.Event}
    {result : Option α} (within : p.Within serving) (run : p.Runs onDisk s session result s')
    (answerable : ∀ event ∈ s'.asked, ∀ disk, ∃ events,
      (assembly.answerService event.1).Runs World.onDisk disk events (some event.2) disk) :
    ∃ events asked, (p.expand (assembly.answer colour)).Runs World.onDisk s.disk events result s'.disk ∧
      s'.asked = s.asked ++ asked ∧ Answers assembly asked (calls events) := by
  induction run with
  | done a s => exact ⟨[], [], .done a _, (List.append_nil _).symm, .nil⟩
  | halt s => exact ⟨[], [], .halt _, (List.append_nil _).symm, .nil⟩
  | @ask query next s before after answer _ result answered rest ih =>
    obtain ⟨later, asked, tail, same, answers⟩ := ih (within.2 answer) answerable
    have join : ∀ {first},
        (assembly.answer colour query).Runs World.onDisk s.disk first (some answer) before.disk →
        ((Program.ask query next).expand (assembly.answer colour)).Runs World.onDisk s.disk (first ++ later)
          result after.disk :=
      fun head => Program.runs_bind.mpr (.inl ⟨_, answer, before.disk, later, head, tail, rfl⟩)
    cases query with
    | here query =>
      have head : (assembly.answer colour (.here query)).Runs World.onDisk s.disk [⟨.here query, answer⟩]
          (some answer) before.disk := Program.runs_perform.mpr ⟨answer, answered.1, rfl, rfl⟩
      exact ⟨_, asked, join head, by rw [same, answered.2], answers⟩
    | print line =>
      cases answered
      have head : (assembly.answer colour (.print line)).Runs World.onDisk s.disk
          [⟨.print (line.render colour), answer⟩] (some answer) s.disk :=
        Program.runs_perform.mpr ⟨answer, rfl, rfl, rfl⟩
      exact ⟨_, asked, join head, same, answers⟩
    | authStatus => cases within.1
    | service query =>
      cases answered
      have member : ⟨query, answer⟩ ∈ after.asked := by simp [same]
      obtain ⟨first, head⟩ := answerable _ member s.disk
      refine ⟨_, ⟨query, answer⟩ :: asked, join head, by simp [same], ?_⟩
      rw [World.calls_append]
      exact .cons head answers

/-! ## Listings -/

theorem Answers.list {asked : List Service.Event} {called : List World.Event} {answer : Except CloudError (List Node)}
    (answers : Answers assembly asked called) (member : ⟨.list, answer⟩ ∈ asked) :
    ∃ disk events after, assembly.list.run.Runs World.onDisk disk events (some answer) after := by
  induction answers with
  | nil => cases member
  | cons ran _ ih =>
    rcases List.mem_cons.mp member with same | later
    · cases same
      exact ⟨_, _, _, ran⟩
    · exact ih later

/-- Whatever the world is like, no listing fails as the making of several balancers does. -/
theorem Answers.isPlain {asked : List Service.Event} {called : List World.Event}
    (answers : Answers assembly asked called) : ∀ event ∈ asked, isPlain event := by
  rintro ⟨query, answer⟩ member
  cases query with
  | list =>
    obtain ⟨_, _, _, ran⟩ := answers.list member
    exact Assembly.isPlain_list ran
  | _ => rfl

theorem Answers.zone {asked : List Service.Event} {called : List World.Event} {nodes : List Node} {node : Node}
    (answers : Answers assembly asked called) (listed : ⟨.list, .ok nodes⟩ ∈ asked) (member : node ∈ nodes) :
    ∃ zone, node.location = .zone zone := by
  obtain ⟨_, _, _, ran⟩ := answers.list listed
  exact Assembly.zone_of_list ran member

end Session

end CloudBalance
