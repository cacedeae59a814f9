import CloudBalance.Proofs.Files.Machine
import CloudBalance.Proofs.World.Calls

/-!
# A world around a machine

A machine on which files work, in a world that may answer anything. Main statements: a program that leaves the
machine alone leaves its disk as it is, and what it does where the outside is given is a run of it on any disk.
-/

namespace CloudBalance.World

open Net (HttpRequest Resolution)

/-- The questions of the local machine are answered by a machine on which files work; whoever else is asked
answers what he likes. -/
def onDisk : Environment World Disk
  | disk, .here query, answer, after => Local.onDisk disk query answer after
  | disk, _, _, after => after = disk

/-- A program that leaves the machine alone leaves the disk as it is. -/
theorem unchanged_of_abroad {α : Type} {p : Program World α} {disk after : Disk} {events : List World.Event}
    {result : Option α} (within : p.Within abroad) (run : p.Runs onDisk disk events result after) :
    after = disk := by
  refine within.unchanged (fun disk query answer after asks answered => ?_) run
  cases query with
  | here query =>
    cases query with
    | log record => exact answered
    | _ => cases asks
  | _ => exact answered

/-! ## A program that runs -/

/-- What is outside of a machine: how the tool, the servers and the resolver answer. -/
structure Outside where
  tool : List String → ToolRun
  send : HttpRequest → Except String ByteArray
  resolve : String → Resolution

/-- The answers of such a world, whose machine has an empty disk. -/
def reply (outside : Outside) : (q : World.Query) → Unit → World.Answer q × Unit
  | .tool arguments, _ => (outside.tool arguments, ())
  | .hasTool, _ => (true, ())
  | .send request, _ => (outside.send request, ())
  | .resolve host, _ => (outside.resolve host, ())
  | .sleep _, _ | .print _, _ | .printError _, _ => ((), ())
  | .here query, _ => ((Local.act query ⟨[], []⟩).1, ())

/-- A program that leaves the machine alone may do on any disk what it does there. -/
theorem exists_run_of_abroad (outside : Outside) {α : Type} {p : Program World α} {a : α}
    (within : p.Within abroad) (ended : (p.run (reply outside) ()).1 = some a) (disk : Disk) :
    ∃ events, p.Runs onDisk disk events (some a) disk := by
  induction p with
  | done b =>
    cases ended
    exact ⟨[], .done a disk⟩
  | halt => cases within
  | ask query next ih =>
    -- only the log is asked of the machine, and it answers on any disk
    have answered : onDisk disk query (reply outside query ()).1 disk := by
      cases query with
      | here query =>
        cases query with
        | log record => rfl
        | _ => cases within.1
      | _ => rfl
    obtain ⟨events, later⟩ := ih _ (within.2 _) ended
    exact ⟨_, .ask answered later⟩

end CloudBalance.World
