import CloudBalance.Proofs.Sakura.Reading
import CloudBalance.Sakura.Directory

/-!
# The address of a server and of its node

A balancer and a listing of nodes find the address of a server in the same interfaces. Main statement: the address that
a balancer is pointed at is the public address of the node, and so the primary one. A server that has addresses on
switches alone has no address for a balancer, whatever the primary address of its node is.
-/

namespace CloudBalance.Sakura

open Net (Address)
open World (calls recording)

/-! ## The shared segment -/

namespace Server

/-- The first interface that lies on the shared segment has this text for its address. -/
def Shares (server : Server) (text : String) : Prop :=
  ∃ before interface after, server.interfaces.getD [] = before ++ interface :: after ∧
    (∀ earlier ∈ before, earlier.address = none) ∧ interface.address = some text

/-- No interface lies on the shared segment. -/
def IsPrivate (server : Server) : Prop :=
  ∀ interface ∈ server.interfaces.getD [], interface.address = none

theorem sharedAddress_eq_some {server : Server} {text : String} :
    server.sharedAddress = some text ↔ server.Shares text := by
  rw [sharedAddress, List.findSome?_eq_some_iff]
  constructor
  · rintro ⟨before, interface, after, whole, here, earlier⟩
    exact ⟨before, interface, after, whole, earlier, here⟩
  · rintro ⟨before, interface, after, whole, earlier, here⟩
    exact ⟨before, interface, after, whole, here, earlier⟩

theorem sharedAddress_eq_none {server : Server} : server.sharedAddress = none ↔ server.IsPrivate :=
  List.findSome?_eq_none_iff

end Server

variable {zone id : String} {server : Server} {address : Address}

theorem publicAddresses_eq_singleton : (nodeOfServer zone server).publicAddresses = [address] ↔
    ∃ text, server.Shares text ∧ Address.parse? text = some address := by
  simp only [← Server.sharedAddress_eq_some, nodeOfServer, Option.toList_eq_singleton_iff, Option.bind_eq_some_iff]

theorem publicAddresses_of_isPrivate (isPrivate : server.IsPrivate) :
    (nodeOfServer zone server).publicAddresses = [] := by
  rw [nodeOfServer, Server.sharedAddress_eq_none.mpr isPrivate, Option.bind_none, Option.toList_none]

/-! ## The step of a creation -/

variable {answer : ToolRun}

theorem addressIn_of_serverIn (decoded : serverIn id answer = .ok server) :
    addressIn id answer = server.sharedAddress.elim (.error (.serverWithoutAddress id)) .ok := by
  rw [addressIn, decoded, Except.bind]

/-- Whatever the tool answers, there is a run with this answer. -/
theorem exists_run_serverAddress (fit : (serverReading zone id).all isArgument = true) (answer : ToolRun) :
    ∃ events, (serverAddress zone id).run.Runs recording [] events (some (addressIn id answer)) (calls events) ∧
      ⟨.tool (serverReading zone id), answer⟩ ∈ events := by
  have possible : ¬ (serverAddress zone id).run.Ensures recording [] fun outcome asked =>
      ¬ (outcome = addressIn id answer ∧ asked = [⟨.tool (serverReading zone id), answer⟩]) := by
    rw [ensures_serverAddress fit]
    exact fun never => never answer ⟨rfl, rfl⟩
  obtain ⟨events, run, asked⟩ := World.exists_run_of_possible possible
  exact ⟨events, run, (World.mem_calls.mp (asked ▸ List.mem_singleton_self _)).1⟩

/-- The tool is run at most once, and then the result is what it says. -/
theorem ensures_serverAddress_ran :
    (serverAddress zone id).run.Ensures recording [] fun outcome asked =>
      ∀ answer, ⟨.tool (serverReading zone id), answer⟩ ∈ asked → outcome = addressIn id answer := by
  cases fit : (serverReading zone id).all isArgument with
  | false =>
    rw [ensures_serverAddress_unfit fit]
    intro answer ran
    cases ran
  | true =>
    rw [ensures_serverAddress fit]
    intro answer other ran
    cases List.mem_singleton.mp ran
    rfl

variable {σ : Type} {env : Environment World σ} {before after : σ} {events : List World.Event}
  {result : Option (Except SakuraError String)}

theorem result_of_ran (run : (serverAddress zone id).run.Runs env before events result after)
    (ran : ⟨.tool (serverReading zone id), answer⟩ ∈ events) : result = some (addressIn id answer) := by
  obtain ⟨outcome, rfl⟩ := within_serverAddress.returns not_false run
  have called := World.mem_calls.mpr ⟨ran, trivial⟩
  rw [World.ensured_of_runs ensures_serverAddress_ran run answer called]

/-- A balancer is pointed at an address exactly if this is the public address of the node, which is written in the first
interface on the shared segment and is then the primary address. A server without such an interface is refused,
although its node may have a private address for its primary one. -/
theorem points_at_public_address (run : (serverAddress zone id).run.Runs env before events result after)
    (ran : ⟨.tool (serverReading zone id), answer⟩ ∈ events) (decoded : serverIn id answer = .ok server) :
    ∃ outcome, result = some outcome ∧
      (∀ address, (∃ text, outcome = .ok text ∧ Address.parse? text = some address) ↔
        (nodeOfServer zone server).publicAddresses = [address]) ∧
      (∀ address, (nodeOfServer zone server).publicAddresses = [address] →
        (nodeOfServer zone server).primaryAddress = some address ∧
          ∃ text, server.Shares text ∧ outcome = .ok text ∧ Address.parse? text = some address) ∧
      (server.IsPrivate → outcome = .error (.serverWithoutAddress id) ∧
        (nodeOfServer zone server).publicAddresses = [] ∧
        (nodeOfServer zone server).primaryAddress = server.userAddresses.head?) := by
  have ended := result_of_ran run ran
  rw [addressIn_of_serverIn decoded] at ended
  -- only a text on the shared segment is taken
  have taken : ∀ text, server.sharedAddress.elim (.error (.serverWithoutAddress id)) Except.ok =
      (.ok text : Except SakuraError String) ↔ server.Shares text := by
    intro text
    rw [← Server.sharedAddress_eq_some]
    cases server.sharedAddress <;> simp
  refine ⟨_, ended, fun address => ?_, fun address shown => ?_, fun isPrivate => ?_⟩
  · simp only [taken, publicAddresses_eq_singleton]
  · obtain ⟨text, shares, read⟩ := publicAddresses_eq_singleton.mp shown
    refine ⟨?_, text, shares, (taken text).mpr shares, read⟩
    rw [Node.primaryAddress, shown]
    rfl
  · have none : (nodeOfServer zone server).publicAddresses = [] := publicAddresses_of_isPrivate isPrivate
    refine ⟨by rw [Server.sharedAddress_eq_none.mpr isPrivate, Option.elim_none], none, ?_⟩
    rw [Node.primaryAddress, none]
    rfl

/-! ## Servers with and without an address -/

/-- What the tool prints of a server with these interfaces. -/
def serverWith (interfaces : String) : ToolRun :=
  .exited 0 (Text.encode ("\x7b\"ID\":1,\"Name\":\"s\",\"Interfaces\":[" ++ interfaces ++ "]\x7d")) ByteArray.empty

def switchInterface : String :=
  "\x7b\"IPAddress\":null,\"UserIPAddress\":\"192.168.0.10\"\x7d"

def sharedInterface : String :=
  "\x7b\"IPAddress\":\"192.0.2.1\"\x7d"

/-- A server whose first interface is on a switch is reached by the address of the second one. -/
theorem points_at_public_address_behind_switch :
    ∃ events server, (serverAddress "tk1a" "1").run.Runs recording [] events (some (.ok "192.0.2.1")) (calls events) ∧
      ⟨.tool (serverReading "tk1a" "1"), serverWith (switchInterface ++ "," ++ sharedInterface)⟩ ∈ events ∧
      serverIn "1" (serverWith (switchInterface ++ "," ++ sharedInterface)) = .ok server ∧
      (nodeOfServer "tk1a" server).publicAddresses = [.v4 192 0 2 1] ∧
      (nodeOfServer "tk1a" server).primaryAddress = some (.v4 192 0 2 1) := by
  have decoded : serverIn "1" (serverWith (switchInterface ++ "," ++ sharedInterface)) =
      .ok ⟨"1", "s", [], none, none, none, some [⟨none, some "192.168.0.10"⟩, ⟨some "192.0.2.1", none⟩]⟩ :=
    serverIn_exited (by decide +kernel)
  obtain ⟨events, run, ran⟩ := @exists_run_serverAddress "tk1a" "1" (by decide)
    (serverWith (switchInterface ++ "," ++ sharedInterface))
  rw [addressIn_of_serverIn decoded] at run
  obtain ⟨_, same, points, primary, _⟩ := points_at_public_address run ran decoded
  cases same
  have shown := (points (.v4 192 0 2 1)).mp ⟨"192.0.2.1", rfl, by decide +kernel⟩
  exact ⟨events, _, run, ran, decoded, shown, (primary _ shown).1⟩

/-- A balancer gets no address of a server that is on a switch alone, although its node has a primary address. -/
theorem not_points_at_private :
    ∃ events server outcome,
      (serverAddress "tk1a" "1").run.Runs recording [] events (some outcome) (calls events) ∧
        ⟨.tool (serverReading "tk1a" "1"), serverWith switchInterface⟩ ∈ events ∧
        serverIn "1" (serverWith switchInterface) = .ok server ∧
        ¬ ((∃ text, outcome = .ok text) ↔ ∃ address, (nodeOfServer "tk1a" server).primaryAddress = some address) := by
  have decoded : serverIn "1" (serverWith switchInterface) =
      .ok ⟨"1", "s", [], none, none, none, some [⟨none, some "192.168.0.10"⟩]⟩ :=
    serverIn_exited (by decide +kernel)
  obtain ⟨events, run, ran⟩ := @exists_run_serverAddress "tk1a" "1" (by decide) (serverWith switchInterface)
  rw [addressIn_of_serverIn decoded] at run
  refine ⟨events, _, _, run, ran, decoded, fun alike => ?_⟩
  obtain ⟨text, impossible⟩ := alike.mpr ⟨.v4 192 168 0 10, by decide +kernel⟩
  cases impossible

end CloudBalance.Sakura
