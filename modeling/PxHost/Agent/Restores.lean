import PxHost.Agent.Swap

/-!
The method `Server.Restore` call by call: what is left of the data, of the copy that the restore
before has kept and of the jail when it fails, and how long the copy it keeps itself is there.
-/

namespace PxHost.Restores

open Interleaving Machine
open Swap (Role Tree)

/-- How a call ends: nothing is done, it gets through some of the names and fails, or it succeeds. -/
inductive Choice where
  | fails
  | halfway (names : List String)
  | succeeds
deriving DecidableEq

def Choice.ok (choice : Choice) : Bool := choice == .succeeds

@[simp] theorem Choice.ok_succeeds : Choice.succeeds.ok = true := rfl

@[simp] theorem Choice.ok_fails : Choice.fails.ok = false := rfl

@[simp] theorem Choice.ok_halfway (names : List String) : (Choice.halfway names).ok = false := rfl

/-- The calls of a restore. None of them is made twice, whatever comes of it. -/
inductive Call where
  | isStopped
  | removeAll (dir : Role)
  | mkdirAll (dir : Role)
  | chown
  | openStaging
  /-- The provider unpacks a backup through the jail of the staging directory. -/
  | extract (backup : Tree)
  /-- The removal of what has been staged, once the restore has failed. -/
  | discard
  | closeJail
  | rename (source target : Role)
  | reopen
deriving DecidableEq

structure Server where
  dirs : Role → Option Tree
  /-- The directory behind the descriptor of the jail, by the name it has now. -/
  jail : Option Role

def removal : Choice → Option Tree → Option Tree
  | .fails, tree => tree
  | .halfway names, tree => tree.map fun files => files.filter (·.1 ∈ names)
  | .succeeds, _ => none

namespace Server

variable (server : Server)

def set (dir : Role) (tree : Option Tree) : Server :=
  { server with dirs := Function.update server.dirs dir tree }

/-- An open directory keeps its descriptor under the new name. -/
def move (source target : Role) : Server where
  dirs := Function.update (Function.update server.dirs source none) target (server.dirs source)
  jail := if server.jail = some source then some target else server.jail

end Server

def answer (call : Call) (choice : Choice) (server : Server) : Bool × Server :=
  match call with
  | .isStopped | .chown | .openStaging => (choice.ok, server)
  | .removeAll dir => (choice.ok, server.set dir (removal choice (server.dirs dir)))
  | .discard =>
    (choice.ok, server.set .restoreStaging (removal choice (server.dirs .restoreStaging)))
  | .mkdirAll dir =>
    (choice.ok, if choice.ok then server.set dir (some ((server.dirs dir).getD [])) else server)
  | .extract backup =>
    match choice with
    | .fails => (false, server)
    | .halfway names =>
      (false, server.set .restoreStaging (some (backup.filter (·.1 ∈ names))))
    | .succeeds => (true, server.set .restoreStaging (some backup))
  -- The descriptor is released even when the close reports an error.
  | .closeJail => (choice.ok, { server with jail := none })
  -- The rename of the source's language refuses a directory as its target.
  | .rename source target =>
    if choice.ok && (server.dirs source).isSome && (server.dirs target).isNone then
      (true, server.move source target)
    else (false, server)
  | .reopen =>
    if choice.ok && (server.dirs .data).isSome then (true, { server with jail := some .data })
    else (false, server)

abbrev Routine := Program fun _ : Call => Bool

def ask (call : Call) : Routine Bool := Program.perform call

inductive RestoreError where
  | serverNotStopped
  | preparingStagingDir
  | openingStagingJail
  | restoringBackup
  | closingPreRestoreJail
  | movingOldAside
  | movingNewIntoPlace
  | reopeningJail
deriving DecidableEq

/-- The two renames, once the jail is closed. -/
def swapIn : Routine (Except RestoreError Unit) := do
  if !(← ask (.rename .data .restoreOld)) then return .error .movingOldAside
  if !(← ask (.rename .restoreStaging .data)) then
    let _ ← ask (.rename .restoreOld .data)
    return .error .movingNewIntoPlace
  if !(← ask .reopen) then return .error .reopeningJail
  return .ok ()

def restore (backup : Tree) : Routine (Except RestoreError Unit) := do
  if !(← ask .isStopped) then return .error .serverNotStopped
  -- Both removals come before anything is known about the backup.
  let _ ← ask (.removeAll .restoreStaging)
  let _ ← ask (.removeAll .restoreOld)
  if !(← ask (.mkdirAll .restoreStaging)) then return .error .preparingStagingDir
  if !(← ask .chown) then
    let _ ← ask .discard
    return .error .preparingStagingDir
  if !(← ask .openStaging) then
    let _ ← ask .discard
    return .error .openingStagingJail
  if !(← ask (.extract backup)) then
    let _ ← ask .discard
    return .error .restoringBackup
  if !(← ask .closeJail) then return .error .closingPreRestoreJail
  swapIn

section Executions

variable {α β : Type} (outcome : Call → Choice)

def execute : Routine α → Server → α × Server
  | .done result, server => (result, server)
  | .ask call next, server =>
    let (reported, after) := answer call (outcome call) server
    execute (next reported) after

variable {outcome} {server : Server}

@[simp] theorem execute_pure (result : α) :
    execute outcome (pure result : Routine α) server = (result, server) := rfl

@[simp] theorem execute_then (call : Call) (next : Routine α) :
    execute outcome (ask call >>= fun _ => next) server =
      execute outcome next (answer call (outcome call) server).2 := rfl

@[simp] theorem execute_unless (call : Call) (failed next : Routine α) :
    execute outcome (ask call >>= fun reported => if reported = false then failed else next)
        server =
      if (answer call (outcome call) server).1 then
        execute outcome next (answer call (outcome call) server).2
      else execute outcome failed (answer call (outcome call) server).2 := by
  have steps : execute outcome
      (ask call >>= fun reported => if reported = false then failed else next) server =
      execute outcome (if (answer call (outcome call) server).1 = false then failed else next)
        (answer call (outcome call) server).2 := rfl
  rw [steps]
  cases (answer call (outcome call) server).1 <;> rfl

end Executions

section Failures

/-- The live directory, the copy that is still to be kept, and a jail on the live directory. -/
def Intact (inWindow : Bool) (before after : Server) : Prop :=
  after.dirs .data = before.dirs .data ∧
    (inWindow → after.dirs .restoreOld = before.dirs .restoreOld) ∧ after.jail = some .data

/-- The calls that can end a restore while the jail is still open. -/
def preparing (backup : Tree) : List Call :=
  [.mkdirAll .restoreStaging, .chown, .openStaging, .extract backup]

/-- A restore is refused, or fails in time and has not got at the copy that is to be kept. -/
def FailsEarly (outcome : Call → Choice) (backup : Tree) (inWindow : Bool) (before : Server) :
    Prop :=
  (outcome .isStopped).ok = false ∨
    (∃ call ∈ preparing backup, (outcome call).ok = false) ∧
      (inWindow → removal (outcome (.removeAll .restoreOld)) (before.dirs .restoreOld) =
        before.dirs .restoreOld)

variable {outcome : Call → Choice} {server : Server}

theorem rename_closed (closed : server.jail = none) (source target : Role) (choice : Choice) :
    (answer (.rename source target) choice server).2.jail = none := by
  simp only [answer]
  split <;> simp [Server.move, closed]

theorem reopen_refused {choice : Choice} (refused : ¬ (answer .reopen choice server).1 = true) :
    (answer .reopen choice server).2 = server := by
  simp only [answer] at refused ⊢
  split at refused
  · exact absurd rfl refused
  · rename_i missing
    rw [if_neg missing]

/-- What fails once the jail is closed leaves it closed. -/
theorem swapIn_closed (closed : server.jail = none) {error : RestoreError}
    (failed : (execute outcome swapIn server).1 = .error error) :
    (execute outcome swapIn server).2.jail = none := by
  simp only [swapIn, Bool.not_eq_eq_eq_not, Bool.not_true, execute_unless, execute_then,
    execute_pure] at failed ⊢
  have aside := rename_closed closed .data .restoreOld (outcome (.rename .data .restoreOld))
  have swapped := rename_closed aside .restoreStaging .data (outcome (.rename .restoreStaging .data))
  split at failed
  · rename_i first
    rw [if_pos first]
    split at failed
    · rename_i second
      rw [if_pos second]
      -- The new directory is live by now; a jail that does not open is all that can still fail.
      split at failed
      · cases failed
      · rename_i refused
        rw [if_neg refused, reopen_refused refused]
        exact swapped
    · rename_i second
      rw [if_neg second]
      exact rename_closed swapped ..
  · rename_i first
    rw [if_neg first]
    exact aside

/--
A restore that fails leaves the live directory, the copy of the restore before and a jail that works
exactly when it is refused, or when it fails before it closes the jail and has not removed anything
of a copy whose time has not come.
-/
theorem failed_restore_destroys_nothing_iff (outcome : Call → Choice) (backup : Tree)
    (inWindow : Bool) (before : Server) (open_ : before.jail = some .data) (error : RestoreError)
    (failed : (execute outcome (restore backup) before).1 = .error error) :
    Intact inWindow before (execute outcome (restore backup) before).2 ↔
      FailsEarly outcome backup inWindow before := by
  cases stopped : (outcome .isStopped).ok
  · simp [restore, answer, stopped, Intact, FailsEarly, open_]
  cases made : (outcome (.mkdirAll .restoreStaging)).ok
  · simp [restore, answer, stopped, made, Intact, FailsEarly, preparing, Server.set, open_]
  cases owned : (outcome .chown).ok
  · simp [restore, answer, stopped, made, owned, Intact, FailsEarly, preparing, Server.set, open_]
  cases opened : (outcome .openStaging).ok
  · simp [restore, answer, stopped, made, owned, opened, Intact, FailsEarly, preparing, Server.set,
      open_]
  cases unpacked : outcome (.extract backup) with
  | fails | halfway names =>
    simp [restore, answer, stopped, made, owned, opened, unpacked, Intact, FailsEarly, preparing,
      Server.set, open_]
  | succeeds =>
    -- From here on the jail is closed, and stays so unless the restore succeeds.
    have late : ¬ FailsEarly outcome backup inWindow before := by
      simp [FailsEarly, preparing, stopped, made, owned, opened, unpacked]
    refine iff_of_false (fun intact => ?_) late
    have closed : (execute outcome (restore backup) before).2.jail = none := by
      cases shut : (outcome .closeJail).ok
      · simp [restore, answer, stopped, made, owned, opened, unpacked, shut]
      · simp only [restore, answer, stopped, made, owned, opened, unpacked, shut, execute_unless,
          execute_then, Bool.not_eq_eq_eq_not, Bool.not_true, if_true] at failed ⊢
        exact swapIn_closed rfl failed
    exact absurd (closed.symm.trans intact.2.2) nofun

/-- A server with one file in its live directory and one in the copy of the restore before. -/
def sampleServer : Server where
  dirs
    | .data => some [("world", "new")]
    | .restoreOld => some [("world", "old")]
    | _ => none
  jail := some .data

/-- An archive that breaks off leaves everything in its place once the time of the copy is over. -/
theorem sample_failed_restore_destroys_nothing_iff :
    let backup : Tree := [("world", "saved")]
    let outcome : Call → Choice := fun call =>
      if call = .extract backup then .halfway ["world"] else .succeeds
    (execute outcome (restore backup) sampleServer).1 = .error .restoringBackup ∧
      Intact false sampleServer (execute outcome (restore backup) sampleServer).2 :=
  ⟨rfl, (failed_restore_destroys_nothing_iff _ _ _ _ rfl _ rfl).mpr
    (.inr ⟨⟨.extract [("world", "saved")], by simp [preparing], rfl⟩, nofun⟩)⟩

/-- A backup that is not there costs the copy; a swap that fails costs the jail. -/
theorem failed_restore_loses_copy_or_jail :
    let failing (failed : Call) : Call → Choice := fun call =>
      if call = failed then .fails else .succeeds
    let missing := execute (failing (.extract [])) (restore []) sampleServer
    let stuck := execute (failing (.rename .data .restoreOld)) (restore []) sampleServer
    (missing.1 = .error .restoringBackup ∧ ¬ Intact true sampleServer missing.2) ∧
      stuck.1 = .error .movingOldAside ∧ ¬ Intact true sampleServer stuck.2 :=
  ⟨⟨rfl, fun intact => absurd (intact.2.1 rfl) (by decide)⟩,
    rfl, fun intact => absurd intact.2.2 (by decide)⟩

end Failures

section GraceWindow

/-- One hour, in seconds. -/
def restoreGraceWindow : Nat := 60 * 60

/-- One server of an agent, and the goroutines its restores have started. -/
structure Agent where
  server : Server
  now : Nat
  /-- What is left of the restore that holds the mutex, and the tree it found live. -/
  running : Option (Routine (Except RestoreError Unit) × Option Tree)
  /-- For each sleeping goroutine the time it sleeps until; all will remove the same path. -/
  timers : List Nat
  /-- The tree that the latest restore has moved aside, and when it returned. -/
  latest : Option (Option Tree × Nat)

inductive Event where
  | wait (seconds : Nat)
  | restore (backup : Tree)
  /-- The running restore makes its next call, which succeeds. -/
  | call
  /-- One of the goroutines wakes up, at its time or later. -/
  | wake (due : Nat)
deriving DecidableEq

def Agent.step (agent : Agent) : Event → Agent
  | .wait seconds => { agent with now := agent.now + seconds }
  | .restore backup =>
    match agent.running with
    | some _ => agent
    | none => { agent with running := some (restore backup, agent.server.dirs .data) }
  | .call =>
    match agent.running with
    | some (.ask call next, aside) =>
      let (reported, after) := answer call .succeeds agent.server
      { agent with server := after, running := some (next reported, aside) }
    -- Only a restore that has succeeded starts a goroutine.
    | some (.done (.ok ()), aside) =>
      { agent with
        running := none
        timers := agent.timers ++ [agent.now + restoreGraceWindow]
        latest := some (aside, agent.now) }
    | some (.done (.error _), _) => { agent with running := none }
    | none => agent
  | .wake due =>
    if due ∈ agent.timers ∧ due ≤ agent.now then
      { agent with
        server := agent.server.set .restoreOld none
        timers := agent.timers.erase due }
    else agent

/-- An agent that has just started with a server whose live directory holds a tree. -/
def booted (tree : Tree) : Agent where
  server := ⟨fun dir => if dir = .data then some tree else none, some .data⟩
  now := 0
  running := none
  timers := []
  latest := none

/-- Between restores, what the latest one has moved aside is there for the whole window. -/
def Recoverable (agent : Agent) : Prop :=
  ∀ aside returned, agent.running = none → agent.latest = some (aside, returned) →
    agent.now < returned + restoreGraceWindow → agent.server.dirs .restoreOld = aside

/-- A restore begins only after the removals that earlier ones have left behind. -/
def spaced (agent : Agent) (event : Event) : Prop :=
  ∀ backup, event = .restore backup → agent.timers = []

instance (agent : Agent) (event : Event) : Decidable (spaced agent event) :=
  match event with
  | .restore _ => decidable_of_iff (agent.timers = []) ⟨fun none _ _ => none, fun h => h _ rfl⟩
  | .wait _ | .call | .wake _ => .isTrue nofun

/-- A restore whose calls all succeed ends with the tree it found live under the old name. -/
theorem restore_succeeds {server : Server} {tree : Tree} (live : server.dirs .data = some tree)
    (backup : Tree) :
    let (result, after) := execute (fun _ => .succeeds) (restore backup) server
    result = .ok () ∧ after.dirs .restoreOld = some tree ∧ (after.dirs .data).isSome := by
  simp [restore, swapIn, answer, removal, Server.set, Server.move, live]

/-- At most one removal is outstanding, and it is the one of the copy that is there. -/
structure Kept (agent : Agent) : Prop where
  idle : agent.running = none → (agent.server.dirs .data).isSome ∧
    ∀ aside returned, agent.latest = some (aside, returned) →
      agent.timers = [] ∧ returned + restoreGraceWindow ≤ agent.now ∨
        agent.timers = [returned + restoreGraceWindow] ∧ agent.server.dirs .restoreOld = aside
  first : agent.latest = none → agent.timers = []
  busy : ∀ program aside, agent.running = some (program, aside) → agent.timers = [] ∧
    let (result, after) := execute (fun _ => .succeeds) program agent.server
    result = .ok () ∧ after.dirs .restoreOld = aside ∧ (after.dirs .data).isSome

/-- One step of a restore, or of the timers, keeps the copy that is set aside. -/
theorem Kept.step {agent : Agent} {event : Event} (kept : Kept agent)
    (allowed : spaced agent event) : Kept (agent.step event) := by
  obtain ⟨idle, first, busy⟩ := kept
  cases event with
  | wait seconds =>
    refine ⟨fun free => ⟨(idle free).1, fun aside returned latest => ?_⟩, first, busy⟩
    rcases (idle free).2 aside returned latest with ⟨none, passed⟩ | there
    · exact .inl ⟨none, Nat.le_trans passed (Nat.le_add_right ..)⟩
    · exact .inr there
  | restore backup =>
    simp only [Agent.step]
    split
    · exact ⟨idle, first, busy⟩
    · rename_i free
      obtain ⟨tree, live⟩ := Option.isSome_iff_exists.mp (idle free).1
      refine ⟨nofun, first, fun program aside started => ?_⟩
      cases started
      exact ⟨allowed backup rfl, live ▸ restore_succeeds live backup⟩
  | call =>
    simp only [Agent.step]
    split
    · rename_i call next aside running
      -- The rest of the restore goes on from where this call has led.
      refine ⟨nofun, first, fun program aside' same => ?_⟩
      cases same
      exact busy _ _ running
    · rename_i aside running
      obtain ⟨none, -, old, live⟩ := busy _ _ running
      refine ⟨fun _ => ⟨live, fun aside' returned latest => ?_⟩, nofun, nofun⟩
      cases latest
      exact .inr ⟨by simp [none], old⟩
    · rename_i error aside running
      exact absurd (busy _ _ running).2.1 nofun
    · exact ⟨idle, first, busy⟩
  | wake due =>
    simp only [Agent.step]
    split
    · rename_i woken
      refine ⟨fun free => ⟨(idle free).1, fun aside returned latest => ?_⟩, ?_, ?_⟩
      · rcases (idle free).2 aside returned latest with ⟨none, -⟩ | ⟨one, -⟩
        · simp [none] at woken
        · -- The only goroutine there is has slept until the window of its own copy was over.
          obtain ⟨rfl, passed⟩ : due = returned + restoreGraceWindow ∧ due ≤ agent.now := by
            simpa [one] using woken
          exact .inl ⟨by simp [one], passed⟩
      · intro none
        simp [first none] at woken
      · intro program aside running
        simp [(busy program aside running).1] at woken
    · exact ⟨idle, first, busy⟩

/--
In every run in which each restore begins after the removals of the earlier ones, what the latest
restore has moved aside is there, whole, for an hour after it returned.
-/
theorem spaced_restores_stay_recoverable (tree : Tree) (events : List Event)
    (guarded : Guarded Agent.step spaced (booted tree) events) :
    Recoverable (run Agent.step (booted tree) events) := by
  have initially : Kept (booted tree) := ⟨fun _ => ⟨rfl, nofun⟩, fun _ => rfl, nofun⟩
  have kept : Kept (run Agent.step (booted tree) events) :=
    invariant_run Kept (fun _ _ kept allowed => kept.step allowed) initially guarded
  intro aside returned idle latest within
  rcases (kept.idle idle).2 aside returned latest with ⟨-, passed⟩ | ⟨-, there⟩
  · omega
  · exact there

def wholeRestore (backup : Tree) : List Event := .restore backup :: List.replicate 12 .call

theorem sample_spaced_restores_stay_recoverable :
    let events := wholeRestore [("world", "old")] ++ [.wait 3600, .wake 3600] ++ wholeRestore []
    Guarded Agent.step spaced (booted []) events ∧
      Recoverable (run Agent.step (booted []) events) := by
  refine ⟨?_, spaced_restores_stay_recoverable [] _ ?_⟩
  · decide +kernel
  · decide +kernel

/-- The removal that the first restore has left behind takes the copy of the second. -/
theorem second_restore_loses_copy_early :
    let events := wholeRestore [("world", "old")] ++ [.wait 1800] ++ wholeRestore [] ++
      [.wait 1800, .wake 3600]
    ¬ Recoverable (run Agent.step (booted []) events) := by
  intro events recoverable
  have gone : (run Agent.step (booted []) events).server.dirs .restoreOld = none := by
    decide +kernel
  have there := recoverable (some [("world", "old")]) 1800 rfl rfl (by decide +kernel)
  exact absurd (gone.symm.trans there) nofun

end GraceWindow

end PxHost.Restores
