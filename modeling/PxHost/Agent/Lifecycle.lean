import PxHost.Agent.Console
import PxHost.Lib.Interleaving

/-!
The handle an agent has of one server, the containers Docker has for it, and the calls by which
the goroutines of the agent change them.
-/

namespace PxHost.Lifecycle

open Interleaving Console

inductive PowerState where
  | offline
  | starting
  | running
  | stopping
  | crashed
deriving DecidableEq

def PowerState.isStopped : PowerState → Bool
  | offline | crashed => true
  | starting | running | stopping => false

/-- The fields of a `srv.Server` that its mutex protects. -/
structure Handle where
  containerId : Option Nat
  state : PowerState
  isSuspended : Bool
deriving DecidableEq

/-- The container that carries the name of the server; there is never more than one. -/
structure Container where
  id : Nat
  running : Bool
  exitCode : Int
deriving DecidableEq

/-- The goroutines that a start leaves behind, by the number of the run they were started for. -/
inductive Watcher where
  | boot (run fromSeq : Nat)
  | stats (run : Nat)
deriving DecidableEq

def Watcher.run : Watcher → Nat
  | boot run _ | stats run => run

/-- What a request that works on the files without the mutex is for. -/
inductive Purpose where
  | install
  | archive
deriving DecidableEq

structure State where
  handle : Handle
  pump : Option Nat
  collector : Option Nat
  /-- The goroutine that holds the mutex. -/
  holder : Option Nat
  container : Option Container
  /-- The installer containers that are running. -/
  installers : List Nat
  /-- The goroutines that are writing an archive of the files. -/
  archiving : List Nat
  ring : Ring
  fresh : Nat
  /-- The number of the latest run. -/
  run : Nat
  /-- The watchers that have not begun yet. -/
  spawned : List Watcher
  watching : List (Nat × Watcher)
  /-- The requests under way that work on the files without the mutex. -/
  requests : List (Nat × Purpose)
  /-- How often a suspension was lifted. -/
  lifts : Nat
  /-- A suspension has succeeded and was not lifted since. -/
  suspension : Bool

def State.isRunning (s : State) : Bool := s.container.any (·.running)

/-- Who acts: an operation of the server, or a watcher of one of its runs. -/
inductive Actor where
  | operation
  | watcher (run : Nat)
deriving DecidableEq

/-- Work that can fail and that changes nothing here. -/
inductive Work where
  | pull
  | buildSpec
  | prepareInstaller
  | attachInstaller
  | backup
  | extract
  | download
deriving DecidableEq

/-- The beginning and the end of goroutines and requests are calls too. -/
inductive Call where
  | lock
  | unlock
  /-- Read the fields without the mutex. -/
  | peek
  | setState (actor : Actor) (state : PowerState)
  | setContainerId (id : Option Nat)
  | setSuspended (flag : Bool)
  /-- Attach the console, with which a new run begins. -/
  | attach
  | closePump
  | startCollector (run : Nat)
  | teardown (actor : Actor)
  | createContainer
  | startContainer (id : Nat)
  | stopContainer (id : Nat)
  | killContainer (actor : Actor) (id : Nat)
  | removeContainer (id : Nat)
  | removeByName
  | inspect (id : Nat)
  | lastSeq
  | ringSince (since : Nat)
  | publish (data : List Char)
  /-- The container ends on its own. -/
  | exit (code : Int)
  | spawn (watcher : Watcher)
  | begin (watcher : Watcher)
  | finish
  | createInstaller
  | startInstaller (installer : Nat)
  | waitInstaller (installer : Nat)
  | removeInstaller (installer : Nat)
  | arrive (purpose : Purpose)
  | leave
  | beginArchive
  | archive
  | endArchive
  /-- Replace the files of the server. -/
  | replaceFiles
  | beginSuspension
  | endSuspension (ticket : Nat) (successful : Bool)
  | lift
  | attempt (work : Work)
deriving DecidableEq

@[reducible] def Call.Answer : Call → Type
  | lock | peek => Handle
  | startContainer _ | stopContainer _ | killContainer .. | removeContainer _ | startInstaller _
  | waitInstaller _ | removeInstaller _ | attempt _ => Bool
  | attach | createContainer | createInstaller => Option Nat
  | inspect _ => Option (Bool × Int)
  | lastSeq | beginSuspension => Nat
  | ringSince _ => List Line
  | _ => Unit

/-- How a call ends: nothing is done, it is done but reported as failed, or it succeeds. -/
inductive Choice where
  | fails
  | lost
  | succeeds
deriving DecidableEq

def Choice.ok (choice : Choice) : Bool := choice == .succeeds

def Choice.acts (choice : Choice) : Bool := choice != .fails

namespace State

variable (s : State)

def has (id : Nat) : Bool := s.container.any (·.id == id)

def setRunning (running : Bool) (exitCode : Int) : State :=
  { s with container := s.container.map fun c => { c with running, exitCode } }

def lifted : State := { s with lifts := s.lifts + 1, suspension := false }

def setHandle (handle : Handle) : State := { s with handle }

end State

def answer? (goroutine : Nat) (call : Call) (choice : Choice) (s : State) :
    Option (call.Answer × State) :=
  match call with
  | .lock => if s.holder.isSome then none else some (s.handle, { s with holder := some goroutine })
  | .unlock => some ((), { s with holder := none })
  | .peek => some (s.handle, s)
  | .setState _ state => some ((), s.setHandle { s.handle with state })
  | .setContainerId containerId => some ((), s.setHandle { s.handle with containerId })
  -- A suspension counts as lifted when the flag falls, too, if the request for it came earlier.
  | .setSuspended flag =>
    some ((), (if flag then s else s.lifted).setHandle { s.handle with isSuspended := flag })
  -- The pump of an earlier run is overwritten, not closed.
  | .attach =>
    if choice.ok then some (some (s.run + 1), { s with pump := some (s.run + 1), run := s.run + 1 })
    else some (none, s)
  | .closePump => some ((), { s with pump := none })
  | .startCollector run => some ((), { s with collector := some run })
  -- Neither the console nor the collector of a run is told apart from that of the next one.
  | .teardown _ => some ((), { s with pump := none, collector := none })
  -- A name that is taken refuses the container.
  | .createContainer =>
    some (if s.container.isNone && choice.ok then some s.fresh else none,
      if s.container.isNone && choice.acts then
        { s with container := some ⟨s.fresh, false, 0⟩, fresh := s.fresh + 1 }
      else s)
  -- A container that runs already can be started again without an error.
  | .startContainer id =>
    some (s.has id && choice.ok, if s.has id && choice.acts then s.setRunning true 0 else s)
  | .stopContainer id =>
    some (s.has id && choice.ok, if s.has id && choice.acts then s.setRunning false 143 else s)
  -- A container that is not running cannot be killed.
  | .killContainer _ id =>
    some (s.has id && s.isRunning && choice.ok,
      if s.has id && s.isRunning && choice.acts then s.setRunning false 137 else s)
  | .removeContainer id =>
    some (s.has id && choice.ok,
      if s.has id && choice.acts then { s with container := none } else s)
  | .removeByName => some ((), if choice.acts then { s with container := none } else s)
  | .inspect id =>
    some (if s.has id && choice.ok then s.container.map fun c => (c.running, c.exitCode) else none, s)
  -- The ring counts on over the runs of the server; only a new agent process begins again.
  | .lastSeq => some (s.ring.nextSeq, s)
  | .ringSince since => some (s.ring.since since, s)
  | .publish data => some ((), { s with ring := s.ring.append data })
  | .exit code => some ((), s.setRunning false code)
  | .spawn watcher => some ((), { s with spawned := watcher :: s.spawned })
  -- The goroutine of a watcher begins at any time after the start that spawned it.
  | .begin watcher =>
    if watcher ∈ s.spawned then
      some ((), { s with
        spawned := s.spawned.erase watcher
        watching := (goroutine, watcher) :: s.watching })
    else none
  | .finish => some ((), { s with watching := s.watching.filter (·.1 != goroutine) })
  -- An installer that is still there refuses this one by its name; that is left to the choice.
  | .createInstaller =>
    if choice.ok then some (some s.fresh, { s with fresh := s.fresh + 1 }) else some (none, s)
  | .startInstaller installer =>
    some (choice.ok, if choice.acts then { s with installers := installer :: s.installers } else s)
  -- The wait ends with the installer, or before it.
  | .waitInstaller installer | .removeInstaller installer =>
    some (choice.ok, if choice.acts
      then { s with installers := s.installers.filter (· != installer) } else s)
  -- Which requests are under way is nowhere in the source: this is for the conditions to speak of.
  | .arrive purpose => some ((), { s with requests := (goroutine, purpose) :: s.requests })
  | .leave => some ((), { s with requests := s.requests.filter (·.1 != goroutine) })
  | .beginArchive => some ((), { s with archiving := goroutine :: s.archiving })
  | .archive | .replaceFiles => some ((), s)
  | .endArchive => some ((), { s with archiving := s.archiving.filter (· != goroutine) })
  | .beginSuspension => some (s.lifts, s)
  | .endSuspension ticket successful =>
    some ((), if successful && s.lifts == ticket then { s with suspension := true } else s)
  | .lift => some ((), s.lifted)
  | .attempt _ => some (choice.ok, s)

abbrev Routine := Program Call.Answer

@[simp] def ask (call : Call) : Routine call.Answer := Program.perform call

/-- A method that holds the mutex from its beginning to its end. -/
def locked {α : Type} (body : Handle → Routine α) : Routine α := do
  let handle ← ask .lock
  let result ← body handle
  ask .unlock
  return result

def read : Routine Handle := locked fun handle => return handle

section Operations

def createLocked (handle : Handle) : Routine Bool := do
  -- A container left over from an earlier attempt is in the way of the new one's name.
  if handle.containerId.isSome then return false
  ask .removeByName
  if !(← ask (.attempt .buildSpec)) then return false
  match ← ask .createContainer with
  | none => return false
  | some id =>
    ask (.setContainerId (some id))
    ask (.setState .operation .offline)
    return true

def create : Routine Bool := locked createLocked

/-- The watchers of a run are started once its container is. -/
def launch (id run fromSeq : Nat) : Routine Bool := do
  ask (.setState .operation .starting)
  if !(← ask (.startContainer id)) then
    ask (.setState .operation .crashed)
    ask .closePump
    return false
  ask (.spawn (.boot run fromSeq))
  ask (.startCollector run)
  ask (.spawn (.stats run))
  return true

def startLocked (handle : Handle) : Routine Bool := do
  match handle.containerId with
  | none => return false
  | some id =>
    -- A crashed server may be started, whatever its container is doing.
    if handle.state = .running ∨ handle.state = .starting then return false
    if handle.isSuspended then return false
    match ← ask .attach with
    | none => return false
    | some run =>
      let fromSeq ← ask .lastSeq
      launch id run fromSeq

def start : Routine Bool := locked startLocked

def stopLocked (handle : Handle) : Routine Bool := do
  match handle.containerId with
  | none => return false
  | some id =>
    if handle.state = .offline ∨ handle.state = .stopping then return false
    -- An error leaves the server crashed, so that the next request is not refused.
    ask (.setState .operation .stopping)
    if !(← ask (.stopContainer id)) then
      ask (.setState .operation .crashed)
      return false
    ask (.setState .operation .offline)
    ask (.teardown .operation)
    return true

def stop : Routine Bool := locked stopLocked

def killLocked (handle : Handle) : Routine Bool := do
  match handle.containerId with
  | none => return false
  | some id =>
    -- Unlike a stop, a kill that fails changes no state.
    if !(← ask (.killContainer .operation id)) then return false
    ask (.setState .operation .offline)
    ask (.teardown .operation)
    return true

def kill : Routine Bool := locked killLocked

/-- The container is taken away by its identifier, if the server has one. -/
def discardContainer : Option Nat → Routine Bool
  | none => return true
  | some id => do
    if !(← ask (.removeContainer id)) then return false
    ask (.setContainerId none)
    return true

def recreateContainerLocked (handle : Handle) : Routine Bool := do
  -- The old container is removed first; an error after that leaves the server without one.
  if !(← discardContainer handle.containerId) then return false
  ask .removeByName
  if !(← ask (.attempt .buildSpec)) then return false
  match ← ask .createContainer with
  | none => return false
  | some id =>
    ask (.setContainerId (some id))
    return true

def recreateStopped (handle : Handle) : Routine Bool := do
  if !handle.state.isStopped then return false
  recreateContainerLocked handle

/-- The method `Server.UpdateVariables`, apart from the variables. -/
def updateVariables : Routine Bool := locked recreateStopped

/-- The method `Server.Reinstall`, apart from the image and the startup command. -/
def reinstall : Routine Bool := locked recreateStopped

def replaceStopped (work : Work) (handle : Handle) : Routine Bool := do
  if !handle.state.isStopped then return false
  if !(← ask (.attempt work)) then return false
  ask .replaceFiles
  return true

def restore : Routine Bool := locked (replaceStopped .extract)

/-- The methods `Server.InstallModpack` and `Server.InstallCurseForgeModpack`. -/
def installModpack : Routine Bool := locked (replaceStopped .download)

end Operations

section Suspension

def writeSuspended (flag : Bool) : Routine Handle :=
  locked fun handle => do
    ask (.setSuspended flag)
    return handle

/-- A suspended server is not left running. -/
def killUp (handle : Handle) : Routine Bool :=
  if handle.state = .running ∨ handle.state = .starting then kill else return true

def setSuspended : Bool → Routine Unit
  | true => do
    let ticket ← ask .beginSuspension
    -- The state is read together with writing the flag; the kill takes the mutex anew.
    let handle ← writeSuspended true
    let successful ← killUp handle
    ask (.endSuspension ticket successful)
  | false => do
    ask .lift
    let _ ← writeSuspended false

end Suspension

section Watchers

def promoteStartingTo (run : Nat) (state : PowerState) : Routine Unit :=
  locked fun handle =>
    if handle.state = .starting then ask (.setState (.watcher run) state) else return

def isStarting : Routine Bool := do
  return (← read).state == .starting

/-- The state is written and the runtime torn down while the container is still there. -/
def markFatal (run : Nat) (handle : Handle) : Routine (Option Nat) := do
  -- Some other start may have brought this state about.
  if handle.state ≠ .starting then return none
  ask (.setState (.watcher run) .crashed)
  ask (.teardown (.watcher run))
  return handle.containerId

def handleFatalBootError (run : Nat) : Routine Unit := do
  match ← locked (markFatal run) with
  | none => return
  | some id =>
    let _ ← ask (.killContainer (.watcher run) id)

/-- Look for a line that decides the boot; without one, go on from where the scanner has come. -/
def actThen (run since : Nat) (next : Nat → Routine Unit) : Routine Unit := do
  match bootScan since (← ask (.ringSince since)) with
  | (.ready, _) => promoteStartingTo run .running
  | (.failed, _) => handleFatalBootError run
  | (.pending, seq) => next seq

/-- What wakes the boot watcher up; after the last of these its deadline does. -/
inductive Wake where
  | line
  | tick
  | closed
deriving DecidableEq

def awaitReady (run : Nat) : List Wake → Nat → Routine Unit
  | [], since => actThen run since fun _ => promoteStartingTo run .running
  | .closed :: _, _ => return
  | .line :: rest, since => actThen run since (awaitReady run rest)
  | .tick :: rest, since => do
    if !(← isStarting) then return
    actThen run since (awaitReady run rest)

inductive StreamEndOutcome where
  | ignore
  | exited
  | crashed
deriving DecidableEq

def classifyStreamEnd (state : PowerState) (agentStopping inspectOk containerRunning : Bool)
    (exitCode : Int) : StreamEndOutcome :=
  if agentStopping then .ignore
  else if state ≠ .running ∧ state ≠ .starting then .ignore
  else if !inspectOk || containerRunning then .ignore
  else if exitCode = 0 then .exited
  else .crashed

def settle (run : Nat) (state : PowerState) : Routine Unit := do
  ask (.setState (.watcher run) state)
  ask (.teardown (.watcher run))

/-- The inspection may be older than the state it is put together with. -/
def settleStreamEnd (run : Nat) (found : Option (Bool × Int)) (handle : Handle) : Routine Unit :=
  match classifyStreamEnd handle.state false found.isSome (found.any (·.1))
      ((found.map (·.2)).getD 0) with
  | .ignore => return
  | .exited => settle run .offline
  | .crashed => settle run .crashed

def handleStatsStreamEnded (run : Nat) : Routine Unit := do
  let seen ← read
  match seen.containerId with
  | none => return
  | some id =>
    -- The check before the inspection saves a round trip and decides nothing.
    if seen.state ≠ .running ∧ seen.state ≠ .starting then return
    let found ← ask (.inspect id)
    locked (settleStreamEnd run found)

def watch (wakes : List Wake) : Watcher → Routine Unit
  | .boot run fromSeq => awaitReady run wakes fromSeq
  | .stats run => handleStatsStreamEnded run

end Watchers

section Requests

inductive Action where
  | start
  | stop
  | restart
  | kill
deriving DecidableEq

def stopUp : Routine Bool := do
  if (← ask .peek).state.isStopped then return true
  stop

def performPower : Action → Routine Unit
  | .start => do
    let _ ← start
  | .stop => do
    let _ ← stop
  -- A restart looks at the state without the mutex, and each half takes it on its own.
  | .restart => do
    if ← stopUp then
      let _ ← start
  | .kill => do
    let _ ← kill

def runInstaller (installer : Nat) : Routine Bool := do
  if !(← ask (.attempt .attachInstaller)) then return false
  -- The wait can end before the installer does, for instance with the request.
  if !(← ask (.startInstaller installer)) then return false
  ask (.waitInstaller installer)

/-- The method `Server.Install`, which never takes the mutex. -/
def install : Routine Unit := do
  if !(← ask (.attempt .prepareInstaller)) then return
  match ← ask .createInstaller with
  | none => return
  | some installer =>
    let _ ← runInstaller installer
    let _ ← ask (.removeInstaller installer)

def pullThen (prepare : Routine Bool) : Routine Bool := do
  if !(← ask (.attempt .pull)) then return false
  prepare

/-- An installation follows the container that was made for it. -/
def installAfter (prepare : Routine Bool) : Routine Unit := do
  ask (.arrive .install)
  if ← pullThen prepare then
    install
    ask .leave
  else ask .leave

/--
A server that is registered already is installed anew. One that is not is registered first, and
removed from the manager if it cannot be created; the handle here is the one that was registered.
-/
def handleCreateServer (registered : Bool) : Routine Unit :=
  installAfter (if registered then reinstall else create)

def handleReinstallServer : Routine Unit := do
  -- The handler checks once more what the method checks under the mutex.
  if !(← ask .peek).state.isStopped then return
  installAfter reinstall

/-- The method `Server.Export`; the mutex is given back before the archive is written. -/
def exportFiles (parts : Nat) : Routine Unit := do
  ask (.arrive .archive)
  if (← read).state.isStopped then
    ask .beginArchive
    (List.range parts).forM fun _ => ask .archive
    ask .endArchive
    ask .leave
  else ask .leave

def waitForBoot : Nat → Routine PowerState
  | 0 => do
    return (← read).state
  | polls + 1 => do
    let handle ← read
    if handle.state ≠ .starting then return handle.state
    waitForBoot polls

def validateBoot (polls : Nat) : Routine Bool := do
  if !(← start) then return false
  return (← waitForBoot polls) == .running

/-- A modpack that does not come up is replaced by the backup. -/
def runModpackInstall (polls : Nat) : Routine Unit := do
  if !(← ask .peek).state.isStopped then return
  if !(← ask (.attempt .backup)) then return
  if ← installModpack then
    if ← validateBoot polls then return
    let _ ← kill
    let _ ← restore
  else
    let _ ← restore

end Requests

inductive Task where
  | power (action : Action)
  | suspend (flag : Bool)
  | createServer (registered : Bool)
  | reinstallServer
  | updateVariables
  | exportFiles (parts : Nat)
  | restoreBackup
  | installModpack (polls : Nat)
  | watch (watcher : Watcher) (wakes : List Wake)
  | output (data : List Char)
  | exit (code : Int)
deriving DecidableEq

def Task.code : Task → Routine Unit
  | power action => performPower action
  | suspend flag => setSuspended flag
  | createServer registered => handleCreateServer registered
  | reinstallServer => handleReinstallServer
  | updateVariables => do
    let _ ← Lifecycle.updateVariables
  | exportFiles parts => Lifecycle.exportFiles parts
  | restoreBackup => do
    let _ ← restore
  | installModpack polls => runModpackInstall polls
  | watch watcher wakes => do
    ask (.begin watcher)
    Lifecycle.watch wakes watcher
    ask .finish
  | output data => ask (.publish data)
  | exit code => ask (.exit code)

/-- The handle that boot adoption makes for the container it finds. -/
def adopt (container : Option Container) : Handle where
  containerId := container.map (·.id)
  state := if container.any (·.running) then .running else .offline
  isSuspended := false

/--
A new agent process adopts the container before it serves any request; what the old one had in
memory is lost, and its containers go on.
-/
def reboot (_ : Unit) (s : State) : State :=
  -- A container found running is watched as a run of its own, without a boot watcher.
  let run := if s.isRunning then s.run + 1 else s.run
  let runtime := if s.isRunning then some run else none
  { s with
    handle := adopt s.container
    pump := runtime
    collector := runtime
    holder := none
    archiving := []
    ring := {}
    run
    spawned := runtime.toList.map .stats
    watching := []
    requests := [] }

abbrev Agent := Pool State Task Call.Answer

abbrev AgentEvent := Event Task Choice Unit

/-- One goroutine makes its next call, or the agent is started anew. -/
def step : Agent → AgentEvent → Agent := Pool.advance Task.code answer? reboot

/-- An agent that has just adopted the container it found, if there is one. -/
def booted (container : Option Container) : Agent where
  shared := reboot ()
    { handle := adopt none, pump := none, collector := none, holder := none, container
      installers := [], archiving := [], ring := {}, fresh := container.elim 0 (·.id + 1), run := 0
      spawned := [], watching := [], requests := [], lifts := 0, suspension := false }
  threads := []

section Scripts

abbrev begins (task : Task) : AgentEvent := .move (.start task)

def makes (goroutine : Nat) (choices : List Choice) : List AgentEvent :=
  choices.map fun choice => .move (.turn goroutine choice)

def makesAll (goroutine count : Nat) : List AgentEvent :=
  makes goroutine (List.replicate count .succeeds)

def startsUp (goroutine : Nat) : List AgentEvent :=
  begins (.power .start) :: makesAll goroutine 9

/-- The server is stopped by a goroutine all of whose calls succeed. -/
def stopsDown (goroutine : Nat) : List AgentEvent :=
  begins (.power .stop) :: makesAll goroutine 6

end Scripts

end PxHost.Lifecycle
