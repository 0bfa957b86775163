import PxHost.Lib.Interleaving
import PxHost.System.Transactions

/-!
One node of the panel: the containers and the registry of its agent next to the panel's database,
and the goroutines and requests that work on them.
-/

namespace PxHost.Site

open Interleaving

/-- A container; the labels it was created with never change. -/
structure ContainerId where
  serial : Nat
  uuid : Option ServerId
  installer : Bool
deriving DecidableEq

structure ManagedContainer where
  id : ContainerId
  running : Bool
deriving DecidableEq

structure State where
  db : Db
  node : NodeId
  containers : List ManagedContainer
  /-- The servers in the manager of the agent. -/
  registry : List ServerId
  fresh : Nat
  /-- The sweeps that have got the panel's list and are not over yet. -/
  sweeping : List Nat

/-- Who takes something away; the code makes the same call for both. -/
inductive Cause where
  | request
  | sweep
deriving DecidableEq

/-- Work that can fail and that changes nothing here. -/
inductive External where
  | pull
  | isStopped
  | runInstaller
  | fetchAndRestore
deriving DecidableEq

inductive Call where
  | transact (tx : Tx)
  | listServers
  | listManaged
  | reportInventory
  | get (uuid : ServerId)
  | register (uuid : ServerId)
  | unregister (cause : Cause) (uuid : ServerId)
  | containerOf (uuid : ServerId)
  | createContainer (uuid : ServerId) (installer : Bool)
  | startContainer (id : ContainerId)
  | killContainer (id : ContainerId)
  | removeContainer (cause : Cause) (id : ContainerId)
  | attempt (work : External)

@[reducible] def Call.Answer : Call → Type
  | reportInventory | unregister .. => Unit
  | transact _ | get _ | register _ | startContainer _ | killContainer _ | removeContainer ..
  | attempt _ => Bool
  | listServers => Option (List ServerId)
  | listManaged => Option (List ManagedContainer)
  | containerOf _ | createContainer .. => Option ContainerId

/-- How a call ends: nothing is done, it is done but reported as failed, or it succeeds. -/
inductive Choice where
  | fails
  | lost
  | succeeds
deriving DecidableEq

def Choice.ok (choice : Choice) : Bool := choice == .succeeds

def Choice.acts (choice : Choice) : Bool := choice != .fails

def listServerUuids (db : Db) (nodeId : NodeId) : List ServerId :=
  (db.servers.filter fun _ row => row.val.nodeId == nodeId).map Prod.fst

def State.swept (s : State) (goroutine : Nat) : State :=
  { s with sweeping := s.sweeping.filter (· != goroutine) }

def State.setRunning (s : State) (id : ContainerId) (running : Bool) : State :=
  { s with containers := s.containers.map fun c => if c.id = id then { c with running } else c }

def State.createContainer (s : State) (id : ContainerId) : State :=
  { s with containers := s.containers ++ [⟨id, false⟩], fresh := s.fresh + 1 }

/-- What a call does to the database, the containers and the registry. -/
def answer? (goroutine : Nat) (call : Call) (choice : Choice) (s : State) :
    Option (call.Answer × State) :=
  match call with
  | .transact tx =>
    some (choice.ok && (exec s.db tx).isOk,
      if choice.acts then { s with db := commit s.db tx } else s)
  | .listServers =>
    if choice.ok then some (some (listServerUuids s.db s.node),
      { s with sweeping := goroutine :: s.sweeping })
    else some (none, s)
  | .listManaged =>
    if choice.ok then some (some s.containers, s) else some (none, s.swept goroutine)
  | .reportInventory => some ((), s.swept goroutine)
  | .get uuid => some (uuid ∈ s.registry, s)
  | .register uuid =>
    if uuid ∉ s.registry && choice.ok then some (true, { s with registry := uuid :: s.registry })
    else some (false, s)
  | .unregister _ uuid => some ((), { s with registry := s.registry.filter (· != uuid) })
  | .containerOf uuid =>
    some ((s.containers.find? fun c => c.id.uuid == some uuid && !c.id.installer).map (·.id), s)
  | .createContainer uuid installer =>
    let id : ContainerId := ⟨s.fresh, some uuid, installer⟩
    some (if choice.ok then some id else none, if choice.acts then s.createContainer id else s)
  | .startContainer id => some (choice.ok, if choice.acts then s.setRunning id true else s)
  | .killContainer id => some (choice.ok, if choice.acts then s.setRunning id false else s)
  | .removeContainer _ id =>
    some (choice.ok, if choice.acts
      then { s with containers := s.containers.filter (·.id != id) } else s)
  | .attempt _ => some (choice.ok, s)

abbrev Routine := Program Call.Answer

@[simp] def ask (call : Call) : Routine call.Answer := Program.perform call

section Agent

variable (node : NodeId)

def remove (uuid : ServerId) : Routine Bool := do
  match ← ask (.containerOf uuid) with
  | none => return true
  | some id => ask (.removeContainer .request id)

def create (uuid : ServerId) : Routine Bool := do
  return (← ask (.createContainer uuid false)).isSome

/-- A container is only made once the work before it has succeeded. -/
def createAfter (work : External) (uuid : ServerId) : Routine Bool := do
  if !(← ask (.attempt work)) then return false
  create uuid

def reinstall (uuid : ServerId) : Routine Bool := do
  if !(← ask (.attempt .isStopped)) then return false
  if !(← remove uuid) then return false
  create uuid

def install (uuid : ServerId) : Routine Bool := do
  match ← ask (.createContainer uuid true) with
  | none => return false
  | some installer =>
    let _ ← ask (.startContainer installer)
    let installed ← ask (.attempt .runInstaller)
    -- The installer goes whether or not the script worked.
    let _ ← ask (.removeContainer .request installer)
    return installed

def runInstallAsync (now : Time) (uuid : ServerId) : Routine Unit := do
  let installed ← install uuid
  let _ ← ask (.transact (.reportInstallResult now node uuid installed))

/-- Bring the container of a server about; one that is registered already is replaced. -/
def prepareContainer (uuid : ServerId) : Routine Bool := do
  if ← ask (.get uuid) then
    if !(← ask (.attempt .pull)) then return false
    reinstall uuid
  else
    if !(← ask (.register uuid)) then return false
    if ← createAfter .pull uuid then return true
    ask (.unregister .request uuid)
    return false

def handleCreateServer (now : Time) (uuid : ServerId) : Routine Unit := do
  if ← prepareContainer uuid then runInstallAsync node now uuid

def transferResult (now : Time) (transfer : TransferId) (successful : Bool)
    (error : Option String) : Routine Unit := do
  let _ ← ask (.transact (.handleResult now node transfer successful error))

/-- The container is there before the panel hears how the import ended. -/
def runTransferImportAsync (now : Time) (transfer : TransferId) (uuid : ServerId) :
    Routine Unit := do
  if ← createAfter .fetchAndRestore uuid then
    transferResult node now transfer true none
  else
    let _ ← remove uuid
    ask (.unregister .request uuid)
    transferResult node now transfer false (some "import failed")

def handleTransferImport (now : Time) (transfer : TransferId) (uuid : ServerId) :
    Routine Unit := do
  if !(← ask (.register uuid)) then return
  if !(← ask (.attempt .pull)) then
    ask (.unregister .request uuid)
    return
  runTransferImportAsync node now transfer uuid

def killIfRunning (c : ManagedContainer) : Routine Bool :=
  if c.running then ask (.killContainer c.id) else return true

def removeUnregisteredContainer (uuid : ServerId) : Routine Unit := do
  match ← ask .listManaged with
  | none => return
  | some list =>
    match list.find? (·.id.uuid == some uuid) with
    | none => return
    | some found =>
      if !(← killIfRunning found) then return
      let _ ← ask (.removeContainer .request found.id)

def handleDeleteServer (uuid : ServerId) : Routine Unit := do
  if ← ask (.get uuid) then
    if ← remove uuid then ask (.unregister .request uuid)
  else removeUnregisteredContainer uuid

/-- Boot adoption stops at the first container it cannot register. -/
def adoptAll : List ManagedContainer → Routine Unit
  | [] => return
  | c :: rest => do
    match c.id.uuid with
    | none => adoptAll rest
    | some uuid =>
      if c.id.installer then adoptAll rest
      else if ← ask (.register uuid) then adoptAll rest

def reconcileManagedContainers : Routine Unit := do
  match ← ask .listManaged with
  | none => return
  | some list => adoptAll list

/-- A container without the label of a server is never an orphan. -/
def findOrphans (containers : List ManagedContainer) (known : List ServerId) :
    List ManagedContainer :=
  containers.filter fun c => c.id.uuid.any (· ∉ known)

/-- Tear one orphan down; each step is skipped when the one before it fails. -/
def removeOrphan (orphan : ManagedContainer) : Routine Unit := do
  if !(← killIfRunning orphan) then return
  if !(← ask (.removeContainer .sweep orphan.id)) then return
  match orphan.id.uuid with
  | none => return
  | some uuid => ask (.unregister .sweep uuid)

/-- One tick of `runReconcileLoop`, with `srv.ReconcileOrphans` in it. -/
def reconcile : Routine Unit := do
  match ← ask .listServers with
  | none => return
  | some known =>
    match ← ask .listManaged with
    | none => return
    | some list =>
      -- An orphan that cannot be torn down does not stop the others.
      (findOrphans list known).forM removeOrphan
      ask .reportInventory

end Agent

/-- What happens on a node: transactions of the panel, requests to the agent, ticks of its loops. -/
inductive Task where
  | transaction (tx : Tx)
  | createServer (now : Time) (uuid : ServerId)
  | importTransfer (now : Time) (transfer : TransferId) (uuid : ServerId)
  | deleteServer (uuid : ServerId)
  | boot
  | reconcile
  /-- A container starts or stops, by a request or on its own. -/
  | power (id : ContainerId) (running : Bool)

def Task.code (node : NodeId) : Task → Routine Unit
  | transaction tx => do
    let _ ← ask (.transact tx)
  | createServer now uuid => handleCreateServer node now uuid
  | importTransfer now transfer uuid => handleTransferImport node now transfer uuid
  | deleteServer uuid => handleDeleteServer uuid
  | boot => reconcileManagedContainers
  | reconcile => Site.reconcile
  | power id running => do
    let _ ← if running then ask (.startContainer id) else ask (.killContainer id)

abbrev Activity := Pool State Task Call.Answer

abbrev Turn := Move Task Choice

/-- One call of one request or goroutine on a node. -/
def step (node : NodeId) : Activity → Turn → Activity := Pool.step (Task.code node) answer?

/-- A node as it is found, before anything goes on. -/
def quiet (db : Db) (node : NodeId) (containers : List ManagedContainer)
    (registry : List ServerId) (fresh : Nat) : Activity :=
  ⟨⟨db, node, containers, registry, fresh, []⟩, []⟩

end PxHost.Site
