import PxHost.Lib.Interrupted
import PxHost.Lib.Table

/-!
Putting a staged directory in the place of a server's data directory, and what an agent does with
the directories it finds when it starts. Every call may be the last one before the agent stops.
-/

namespace PxHost.Swap

open Interleaving Store

abbrev Uuid := Nat

/-- The directories next to each other in the node's data directory that carry a server's name. -/
inductive Role where
  | data
  | restoreStaging
  | restoreOld
  | modpackStaging
  | modpackOld
deriving DecidableEq

structure Dir where
  uuid : Uuid
  role : Role
deriving DecidableEq

def dataDir (uuid : Uuid) : Dir := ⟨uuid, .data⟩

abbrev Tree := List (String × String)

structure Folder where
  tree : Tree
  modTime : Int
deriving DecidableEq

abbrev Folders := Table Dir Folder

/-- Work that can fail and that changes no directory. -/
inductive Work where
  | isStopped
  | chown
  | openJail
  | closeJail
  | download
  | inspect
  | adopt
  | createContainer
deriving DecidableEq

inductive Call where
  | rename (source target : Dir)
  | removeAll (dir : Dir)
  | mkdirAll (dir : Dir)
  /-- Bring a staging directory to hold a tree. -/
  | fill (dir : Dir) (tree : Tree)
  | readDir
  | stat (dir : Dir)
  | modTime (dir : Dir)
  | now
  | listManaged
  | attempt (work : Work)
deriving DecidableEq

@[reducible] def Call.Answer : Call → Type
  | rename .. | removeAll _ | mkdirAll _ | fill .. | stat _ | attempt _ => Bool
  | readDir => Option (List Dir)
  | modTime _ => Option Int
  | now => Int
  | listManaged => Option (List Uuid)

/--
How a call ends: nothing is done, it gets through some of the names and then fails, or it succeeds
at some time, or Docker lists the servers it has containers of.
-/
inductive Choice where
  | fails
  | halfway (names : List String) (time : Int)
  | succeeds (time : Int)
  | lists (uuids : List Uuid)
deriving DecidableEq

/-- What a directory holds after some of the names have been dealt with. -/
def Folder.only (tree : Tree) (names : List String) (time : Int) : Folder :=
  ⟨tree.filter fun file => file.1 ∈ names, time⟩

/-- A directory takes another name that nothing has. -/
def renamed (folders : Folders) (source target : Dir) : Option Folders :=
  match folders.get? source with
  -- The rename of the source's language refuses a directory as its target, even an empty one.
  | some folder => (folders.erase source).insert? target folder
  | none => none

def answer (call : Call) (choice : Choice) (folders : Folders) : call.Answer × Folders :=
  match call, choice with
  | .rename source target, .succeeds _ =>
    match renamed folders source target with
    | some moved => (true, moved)
    | none => (false, folders)
  | .rename .., _ => (false, folders)
  | .removeAll dir, .succeeds _ => (true, folders.erase dir)
  -- A removal that is cut short leaves some of the files.
  | .removeAll dir, .halfway names time =>
    (false, folders.modify dir fun folder => .only folder.tree names time)
  | .removeAll _, _ => (false, folders)
  -- What is there already stays as it is, with its modification time.
  | .mkdirAll dir, .succeeds time => (true, folders.upsert dir ⟨[], time⟩ id)
  | .mkdirAll _, _ => (false, folders)
  | .fill dir tree, .succeeds time =>
    ((folders.get? dir).isSome, folders.modify dir fun _ => ⟨tree, time⟩)
  | .fill dir tree, .halfway names time => (false, folders.modify dir fun _ => .only tree names time)
  | .fill .., _ => (false, folders)
  | .readDir, .succeeds _ => (some (folders.rows.map Prod.fst), folders)
  | .readDir, _ => (none, folders)
  | .stat dir, .succeeds _ => ((folders.get? dir).isSome, folders)
  | .stat _, _ => (false, folders)
  | .modTime dir, .succeeds _ => ((folders.get? dir).map (·.modTime), folders)
  | .modTime _, _ => (none, folders)
  | .now, .succeeds time => (time, folders)
  | .now, _ => (0, folders)
  | .listManaged, .lists uuids => (some uuids, folders)
  | .listManaged, _ => (none, folders)
  | .attempt _, .succeeds _ => (true, folders)
  | .attempt _, _ => (false, folders)

abbrev Routine := Program Call.Answer

def ask (call : Call) : Routine call.Answer := Program.perform call

def rename (source target : Dir) : Routine Bool := ask (.rename source target)

def removeAll (dir : Dir) : Routine Bool := ask (.removeAll dir)

def mkdirAll (dir : Dir) : Routine Bool := ask (.mkdirAll dir)

def fill (dir : Dir) (tree : Tree) : Routine Bool := ask (.fill dir tree)

def attempt (work : Work) : Routine Bool := ask (.attempt work)

section Operations

/-- The two operations that swap a directory in. -/
inductive Kind where
  | restore
  | modpack
deriving DecidableEq

def Kind.staging : Kind → Role
  | .restore => .restoreStaging
  | .modpack => .modpackStaging

def Kind.old : Kind → Role
  | .restore => .restoreOld
  | .modpack => .modpackOld

/-- The two renames, the way back if the second fails, and the removal an hour later. -/
def activate (kind : Kind) (uuid : Uuid) : Routine Unit := do
  -- Between the two renames the server has no data directory at all.
  if !(← attempt .closeJail) then return
  if !(← rename (dataDir uuid) ⟨uuid, kind.old⟩) then return
  if !(← rename ⟨uuid, kind.staging⟩ (dataDir uuid)) then
    let _ ← rename ⟨uuid, kind.old⟩ (dataDir uuid)
    return
  if !(← attempt .openJail) then return
  let _ ← removeAll ⟨uuid, kind.old⟩

def removeLeftovers (kind : Kind) (uuid : Uuid) : Routine Unit := do
  -- An old directory of an earlier attempt goes before anything new is staged.
  let _ ← removeAll ⟨uuid, kind.staging⟩
  let _ ← removeAll ⟨uuid, kind.old⟩

def restore (uuid : Uuid) (backup : Tree) : Routine Unit := do
  let staging : Dir := ⟨uuid, .restoreStaging⟩
  if !(← attempt .isStopped) then return
  removeLeftovers .restore uuid
  if !(← mkdirAll staging) then return
  if !(← attempt .chown) then
    let _ ← removeAll staging
    return
  if !(← attempt .openJail) then
    let _ ← removeAll staging
    return
  if !(← fill staging backup) then
    let _ ← removeAll staging
    return
  activate .restore uuid

def installModpack (uuid : Uuid) (staged : Tree) : Routine Unit := do
  let staging : Dir := ⟨uuid, .modpackStaging⟩
  if !(← attempt .isStopped) then return
  removeLeftovers .modpack uuid
  if !(← attempt .download) then return
  if !(← mkdirAll staging) then return
  if !(← fill staging staged) then return
  activate .modpack uuid

def swap (kind : Kind) (uuid : Uuid) (tree : Tree) : Routine Unit :=
  match kind with
  | .restore => restore uuid tree
  | .modpack => installModpack uuid tree

end Operations

section Startup

/-- Five minutes. -/
def staleOldDirAge : Int := 5 * 60

def Role.isOld : Role → Bool
  | .modpackOld | .restoreOld => true
  | _ => false

/-- A directory that a swap left behind goes, unless it may be all that is left of a server. -/
def sweepEntry (time : Int) (dir : Dir) : Routine Unit := do
  if !Role.isOld dir.role then return
  -- The data directory next to it is taken for the sign of a finished swap.
  if !(← ask (.stat (dataDir dir.uuid))) then return
  match ← ask (.modTime dir) with
  | none => return
  | some modTime =>
    -- Young enough that its own delayed removal may still be alive.
    if time - staleOldDirAge < modTime then return
    let _ ← removeAll dir

def sweepStaleOldDirs : Routine Unit := do
  match ← ask .readDir with
  | none => return
  | some entries =>
    let time ← ask .now
    entries.forM (sweepEntry time)

/-- A new server gets its data directory if it has none; a second one of the name is refused. -/
def register (registered : List Uuid) (uuid : Uuid) : Routine Bool := do
  if uuid ∈ registered then return false
  -- This makes the very directory by which a sweep judges.
  if !(← mkdirAll (dataDir uuid)) then return false
  let _ ← attempt .chown
  attempt .openJail

/-- One server for each container; the first that cannot be taken over ends the start. -/
def reconcileManagedContainers (registered : List Uuid) : List Uuid → Routine (Option (List Uuid))
  | [] => return (some registered)
  | uuid :: rest => do
    if !(← attempt .inspect) then return none
    -- Docker lists the containers that outlived the old process.
    if !(← register registered uuid) then return none
    if !(← attempt .adopt) then return none
    reconcileManagedContainers (uuid :: registered) rest

/-- The servers whose files were named when the agent was started. -/
def loadAndAdopt (registered : List Uuid) : List Uuid → Routine Unit
  | [] => return
  | uuid :: rest => do
    if !(← register registered uuid) then return
    if !(← attempt .createContainer) then return
    loadAndAdopt (uuid :: registered) rest

/-- The start of an agent, up to the point where it answers requests. -/
def serve (configured : List Uuid) : Routine Unit := do
  -- The sweep comes before the adoption, so it judges by what the last process has left.
  sweepStaleOldDirs
  match ← ask .listManaged with
  | none => return
  | some uuids =>
    match ← reconcileManagedContainers [] uuids with
    | none => return
    | some registered => loadAndAdopt registered configured

end Startup

abbrev Agent := Interrupted.Process Folders Call.Answer

abbrev Event := Interrupted.Event (List Uuid) Choice

def step : Agent → Event → Agent := Interrupted.Process.step serve answer

end PxHost.Swap
