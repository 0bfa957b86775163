import PxHost.Lib.Interleaving
import PxHost.Lib.Table
import PxHost.Schema.Types

/-! Who may do what on a server: the owner, the subusers they invite, and the operators. -/

namespace PxHost.Authorization

open Store Interleaving

abbrev SubuserId := Nat

/-- The columns of a server that decide about access to it. -/
structure Server where
  ownerId : UserId
  status : ServerStatus
deriving DecidableEq

structure Subuser where
  serverId : ServerId
  userId : UserId
  permissions : List String
  acceptedAt : Option Time
deriving DecidableEq

structure User where
  email : String
  deletedAt : Option Time := none

structure AccessActor where
  id : UserId
  isAdmin : Bool
deriving DecidableEq

inductive Role where
  | owner
  | subuser (permissions : List String)
  | admin
deriving DecidableEq

structure ResolvedAccess where
  server : Server
  role : Role
deriving DecidableEq

def suspendedBlockedKeys : List String :=
  ["websocket.connect", "control.console", "control.start", "control.stop", "control.restart",
    "control.kill", "file.write", "file.delete", "addons.install", "addons.update", "addons.remove",
    "backup.create", "backup.restore", "database.create", "database.delete", "startup.update",
    "hostname.update"]

/-- Before setup only reading is allowed, and what a suspension blocks is on the list. -/
def allowedForStatus (status : ServerStatus) (permission : String) : Bool :=
  match status with
  | .setupPending => permission.endsWith ".read"
  | .suspended =>
    permission.endsWith ".read" ||
      !(permission.startsWith "schedule.") && !(suspendedBlockedKeys.contains permission)
  | _ => true

/-- The status of the server gates owners too; operators are staff, whom it does not constrain. -/
def ResolvedAccess.can (access : ResolvedAccess) (permission : String) : Bool :=
  match access.role with
  | .admin => true
  | .owner => allowedForStatus access.server.status permission
  | .subuser permissions =>
    permissions.contains permission && allowedForStatus access.server.status permission

abbrev Subusers := Table SubuserId Subuser

def Subuser.key (row : Subuser) : UserId × ServerId := (row.userId, row.serverId)

def Subuser.acceptedBy (user : UserId) (server : ServerId) (row : Subuser) : Bool :=
  row.serverId == server && row.userId == user && row.acceptedAt.isSome

/-- The permissions the database has for a user on a server; without an accepted row, none. -/
def permissionsIn (subusers : Subusers) (key : UserId × ServerId) : List String :=
  ((subusers.find? fun _ row => row.acceptedBy key.1 key.2).map (·.2.permissions)).getD []

/-- A request that has been decided, and the versions of the subusers its decision may rest on. -/
structure Decision where
  actor : AccessActor
  serverId : ServerId
  /-- Nothing if the server was not found. -/
  access : Option ResolvedAccess
  /-- The version made by the last change of the user's permissions that had returned when it began. -/
  since : Nat
  upTo : Nat

/-- The tables and Redis; the fields at the end record who did what, and nothing reads them. -/
structure State where
  servers : Table ServerId Server
  users : Table UserId User
  catalog : List String
  subusers : Subusers
  /-- The cached permissions of each user on each server, with their expiry. -/
  permissions : UserId × ServerId → Option (List String × Time) := fun _ => none
  clock : Time
  /-- What the table of subusers was before each of its changes, from the first on. -/
  history : List Subusers := []
  /-- The version that the last change of a pair to return has made. -/
  returned : UserId × ServerId → Nat := fun _ => 0
  /-- What had returned when each thread began to resolve its access. -/
  began : Nat → Nat := fun _ => 0
  /-- The pair that each thread has changed, and the version that made. -/
  changed : Nat → Option ((UserId × ServerId) × Nat) := fun _ => none
  decisions : List Decision := []

/-- Every version of the table of subusers, the present one last. -/
def State.versions (s : State) : List Subusers := s.history ++ [s.subusers]

/-- An entry is gone when its time is up. -/
def live (clock : Time) (entry : Option (List String × Time)) : Option (List String) :=
  entry.bind fun (permissions, expiry) => if clock < expiry then some permissions else none

def State.cached (s : State) (key : UserId × ServerId) : Option (List String) :=
  live s.clock (s.permissions key)

/-- The policy of the database: operators, the owner, and whoever has accepted an invitation. -/
def State.canAccess (s : State) (actor : AccessActor) (serverId : ServerId) : Bool :=
  actor.isAdmin || (s.servers.get? serverId).any (·.ownerId == actor.id) ||
    (s.subusers.find? fun _ row => row.acceptedBy actor.id serverId).isSome

inductive Failure where
  | notFound (message : String)
  | forbidden (message : String)
  | badRequest (message : String)
  | conflict (message : String)
  | constraint
  | lost
deriving DecidableEq

inductive Call where
  | fetchOwned (actor : AccessActor) (serverId : ServerId)
  | getPermissions (user : UserId) (serverId : ServerId)
  | findAccepted (user : UserId) (serverId : ServerId)
  | setPermissions (user : UserId) (serverId : ServerId) (permissions : List String)
  | delPermissions (user : UserId) (serverId : ServerId)
  | decide (actor : AccessActor) (serverId : ServerId) (access : Option ResolvedAccess)
  | findCatalog (keys : List String)
  | findUserByEmail (email : String)
  | findSubuserOf (actor : AccessActor) (serverId : ServerId) (user : UserId)
  | findSubuser (actor : AccessActor) (serverId : ServerId) (id : SubuserId)
  | createSubuser (actor : AccessActor) (serverId : ServerId) (user : UserId)
      (permissions : List String)
  | updateSubuser (actor : AccessActor) (id : SubuserId) (permissions : List String)
  | deleteSubuser (actor : AccessActor) (id : SubuserId)
  | respond (changed : Bool)

@[reducible] def Call.Result : Call → Type
  | fetchOwned .. => Option Server
  | getPermissions .. | findAccepted .. => Option (List String)
  | findCatalog _ => List String
  | findUserByEmail _ => Option UserId
  | findSubuserOf .. => Bool
  | findSubuser .. => Option Subuser
  | setPermissions .. | delPermissions .. | decide .. | createSubuser .. | updateSubuser ..
  | deleteSubuser .. | respond _ => Unit

@[reducible] def Call.Answer (call : Call) : Type := Except Failure call.Result

structure Choice where
  now : Time
  fault : Option (Fault Failure) := none
  id : SubuserId := 0

def permCacheTtlSeconds : Int := 60

/-- A change of the subusers of one pair becomes the next version of the table. -/
def State.commit (s : State) (thread : Nat) (key : UserId × ServerId) (subusers : Subusers) : State :=
  { s with
    subusers
    history := s.versions
    changed := Function.update s.changed thread (some (key, s.versions.length)) }

/-- A user has one row on a server at most, and the owner none. -/
def State.created (s : State) (id : SubuserId) (row : Subuser) : Option Subusers :=
  if (s.servers.get? row.serverId).any (·.ownerId == row.userId) then none
  else if (s.subusers.find? fun _ old =>
      old.serverId == row.serverId && old.userId == row.userId).isSome then none
  else s.subusers.insert? id row

/-- A row that the policy lets the actor see. -/
def State.visible (s : State) (actor : AccessActor) (id : SubuserId) : Option Subuser :=
  (s.subusers.get? id).filter fun row => s.canAccess actor row.serverId

def perform (thread : Nat) (s : State) (choice : Choice) : (call : Call) → call.Answer × State
  | .fetchOwned actor serverId =>
    (.ok (if s.canAccess actor serverId then s.servers.get? serverId else none),
      { s with began := Function.update s.began thread (s.returned (actor.id, serverId)) })
  | .getPermissions user serverId => (.ok (s.cached (user, serverId)), s)
  | .findAccepted user serverId =>
    (.ok ((s.subusers.find? fun _ row => row.acceptedBy user serverId).map (·.2.permissions)), s)
  | .setPermissions user serverId permissions =>
    let entry := (permissions, s.clock + permCacheTtlSeconds * 1000)
    (.ok (), { s with permissions := Function.update s.permissions (user, serverId) (some entry) })
  | .delPermissions user serverId =>
    (.ok (), { s with permissions := Function.update s.permissions (user, serverId) none })
  | .decide actor serverId access =>
    let decision := { actor, serverId, access, since := s.began thread, upTo := s.history.length }
    (.ok (), { s with decisions := decision :: s.decisions })
  | .findCatalog keys => (.ok (s.catalog.filter fun key => keys.contains key), s)
  | .findUserByEmail email =>
    (.ok ((s.users.find? fun _ user => user.email == email && user.deletedAt.isNone).map (·.1)), s)
  | .findSubuserOf actor serverId user =>
    (.ok (s.canAccess actor serverId &&
      (s.subusers.find? fun _ row => row.serverId == serverId && row.userId == user).isSome), s)
  | .findSubuser actor serverId id =>
    (.ok ((s.visible actor id).filter fun row => row.serverId == serverId), s)
  | .createSubuser actor serverId user permissions =>
    let row := { serverId, userId := user, permissions, acceptedAt := some s.clock }
    if s.canAccess actor serverId then
      match s.created choice.id row with
      | some subusers => (.ok (), s.commit thread (user, serverId) subusers)
      | none => (.error .constraint, s)
    else (.error .constraint, s)
  | .updateSubuser actor id permissions =>
    match s.visible actor id with
    | none => (.error (.notFound "No Subuser found"), s)
    | some row =>
      if (s.servers.get? row.serverId).any (·.ownerId == row.userId) then (.error .constraint, s)
      else
        (.ok (), s.commit thread row.key (s.subusers.modify id fun row => { row with permissions }))
  | .deleteSubuser actor id =>
    match s.visible actor id with
    | none => (.error (.notFound "No Subuser found"), s)
    | some row => (.ok (), s.commit thread row.key (s.subusers.erase id))
  | .respond changed =>
    (.ok (), match changed, s.changed thread with
      | true, some (key, version) =>
        { s with returned := Function.update s.returned key (max (s.returned key) version) }
      | _, _ => s)

/-- A new row has an identifier that no row has had before. -/
def State.accepts (s : State) (choice : Choice) : Call → Bool
  | .createSubuser .. => s.versions.all fun subusers => (subusers.get? choice.id).isNone
  | _ => true

/-- The clock never runs backwards. -/
def answer? (thread : Nat) (call : Call) (choice : Choice) (s : State) :
    Option (call.Answer × State) :=
  if s.clock ≤ choice.now ∧ s.accepts choice call then
    some (Fault.befall { s with clock := choice.now }
      (perform thread { s with clock := choice.now } choice call) choice.fault)
  else none

abbrev Routine := ExceptT Failure (Program Call.Answer)

@[simp] def ask (call : Call) : Routine call.Result := ExceptT.mk (Program.perform call)

def resolveSubuserPermissions (userId : UserId) (serverId : ServerId) : Routine (List String) := do
  match ← ask (.getPermissions userId serverId) with
  | some permissions => return permissions
  | none =>
    let subuser ← ask (.findAccepted userId serverId)
    let permissions := subuser.getD []
    ask (.setPermissions userId serverId permissions)
    return permissions

/-- A decision goes on record as it is handed to the caller, be it that there is no such server. -/
def decided (actor : AccessActor) (serverId : ServerId) (access : Option ResolvedAccess) :
    Routine ResolvedAccess := do
  ask (.decide actor serverId access)
  match access with
  | some access => return access
  | none => throw (.notFound "Server not found")

def resolve (actor : AccessActor) (serverId : ServerId) : Routine ResolvedAccess := do
  match ← ask (.fetchOwned actor serverId) with
  | none => decided actor serverId none
  | some server =>
    if actor.isAdmin then decided actor serverId (some { server, role := .admin })
    else if server.ownerId = actor.id then decided actor serverId (some { server, role := .owner })
    else
      let permissions ← resolveSubuserPermissions actor.id serverId
      decided actor serverId (some { server, role := .subuser permissions })

def invalidatePermissionCache (userId : UserId) (serverId : ServerId) : Routine Unit :=
  ask (.delPermissions userId serverId)

def assertValidPermissions (keys : List String) : Routine Unit := do
  if keys.isEmpty then return
  else
    let valid ← ask (.findCatalog keys)
    let invalid := keys.filter fun key => !valid.contains key
    if invalid.isEmpty then return
    else throw (.badRequest ("Unknown permission key(s): " ++ ", ".intercalate invalid))

/-- Only the owner and operators manage the subusers of a server. -/
def assertManages (access : ResolvedAccess) (message : String) : Routine Unit :=
  match access.role with
  | .subuser _ => throw (.forbidden message)
  | _ => return

structure InviteSubuserDto where
  email : String
  permissions : List String

def invite (actor : AccessActor) (serverId : ServerId) (dto : InviteSubuserDto) : Routine Unit := do
  let access ← resolve actor serverId
  assertManages access "Only the server owner can invite subusers"
  assertValidPermissions dto.permissions
  let some invitee ← ask (.findUserByEmail dto.email)
    | throw (.notFound "No user found with that email")
  if invitee = access.server.ownerId then
    throw (.conflict "The owner cannot be invited as a subuser of their own server")
  else
    match ← ask (.findSubuserOf actor serverId invitee) with
    | true => throw (.conflict "That user is already a subuser of this server")
    | false => ask (.createSubuser actor serverId invitee dto.permissions)

def updatePermissions (actor : AccessActor) (serverId : ServerId) (subuserId : SubuserId)
    (permissions : List String) : Routine Unit := do
  let access ← resolve actor serverId
  assertManages access "Only the server owner can edit subuser permissions"
  assertValidPermissions permissions
  let some subuser ← ask (.findSubuser actor serverId subuserId)
    | throw (.notFound "Subuser not found")
  ask (.updateSubuser actor subuserId permissions)
  invalidatePermissionCache subuser.userId serverId

def remove (actor : AccessActor) (serverId : ServerId) (subuserId : SubuserId) : Routine Unit := do
  let access ← resolve actor serverId
  assertManages access "Only the server owner can remove subusers"
  let some subuser ← ask (.findSubuser actor serverId subuserId)
    | throw (.notFound "Subuser not found")
  ask (.deleteSubuser actor subuserId)
  invalidatePermissionCache subuser.userId serverId

inductive Task where
  | resolve (actor : AccessActor) (serverId : ServerId)
  | invite (actor : AccessActor) (serverId : ServerId) (dto : InviteSubuserDto)
  | updatePermissions (actor : AccessActor) (serverId : ServerId) (subuserId : SubuserId)
      (permissions : List String)
  | remove (actor : AccessActor) (serverId : ServerId) (subuserId : SubuserId)

/-- A change that succeeds returns to its caller, who may rely on it from then on. -/
def handled (routine : Routine Unit) : Program Call.Answer Unit := do
  let result ← routine.run
  let _ ← Program.perform (Call.respond result.isOk)

def code : Task → Program Call.Answer Unit
  | .resolve actor serverId => do
    let _ ← (resolve actor serverId).run
    let _ ← Program.perform (Call.respond false)
  | .invite actor serverId dto => handled (invite actor serverId dto)
  | .updatePermissions actor serverId subuserId permissions =>
    handled (updatePermissions actor serverId subuserId permissions)
  | .remove actor serverId subuserId => handled (remove actor serverId subuserId)

abbrev Panel := Pool State Task Call.Answer

def step : Panel → Move Task Choice → Panel := Pool.step code answer?

/-- Servers and their subusers, with nothing cached and nothing under way. -/
def Panel.opened (servers : Table ServerId Server) (users : Table UserId User) (catalog : List String)
    (subusers : Subusers) (clock : Time) : Panel :=
  ⟨{ servers, users, catalog, subusers, clock }, []⟩

end PxHost.Authorization
