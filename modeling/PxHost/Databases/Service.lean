import Mathlib.Algebra.Order.Ring.Unbundled.Rat
import Mathlib.Data.List.MinMax
import PxHost.Lib.Table
import PxHost.Lib.Fallible
import PxHost.Lib.Text
import PxHost.Schema.Types

/-! Databases of game servers: what the panel records and what it asks of a MySQL host. -/

namespace PxHost.Databases

open Store Fallible

abbrev HostId := Nat
abbrev DatabaseId := Nat

structure Endpoint where
  host : String
  port : Nat
deriving DecidableEq

structure DatabaseHostRow where
  endpoint : Endpoint
  maxDatabases : Nat
  deletedAt : Option Time
deriving DecidableEq

structure DatabaseRow where
  serverId : ServerId
  hostId : HostId
  database : String
  username : String
  password : String
  remote : String
deriving DecidableEq

/-- The schemas of a MySQL host with their tables, and its accounts with their passwords. -/
structure Mysql where
  schemas : Table String (List String)
  users : Table (String × String) String
deriving DecidableEq

structure World where
  hosts : Table HostId DatabaseHostRow
  databases : Table DatabaseId DatabaseRow
  mysql : Endpoint → Mysql

section MysqlHostClient

inductive Statement where
  | createDatabase (name : String)
  | createUser (name remote password : String)
  | grantAll (database name remote : String)
  | flushPrivileges
  | dropDatabase (name : String)
  | dropUser (name remote : String)
deriving DecidableEq

/-- Each creation is made only if nothing has the name, and each removal only if something has. -/
def Statement.exec (m : Mysql) : Statement → Mysql
  -- The statements say IF NOT EXISTS and IF EXISTS, so none of them tells what it found.
  | .createDatabase name => { m with schemas := m.schemas.upsert name [] id }
  | .createUser name remote password => { m with users := m.users.upsert (name, remote) password id }
  | .grantAll _ _ _ => m
  | .flushPrivileges => m
  | .dropDatabase name => { m with schemas := m.schemas.erase name }
  | .dropUser name remote => { m with users := m.users.erase (name, remote) }

/-- A request is answered, or fails without effect, or takes effect while its answer is lost. -/
inductive Reply where
  | done | refused | lost
deriving DecidableEq

structure Session where
  connects : Bool
  replies : List Reply
  ends : Bool
deriving DecidableEq

inductive MysqlError where
  | unsafeIdentifier (kind name : String)
  | unreachable
  | statementFailed
  | endFailed
deriving DecidableEq

def identifierChar (c : Char) : Bool :=
  ('a' ≤ c && c ≤ 'z') || ('0' ≤ c && c ≤ '9') || c == '_'

/-- The name has between one and `most` characters, all of them fit for an identifier. -/
def isIdentifier (most : Nat) (name : String) : Bool :=
  name.toList.all identifierChar && 1 ≤ name.toList.length && name.toList.length ≤ most

/-- The statements of one connection, up to the first that fails. -/
def runStatements (m : Mysql) : List Statement → List Reply → Mysql × Except MysqlError Unit
  | [], _ => (m, .ok ())
  | statement :: rest, replies =>
    match replies.headD .refused with
    | .done => runStatements (statement.exec m) rest replies.tail
    | .refused => (m, .error .statementFailed)
    -- The host has done it, but the panel sees an error.
    | .lost => (statement.exec m, .error .statementFailed)

def withConnection (session : Session) (statements : List Statement) (m : Mysql) :
    Mysql × Except MysqlError Unit :=
  if session.connects then
    let (m', outcome) := runStatements m statements session.replies
    -- The connection is ended whatever came of the statements, and a failure there is what is seen.
    (m', if session.ends then outcome else .error .endFailed)
  else (m, .error .unreachable)

def assertSafeIdentifiers (database username : String) : Except MysqlError Unit :=
  if !isIdentifier 64 database then .error (.unsafeIdentifier "database" database)
  else if !isIdentifier 64 username then .error (.unsafeIdentifier "username" username)
  else .ok ()

def withIdentifiers (session : Session) (database username : String)
    (statements : List Statement) (m : Mysql) : Mysql × Except MysqlError Unit :=
  match assertSafeIdentifiers database username with
  | .error e => (m, .error e)
  | .ok () => withConnection session statements m

def createDatabaseAndUser (session : Session) (database username password remote : String) :
    Mysql → Mysql × Except MysqlError Unit :=
  withIdentifiers session database username
    [.createDatabase database, .createUser username remote password,
      .grantAll database username remote, .flushPrivileges]

def dropDatabaseAndUser (session : Session) (database username remote : String) :
    Mysql → Mysql × Except MysqlError Unit :=
  withIdentifiers session database username
    [.dropDatabase database, .dropUser username remote, .flushPrivileges]

end MysqlHostClient

section DatabasesService

def defaultSuffix : String := "db"

/-- Any host may connect with the right credentials. -/
def remoteAny : String := "%"

/-- The Kelvin sign is the one letter outside the alphabet whose small form is in it. -/
def lowerChar (c : Char) : Char := if c.toNat = 0x212A then 'k' else c.toLower

def toLowerCase (text : String) : String := String.ofList (text.toList.map lowerChar)

def sanitizeSuffix (name : Option String) : String :=
  -- A name that is no identifier is not refused; the default stands in for it.
  let trimmed := toLowerCase (Text.trim (name.getD ""))
  if isIdentifier 32 trimmed then trimmed else defaultSuffix

/-- How much of its cap a host has used. -/
def load (w : World) (host : HostId × DatabaseHostRow) : Rat :=
  w.databases.count (fun _ row => row.hostId = host.1) / host.2.maxDatabases

/-- The hosts that are not deleted and have room under their caps. -/
def hostsWithRoom (w : World) : List (HostId × DatabaseHostRow) :=
  w.hosts.filter fun id host => host.deletedAt.isNone &&
    w.databases.count (fun _ row => row.hostId = id) < host.maxDatabases

/-- The host with room that has used the least; the sort keeps the order of equals. -/
def pickHostWithCapacity (w : World) : Except ApiError (HostId × DatabaseHostRow) :=
  match (hostsWithRoom w).argmin (load w) with
  | none => .error (.conflict "No database host with available capacity")
  | some host => .ok host

/-- Only the account gets something random into its name. -/
def usernameCandidate (shortId : String) (random : Nat → String) (attempt : Nat) : String :=
  "u" ++ toLowerCase shortId ++ random attempt

def usernameTaken (w : World) (hostId : HostId) (username : String) : Bool :=
  (w.databases.find? fun _ row => row.hostId = hostId ∧ row.username = username).isSome

/-- The first of five candidates that no row on the host uses. -/
def generateUniqueUsername (w : World) (hostId : HostId) (shortId : String)
    (random : Nat → String) : Except ApiError String :=
  match (List.range 5).find? fun attempt =>
      !usernameTaken w hostId (usernameCandidate shortId random attempt) with
  | some attempt => .ok (usernameCandidate shortId random attempt)
  | none => .error (.conflict "Could not allocate a unique database username, please retry")

/-- The server a database is asked for, as far as the actor may see it. -/
structure ServerAccess where
  serverId : ServerId
  shortId : String
  maxDatabases : Nat
  canCreate : Bool
deriving DecidableEq

structure Draws where
  id : DatabaseId
  password : String
  username : Nat → String

/-- The names a database is made under, and where. -/
structure Target where
  hostId : HostId
  endpoint : Endpoint
  database : String
  username : String
deriving DecidableEq

/-- The schema name is the same whenever the server and the wanted name are. -/
def schemaName (shortId : String) (name : Option String) : String :=
  "s" ++ toLowerCase shortId ++ "_" ++ sanitizeSuffix name

/-- The checks and choices that come before anything is asked of a MySQL host. -/
def chooseTarget (w : World) (server : ServerAccess) (name : Option String) (draws : Draws) :
    Except ApiError Target := do
  require server.canCreate (.forbidden "Missing permission: database.create")
  require (w.databases.count (fun _ row => row.serverId = server.serverId) < server.maxDatabases)
    (.conflict "Database limit reached for this server’s plan")
  let (hostId, host) ← pickHostWithCapacity w
  let database := schemaName server.shortId name
  let username ← generateUniqueUsername w hostId server.shortId draws.username
  return ⟨hostId, host.endpoint, database, username⟩

/-- No two rows of one host share the schema or the account. -/
def insertDatabase (databases : Table DatabaseId DatabaseRow) (id : DatabaseId)
    (row : DatabaseRow) : Option (Table DatabaseId DatabaseRow) :=
  -- Two unique indexes of the table.
  match databases.find? fun _ other => other.hostId = row.hostId ∧
      (other.database = row.database ∨ other.username = row.username) with
  | some _ => none
  | none => databases.insert? id row

structure Environment where
  provision : Session
  insert : Reply
  audit : Bool
  activity : Bool
  compensate : Session
deriving DecidableEq

/-- The row, the audit entry and the activity entry; whether all three were answered. -/
def record (databases : Table DatabaseId DatabaseRow) (id : DatabaseId) (row : DatabaseRow)
    (env : Environment) : Table DatabaseId DatabaseRow × Bool :=
  match env.insert, insertDatabase databases id row with
  | .done, some grown => (grown, env.audit && env.activity)
  -- The row is there, but its answer was lost.
  | .lost, some grown => (grown, false)
  | _, _ => (databases, false)

inductive CreateError where
  | api (error : ApiError)
  | mysql (error : MysqlError)
  | notRecorded
deriving DecidableEq

def World.setMysql (w : World) (endpoint : Endpoint) (m : Mysql) : World :=
  { w with mysql := Function.update w.mysql endpoint m }

def create (w : World) (server : ServerAccess) (name : Option String) (draws : Draws)
    (env : Environment) : World × Except CreateError DatabaseRow :=
  match chooseTarget w server name draws with
  | .error e => (w, .error (.api e))
  | .ok target =>
    let (made, outcome) := createDatabaseAndUser env.provision target.database target.username
      draws.password remoteAny (w.mysql target.endpoint)
    match outcome with
    -- A failure on the host itself is not compensated for.
    | .error e => (w.setMysql target.endpoint made, .error (.mysql e))
    | .ok () =>
      let row := ⟨server.serverId, target.hostId, target.database, target.username,
        draws.password, remoteAny⟩
      let (databases, recorded) := record w.databases draws.id row env
      if recorded then ({ w.setMysql target.endpoint made with databases }, .ok row)
      else
        -- The compensation removes by name, and its own failure is ignored.
        let (left, _) := dropDatabaseAndUser env.compensate target.database target.username
          remoteAny made
        ({ w.setMysql target.endpoint left with databases }, .error .notRecorded)

end DatabasesService

end PxHost.Databases
