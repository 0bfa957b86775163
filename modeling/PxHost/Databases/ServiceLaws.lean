import PxHost.Databases.Service

/-! What a call that makes a database does to the databases that were there before. -/

namespace PxHost.Databases

open Store Fallible

section Statements

variable {m : Mysql} {session : Session}

/-- Every schema and every account is still there, with its tables and its password. -/
structure Keeps (before after : Mysql) : Prop where
  schemas : ∀ name tables, before.schemas.get? name = some tables →
    after.schemas.get? name = some tables
  users : ∀ account password, before.users.get? account = some password →
    after.users.get? account = some password

theorem Keeps.refl (m : Mysql) : Keeps m m := ⟨fun _ _ => id, fun _ _ => id⟩

theorem Keeps.trans {a b c : Mysql} (first : Keeps a b) (second : Keeps b c) : Keeps a c where
  schemas name tables stored := second.schemas name tables (first.schemas name tables stored)
  users account password stored := second.users account password (first.users account password stored)

def Statement.Additive : Statement → Prop
  | .dropDatabase _ | .dropUser _ _ => False
  | _ => True

theorem Statement.Additive.keeps {statement : Statement} (additive : statement.Additive)
    (m : Mysql) : Keeps m (statement.exec m) := by
  -- A creation under a name that is taken leaves what has the name.
  cases statement with
  | createDatabase name =>
    refine ⟨?_, fun _ _ => id⟩
    intro other tables stored
    rw [Statement.exec, Table.get?_upsert]
    split
    · rename_i same
      simp [← same, stored]
    · exact stored
  | createUser name remote password =>
    refine ⟨fun _ _ => id, ?_⟩
    intro account old stored
    rw [Statement.exec, Table.get?_upsert]
    split
    · rename_i same
      simp [← same, stored]
    · exact stored
  | grantAll database name remote => exact .refl m
  | flushPrivileges => exact .refl m
  | dropDatabase name => exact additive.elim
  | dropUser name remote => exact additive.elim

theorem runStatements_keeps {statements : List Statement}
    (additive : ∀ statement ∈ statements, statement.Additive) (m : Mysql) (replies : List Reply) :
    Keeps m (runStatements m statements replies).1 := by
  -- The statements take effect one after the other until one fails.
  induction statements generalizing m replies with
  | nil => exact .refl m
  | cons statement rest ih =>
    have step := (additive statement List.mem_cons_self).keeps m
    have later := ih (fun s member => additive s (List.mem_cons_of_mem _ member))
    rw [runStatements]
    cases replies.headD .refused with
    | done => exact step.trans (later _ _)
    | refused => exact .refl m
    | lost => exact step

theorem createDatabaseAndUser_keeps (session : Session) (database username password remote : String)
    (m : Mysql) :
    Keeps m (createDatabaseAndUser session database username password remote m).1 := by
  rw [createDatabaseAndUser, withIdentifiers]
  split
  · exact .refl m
  · rw [withConnection]
    split
    · refine runStatements_keeps ?_ m session.replies
      simp [Statement.Additive]
    · exact .refl m

def Session.FirstTakesEffect (session : Session) : Prop :=
  session.connects ∧ session.replies.headD .refused ≠ .refused

/-- The first statement of the connection is answered and the second takes effect. -/
def Session.SecondTakesEffect (session : Session) : Prop :=
  session.connects ∧ session.replies.headD .refused = .done ∧
    session.replies.tail.headD .refused ≠ .refused

instance (session : Session) : Decidable session.FirstTakesEffect :=
  inferInstanceAs (Decidable (_ ∧ _))

instance (session : Session) : Decidable session.SecondTakesEffect :=
  inferInstanceAs (Decidable (_ ∧ _ ∧ _))

theorem dropDatabaseAndUser_fst {database username remote : String}
    (safe : assertSafeIdentifiers database username = .ok ()) :
    (dropDatabaseAndUser session database username remote m).1 =
      { schemas := if session.FirstTakesEffect then m.schemas.erase database else m.schemas
        users := if session.SecondTakesEffect then m.users.erase (username, remote)
          else m.users } := by
  -- Which statements take effect depends on the replies to the ones before them only.
  obtain ⟨connects, replies, ends⟩ := session
  rw [dropDatabaseAndUser, withIdentifiers, safe]
  dsimp only [withConnection, Session.FirstTakesEffect, Session.SecondTakesEffect]
  cases connects with
  | false => rfl
  | true =>
    simp only [if_true, runStatements, true_and]
    cases replies.headD .refused with
    | refused => rfl
    | lost => rfl
    | done =>
      cases replies.tail.headD .refused with
      | refused => rfl
      | lost => rfl
      | done => cases replies.tail.tail.headD .refused <;> rfl

/-- The connection is made, its four statements are answered, and it is ended. -/
def Session.AnswersCreation (session : Session) : Prop :=
  session.connects ∧ session.replies.take 4 = List.replicate 4 .done ∧ session.ends

/-- Statements all succeed if there is an answer for each of them. -/
theorem runStatements_ok_iff (statements : List Statement) (m : Mysql) (replies : List Reply) :
    (runStatements m statements replies).2 = .ok () ↔
      replies.take statements.length = List.replicate statements.length .done := by
  induction statements generalizing m replies with
  | nil => simp [runStatements]
  | cons statement rest ih =>
    rw [runStatements]
    cases replies with
    | nil => simp [List.replicate_succ]
    | cons reply replies =>
      cases reply with
      | done => simpa [List.replicate_succ] using ih _ replies
      | refused => simp [List.replicate_succ]
      | lost => simp [List.replicate_succ]

theorem assertSafeIdentifiers_ok_iff {database username : String} :
    assertSafeIdentifiers database username = .ok () ↔
      isIdentifier 64 database ∧ isIdentifier 64 username := by
  unfold assertSafeIdentifiers
  cases isIdentifier 64 database <;> cases isIdentifier 64 username <;> simp

/-- The creation succeeds for names that pass the check, if everything is answered. -/
theorem createDatabaseAndUser_ok_iff {database username password remote : String} :
    (createDatabaseAndUser session database username password remote m).2 = .ok () ↔
      (isIdentifier 64 database ∧ isIdentifier 64 username) ∧ session.AnswersCreation := by
  rw [createDatabaseAndUser, withIdentifiers, ← assertSafeIdentifiers_ok_iff]
  cases safe : assertSafeIdentifiers database username with
  | error e => simp
  | ok u =>
    rw [withConnection, Session.AnswersCreation]
    cases session.connects <;> cases session.ends <;> simp [runStatements_ok_iff]

end Statements

section Creation

variable {w w' : World} {server : ServerAccess} {name : Option String} {draws : Draws}
  {env : Environment} {target : Target}

/-- The schema exists at the endpoint, and a row records it. -/
def HoldsSchema (w : World) (endpoint : Endpoint) (database : String) : Prop :=
  ∃ id row host, w.databases.get? id = some row ∧ w.hosts.get? row.hostId = some host ∧
    host.endpoint = endpoint ∧ row.database = database ∧
    ((w.mysql endpoint).schemas.get? database).isSome

/-- The account exists at the endpoint, and a row records it. -/
def HoldsUser (w : World) (endpoint : Endpoint) (account : String × String) : Prop :=
  ∃ id row host, w.databases.get? id = some row ∧ w.hosts.get? row.hostId = some host ∧
    host.endpoint = endpoint ∧ (row.username, row.remote) = account ∧
    ((w.mysql endpoint).users.get? account).isSome

/-- Every schema and account that a row recorded is still there, as it was. -/
def Unharmed (w w' : World) : Prop :=
  ∀ id row host, w.databases.get? id = some row → w.hosts.get? row.hostId = some host →
    (∀ tables, (w.mysql host.endpoint).schemas.get? row.database = some tables →
      (w'.mysql host.endpoint).schemas.get? row.database = some tables) ∧
    (∀ password, (w.mysql host.endpoint).users.get? (row.username, row.remote) = some password →
      (w'.mysql host.endpoint).users.get? (row.username, row.remote) = some password)

def Target.row (target : Target) (server : ServerAccess) (draws : Draws) : DatabaseRow :=
  ⟨server.serverId, target.hostId, target.database, target.username, draws.password, remoteAny⟩

/-- The host has room and has used the least; among equals it is the first. -/
structure LeastUsed (w : World) (host : HostId × DatabaseHostRow) : Prop where
  listed : host ∈ hostsWithRoom w
  least : ∀ other ∈ hostsWithRoom w, load w host ≤ load w other
  first : ∀ other ∈ hostsWithRoom w, load w other ≤ load w host →
    (hostsWithRoom w).findIdx (fun h => decide (h = host)) ≤
      (hostsWithRoom w).findIdx fun h => decide (h = other)

theorem pickHostWithCapacity_ok_iff {host : HostId × DatabaseHostRow} :
    pickHostWithCapacity w = .ok host ↔ LeastUsed w host := by
  have chosen : (hostsWithRoom w).argmin (load w) = some host ↔ LeastUsed w host := by
    rw [List.argmin_eq_some_iff]
    exact ⟨fun ⟨listed, least, first⟩ => ⟨listed, least, first⟩,
      fun used => ⟨used.listed, used.least, used.first⟩⟩
  rw [pickHostWithCapacity, ← chosen]
  cases (hostsWithRoom w).argmin (load w) <;> simp

/-- The account is the first of the five candidates that no row of the host has. -/
def FirstFree (w : World) (hostId : HostId) (shortId : String) (random : Nat → String)
    (username : String) : Prop :=
  ∃ attempt < 5, username = usernameCandidate shortId random attempt ∧
    usernameTaken w hostId username = false ∧
    ∀ earlier < attempt, usernameTaken w hostId (usernameCandidate shortId random earlier)

theorem FirstFree.free {hostId : HostId} {shortId username : String} {random : Nat → String} :
    FirstFree w hostId shortId random username → usernameTaken w hostId username = false
  | ⟨_, _, _, free, _⟩ => free

theorem generateUniqueUsername_ok_iff {hostId : HostId} {shortId username : String}
    {random : Nat → String} :
    generateUniqueUsername w hostId shortId random = .ok username ↔
      FirstFree w hostId shortId random username := by
  rw [generateUniqueUsername]
  constructor
  · intro generated
    split at generated
    · rename_i attempt found
      cases generated
      obtain ⟨free, within, earlier⟩ := List.find?_range_eq_some.mp found
      exact ⟨attempt, List.mem_range.mp within, rfl, by simpa using free,
        fun other before => by simpa using earlier other before⟩
    · cases generated
  · rintro ⟨attempt, within, rfl, free, earlier⟩
    have found : ((List.range 5).find? fun attempt =>
        !usernameTaken w hostId (usernameCandidate shortId random attempt)) = some attempt :=
      List.find?_range_eq_some.mpr ⟨by simp [free], List.mem_range.mpr within,
        fun other before => by simp [earlier other before]⟩
    rw [found]

/-- The row, the audit entry and the activity entry are all written and answered. -/
def Recordable (w : World) (hostId : HostId) (database : String) (draws : Draws)
    (env : Environment) : Prop :=
  (env.insert = .done ∧ env.audit ∧ env.activity) ∧ w.databases.get? draws.id = none ∧
    ∀ id row, w.databases.get? id = some row → row.hostId = hostId → row.database ≠ database

/--
The call makes the schema and the account and then fails to record them: what is asked is allowed,
there is a host and a name for it, the host answers, and one of the three entries does not.
-/
structure FailsLate (w : World) (server : ServerAccess) (name : Option String) (draws : Draws)
    (env : Environment) (host : HostId × DatabaseHostRow) (username : String) : Prop where
  allowed : server.canCreate
  within : w.databases.count (fun _ row => row.serverId = server.serverId) < server.maxDatabases
  chosen : LeastUsed w host
  account : FirstFree w host.1 server.shortId draws.username username
  names : isIdentifier 64 (schemaName server.shortId name) ∧ isIdentifier 64 username
  answered : env.provision.AnswersCreation
  unrecorded : ¬Recordable w host.1 (schemaName server.shortId name) draws env

/-- The call makes the schema and the account and then fails to record them. -/
structure Compensates (w : World) (server : ServerAccess) (name : Option String) (draws : Draws)
    (env : Environment) (target : Target) : Prop where
  chosen : chooseTarget w server name draws = .ok target
  made : (createDatabaseAndUser env.provision target.database target.username draws.password
    remoteAny (w.mysql target.endpoint)).2 = .ok ()
  notRecorded : (record w.databases draws.id (target.row server draws) env).2 = false

/-- A row is refused by one of the two unique indexes, or by its id. -/
theorem insertDatabase_isSome_iff {row : DatabaseRow}
    (free : usernameTaken w row.hostId row.username = false) :
    (insertDatabase w.databases draws.id row).isSome ↔ w.databases.get? draws.id = none ∧
      ∀ id other, w.databases.get? id = some other → other.hostId = row.hostId →
        other.database ≠ row.database := by
  unfold insertDatabase
  split
  · rename_i clash found
    obtain ⟨stored, same⟩ := Table.find?_some found
    simp only [decide_eq_true_eq] at same
    refine iff_of_false (by simp) fun apart => ?_
    rcases same.2 with database | username
    · exact apart.2 _ _ stored same.1 database
    · simp only [usernameTaken, Option.isSome_eq_false_iff, Option.isNone_iff_eq_none] at free
      simpa [same.1, username] using Table.find?_none free stored
  · rename_i none
    have apart : ∀ id other, w.databases.get? id = some other → other.hostId = row.hostId →
        other.database ≠ row.database := by
      intro id other stored same database
      simpa [same, database] using Table.find?_none none stored
    simp only [Table.insert?]
    split
    · rename_i fresh
      exact iff_of_true rfl ⟨fresh, apart⟩
    · rename_i taken
      exact iff_of_false (by simp) fun fresh => taken fresh.1

/-- The entries are recorded, for an account that no row of the host has. -/
theorem record_eq_true_iff (free : usernameTaken w target.hostId target.username = false) :
    (record w.databases draws.id (target.row server draws) env).2 = true ↔
      Recordable w target.hostId target.database draws env := by
  have inserted : _ ↔ w.databases.get? draws.id = none ∧ ∀ id other,
      w.databases.get? id = some other → other.hostId = target.hostId →
        other.database ≠ target.database :=
    @insertDatabase_isSome_iff w draws (target.row server draws) free
  rw [Recordable, ← inserted, record]
  cases env.insert <;> cases insertDatabase w.databases draws.id (target.row server draws) <;> simp

theorem compensates_iff : Compensates w server name draws env target ↔
    ∃ host, FailsLate w server name draws env (target.hostId, host) target.username ∧
      target.endpoint = host.endpoint ∧ target.database = schemaName server.shortId name := by
  have choice : chooseTarget w server name draws = .ok target ↔
      server.canCreate ∧
        w.databases.count (fun _ row => row.serverId = server.serverId) < server.maxDatabases ∧
        ∃ host, LeastUsed w (target.hostId, host) ∧
          FirstFree w target.hostId server.shortId draws.username target.username ∧
          target.endpoint = host.endpoint ∧ target.database = schemaName server.shortId name := by
    simp only [chooseTarget, bind_eq_ok_iff, require_eq_ok_iff, pickHostWithCapacity_ok_iff,
      generateUniqueUsername_ok_iff]
    constructor
    · rintro ⟨_, allowed, _, within, ⟨hostId, host⟩, used, username, free, chosen⟩
      cases chosen
      exact ⟨allowed, within, host, used, free, rfl, rfl⟩
    · rintro ⟨allowed, within, host, used, free, endpoint, database⟩
      refine ⟨(), allowed, (), within, (target.hostId, host), used, target.username, free, ?_⟩
      rw [← endpoint, ← database]
      rfl
  constructor
  · rintro ⟨chosen, made, notRecorded⟩
    obtain ⟨allowed, within, host, used, account, endpoint, database⟩ := choice.mp chosen
    obtain ⟨names, answered⟩ := createDatabaseAndUser_ok_iff.mp made
    refine ⟨host, ⟨allowed, within, used, account, database ▸ names, answered, fun recordable => ?_⟩,
      endpoint, database⟩
    rw [(record_eq_true_iff account.free).mpr (database ▸ recordable)] at notRecorded
    cases notRecorded
  · rintro ⟨host, late, endpoint, database⟩
    refine ⟨choice.mpr ⟨late.allowed, late.within, host, late.chosen, late.account, endpoint,
      database⟩, createDatabaseAndUser_ok_iff.mpr ⟨database ▸ late.names, late.answered⟩, ?_⟩
    rw [← Bool.not_eq_true, record_eq_true_iff late.account.free, database]
    exact late.unrecorded

theorem unharmed_of_keeps (keeps : ∀ endpoint, Keeps (w.mysql endpoint) (w'.mysql endpoint)) :
    Unharmed w w' := by
  intro id row host _ _
  exact ⟨(keeps host.endpoint).schemas row.database, (keeps host.endpoint).users _⟩

theorem keeps_setMysql {endpoint : Endpoint} {m : Mysql} (keeps : Keeps (w.mysql endpoint) m)
    (other : Endpoint) : Keeps (w.mysql other) ((w.setMysql endpoint m).mysql other) := by
  rw [World.setMysql]
  dsimp only
  -- Two host rows may name the same endpoint, so the endpoint is what counts.
  by_cases same : other = endpoint
  · subst same
    rw [Function.update_self]
    exact keeps
  · rw [Function.update_of_ne same]
    exact .refl _

/-- A call that does not compensate leaves every host as it was or richer. -/
theorem create_keeps (direct : ∀ target, ¬Compensates w server name draws env target)
    (endpoint : Endpoint) :
    Keeps (w.mysql endpoint) ((create w server name draws env).1.mysql endpoint) := by
  -- Every way out of the call before the compensation only adds to the host.
  rw [create]
  cases chosen : chooseTarget w server name draws with
  | error e => exact .refl _
  | ok target =>
    have kept := createDatabaseAndUser_keeps env.provision target.database target.username
      draws.password remoteAny (w.mysql target.endpoint)
    dsimp only
    cases made : (createDatabaseAndUser env.provision target.database target.username draws.password
        remoteAny (w.mysql target.endpoint)).2 with
    | error e => exact keeps_setMysql kept endpoint
    | ok u =>
      have recorded : (record w.databases draws.id (target.row server draws) env).2 = true := by
        by_contra missing
        exact direct target ⟨chosen, made, by simpa using missing⟩
      rw [Target.row] at recorded
      simp only [recorded, if_true]
      exact keeps_setMysql kept endpoint

theorem create_mysql (compensates : Compensates w server name draws env target) :
    (create w server name draws env).1.mysql = Function.update w.mysql target.endpoint
      (dropDatabaseAndUser env.compensate target.database target.username remoteAny
        (createDatabaseAndUser env.provision target.database target.username draws.password
          remoteAny (w.mysql target.endpoint)).1).1 := by
  have notRecorded := compensates.notRecorded
  rw [Target.row] at notRecorded
  simp only [create, compensates.chosen, compensates.made, notRecorded, World.setMysql,
    Bool.false_eq_true, if_false]

/-- The compensation harms nothing unless it drops what was there before. -/
theorem unharmed_iff_of_compensates (compensates : Compensates w server name draws env target) :
    Unharmed w (create w server name draws env).1 ↔
      (env.compensate.FirstTakesEffect → ¬HoldsSchema w target.endpoint target.database) ∧
      (env.compensate.SecondTakesEffect →
        ¬HoldsUser w target.endpoint (target.username, remoteAny)) := by
  -- What the creation has done does not matter: it is only known to have kept everything.
  have kept := createDatabaseAndUser_keeps env.provision target.database target.username
    draws.password remoteAny (w.mysql target.endpoint)
  have dropped := create_mysql compensates
  rw [dropDatabaseAndUser_fst (assertSafeIdentifiers_ok_iff.mpr
    (createDatabaseAndUser_ok_iff.mp compensates.made).1)] at dropped
  generalize (createDatabaseAndUser env.provision target.database target.username draws.password
    remoteAny (w.mysql target.endpoint)).1 = made at kept dropped
  have here : (create w server name draws env).1.mysql target.endpoint = _ :=
    (congrFun dropped target.endpoint).trans (Function.update_self ..)
  constructor
  · intro unharmed
    constructor
    · rintro effect ⟨id, row, host, stored, hosted, at', same, existed⟩
      -- The schema was there and the compensation has removed it.
      obtain ⟨tables, there⟩ := Option.isSome_iff_exists.mp existed
      have still := (unharmed id row host stored hosted).1 tables (by rw [at', same]; exact there)
      rw [at', here, if_pos effect, same] at still
      simp at still
    · rintro effect ⟨id, row, host, stored, hosted, at', same, existed⟩
      obtain ⟨password, there⟩ := Option.isSome_iff_exists.mp existed
      have still := (unharmed id row host stored hosted).2 password
        (by rw [at', same]; exact there)
      rw [at', here, if_pos effect, same] at still
      simp at still
  -- Any row of another host, or under other names, is out of reach of the two drops.
  · rintro ⟨schemaSafe, userSafe⟩ id row host stored hosted
    by_cases at' : host.endpoint = target.endpoint
    · rw [at', here]
      constructor
      · intro tables there
        dsimp only
        split
        · rename_i effect
          have other : row.database ≠ target.database := fun same => schemaSafe effect
            ⟨id, row, host, stored, hosted, at', same, by rw [← same, there]; rfl⟩
          rw [Table.get?_erase, if_neg other]
          exact kept.schemas _ _ there
        · exact kept.schemas _ _ there
      · intro password there
        dsimp only
        split
        · rename_i effect
          have other : (row.username, row.remote) ≠ (target.username, remoteAny) := fun same =>
            userSafe effect ⟨id, row, host, stored, hosted, at', same, by rw [← same, there]; rfl⟩
          rw [Table.get?_erase, if_neg other]
          exact kept.users _ _ there
        · exact kept.users _ _ there
    · rw [dropped, Function.update_of_ne at']
      exact ⟨fun _ there => there, fun _ there => there⟩

/--
A call harms an existing database exactly if it fails after it has made its own, and the compensation
then drops a schema or an account that a row of the same endpoint recorded before.
-/
theorem create_harms_nothing_iff (w : World) (server : ServerAccess) (name : Option String)
    (draws : Draws) (env : Environment) :
    Unharmed w (create w server name draws env).1 ↔
      ∀ host username, FailsLate w server name draws env host username →
        (env.compensate.FirstTakesEffect →
          ¬HoldsSchema w host.2.endpoint (schemaName server.shortId name)) ∧
        (env.compensate.SecondTakesEffect →
          ¬HoldsUser w host.2.endpoint (username, remoteAny)) := by
  constructor
  · rintro unharmed ⟨hostId, host⟩ username late
    have compensates : Compensates w server name draws env
        ⟨hostId, host.endpoint, schemaName server.shortId name, username⟩ :=
      compensates_iff.mpr ⟨host, late, rfl, rfl⟩
    exact (unharmed_iff_of_compensates compensates).mp unharmed
  · intro safe
    -- The target is determined by the call, if it gets as far as having one.
    by_cases compensates : ∃ target, Compensates w server name draws env target
    · obtain ⟨target, compensates⟩ := compensates
      obtain ⟨host, late, endpoint, database⟩ := compensates_iff.mp compensates
      rw [unharmed_iff_of_compensates compensates, endpoint, database]
      exact safe (target.hostId, host) target.username late
    · exact unharmed_of_keeps (create_keeps (not_exists.mp compensates))

def sampleWorld : World where
  hosts := Table.empty.upsert 1 ⟨⟨"db.example", 3306⟩, 10, none⟩ id
  databases := Table.empty.upsert 5
    ⟨7, 1, "sabcd1234_db", "uabcd1234000000", "secret", remoteAny⟩ id
  mysql _ := {
    schemas := Table.empty.upsert "sabcd1234_db" ["players"] id
    users := Table.empty.upsert ("uabcd1234000000", remoteAny) "secret" id }

/-- A second database is asked for under no name: its row is refused, and the compensation drops
    the schema of the first. -/
theorem refused_row_drops_existing_schema :
    let after := (create sampleWorld ⟨7, "ABCD1234", 2, true⟩ none
      ⟨6, "other", fun _ => "ffffff"⟩
      ⟨⟨true, [.done, .done, .done, .done], true⟩, .done, true, true,
        ⟨true, [.done, .done, .done], true⟩⟩).1
    sampleWorld.databases.get? 5 = after.databases.get? 5 ∧
      ((sampleWorld.mysql ⟨"db.example", 3306⟩).schemas.get? "sabcd1234_db") = some ["players"] ∧
      ((after.mysql ⟨"db.example", 3306⟩).schemas.get? "sabcd1234_db") = none := by
  decide +kernel

end Creation

end PxHost.Databases
