import PxHost.Lib.Interleaving
import PxHost.Lib.Table
import PxHost.Schema.Types

/-! The accounts of the panel: sign-in, refresh tokens, revocation, and the guard of every request. -/

namespace PxHost.Auth

open Store Interleaving

abbrev SessionId := Nat
abbrev FamilyId := Nat

/-- What a hash tells: the password it was made from, and the parameters it was made with. -/
structure PasswordHash where
  password : String
  outdated : Bool := false
deriving DecidableEq

def PasswordHash.verify (hash : PasswordHash) (password : String) : Bool := hash.password == password

/-- The columns of an account that signing in reads and writes. -/
structure User where
  email : String
  passwordHash : PasswordHash
  isActive : Bool := true
  deletedAt : Option Time := none
  failedLogins : Nat := 0
  lockedUntil : Option Time := none
  tokensValidAfter : Time
deriving DecidableEq

/-- A refresh token, of which only the hash is stored; nobody finds another token for it. -/
structure Session where
  userId : UserId
  refreshHash : String
  familyId : FamilyId
  parentId : Option SessionId
  expiresAt : Time
  usedAt : Option Time := none
  revokedAt : Option Time := none
deriving DecidableEq

/-- What an access token says; its times are in whole seconds, and nobody else can sign one. -/
structure AccessToken where
  sub : UserId
  sid : SessionId
  jti : String
  iat : Int
  exp : Int
deriving DecidableEq

/-- A time in whole seconds, rounded down. -/
def seconds (time : Time) : Int := time / 1000

/-- The account lets a token through, as far as its own row goes. -/
def User.admits (user : User) (token : AccessToken) : Bool :=
  user.isActive && user.deletedAt.isNone && !(token.iat < seconds user.tokensValidAfter)

inductive UserChange where
  | loggedIn (rehash : Option PasswordHash)
  | failedLogin (failedLogins : Nat) (lockedUntil : Option Time)
  /-- A new password, with the token that it was redeemed by. -/
  | passwordReset (token : String) (hash : PasswordHash)
  | tokensValidAfter (date : Time)
deriving DecidableEq

def UserChange.apply (user : User) : UserChange → User
  | loggedIn rehash =>
    { user with
      failedLogins := 0, lockedUntil := none, passwordHash := rehash.getD user.passwordHash }
  | failedLogin failedLogins lockedUntil =>
    { user with failedLogins, lockedUntil := lockedUntil <|> user.lockedUntil }
  | passwordReset _ hash =>
    { user with passwordHash := hash, failedLogins := 0, lockedUntil := none }
  | tokensValidAfter date => { user with tokensValidAfter := date }

/-- A request that was let through, with the revocations that had been completed by then. -/
structure Admission where
  token : AccessToken
  cutoffs : List (UserId × Time)

/-- The tables, Redis and the clock; the last fields only record what has happened. -/
structure State where
  users : Table UserId User
  sessions : Table SessionId Session
  /-- The password resets under way, each with its account and expiry. -/
  resets : String → Option (UserId × Time)
  deniedJti : String → Option Time
  deniedSid : SessionId → Option Time
  clock : Time
  /-- The access tokens signed so far, each with the moment it was signed at. -/
  issued : List (AccessToken × Time) := []
  /-- The random values drawn so far. -/
  drawn : List String := []
  /-- The families that a detected reuse or a revocation has closed. -/
  closed : List FamilyId := []
  /-- The revocations of accounts, each with its date. -/
  cutoffs : List (UserId × Time) := []
  /-- The reset tokens that a password was changed with. -/
  redeemed : List String := []
  admitted : List Admission := []

inductive Failure where
  | unauthorized (message : String)
  | badRequest (message : String)
  | noRecord
  | constraint
  | lost
deriving DecidableEq

structure RotateFrom where
  familyId : FamilyId
  parentId : SessionId
deriving DecidableEq

/--
The statements, commands and clock readings of the service, each on its own. A revocation of an
account is a transaction: its update goes by the sessions of the moment it starts.
-/
inductive Call where
  | now
  | random
  | findUserByEmail (email : String)
  | findUser (id : UserId)
  | updateUser (id : UserId) (change : UserChange)
  | findSession (refreshHash : String)
  | useSession (id : SessionId) (date : Time)
  | revokeSession (id : SessionId) (date : Time)
  | revokeFamily (family : FamilyId) (date : Time)
  | createSession (userId : UserId) (refreshHash : String) (rotateFrom : Option RotateFrom)
      (expiresAt : Time)
  | signAccessToken (userId : UserId) (sessionId : SessionId) (ttl : Int)
  | listSessions (userId : UserId)
  | revokeAll (userId : UserId) (date : Time) (sessions : List SessionId)
  | denylistJti (jti : String) (ttl : Int)
  | denylistSession (sid : SessionId) (ttl : Int)
  | isDenylisted (jti : String) (sid : SessionId)
  | verifyAccessToken (token : AccessToken)
  | authorise (token : AccessToken)
  | setReset (token : String) (user : UserId)
  | getReset (token : String)
  | delReset (token : String)
  | respond

@[reducible] def Call.Result : Call → Type
  | now => Time
  | random => String
  | findUserByEmail _ => Option (UserId × User)
  | findUser _ | authorise _ => Option User
  | findSession _ => Option (SessionId × Session)
  | createSession .. => SessionId
  | signAccessToken .. => AccessToken
  | listSessions _ => List SessionId
  | isDenylisted .. => Bool
  | getReset _ => Option UserId
  | updateUser .. | useSession .. | revokeSession .. | revokeFamily .. | revokeAll ..
  | denylistJti .. | denylistSession .. | verifyAccessToken _ | setReset .. | delReset _
  | respond => Unit

@[reducible] def Call.Answer (call : Call) : Type := Except Failure call.Result

/-- What the environment of a call decides; identifiers and random values do not repeat. -/
structure Choice where
  now : Time
  fault : Option (Fault Failure) := none
  id : SessionId := 0
  family : FamilyId := 0
  secret : String := ""

def passwordResetTtlSeconds : Int := 60 * 60

def Session.isOpen (userId : UserId) (session : Session) : Bool :=
  session.userId == userId && session.revokedAt.isNone

def Session.revoked (date : Time) (session : Session) : Session :=
  { session with revokedAt := some date }

def families (sessions : Table SessionId Session) (userId : UserId) : List FamilyId :=
  (sessions.filter fun _ session => session.userId == userId).map (·.2.familyId)

/-- What is kept until a moment is there before it. -/
def live (now : Time) (expiry : Option Time) : Bool := expiry.any (now < ·)

def perform (s : State) (choice : Choice) : (call : Call) → call.Answer × State
  | .now => (.ok s.clock, s)
  | .random => (.ok choice.secret, { s with drawn := choice.secret :: s.drawn })
  | .findUserByEmail email =>
    (.ok (s.users.find? fun _ user => user.email.toLower == email.toLower && user.deletedAt.isNone), s)
  | .findUser id => (.ok (s.users.get? id), s)
  | .updateUser id change =>
    match s.users.get? id with
    | none => (.error .noRecord, s)
    | some _ =>
      let s := { s with users := s.users.modify id (UserChange.apply · change) }
      (.ok (), match change with
        | .passwordReset token _ => { s with redeemed := token :: s.redeemed }
        | .tokensValidAfter date => { s with cutoffs := (id, date) :: s.cutoffs }
        | _ => s)
  | .findSession refreshHash =>
    (.ok (s.sessions.find? fun _ session => session.refreshHash == refreshHash), s)
  | .useSession id date =>
    match s.sessions.get? id with
    | none => (.error .noRecord, s)
    | some _ =>
      (.ok (), { s with sessions := s.sessions.modify id fun session => { session with usedAt := some date } })
  | .revokeSession id date =>
    match s.sessions.get? id with
    | none => (.error .noRecord, s)
    | some _ => (.ok (), { s with sessions := s.sessions.modify id (Session.revoked date) })
  | .revokeFamily family date =>
    (.ok (), { s with
      sessions := s.sessions.updateWhere
        (fun _ session => session.familyId == family && session.revokedAt.isNone) (Session.revoked date)
      closed := family :: s.closed })
  | .createSession userId refreshHash rotateFrom expiresAt =>
    let session := {
      userId, refreshHash, expiresAt
      familyId := (rotateFrom.map (·.familyId)).getD choice.family
      parentId := rotateFrom.map (·.parentId) }
    if (s.users.get? userId).isNone then (.error .constraint, s)
    else match s.sessions.insert? choice.id session with
      | none => (.error .constraint, s)
      | some sessions => (.ok choice.id, { s with sessions })
  | .signAccessToken userId sessionId ttl =>
    let token := {
      sub := userId, sid := sessionId, jti := choice.secret, iat := seconds s.clock
      exp := seconds s.clock + ttl }
    (.ok token, { s with
      issued := (token, s.clock) :: s.issued, drawn := choice.secret :: s.drawn })
  | .listSessions userId =>
    (.ok ((s.sessions.filter fun _ session => session.isOpen userId).map Prod.fst), s)
  | .revokeAll userId date sessions =>
    match s.users.get? userId with
    | none => (.error .noRecord, s)
    | some _ =>
      (.ok (), { s with
        sessions := s.sessions.updateWhere
          (fun id session => sessions.contains id && session.isOpen userId) (Session.revoked date)
        users := s.users.modify userId (UserChange.apply · (.tokensValidAfter date))
        closed := families s.sessions userId ++ s.closed
        cutoffs := (userId, date) :: s.cutoffs })
  | .denylistJti jti ttl =>
    let expiry := s.clock + max 1 ttl * 1000
    (.ok (), { s with deniedJti := Function.update s.deniedJti jti (some expiry) })
  | .denylistSession sid ttl =>
    let expiry := s.clock + max 1 ttl * 1000
    (.ok (), { s with deniedSid := Function.update s.deniedSid sid (some expiry) })
  | .isDenylisted jti sid => (.ok (live s.clock (s.deniedJti jti) || live s.clock (s.deniedSid sid)), s)
  | .verifyAccessToken token =>
    if (s.issued.any (·.1 == token)) && seconds s.clock < token.exp then (.ok (), s)
    else (.error (.unauthorized "Invalid or expired token"), s)
  | .authorise token =>
    -- The guard decides by this row, so that it is here that a request is let through or not.
    match s.users.get? token.sub with
    | none => (.ok none, s)
    | some user =>
      (.ok (some user), if user.admits token then
        { s with admitted := ⟨token, s.cutoffs⟩ :: s.admitted } else s)
  | .setReset token user =>
    let entry := (user, s.clock + passwordResetTtlSeconds * 1000)
    (.ok (), { s with resets := Function.update s.resets token (some entry) })
  | .getReset token =>
    (.ok ((s.resets token).bind fun (user, expiry) => if s.clock < expiry then some user else none), s)
  | .delReset token => (.ok (), { s with resets := Function.update s.resets token none })
  | .respond => (.ok (), s)

/-- A new random value differs from all before it, and so does the family of a new session. -/
def State.accepts (s : State) (choice : Choice) : Call → Bool
  | .random | .signAccessToken .. => !s.drawn.contains choice.secret
  | .createSession _ _ none _ =>
    (s.sessions.find? fun _ session => session.familyId == choice.family).isNone &&
      !s.closed.contains choice.family
  | _ => true

/-- The clock never runs backwards. -/
def answer? (_thread : Nat) (call : Call) (choice : Choice) (s : State) :
    Option (call.Answer × State) :=
  if s.clock ≤ choice.now ∧ s.accepts choice call then
    some (Fault.befall { s with clock := choice.now }
      (perform { s with clock := choice.now } choice call) choice.fault)
  else none

abbrev Routine := ExceptT Failure (Program Call.Answer)

@[simp] def ask (call : Call) : Routine call.Result := ExceptT.mk (Program.perform call)

structure Config where
  accessTtlSeconds : Int
  refreshTtlSeconds : Int

structure LoginResult where
  accessToken : AccessToken
  expiresIn : Int
  refreshToken : String
  refreshExpiresAt : Time
  userId : UserId

def maxFailedLogins : Nat := 5

def lockoutMinutes : Int := 15

section Code

variable (config : Config)

def issueSession (userId : UserId) (rotateFrom : Option RotateFrom) : Routine LoginResult := do
  let refresh ← ask .random
  let expiresAt := (← ask .now) + config.refreshTtlSeconds * 1000
  let session ← ask (.createSession userId refresh rotateFrom expiresAt)
  let access ← ask (.signAccessToken userId session config.accessTtlSeconds)
  return {
    accessToken := access, expiresIn := config.accessTtlSeconds, refreshToken := refresh
    refreshExpiresAt := expiresAt, userId }

def registerFailedLogin (userId : UserId) (currentFailures : Nat) : Routine Unit := do
  let next := currentFailures + 1
  if maxFailedLogins ≤ next then
    let date ← ask .now
    ask (.updateUser userId (.failedLogin next (some (date + lockoutMinutes * 60000))))
  else ask (.updateUser userId (.failedLogin next none))

def login (email plainPassword : String) : Routine LoginResult := do
  let some (id, user) ← ask (.findUserByEmail email) | throw (.unauthorized "Invalid credentials")
  let date ← ask .now
  if user.lockedUntil.any (date < ·) then throw (.unauthorized "Invalid credentials")
  unless user.passwordHash.verify plainPassword do
    registerFailedLogin id user.failedLogins
    throw (.unauthorized "Invalid credentials")
  unless user.isActive do throw (.unauthorized "Invalid credentials")
  let rehash := if user.passwordHash.outdated then some { password := plainPassword } else none
  ask (.updateUser id (.loggedIn rehash))
  issueSession config id none

/-- The sign-in of an account that the provider's identity is linked to. -/
def loginWithGoogle (userId : UserId) : Routine LoginResult := do
  let some user ← ask (.findUser userId) | throw .noRecord
  if !user.isActive || user.deletedAt.isSome then
    throw (.unauthorized "Esta conta não está ativa.")
  ask (.updateUser userId (.loggedIn none))
  issueSession config userId none

/-- Everyone who holds a token of the family has to sign in again. -/
def handleRefreshReuse (familyId : FamilyId) (userId : UserId) : Routine Unit := do
  let date ← ask .now
  ask (.revokeFamily familyId date)
  let date ← ask .now
  ask (.updateUser userId (.tokensValidAfter date))

def refresh (presentedToken : String) : Routine LoginResult := do
  let some (id, session) ← ask (.findSession presentedToken)
    | throw (.unauthorized "Invalid refresh token")
  if session.usedAt.isSome || session.revokedAt.isSome then
    handleRefreshReuse session.familyId session.userId
    throw (.unauthorized "Invalid refresh token")
  let date ← ask .now
  if session.expiresAt < date then throw (.unauthorized "Refresh token expired")
  let some user ← ask (.findUser session.userId) | throw .noRecord
  if !user.isActive || user.deletedAt.isSome then throw (.unauthorized "Account is not active")
  let date ← ask .now
  ask (.useSession id date)
  issueSession config session.userId (some { familyId := session.familyId, parentId := id })

def revokeAllForUser (userId : UserId) : Routine Nat := do
  let tokensValidAfter ← ask .now
  let sessions ← ask (.listSessions userId)
  ask (.revokeAll userId tokensValidAfter sessions)
  return sessions.length

def logout (sessionId : SessionId) (jti : String) (allDevices : Bool) (userId : UserId) :
    Routine Unit := do
  ask (.denylistJti jti config.accessTtlSeconds)
  ask (.denylistSession sessionId config.accessTtlSeconds)
  if allDevices then
    let _ ← revokeAllForUser userId
  else
    let date ← ask .now
    tryCatch (ask (.revokeSession sessionId date)) fun _ => return ()

def requestPasswordReset (email : String) : Routine Unit := do
  let some (id, _) ← ask (.findUserByEmail email) | return ()
  let token ← ask .random
  ask (.setReset token id)

def resetPassword (token newPassword confirmPassword : String) : Routine Unit := do
  if newPassword ≠ confirmPassword then
    throw (.badRequest "newPassword and confirmPassword must match")
  let some userId ← ask (.getReset token) | throw (.badRequest "Invalid or expired token")
  ask (.delReset token)
  let some user ← ask (.findUser userId) | throw (.badRequest "Invalid or expired token")
  if user.deletedAt.isSome then throw (.badRequest "Invalid or expired token")
  ask (.updateUser userId (.passwordReset token { password := newPassword }))
  let _ ← revokeAllForUser userId

def canActivate (token : AccessToken) : Routine UserId := do
  ask (.verifyAccessToken token)
  if ← ask (.isDenylisted token.jti token.sid) then throw (.unauthorized "Token has been revoked")
  let some user ← ask (.authorise token) | throw (.unauthorized "Account is not active")
  if !user.isActive || user.deletedAt.isSome then throw (.unauthorized "Account is not active")
  if token.iat < seconds user.tokensValidAfter then throw (.unauthorized "Token has been revoked")
  return token.sub

inductive Task where
  | login (email password : String)
  | loginWithGoogle (user : UserId)
  | refresh (token : String)
  | logout (session : SessionId) (jti : String) (allDevices : Bool) (user : UserId)
  | revokeAllForUser (user : UserId)
  | requestPasswordReset (email : String)
  | resetPassword (token newPassword confirmPassword : String)
  | request (token : AccessToken)

/-- Whatever becomes of a request, it is answered in the end. -/
def handled {α : Type} (routine : Routine α) : Program Call.Answer Unit := do
  let _ ← routine.run
  let _ ← Program.perform Call.respond

def code : Task → Program Call.Answer Unit
  | .login email password => handled (login config email password)
  | .loginWithGoogle user => handled (loginWithGoogle config user)
  | .refresh token => handled (refresh config token)
  | .logout session jti allDevices user => handled (logout config session jti allDevices user)
  | .revokeAllForUser user => handled (revokeAllForUser user)
  | .requestPasswordReset email => handled (requestPasswordReset email)
  | .resetPassword token newPassword confirmPassword =>
    handled (resetPassword token newPassword confirmPassword)
  | .request token => handled (canActivate token)

abbrev Panel := Pool State Task Call.Answer

def step : Panel → Move Task Choice → Panel := Pool.step (code config) answer?

end Code

/-- Accounts that nobody has signed in to yet. -/
def Panel.opened (users : Table UserId User) (clock : Time) : Panel where
  shared := {
    users, clock, sessions := .empty
    resets := fun _ => none, deniedJti := fun _ => none, deniedSid := fun _ => none }
  threads := []

section Samples

def sampleUsers : Table UserId User :=
  ⟨[(1, { email := "ana@example.com", passwordHash := { password := "old" }, tokensValidAfter := 0 })],
    by simp⟩

def sampleCalls (thread : Nat) (now : Time) (id : SessionId) (secrets : List String) :
    List (Move Task Choice) :=
  secrets.map fun secret => .turn thread { now, id, family := 1, secret }

def sampleConfig : Config := { accessTtlSeconds := 900, refreshTtlSeconds := 1209600 }

def sampleLogin (now : Time) : List (Move Task Choice) :=
  .start (.login "ana@example.com" "old") ::
    sampleCalls 0 now 11 ["", "", "", "refresh-1", "", "", "access-1", ""]

end Samples

end PxHost.Auth
