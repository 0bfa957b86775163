import PxHost.Agent.Tokens
import PxHost.Lib.Run

/-! The console socket of a server: how it is opened, what a client may do with it, and how it ends. -/

namespace PxHost.ConsoleSession

open Tokens

/-- A frame of a client; what cannot be decoded comes with the message of the decoder. -/
inductive Frame where
  | auth (data : Except String Token)
  | consoleSend (data : Except String String)
  | powerSet (data : Except String String)
  | ping
  | logsRequest
  | statsRequest
  | unknown (event : String)

inductive CloseStatus where
  | authFailed
  | tokenExpired
  | serverSuspended
  /-- The connection is gone without a closing frame. -/
  | dropped
deriving DecidableEq

inductive Message where
  | text (text : String)
  | rejection (rejection : Rejection)
deriving DecidableEq

/-- What the agent sends, and what it does on behalf of the client. -/
inductive Effect where
  | authOK (permissions : List String) (expiresAt : Int)
  | error (code : String) (message : Message) (fatal : Bool)
  | pong
  | tokenExpiring (secondsRemaining : Int)
  | tokenExpired
  | close (status : CloseStatus) (reason : String)
  | writeConsole (line : String)
  | performPower (action : String)
deriving DecidableEq

/-- An effect on the server itself, not only on the connection. -/
def Effect.isAct : Effect → Bool
  | .writeConsole _ | .performPower _ => true
  | _ => false

structure Session where
  /-- The claims of the token that was presented last. -/
  claims : Claims
  /-- The expiry of the token that opened the session, which its timers were set for. -/
  expiresAt : Moment
  warned : Bool := false
deriving DecidableEq

inductive Connection where
  /-- Upgraded, and waiting for the first frame until a deadline. -/
  | accepted (deadline : Moment)
  | serving (session : Session)
  | closed (status : CloseStatus)
deriving DecidableEq

def Connection.isOpen : Connection → Bool
  | .serving _ => true
  | _ => false

/-- One connection to one server, and what the agent knows meanwhile. -/
structure System where
  now : Moment
  verifier : TokenVerifier
  suspended : Bool
  connection : Connection

def second : Moment := 1000000000

def authTimeout : Moment := 10 * second

def tokenExpiryWarn : Moment := 60 * second

def System.opened (now : Moment) (verifier : TokenVerifier) (suspended : Bool) : System :=
  { now, verifier, suspended, connection := .accepted (now + authTimeout) }

/-- What may happen to a connection; the limiter's verdict on a frame comes with it. -/
inductive Event where
  | pass (time : Moment)
  | setSuspended (suspended : Bool)
  | setKeys (keys : KeySet)
  | frame (frame : Frame) (throttled : Bool)
  | authTimeout
  | tokenExpiring
  | hardExpiry
  | disconnect

inductive AuthError where
  | decode (message : String)
  | notAuthFrame
  | rejected (rejection : Rejection)
  | missingBaselinePermission
deriving DecidableEq

/-- The first frame has to present a token for this server that permits connecting. -/
def authenticate (server : String) (s : System) : Frame → Except AuthError Claims
  | .auth (.ok token) =>
    match s.verifier.verify s.now token server .console with
    | .error rejection => .error (.rejected rejection)
    | .ok claims =>
      if claims.hasPermission "websocket.connect" then .ok claims
      else .error .missingBaselinePermission
  | .auth (.error message) => .error (.decode message)
  | _ => .error .notAuthFrame

/-- The confirmation reads the expiry of the token; one without an expiry brings the handler down. -/
def sendAuthOK (claims : Claims) (next : Moment → Connection) : List Effect × Connection :=
  match claims.expiresAt with
  | some expiresAt => ([.authOK claims.permissions (expiresAt / second)], next expiresAt)
  | none => ([], .closed .dropped)

def connect (server : String) (s : System) (frame : Frame) : List Effect × Connection :=
  match authenticate server s frame with
  | .error _ => ([.close .authFailed "authentication failed"], .closed .authFailed)
  | .ok claims =>
    if s.suspended then ([.close .serverSuspended "server is suspended"], .closed .serverSuspended)
    else sendAuthOK claims fun expiresAt => .serving { claims, expiresAt }

def sanitizeInputLine (line : String) : Except String String :=
  if 1024 < line.utf8ByteSize then .error "console: input line exceeds 1024 bytes"
  else if line.toList.contains (Char.ofNat 0) then .error "console: input line contains a NUL byte"
  else if line.toList.any fun c => c = '\n' ∨ c = '\r' then
    .error "console: input line must not contain a newline"
  else .ok line

def handleConsoleSend (claims : Claims) (throttled : Bool) (data : Except String String) : List Effect :=
  if !claims.hasPermission "control.console" then
    [.error "E_PERMISSION_DENIED" (.text "missing control.console") false]
  else if throttled then
    [.error "RATE_LIMITED" (.text "console input rate limit exceeded") false]
  else
    match data.bind sanitizeInputLine with
    | .error message => [.error "BAD_REQUEST" (.text message) false]
    | .ok line => [.writeConsole line]

def requiredPermission : String → Option String
  | "start" => some "control.start"
  | "stop" => some "control.stop"
  | "restart" => some "control.restart"
  | "kill" => some "control.kill"
  | _ => none

def handlePowerSet (claims : Claims) : Except String String → List Effect
  | .error message => [.error "BAD_REQUEST" (.text message) false]
  | .ok action =>
    match requiredPermission action with
    | none => [.error "BAD_REQUEST" (.text ("unknown power action: " ++ action)) false]
    | some permission =>
      if claims.hasPermission permission then [.performPower action]
      else [.error "E_PERMISSION_DENIED" (.text ("missing " ++ permission)) false]

def handleInbound (server : String) (s : System) (session : Session) (throttled : Bool) :
    Frame → List Effect × Connection
  | .auth (.error message) => ([.error "BAD_REQUEST" (.text message) false], .serving session)
  | .auth (.ok token) =>
    match s.verifier.verify s.now token server .console with
    | .error rejection =>
      ([.error "REAUTH_FAILED" (.rejection rejection) true,
        .close .authFailed "re-authentication failed"], .closed .authFailed)
    -- The claims are replaced; the timers stay as they were set for the first token.
    | .ok claims => sendAuthOK claims fun _ => .serving { session with claims }
  | .consoleSend data => (handleConsoleSend session.claims throttled data, .serving session)
  | .powerSet data => (handlePowerSet session.claims data, .serving session)
  | .ping => ([.pong], .serving session)
  | .logsRequest | .statsRequest => ([], .serving session)
  | .unknown event =>
    ([.error "UNKNOWN_EVENT" (.text ("unrecognized event: " ++ event)) false], .serving session)

/-- What the loop of a session does about a timer or a frame. -/
def serve (server : String) (s : System) (session : Session) : Event → List Effect × Connection
  | .frame frame throttled => handleInbound server s session throttled frame
  | .tokenExpiring =>
    if !session.warned && session.expiresAt - tokenExpiryWarn ≤ s.now then
      ([.tokenExpiring ((session.expiresAt - s.now).tdiv second)], .serving { session with warned := true })
    else ([], .serving session)
  | .hardExpiry =>
    if session.expiresAt ≤ s.now then
      ([.tokenExpired, .close .tokenExpired "token expired"], .closed .tokenExpired)
    else ([], .serving session)
  | .disconnect => ([], .closed .dropped)
  | _ => ([], .serving session)

/-- Timers fire at any moment once they are due. -/
def react (server : String) (s : System) (event : Event) : List Effect × Connection :=
  match s.connection, event with
  | .accepted deadline, .frame frame _ =>
    if s.now < deadline then connect server s frame
    else ([.close .authFailed "authentication failed"], .closed .authFailed)
  | .accepted deadline, .authTimeout =>
    if s.now < deadline then ([], s.connection)
    else ([.close .authFailed "authentication failed"], .closed .authFailed)
  | .accepted _, .disconnect => ([], .closed .dropped)
  | .serving session, event => serve server s session event
  | _, _ => ([], s.connection)

def step (server : String) (s : System) (event : Event) : System :=
  let s' := { s with connection := (react server s event).2 }
  match event with
  | .pass time => { s' with now := max s.now time }
  | .setSuspended suspended => { s' with suspended }
  | .setKeys keys => { s' with verifier := s.verifier.setKeys keys }
  | _ => s'

/-- What a session lets its client do: what is done to the server, and whether it goes on. -/
def permitted (server : String) (s : System) (event : Event) : List Effect × Bool :=
  ((react server s event).1.filter Effect.isAct, (step server s event).connection.isOpen)

/-- A connection that is opened at this moment, in place of the one there is. -/
def System.reopened (s : System) : System := .opened s.now s.verifier s.suspended

/--
A token that is turned down closes the session like a connection; one that is not has to permit
connecting to a server that is not suspended, and to leave as much time as the token that opened it.
-/
def Interchangeable (server : String) (s : System) (session : Session) (token : Token) : Prop :=
  ∀ claims expiresAt, s.verifier.verify s.now token server .console = .ok claims →
    claims.expiresAt = some expiresAt →
      claims.hasPermission "websocket.connect" ∧ s.suspended = false ∧
        max s.now expiresAt = max s.now session.expiresAt

/-- Two connections that are both over, or have the same claims and as much time left. -/
def Agree (now : Moment) : Connection → Connection → Prop
  | .closed _, .closed _ => True
  | .serving session, .serving session' =>
    session.claims = session'.claims ∧ max now session.expiresAt = max now session'.expiresAt
  | _, _ => False

structure Alike (s s' : System) : Prop where
  now : s.now = s'.now
  verifier : s.verifier = s'.verifier
  suspended : s.suspended = s'.suspended
  connection : Agree s.now s.connection s'.connection

section Laws

variable {server : String} {s s' : System} {session : Session} {token : Token} {event : Event}

theorem expired_iff {now expiresAt expiresAt' : Int}
    (same : max now expiresAt = max now expiresAt') : expiresAt ≤ now ↔ expiresAt' ≤ now := by
  omega

theorem left_later {now expiresAt expiresAt' : Int}
    (same : max now expiresAt = max now expiresAt') (time : Int) :
    max (max now time) expiresAt = max (max now time) expiresAt' := by
  omega

theorem react_closed {status : CloseStatus} (over' : s.connection = .closed status) :
    react server s event = ([], .closed status) := by
  unfold react
  rw [over']

theorem react_serving (serving : s.connection = .serving session) :
    react server s event = serve server s session event := by
  unfold react
  rw [serving]

section Agree

variable {now : Moment} {connection connection' : Connection}
  (agree : Agree now connection connection')
include agree

theorem Agree.both :
    (∃ status status', connection = .closed status ∧ connection' = .closed status') ∨
      ∃ session session', connection = .serving session ∧ connection' = .serving session' ∧
        session.claims = session'.claims ∧
        max now session.expiresAt = max now session'.expiresAt := by
  match connection, connection', agree with
  | .closed _, .closed _, _ => exact .inl ⟨_, _, rfl, rfl⟩
  | .serving _, .serving _, same => exact .inr ⟨_, _, rfl, rfl, same⟩

theorem Agree.isOpen : connection.isOpen = connection'.isOpen := by
  rcases agree.both with ⟨_, _, rfl, rfl⟩ | ⟨_, _, rfl, rfl, -⟩ <;> rfl

theorem Agree.later (time : Moment) : Agree (max now time) connection connection' := by
  rcases agree.both with ⟨_, _, rfl, rfl⟩ | ⟨_, _, rfl, rfl, claims, left⟩
  · trivial
  · exact ⟨claims, left_later left time⟩

end Agree

variable (server) in
/-- A frame is handled by the claims alone. -/
theorem handleInbound_agree {session' : Session} (claims : session.claims = session'.claims)
    (left : max s.now session.expiresAt = max s.now session'.expiresAt) (throttled : Bool)
    (frame : Frame) :
    (handleInbound server s session throttled frame).1 =
        (handleInbound server s session' throttled frame).1 ∧
      Agree s.now (handleInbound server s session throttled frame).2
        (handleInbound server s session' throttled frame).2 := by
  cases frame with
  | auth data =>
    cases data with
    | error message => exact ⟨rfl, claims, left⟩
    | ok token =>
      simp only [handleInbound]
      split
      · exact ⟨rfl, trivial⟩
      · unfold sendAuthOK
        split
        · exact ⟨rfl, rfl, left⟩
        · exact ⟨rfl, trivial⟩
  | consoleSend data =>
    refine ⟨?_, claims, left⟩
    show handleConsoleSend session.claims throttled data = handleConsoleSend session'.claims throttled data
    rw [claims]
  | powerSet data =>
    refine ⟨?_, claims, left⟩
    show handlePowerSet session.claims data = handlePowerSet session'.claims data
    rw [claims]
  | ping | logsRequest | statsRequest | unknown => exact ⟨rfl, claims, left⟩

/-- The timers of both go off at the same moments, but for the warning, which changes nothing. -/
theorem serve_agree {session' : Session} (claims : session.claims = session'.claims)
    (left : max s.now session.expiresAt = max s.now session'.expiresAt) (event : Event) :
    (serve server s session event).1.filter Effect.isAct =
        (serve server s session' event).1.filter Effect.isAct ∧
      Agree s.now (serve server s session event).2 (serve server s session' event).2 := by
  cases event with
  | frame frame throttled =>
    obtain ⟨effects, agree⟩ := handleInbound_agree server claims left throttled frame
    exact ⟨congrArg _ effects, agree⟩
  | tokenExpiring =>
    simp only [serve]
    split <;> split <;> exact ⟨rfl, claims, left⟩
  | hardExpiry =>
    simp only [serve, expired_iff left]
    split
    · exact ⟨rfl, trivial⟩
    · exact ⟨rfl, claims, left⟩
  | disconnect => exact ⟨rfl, trivial⟩
  | pass | setSuspended | setKeys | authTimeout => exact ⟨rfl, claims, left⟩

variable (server) in
theorem Alike.react (alike : Alike s s') (event : Event) :
    (react server s event).1.filter Effect.isAct = (react server s' event).1.filter Effect.isAct ∧
      Agree s.now (ConsoleSession.react server s event).2 (ConsoleSession.react server s' event).2 := by
  rcases alike.connection.both with ⟨_, _, own, other⟩ | ⟨session, session', own, other, claims, left⟩
  · rw [react_closed own, react_closed other]
    exact ⟨rfl, trivial⟩
  · -- All that a session reads of the system besides its own is the same in both.
    have world : serve server s' session' event = serve server s session' event := by
      unfold serve handleInbound
      rw [alike.now, alike.verifier]
    rw [react_serving own, react_serving other, world]
    exact serve_agree claims left event

theorem Alike.step (alike : Alike s s') (event : Event) :
    Alike (step server s event) (ConsoleSession.step server s' event) := by
  have agree := (alike.react server event).2
  cases event with
  | pass time =>
    refine ⟨?_, alike.verifier, alike.suspended, agree.later time⟩
    show max s.now time = max s'.now time
    rw [alike.now]
  | setSuspended suspended => exact ⟨alike.now, alike.verifier, rfl, agree⟩
  | setKeys keys =>
    refine ⟨alike.now, ?_, alike.suspended, agree⟩
    show s.verifier.setKeys keys = s'.verifier.setKeys keys
    rw [alike.verifier]
  | frame | authTimeout | tokenExpiring | hardExpiry | disconnect =>
    exact ⟨alike.now, alike.verifier, alike.suspended, agree⟩

theorem Alike.permitted (alike : Alike s s') (event : Event) :
    permitted server s event = ConsoleSession.permitted server s' event :=
  Prod.ext (alike.react server event).1 (alike.step event).connection.isOpen

section Presented

variable {throttled : Bool}

section Serving

variable (serving : s.connection = .serving session)
include serving

variable (server token throttled) in
/-- A token takes the place of the one before, whatever it permits, unless it is rejected. -/
theorem reauthenticated :
    (step server s (.frame (.auth (.ok token)) throttled)).connection =
      match s.verifier.verify s.now token server .console with
      | .error _ => .closed .authFailed
      | .ok claims =>
        match claims.expiresAt with
        | some _ => .serving { session with claims }
        | none => .closed .dropped := by
  show (react server s _).2 = _
  rw [react_serving serving]
  simp only [serve, handleInbound]
  cases s.verifier.verify s.now token server .console with
  | error _ => rfl
  | ok claims =>
    simp only [sendAuthOK]
    cases claims.expiresAt <;> rfl

omit serving in
theorem react_reopened (frame : Frame) :
    react server s.reopened (.frame frame throttled) = connect server s.reopened frame :=
  if_pos (Int.lt_add_of_pos_right _ (by decide) : s.now < s.now + authTimeout)

omit serving in
variable (server s token throttled) in
/-- A connection is admitted by an accepted token that permits it, to a server in service. -/
theorem reconnected :
    (step server s.reopened (.frame (.auth (.ok token)) throttled)).connection =
      match s.verifier.verify s.now token server .console with
      | .error _ => .closed .authFailed
      | .ok claims =>
        if claims.hasPermission "websocket.connect" then
          if s.suspended then .closed .serverSuspended
          else
            match claims.expiresAt with
            | some expiresAt => .serving { claims, expiresAt }
            | none => .closed .dropped
        else .closed .authFailed := by
  have same : s.reopened.verifier.verify s.reopened.now token server .console =
      s.verifier.verify s.now token server .console := rfl
  show (react server s.reopened _).2 = _
  rw [react_reopened]
  simp only [connect, authenticate, same]
  cases s.verifier.verify s.now token server .console with
  | error _ => rfl
  | ok claims =>
    by_cases permitted : claims.hasPermission "websocket.connect"
    · simp only [if_pos permitted]
      show (if s.suspended then _ else sendAuthOK claims _).2 = _
      cases s.suspended with
      | true => rfl
      | false =>
        simp only [sendAuthOK]
        cases claims.expiresAt <;> rfl
    · simp only [if_neg permitted]

theorem permitted_until (time : Moment) :
    Machine.observed (step server) (permitted server) s [.pass time, .hardExpiry] =
      [([], true), ([], !decide (session.expiresAt ≤ max s.now time))] := by
  have waited : (step server s (.pass time)).connection = .serving session := by
    show (react server s _).2 = _
    rw [react_serving serving]
    rfl
  have first : permitted server s (.pass time) = ([], true) := by
    unfold permitted
    rw [waited, react_serving serving]
    rfl
  have second : permitted server (step server s (.pass time)) .hardExpiry =
      ([], !decide (session.expiresAt ≤ max s.now time)) := by
    have now : (step server s (.pass time)).now = max s.now time := rfl
    show ((react server (step server s (.pass time)) .hardExpiry).1.filter Effect.isAct,
      (react server (step server s (.pass time)) .hardExpiry).2.isOpen) = _
    rw [react_serving waited]
    simp only [serve, now]
    by_cases expired : session.expiresAt ≤ max s.now time
    · rw [if_pos expired, decide_eq_true expired]
      rfl
    · rw [if_neg expired, decide_eq_false expired]
      rfl
  rw [Machine.observed, Machine.observed, Machine.observed, first, second]

/-- Where the token may take the place of a new connection, nobody can tell one from the other. -/
theorem Interchangeable.alike (interchangeable : Interchangeable server s session token) :
    Alike (step server s (.frame (.auth (.ok token)) throttled))
      (step server s.reopened (.frame (.auth (.ok token)) throttled)) := by
  refine ⟨rfl, rfl, rfl, ?_⟩
  rw [reauthenticated server token throttled serving, reconnected server s token throttled]
  cases verified : s.verifier.verify s.now token server .console with
  | error rejection => trivial
  | ok claims =>
    cases dated : claims.expiresAt with
    | none =>
      -- Without an expiry neither of them survives the confirmation.
      simp only [dated]
      split
      · split <;> trivial
      · trivial
    | some expiresAt =>
      obtain ⟨permits, inService, left⟩ := interchangeable claims expiresAt verified dated
      simp only [dated, if_pos permits, inService]
      exact ⟨rfl, left.symm⟩

omit serving in
/-- A session that goes on is told from one that is over by any event. -/
theorem ne_closed_of_observed (status : CloseStatus) (serving : s.connection = .serving session)
    (same : ∀ later, Machine.observed (step server) (permitted server) s later =
      Machine.observed (step server) (permitted server) s' later) :
    s'.connection ≠ .closed status := by
  intro ended
  have silent : permitted server s' (.pass s.now) = ([], false) := by
    have still : (step server s' (.pass s.now)).connection = .closed status := by
      show (react server s' _).2 = _
      rw [react_closed ended]
    unfold permitted
    rw [still, react_closed ended]
    rfl
  have both := same [.pass s.now, .hardExpiry]
  rw [permitted_until serving, Machine.observed, silent] at both
  simp at both

theorem left_of_observed {session' : Session}
    (serving' : s'.connection = .serving session') (now : s'.now = s.now)
    (same : ∀ later, Machine.observed (step server) (permitted server) s later =
      Machine.observed (step server) (permitted server) s' later) :
    max s.now session'.expiresAt = max s.now session.expiresAt := by
  -- At every moment, both have expired or neither has.
  have expired (time : Int) :
      session.expiresAt ≤ max s.now time ↔ session'.expiresAt ≤ max s.now time := by
    have both := same [.pass time, .hardExpiry]
    rw [permitted_until serving, permitted_until serving', now] at both
    injection both with _ rest
    injection rest with frames
    injection frames with _ open_
    exact decide_eq_decide.mp (Bool.not_inj open_)
  have own : session.expiresAt ≤ max s.now session.expiresAt := Int.le_max_right ..
  have other : session'.expiresAt ≤ max s.now session'.expiresAt := Int.le_max_right ..
  have first := (expired session.expiresAt).mp own
  have second := (expired session'.expiresAt).mpr other
  exact Int.le_antisymm (Int.max_le.mpr ⟨Int.le_max_left .., first⟩)
    (Int.max_le.mpr ⟨Int.le_max_left .., second⟩)

/-- Where nobody can tell one from the other, the token may take the place of a new connection. -/
theorem Interchangeable.of_observed (same : ∀ later,
      Machine.observed (step server) (permitted server)
          (step server s (.frame (.auth (.ok token)) throttled)) later =
        Machine.observed (step server) (permitted server)
          (step server s.reopened (.frame (.auth (.ok token)) throttled)) later) :
    Interchangeable server s session token := by
  intro claims expiresAt verified dated
  have kept : (step server s (.frame (.auth (.ok token)) throttled)).connection =
      .serving { session with claims } := by
    rw [reauthenticated server token throttled serving, verified]
    simp only [dated]
  have fresh := reconnected server s token throttled
  rw [verified] at fresh
  simp only [dated] at fresh
  have goesOn (status : CloseStatus) := ne_closed_of_observed status kept same
  by_cases permits : claims.hasPermission "websocket.connect"
  · rw [if_pos permits] at fresh
    cases inService : s.suspended with
    | true =>
      rw [inService] at fresh
      exact (goesOn _ fresh).elim
    | false =>
      rw [inService] at fresh
      exact ⟨permits, rfl, left_of_observed kept fresh rfl same⟩
  · rw [if_neg permits] at fresh
    exact (goesOn _ fresh).elim

end Serving

end Presented

end Laws

/--
Presenting a token to a session is the same as opening a connection with it, for whatever happens
later, exactly when the token is turned down, or permits connecting to a server that is not
suspended and has as much time left as the one that opened the session.
-/
theorem reauthentication_is_reconnection_iff (server : String) (now : Moment) (verifier : TokenVerifier)
    (suspended : Bool) (events : List Event) (session : Session) (token : Token) (throttled : Bool)
    (serving : (Machine.run (step server) (.opened now verifier suspended) events).connection =
      .serving session) :
    (∀ later,
      Machine.observed (step server) (permitted server)
          (step server (Machine.run (step server) (.opened now verifier suspended) events)
            (.frame (.auth (.ok token)) throttled)) later =
        Machine.observed (step server) (permitted server)
          (step server (Machine.run (step server) (.opened now verifier suspended) events).reopened
            (.frame (.auth (.ok token)) throttled)) later) ↔
      Interchangeable server (Machine.run (step server) (.opened now verifier suspended) events) session
        token := by
  constructor
  · exact Interchangeable.of_observed serving
  · intro interchangeable later
    exact Machine.observed_eq_of_alike Alike (fun _ _ event alike => alike.permitted event)
      (fun _ _ event alike => alike.step event) (interchangeable.alike serving) later

/-- A token for the console with some permissions, good until some second. -/
def sampleGrant (permissions : List String) (seconds : Int) : Token :=
  { sampleToken none 1 with
    claims := { (sampleToken none 1).claims with permissions, expiresAt := some (seconds * second) } }

def sampleVerifier : TokenVerifier := .new sampleLibrary (some 1) "n-1" (10 * second)

def sampleServing : List Event :=
  [.frame (.auth (.ok (sampleGrant ["websocket.connect", "control.console"] 100))) false,
    .pass (30 * second)]

/-- The session as its first token has opened it. -/
def sampleOpened : Session where
  claims := (sampleGrant ["websocket.connect", "control.console"] 100).claims
  expiresAt := 100 * second

/-- With as much time left, a token that only permits connecting is as good as a new connection. -/
theorem sample_reauthentication_is_reconnection_iff :
    (Machine.run (step "srv-1") (.opened 0 sampleVerifier false) sampleServing).connection =
      .serving sampleOpened ∧
    ∀ later,
      Machine.observed (step "srv-1") (permitted "srv-1")
          (step "srv-1" (Machine.run (step "srv-1") (.opened 0 sampleVerifier false) sampleServing)
            (.frame (.auth (.ok (sampleGrant ["websocket.connect"] 100))) false)) later =
        Machine.observed (step "srv-1") (permitted "srv-1")
          (step "srv-1"
            (Machine.run (step "srv-1") (.opened 0 sampleVerifier false) sampleServing).reopened
            (.frame (.auth (.ok (sampleGrant ["websocket.connect"] 100))) false)) later := by
  have serving : (Machine.run (step "srv-1") (.opened 0 sampleVerifier false)
      sampleServing).connection = .serving sampleOpened := by decide +kernel
  refine ⟨serving, (reauthentication_is_reconnection_iff "srv-1" 0 sampleVerifier false sampleServing
    sampleOpened (sampleGrant ["websocket.connect"] 100) false serving).mpr
      fun claims expiresAt verified dated => ?_⟩
  obtain rfl : (sampleGrant ["websocket.connect"] 100).claims = claims := Except.ok.inj verified
  cases dated
  exact ⟨by decide, rfl, rfl⟩

/-- What a client is permitted after it has presented a token, and after reconnecting with it. -/
def samplePresented (before : List Event) (token : Token) (later : List Event) :
    List (List Effect × Bool) × List (List Effect × Bool) :=
  let s := Machine.run (step "srv-1") (.opened 0 sampleVerifier false) (sampleServing ++ before)
  let presented := Event.frame (.auth (.ok token)) false
  (Machine.observed (step "srv-1") (permitted "srv-1") (step "srv-1" s presented) later,
    Machine.observed (step "srv-1") (permitted "srv-1") (step "srv-1" s.reopened presented) later)

/--
A token that does not permit connecting takes over a session, and so does one for a suspended
server. A session given a longer token ends when the first one expires, and one given a shorter
token goes on until then.
-/
theorem reauthentication_is_not_reconnection :
    samplePresented [] (sampleGrant ["control.start"] 100) [.frame (.powerSet (.ok "start")) false] =
      ([([.performPower "start"], true)], [([], false)]) ∧
    samplePresented [.setSuspended true] (sampleGrant ["websocket.connect", "control.console"] 100)
        [.frame (.consoleSend (.ok "stop")) false] =
      ([([.writeConsole "stop"], true)], [([], false)]) ∧
    samplePresented [] (sampleGrant ["websocket.connect"] 200) [.pass (100 * second), .hardExpiry] =
      ([([], true), ([], false)], [([], true), ([], true)]) ∧
    samplePresented [] (sampleGrant ["websocket.connect", "control.kill"] 60)
        [.pass (60 * second), .hardExpiry, .frame (.powerSet (.ok "kill")) false] =
      ([([], true), ([], true), ([.performPower "kill"], true)],
        [([], true), ([], false), ([], false)]) := by
  refine ⟨?_, ?_, ?_, ?_⟩ <;> decide +kernel

end PxHost.ConsoleSession
