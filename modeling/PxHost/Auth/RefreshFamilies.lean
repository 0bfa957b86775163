import PxHost.Auth.Service

/-! The sessions that descend from one sign-in: each has one successor, and a closed family none. -/

namespace PxHost.Auth

open Store Interleaving Function

/-- The refresh token of the session would be rotated, unless it has expired. -/
def Session.refreshable (session : Session) : Bool :=
  session.usedAt.isNone && session.revokedAt.isNone

def Session.childOf (parent : SessionId) (session : Session) : Bool :=
  session.parentId == some parent

/--
The session that is marked as used is still unused then, its successor is inserted before it is
revoked, and no session of an account is inserted while all of them are being revoked.
-/
def unraced (s : State) (_ : Task) (call : Call) (_ : Choice) : Bool :=
  match call with
  | .useSession id _ => (s.sessions.get? id).all (·.usedAt.isNone)
  | .createSession _ _ (some origin) _ =>
    (s.sessions.get? origin.parentId).all (·.revokedAt.isNone)
  | .revokeAll userId _ sessions =>
    (s.sessions.find? fun id session => session.isOpen userId && !sessions.contains id).isNone
  | _ => true

namespace Families

/-- A session with its family and account, which never change. -/
structure Origin where
  id : SessionId
  family : FamilyId
  user : UserId
deriving DecidableEq

/-- What a thread knows of the session it works on: it has read it, or marked it as used. -/
inductive Mode where
  | idle
  | read (origin : Origin)
  | used (origin : Origin)
deriving DecidableEq

def Mode.next (mode : Mode) : (call : Call) → call.Answer → Mode
  | .findSession _, .ok (some (id, session)) => .read ⟨id, session.familyId, session.userId⟩
  | .useSession .., .ok _ =>
    match mode with
    | .read origin => .used origin
    | _ => mode
  | .createSession .., _ | .respond, _ => .idle
  | _, _ => mode

def Mode.permits (mode : Mode) : Call → Prop
  | .useSession id _ => ∃ origin, mode = .read origin ∧ origin.id = id
  | .createSession user _ (some origin) _ => mode = .used ⟨origin.parentId, origin.familyId, user⟩
  | _ => True

abbrev discipline : Discipline Task Mode Call.Answer := .decided Mode.permits Mode.next

def Mode.origin? : Mode → Option Origin
  | idle => none
  | read origin | used origin => some origin

/-- The session is stored under its identifier, with its family and its account. -/
def Origin.Stored (origin : Origin) (sessions : Table SessionId Session) : Prop :=
  ∃ session, sessions.get? origin.id = some session ∧ session.familyId = origin.family ∧
    session.userId = origin.user

/-- A session that is used up: it has a successor, or a thread is about to insert one. -/
structure Descends (s : State) (modes : Nat → Mode) : Prop where
  known : ∀ thread origin, (modes thread).origin? = some origin → origin.Stored s.sessions
  family : ∀ id session id' session', s.sessions.get? id = some session →
    s.sessions.get? id' = some session' → session.familyId = session'.familyId →
      session.userId = session'.userId
  single : ∀ parent id child id' child', s.sessions.get? id = some child → child.childOf parent →
    s.sessions.get? id' = some child' → child'.childOf parent → id = id'
  parent : ∀ parent id child, s.sessions.get? id = some child → child.childOf parent →
    ∃ session, s.sessions.get? parent = some session ∧ session.usedAt.isSome
  holder : ∀ thread origin, modes thread = .used origin →
    (∃ session, s.sessions.get? origin.id = some session ∧ session.usedAt.isSome) ∧
      ∀ id child, s.sessions.get? id = some child → ¬ child.childOf origin.id
  alone : ∀ thread origin thread' origin', modes thread = .used origin →
    modes thread' = .used origin' → origin.id = origin'.id → thread = thread'
  closed : ∀ id session, s.sessions.get? id = some session → session.familyId ∈ s.closed →
    session.revokedAt.isSome

/-- A session that was at most marked as used or revoked. -/
structure Marked (session session' : Session) : Prop where
  userId : session'.userId = session.userId
  familyId : session'.familyId = session.familyId
  parentId : session'.parentId = session.parentId
  usedAt : session.usedAt.isSome → session'.usedAt.isSome
  revokedAt : session.revokedAt.isSome → session'.revokedAt.isSome

/-- No session is lost or added, and each is at most marked. -/
abbrev Marks : Table SessionId Session → Table SessionId Session → Prop :=
  Table.Evolves (fun _ => Marked) fun _ _ => False

section Laws

variable {s s' : State} {modes : Nat → Mode} {thread : Nat} {sessions : Table SessionId Session}

theorem Marked.refl (session : Session) : Marked session session := ⟨rfl, rfl, rfl, id, id⟩

theorem marked_revoked (date : Time) (session : Session) : Marked session (session.revoked date) :=
  ⟨rfl, rfl, rfl, id, fun _ => rfl⟩

variable {id : SessionId}

theorem Marks.before (marks : Marks s.sessions sessions) {session' : Session}
    (stored : sessions.get? id = some session') :
    ∃ session, s.sessions.get? id = some session ∧ Marked session session' := by
  rcases marks.origin stored with before | ⟨-, new⟩
  · exact before
  · exact new.elim

theorem Marked.childOf {session session' : Session} (marked : Marked session session')
    (parent : SessionId) : session'.childOf parent = session.childOf parent := by
  simp [Session.childOf, marked.parentId]

theorem marks_used (sessions : Table SessionId Session) (id : SessionId) (date : Time) :
    Marks sessions (sessions.modify id fun session => { session with usedAt := some date }) :=
  Table.Evolves.modify (fun _ => Marked.refl) fun _ _ => ⟨rfl, rfl, rfl, fun _ => rfl, fun held => held⟩

variable {origin : Origin}

theorem Origin.Stored.marks (known : origin.Stored s.sessions) (marks : Marks s.sessions sessions) :
    origin.Stored sessions := by
  obtain ⟨session, stored, family, user⟩ := known
  obtain ⟨session', stored', marked⟩ := marks.moved stored
  exact ⟨session', stored', marked.familyId.trans family, marked.userId.trans user⟩

section Writes

variable (linked : Descends s modes)
include linked

/-- Marking sessions keeps everything, as long as the closed families are revoked. -/
theorem Descends.marks (marks : Marks s.sessions s'.sessions)
    (closed : ∀ id session, s'.sessions.get? id = some session → session.familyId ∈ s'.closed →
      session.revokedAt.isSome) : Descends s' modes where
  known := fun thread origin works => (linked.known thread origin works).marks marks
  family := by
    intro id session id' session' stored stored' same
    obtain ⟨old, before, marked⟩ := Marks.before marks stored
    obtain ⟨old', before', marked'⟩ := Marks.before marks stored'
    rw [marked.familyId, marked'.familyId] at same
    rw [marked.userId, marked'.userId]
    exact linked.family id old id' old' before before' same
  single := by
    intro parent id child id' child' stored own stored' own'
    obtain ⟨old, before, marked⟩ := Marks.before marks stored
    obtain ⟨old', before', marked'⟩ := Marks.before marks stored'
    rw [marked.childOf] at own
    rw [marked'.childOf] at own'
    exact linked.single parent id old id' old' before own before' own'
  parent := by
    intro parent id child stored own
    obtain ⟨old, before, marked⟩ := Marks.before marks stored
    rw [marked.childOf] at own
    obtain ⟨session, found, used⟩ := linked.parent parent id old before own
    obtain ⟨session', found', marked'⟩ := marks.moved found
    exact ⟨session', found', marked'.usedAt used⟩
  holder := by
    intro thread origin holds
    obtain ⟨⟨session, found, used⟩, childless⟩ := linked.holder thread origin holds
    obtain ⟨session', found', marked'⟩ := marks.moved found
    refine ⟨⟨session', found', marked'.usedAt used⟩, fun id child stored => ?_⟩
    obtain ⟨old, before, marked⟩ := Marks.before marks stored
    rw [marked.childOf]
    exact childless id old before
  alone := linked.alone
  closed := closed

theorem Descends.keeps (marks : Marks s.sessions sessions) : Descends { s with sessions } modes := by
  apply linked.marks marks
  intro id session after closed
  obtain ⟨old, before, marked⟩ := Marks.before marks after
  exact marked.revokedAt (linked.closed id old before (marked.familyId ▸ closed))

theorem Descends.of_same (same : s'.sessions = s.sessions)
    (closed : s'.closed = s.closed) : Descends s' modes :=
  ⟨same ▸ linked.known, same ▸ linked.family, same ▸ linked.single, same ▸ linked.parent,
    same ▸ linked.holder, linked.alone, by rw [same, closed]; exact linked.closed⟩

/-- A thread may take up a session that is stored and that no other thread holds. -/
theorem Descends.become {mode : Mode}
    (known : ∀ origin, mode.origin? = some origin → origin.Stored s.sessions)
    (holder : ∀ origin, mode = .used origin →
      (∃ session, s.sessions.get? origin.id = some session ∧ session.usedAt.isSome) ∧
        ∀ id child, s.sessions.get? id = some child → ¬ child.childOf origin.id)
    (free : ∀ origin, mode = .used origin → ∀ other origin', other ≠ thread →
      modes other = .used origin' → origin'.id ≠ origin.id) :
    Descends s (update modes thread mode) where
  known := (forall_update_iff modes fun _ mode => ∀ origin, mode.origin? = some origin →
    origin.Stored s.sessions).mpr ⟨known, fun other _ => linked.known other⟩
  family := linked.family
  single := linked.single
  parent := linked.parent
  holder := by
    intro other origin holds
    by_cases same : other = thread
    · subst same
      exact holder origin (by simpa using holds)
    · exact linked.holder other origin (by simpa [same] using holds)
  alone := by
    intro first origin second origin' holds holds' same
    by_cases own : first = thread <;> by_cases own' : second = thread
    · exact own.trans own'.symm
    · subst own
      rw [update_of_ne own'] at holds'
      exact absurd same.symm (free origin (by simpa using holds) second origin' own' holds')
    · subst own'
      rw [update_of_ne own] at holds
      exact absurd same (free origin' (by simpa using holds') first origin own holds)
    · exact linked.alone first origin second origin' (by simpa [own] using holds)
        (by simpa [own'] using holds') same
  closed := linked.closed

theorem Descends.forget : Descends s (update modes thread .idle) :=
  linked.become nofun nofun nofun

/-- A session that nobody has used is used by the thread that read it, and by no other. -/
theorem Descends.use {session : Session} (reads : modes thread = .read origin)
    (stored : s.sessions.get? origin.id = some session) (unused : session.usedAt = none)
    (date : Time) :
    Descends { s with
      sessions := s.sessions.modify origin.id fun session => { session with usedAt := some date } }
      (update modes thread (.used origin)) := by
  have marks := marks_used s.sessions origin.id date
  have marked := linked.keeps marks
  refine marked.become ?_ ?_ ?_
  · rintro _ ⟨⟩
    exact marked.known thread origin (by rw [reads]; rfl)
  · rintro _ ⟨⟩
    refine ⟨⟨{ session with usedAt := some date }, by simp [stored], rfl⟩, fun id child found own => ?_⟩
    -- A session with a successor is a used one.
    obtain ⟨old, before, same⟩ := Marks.before marks found
    rw [same.childOf] at own
    obtain ⟨session', stored', used⟩ := linked.parent origin.id id old before own
    obtain rfl := Option.mem_unique stored stored'
    simp [unused] at used
  · rintro _ ⟨⟩ other origin' - holds same
    obtain ⟨⟨session', stored', used⟩, -⟩ := linked.holder other origin' holds
    rw [same] at stored'
    obtain rfl := Option.mem_unique stored stored'
    simp [unused] at used

/-- A new session fits if its family is open and its own, and it is the one successor of its origin. -/
theorem Descends.insert {new : Session} (fresh : s.sessions.get? id = none)
    (family : ∀ other session, s.sessions.get? other = some session →
      session.familyId = new.familyId → session.userId = new.userId)
    (first : ∀ parent, new.childOf parent → ∃ origin, modes thread = .used origin ∧ origin.id = parent)
    (opened : new.familyId ∉ s.closed) :
    Descends { s with sessions := s.sessions.add id new fresh }
      (update modes thread .idle) := by
  have forgot : Descends s (update modes thread .idle) := linked.forget
  -- The old rows are untouched, and the new one is the only other.
  have cases_ : ∀ {other session}, (s.sessions.add id new fresh).get? other = some session →
      other = id ∧ session = new ∨ s.sessions.get? other = some session := by
    intro other session found
    rw [Table.get?_add] at found
    split at found
    · next same => exact .inl ⟨same, (Option.some.inj found).symm⟩
    · exact .inr found
  have kept : ∀ {other session}, s.sessions.get? other = some session →
      (s.sessions.add id new fresh).get? other = some session := by
    intro other session found
    rw [Table.get?_add, if_neg]
    · exact found
    · intro same
      simp [same, fresh] at found
  have childless : ∀ {parent other child}, new.childOf parent → s.sessions.get? other = some child →
      ¬ child.childOf parent := by
    intro parent other child own found
    obtain ⟨origin, holds, rfl⟩ := first parent own
    exact (linked.holder thread origin holds).2 other child found
  constructor
  · intro other origin works
    obtain ⟨session, stored, family, user⟩ := forgot.known other origin works
    exact ⟨session, kept stored, family, user⟩
  · intro one session two session' stored stored' same
    rcases cases_ stored with ⟨-, rfl⟩ | old <;> rcases cases_ stored' with ⟨-, rfl⟩ | old'
    · rfl
    · exact (family two session' old' same.symm).symm
    · exact family one session old same
    · exact linked.family one session two session' old old' same
  · intro parent one child two child' stored own stored' own'
    rcases cases_ stored with ⟨rfl, rfl⟩ | old <;> rcases cases_ stored' with ⟨rfl, rfl⟩ | old'
    · rfl
    · exact (childless own old' own').elim
    · exact (childless own' old own).elim
    · exact linked.single parent one child two child' old own old' own'
  · intro parent one child stored own
    rcases cases_ stored with ⟨rfl, rfl⟩ | old
    · obtain ⟨origin, holds, rfl⟩ := first parent own
      obtain ⟨⟨session, found, used⟩, -⟩ := linked.holder thread origin holds
      exact ⟨session, kept found, used⟩
    · obtain ⟨session, found, used⟩ := linked.parent parent one child old own
      exact ⟨session, kept found, used⟩
  · intro other origin holds
    obtain ⟨⟨session, found, used⟩, none⟩ := forgot.holder other origin holds
    refine ⟨⟨session, kept found, used⟩, fun one child stored own => ?_⟩
    rcases cases_ stored with ⟨rfl, rfl⟩ | old
    · -- The thread that held the origin of the new session has let go of it.
      obtain ⟨origin', holds', sameId⟩ := first origin.id own
      by_cases same : other = thread
      · subst same
        simp at holds
      · rw [update_of_ne same] at holds
        exact same (linked.alone other origin thread origin' holds holds' sameId.symm)
    · exact none one child old own
  · exact forgot.alone
  · intro one session stored closed
    rcases cases_ stored with ⟨rfl, rfl⟩ | old
    · exact (opened closed).elim
    · exact linked.closed one session old closed

end Writes

variable {task : Task} {call : Call} {choice : Choice}

/-- What a thread hears of a call that was carried out: its answer, or only that it failed. -/
abbrev Heard (s : State) (choice : Choice) (call : Call) (answer : call.Answer) : Prop :=
  answer = (perform s choice call).1 ∨ ∃ failure, answer = .error failure

/-- The invariant when a call was carried out and its thread has heard an answer. -/
abbrev DescendsAfter (s : State) (modes : Nat → Mode) (thread : Nat) (choice : Choice)
    (call : Call) (answer : call.Answer) : Prop :=
  Descends (perform s choice call).2 (update modes thread ((modes thread).next call answer))

section Descends

variable (linked : Descends s modes)
include linked

theorem Descends.stays {mode : Mode} (same : mode = modes thread)
    (sessions : s'.sessions = s.sessions) (closed : s'.closed = s.closed) :
    Descends s' (update modes thread mode) := by
  rw [same, update_eq_self]
  exact linked.of_same sessions closed

theorem Descends.revokes {p : SessionId → Session → Bool} {date : Time} {closed : List FamilyId}
    {users : Table UserId User} {cutoffs : List (UserId × Time)}
    (complete : ∀ id session, s.sessions.get? id = some session → session.familyId ∈ closed →
      p id session ∨ session.revokedAt.isSome) :
    Descends { s with
      sessions := s.sessions.updateWhere p (Session.revoked date)
      users, cutoffs, closed } modes := by
  refine linked.marks (Table.Evolves.updateWhere (fun _ => Marked.refl)
    fun _ session _ _ => marked_revoked date session) fun id session stored member => ?_
  simp only [Table.get?_updateWhere] at stored
  obtain ⟨old, before, rfl⟩ := Option.map_eq_some_iff.mp stored
  by_cases touched : p id old
  · rw [if_pos touched]
    rfl
  · rw [if_neg touched] at member ⊢
    exact (complete id old before member).resolve_left touched

/-- A thread that has found a row goes by that row from now on. -/
theorem Descends.findSession {refreshHash : String}
    {answer : (Call.findSession refreshHash).Answer} (heard : Heard s choice _ answer) :
    DescendsAfter s modes thread choice (.findSession refreshHash) answer := by
  rcases heard with rfl | ⟨failure, rfl⟩
  · simp only [perform]
    cases found : s.sessions.find? fun _ session => session.refreshHash == refreshHash with
    | none => exact linked.stays rfl rfl rfl
    | some row =>
      obtain ⟨id, session⟩ := row
      refine linked.become ?_ nofun nofun
      rintro _ ⟨⟩
      exact ⟨session, (Table.find?_some found).1, rfl, rfl⟩
  · exact linked.stays rfl rfl rfl

/-- The session is used up even when the thread does not hear so. -/
theorem Descends.useSession {date : Time} (ok : unraced s task (.useSession id date) choice)
    (permitted : (modes thread).permits (.useSession id date))
    {answer : (Call.useSession id date).Answer} (heard : Heard s choice _ answer) :
    DescendsAfter s modes thread choice (.useSession id date) answer := by
  obtain ⟨origin, reads, rfl⟩ := permitted
  obtain ⟨session, stored, -, -⟩ := linked.known thread origin (by rw [reads]; rfl)
  have unused : session.usedAt = none := by simpa [unraced, stored] using ok
  simp only [Heard, DescendsAfter, perform, stored] at heard ⊢
  rcases heard with rfl | ⟨failure, rfl⟩
  · rw [reads]
    exact linked.use reads stored unused date
  · exact (linked.keeps (marks_used ..)).stays rfl rfl rfl

/-- All families of an account are closed when none of its open sessions was overlooked. -/
theorem Descends.revokeAll {userId : UserId} {date : Time} {ids : List SessionId}
    (ok : unraced s task (.revokeAll userId date ids) choice)
    {answer : (Call.revokeAll userId date ids).Answer} :
    DescendsAfter s modes thread choice (.revokeAll userId date ids) answer := by
  simp only [DescendsAfter, perform]
  split
  · exact linked.stays rfl rfl rfl
  · refine (linked.revokes fun id session stored closed => ?_).stays rfl rfl rfl
    rcases List.mem_append.mp closed with own | earlier
    · -- A session in a family of the account is one of the account, and is not overlooked.
      obtain ⟨⟨other, member⟩, listed, sameFamily⟩ := List.mem_map.mp own
      obtain ⟨found, owned⟩ := Table.mem_filter_iff.mp listed
      have user : session.userId = userId := by
        rw [linked.family id session other member stored found sameFamily.symm]
        exact eq_of_beq owned
      have missing := Table.find?_none (Option.isNone_iff_eq_none.mp ok) stored
      cases revoked : session.revokedAt <;> simp_all [Session.isOpen]
    · exact .inr (linked.closed id session stored earlier)

/-- A new session starts a family of its own, or follows the one session its thread has used. -/
theorem Descends.createSession {userId : UserId} {refreshHash : String}
    {rotateFrom : Option RotateFrom} {expiresAt : Time}
    (ok : unraced s task (.createSession userId refreshHash rotateFrom expiresAt) choice)
    (permitted : (modes thread).permits (.createSession userId refreshHash rotateFrom expiresAt))
    (accepted : s.accepts choice (.createSession userId refreshHash rotateFrom expiresAt))
    {answer : (Call.createSession userId refreshHash rotateFrom expiresAt).Answer} :
    DescendsAfter s modes thread choice _ answer := by
  have forgot : Descends s (update modes thread .idle) := linked.forget
  simp only [DescendsAfter, perform]
  split
  · exact forgot
  split
  · exact forgot
  · next sessions inserted =>
    obtain ⟨fresh, rfl⟩ := Table.insert?_eq_some inserted
    cases rotateFrom with
    | none =>
      simp only [State.accepts, Bool.and_eq_true, Option.isNone_iff_eq_none] at accepted
      refine linked.insert fresh ?_ ?_ ?_
      · intro other session found same
        have differs := Table.find?_none accepted.1 found
        simp [same] at differs
      · intro parent own
        simp [Session.childOf] at own
      · simpa using accepted.2
    | some origin =>
      obtain ⟨session, stored, family, user⟩ := linked.known thread _ (by rw [permitted]; rfl)
      refine linked.insert fresh ?_ ?_ ?_
      · intro other session' found same
        rw [linked.family other session' _ session found stored (same.trans family.symm)]
        exact user
      · intro parent own
        exact ⟨_, permitted, by simpa [Session.childOf] using own⟩
      · -- A closed family has no session left whose successor may be inserted.
        intro closed
        have revoked := linked.closed _ session stored (by rw [family]; exact closed)
        have still : session.revokedAt = none := by simpa [unraced, stored] using ok
        simp [still] at revoked

/-- Only five calls touch the sessions; each has its own reason to keep the invariant. -/
theorem Descends.perform (ok : unraced s task call choice)
    (permitted : discipline.permits (modes thread) call) (accepted : s.accepts choice call)
    {answer : call.Answer} (heard : Heard s choice call answer) :
    DescendsAfter s modes thread choice call answer := by
  cases call with
  | now | random | findUserByEmail | findUser | signAccessToken | listSessions | denylistJti
  | denylistSession | isDenylisted | setReset | getReset | delReset =>
    exact linked.stays rfl rfl rfl
  | updateUser id change =>
    simp only [DescendsAfter, Auth.perform]
    split
    · exact linked.stays rfl rfl rfl
    · cases change <;> exact linked.stays rfl rfl rfl
  | verifyAccessToken token =>
    simp only [DescendsAfter, Auth.perform]
    split <;> exact linked.stays rfl rfl rfl
  | authorise token =>
    simp only [DescendsAfter, Auth.perform]
    split
    · exact linked.stays rfl rfl rfl
    · split <;> exact linked.stays rfl rfl rfl
  | findSession => exact linked.findSession heard
  | useSession => exact linked.useSession ok permitted heard
  | revokeSession id date =>
    simp only [DescendsAfter, Auth.perform]
    split
    · exact linked.stays rfl rfl rfl
    · have kept := linked.keeps (Table.Evolves.modify (k := id) (fun _ => Marked.refl)
        fun session _ => marked_revoked date session)
      exact kept.stays rfl rfl rfl
  | revokeFamily family date =>
    refine (linked.revokes fun id session stored closed => ?_).stays rfl rfl rfl
    rcases List.mem_cons.mp closed with same | earlier
    · cases revoked : session.revokedAt <;> simp [same]
    · exact .inr (linked.closed id session stored earlier)
  | revokeAll => exact linked.revokeAll ok
  | createSession => exact linked.createSession ok permitted accepted
  | respond => exact linked.forget

end Descends

theorem Mode.next_error (mode : Mode) (call : Call) (failure : Failure) :
    mode.next call (.error failure) = mode ∨ mode.next call (.error failure) = .idle := by
  cases call with
  | createSession | respond => exact .inr rfl
  | _ => exact .inl rfl

theorem descends_sustained : Sustained answer? unraced discipline Descends := by
  intro s modes thread task call choice answer s' linked ok permitted answers
  refine ⟨_, rfl, ?_⟩
  have waited : Descends { s with clock := choice.now } modes := linked.of_same rfl rfl
  obtain ⟨⟨-, accepted⟩, ⟨rfl, failure, rfl⟩ | ⟨rfl, heard⟩⟩ := Fault.answer_cases answers
  · -- A call that never arrives leaves the thread where it was, or ends what it was at.
    rcases Mode.next_error (modes thread) call failure with same | idle
    · exact waited.stays same rfl rfl
    · rw [idle]
      exact waited.forget
  · have ok' : unraced { s with clock := choice.now } task call choice := ok
    exact waited.perform ok' permitted accepted heard

end Laws

section Code

variable {config : Config} {task : Task}

attribute [local simp] Mode.permits Mode.next forall_except Option.forall Bool.forall_bool

/-- The successor of a session is inserted by the thread that has marked it as used. -/
theorem follows_code (task : Task) :
    Follows discipline task .idle (code config task) fun _ after => after = .idle := by
  cases task <;> simp [code, handled, login, loginWithGoogle, refresh, logout, requestPasswordReset,
    resetPassword, canActivate, issueSession, registerFailedLogin, handleRefreshReuse,
    revokeAllForUser]

end Code

end Families

/--
Over any interleaving of the requests, every session has at most one successor, and once the reuse
of a token was detected or all sessions of an account were revoked, no session of the families
concerned can be refreshed any more, as long as the run is unraced.
-/
theorem closed_families_stay_closed (config : Config) (users : Table UserId User) (clock : Time)
    (moves : List (Move Task Choice))
    (ok : Machine.Guarded (step config) (fun panel move => panel.allows unraced move)
      (Panel.opened users clock) moves) :
    let s := (Machine.run (step config) (Panel.opened users clock) moves).shared
    (∀ parent, s.sessions.count (fun _ session => session.childOf parent) ≤ 1) ∧
      ∀ id session, s.sessions.get? id = some session → session.familyId ∈ s.closed →
        ¬ session.refreshable := by
  have opened : Families.Descends (Panel.opened users clock).shared fun _ => .idle := by
    constructor <;> simp [Panel.opened, Families.Mode.origin?]
  have moded : (Panel.opened users clock).Moded Families.discipline .idle Families.Descends :=
    .of_idle opened
  obtain ⟨_, linked, -⟩ := moded.run Families.follows_code Families.descends_sustained ok
  constructor
  · intro parent
    rw [Table.count_le_one_iff]
    intro id child id' child' stored own stored' own'
    exact linked.single parent id child id' child' stored own stored' own'
  · intro id session stored closed
    have revoked := linked.closed id session stored closed
    cases when : session.revokedAt with
    | none => simp [when] at revoked
    | some date => simp [Session.refreshable, when]

def sampleMarked (thread : Nat) (now : Time) : List (Move Task Choice) :=
  sampleCalls thread now 0 ["", "", "", "", ""]

def sampleRotated (thread : Nat) (now : Time) (id : SessionId) (refresh access : String) :
    List (Move Task Choice) :=
  sampleCalls thread now id [refresh, "", "", access, ""]

/-- How a run ends: the origin of each session, whether it can be refreshed, and what is closed. -/
def sampleSessions (moves : List (Move Task Choice)) :
    List (SessionId × Option SessionId × Bool) × List FamilyId :=
  let s := (Machine.run (step sampleConfig) (Panel.opened sampleUsers 0) moves).shared
  (s.sessions.rows.map fun (id, session) => (id, session.parentId, session.refreshable), s.closed)

/-- A rotation, a reuse of the rotated token, and an attempt with the token it was rotated to. -/
def sampleReuse : List (Move Task Choice) :=
  sampleLogin 1000 ++ [.start (.refresh "refresh-1")] ++ sampleMarked 1 2000 ++
    sampleRotated 1 2000 12 "refresh-2" "access-2" ++ [.start (.refresh "refresh-1")] ++
    sampleCalls 2 3000 0 ["", "", "", "", "", ""] ++ [.start (.refresh "refresh-2")] ++
    sampleCalls 3 4000 0 ["", "", "", "", "", ""]

theorem sample_closed_families_stay_closed :
    sampleSessions sampleReuse = ([(11, none, false), (12, some 11, false)], [1, 1]) ∧
      ∀ id session, (Machine.run (step sampleConfig) (Panel.opened sampleUsers 0)
          sampleReuse).shared.sessions.get? id = some session →
        session.familyId ∈ (Machine.run (step sampleConfig) (Panel.opened sampleUsers 0)
          sampleReuse).shared.closed → ¬ session.refreshable :=
  ⟨by decide +kernel,
    (closed_families_stay_closed sampleConfig sampleUsers 0 sampleReuse (by decide +kernel)).2⟩

/--
Two presentations that both find the session unused leave it with two successors. A rotation that is
under way when the reuse is detected inserts its successor afterwards, and that one can be refreshed.
-/
theorem closed_family_is_refreshed :
    sampleSessions (sampleLogin 1000 ++ [.start (.refresh "refresh-1"), .start (.refresh "refresh-1")] ++
      sampleCalls 2 2000 0 [""] ++ sampleMarked 1 2000 ++
      sampleRotated 1 2000 12 "refresh-2" "access-2" ++ sampleCalls 2 2000 0 ["", "", "", ""] ++
      sampleRotated 2 2000 13 "refresh-3" "access-3") =
      ([(11, none, false), (12, some 11, true), (13, some 11, true)], []) ∧
    sampleSessions (sampleLogin 1000 ++ [.start (.refresh "refresh-1"), .start (.refresh "refresh-1")] ++
      sampleMarked 1 2000 ++ sampleCalls 2 2000 0 ["", "", "", "", "", ""] ++
      sampleRotated 1 2000 12 "refresh-2" "access-2") =
      ([(11, none, false), (12, some 11, true)], [1]) := by
  decide +kernel

end PxHost.Auth
