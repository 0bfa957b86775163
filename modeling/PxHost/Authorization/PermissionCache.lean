import PxHost.Authorization.Service
import PxHost.Lib.Versions

/-! The cached permissions of subusers against the stored ones. -/

namespace PxHost.Authorization

open Store Interleaving Versions Function

/-- What a look at the tables alone decides. -/
def allowed (servers : Table ServerId Server) (subusers : Subusers) (request : AccessActor × ServerId)
    (permission : String) : Bool :=
  match servers.get? request.2 with
  | none => false
  | some server =>
    if request.1.isAdmin then true
    else if server.ownerId = request.1.id then allowedForStatus server.status permission
    else
      (permissionsIn subusers (request.1.id, request.2)).contains permission &&
        allowedForStatus server.status permission

/-- A request for a server that is not found can do nothing. -/
def permits (access : Option ResolvedAccess) (permission : String) : Bool :=
  access.any (·.can permission)

/--
A decision is the one that the tables themselves give, as they were at a moment before it was made
and no earlier than the last change that had returned when the request began.
-/
def Decision.Fits (s : State) (decision : Decision) : Prop :=
  ∃ version subusers, decision.since ≤ version ∧ version ≤ decision.upTo ∧
    s.versions[version]? = some subusers ∧
    allowed s.servers subusers (decision.actor, decision.serverId) = permits decision.access

/--
Whatever is written to the cache is what the database still has, and an invitation is made when
nothing is cached for the pair.
-/
def undisturbed (s : State) (_ : Task) (call : Call) (choice : Choice) : Bool :=
  match call with
  | .setPermissions user serverId permissions =>
    permissions == permissionsIn s.subusers (user, serverId)
  | .createSubuser _ serverId user permissions =>
    (s.created choice.id
      { serverId, userId := user, permissions, acceptedAt := some choice.now }).isNone ||
    (State.cached { s with clock := choice.now } (user, serverId)).isNone
  | _ => true

inductive Mode where
  | idle
  /-- The server was found, and the permissions of the caller are being looked up. -/
  | resolving (actor : AccessActor) (serverId : ServerId) (server : Server)
  | answered (actor : AccessActor) (serverId : ServerId) (access : Option ResolvedAccess)
  | found (id : SubuserId) (key : UserId × ServerId)
  | changed (key : UserId × ServerId)
  /-- The pair was changed, and nothing older than that is cached for it. -/
  | settled (key : UserId × ServerId)

/-- What a thread may decide: what it was answered, or that the caller needs no permissions. -/
def Mode.supports (mode : Mode) (actor : AccessActor) (serverId : ServerId)
    (access : Option ResolvedAccess) : Prop :=
  mode = .answered actor serverId access ∨
    ∃ server, mode = .resolving actor serverId server ∧
      (actor.isAdmin ∧ access = some { server, role := .admin } ∨
        ¬ actor.isAdmin ∧ server.ownerId = actor.id ∧ access = some { server, role := .owner })

def Mode.permits (mode : Mode) : Call → Prop
  | .getPermissions user serverId | .findAccepted user serverId =>
    ∃ actor server, mode = .resolving actor serverId server ∧ actor.id = user ∧ ¬ actor.isAdmin ∧
      server.ownerId ≠ user
  | .decide actor serverId access => mode.supports actor serverId access
  | .updateSubuser _ id _ | .deleteSubuser _ id => ∃ key, mode = .found id key
  | .delPermissions user serverId => mode = .changed (user, serverId)
  | .respond true => ∃ key, mode = .settled key
  | _ => True

def Mode.answering (permissions : List String) : Mode → Mode
  | .resolving actor serverId server =>
    .answered actor serverId (some { server, role := .subuser permissions })
  | mode => mode

def Mode.changing : Mode → Mode
  | .found _ key => .changed key
  | mode => mode

def Mode.next (mode : Mode) : (call : Call) → call.Answer → Mode
  | .fetchOwned actor serverId, .ok (some server) => .resolving actor serverId server
  | .fetchOwned actor serverId, .ok none => .answered actor serverId none
  | .getPermissions .., .ok (some permissions) => mode.answering permissions
  | .findAccepted .., .ok permissions => mode.answering (permissions.getD [])
  | .findSubuser _ serverId id, .ok (some row) => .found id (row.userId, serverId)
  | .createSubuser _ serverId user _, .ok _ => .settled (user, serverId)
  | .updateSubuser .., .ok _ | .deleteSubuser .., .ok _ => mode.changing
  | .delPermissions user serverId, .ok _ => .settled (user, serverId)
  | .fetchOwned .., .error _ | .createSubuser .., .error _ | .updateSubuser .., .error _
  | .deleteSubuser .., .error _ | .decide .., _ | .respond _, _ => .idle
  | _, _ => mode

abbrev discipline : Discipline Task Mode Call.Answer := .decided Mode.permits Mode.next

/-- A row had this identifier at some time. -/
def State.Ever (s : State) (id : SubuserId) : Prop :=
  ∃ subusers ∈ s.versions, (subusers.get? id).isSome

def Mode.Fits (s : State) (floor : UserId × ServerId → Nat) (thread : Nat) : Mode → Prop
  | .idle => True
  | .resolving actor serverId server =>
    s.servers.get? serverId = some server ∧ s.began thread ≤ s.returned (actor.id, serverId)
  | .answered actor serverId access =>
    Held (allowed s.servers) s.versions (actor, serverId) (s.began thread) (Authorization.permits access)
  | .found id key =>
    s.Ever id ∧ ∀ row, s.subusers.get? id = some row → row.key = key
  | .changed key => ∃ version, s.changed thread = some (key, version) ∧ version < s.versions.length
  | .settled key => ∃ version, s.changed thread = some (key, version) ∧ version ≤ floor key

structure Coherent (s : State) (modes : Nat → Mode) (floor : UserId × ServerId → Nat) : Prop where
  regular : Regular permissionsIn s.versions floor s.cached
  returned : ∀ key, s.returned key ≤ floor key
  decisions : ∀ decision ∈ s.decisions, decision.Fits s
  modes : ∀ thread, (modes thread).Fits s floor thread

/-- The cache is coherent above some version of the grants. -/
def NeverStale (s : State) (modes : Nat → Mode) : Prop := ∃ floor, Coherent s modes floor

structure Extends (thread : Nat) (s s' : State) : Prop where
  servers : s'.servers = s.servers
  versions : s'.versions = s.versions ∨ ∃ subusers, s'.versions = s.versions ++ [subusers]
  returned : ∀ key, s.returned key ≤ s'.returned key
  began : ∀ other, other ≠ thread → s'.began other = s.began other
  changed : ∀ other, other ≠ thread → s'.changed other = s.changed other
  /-- A row that has ever been there keeps its user and its server. -/
  rows : ∀ id row', s.Ever id → s'.subusers.get? id = some row' →
    ∃ row, s.subusers.get? id = some row ∧ row'.key = row.key

section Laws

variable {s s' : State} {modes : Nat → Mode} {floor floor' : UserId × ServerId → Nat} {thread : Nat}

theorem Extends.refl (thread : Nat) (s : State) : Extends thread s s where
  servers := rfl
  versions := .inl rfl
  returned := fun _ => Nat.le_refl _
  began := fun _ _ => rfl
  changed := fun _ _ => rfl
  rows := fun _ row' _ stored => ⟨row', stored, rfl⟩

section Extends

variable (extends' : Extends thread s s')
include extends'

theorem Extends.grows : ∃ newer, s'.versions = s.versions ++ newer := by
  rcases extends'.versions with same | ⟨subusers, grown⟩
  · exact ⟨[], by rw [same, List.append_nil]⟩
  · exact ⟨_, grown⟩

theorem Extends.held {Key View : Type} {view : Subusers → Key → View} {key : Key} {since : Nat}
    {value : View} (held : Held view s.versions key since value) :
    Held view s'.versions key since value := by
  obtain ⟨newer, grown⟩ := extends'.grows
  rw [grown]
  exact held.append newer

theorem Extends.fits_decision {decision : Decision} (fits : decision.Fits s) :
    decision.Fits s' := by
  obtain ⟨version, subusers, after, before, stored, same⟩ := fits
  obtain ⟨newer, grown⟩ := extends'.grows
  refine ⟨version, subusers, after, before, ?_, by rwa [extends'.servers]⟩
  rw [grown, List.getElem?_append_left (List.getElem?_eq_some_iff.mp stored).1, stored]

theorem Mode.Fits.advance {mode : Mode} {other : Nat} (fits : mode.Fits s floor other)
    (rises : ∀ key, floor key ≤ floor' key)
    (began : s'.began other = s.began other) (changed : s'.changed other = s.changed other) :
    mode.Fits s' floor' other := by
  obtain ⟨newer, grown⟩ := extends'.grows
  cases mode with
  | idle => trivial
  | resolving actor serverId server =>
    refine ⟨by rw [extends'.servers]; exact fits.1, ?_⟩
    rw [began]
    exact Nat.le_trans fits.2 (extends'.returned _)
  | answered actor serverId access =>
    show Held (allowed s'.servers) s'.versions _ (s'.began other) _
    rw [extends'.servers, began]
    exact extends'.held fits
  | found id key =>
    obtain ⟨subusers, member, there⟩ := fits.1
    refine ⟨⟨subusers, by simp [grown, member], there⟩, fun row' stored => ?_⟩
    obtain ⟨row, before, same⟩ := extends'.rows id row' fits.1 stored
    rw [same]
    exact fits.2 row before
  | changed key =>
    obtain ⟨version, made, inside⟩ := fits
    exact ⟨version, changed.trans made, by simp [grown, Nat.lt_add_right _ inside]⟩
  | settled key =>
    obtain ⟨version, made, below⟩ := fits
    exact ⟨version, changed.trans made, Nat.le_trans below (rises key)⟩

end Extends

variable {after : Mode} {id : SubuserId} {actor : AccessActor} {serverId : ServerId}
  {subusers : Subusers} {server : Server} {permissions : List String} {key : UserId × ServerId}
  {row : Subuser} {access : Option ResolvedAccess} {task : Task} {call : Call} {choice : Choice}

/-- A row that was accepted makes the server accessible, so whoever sees none has no permissions. -/
theorem allowed_of_not_found
    (missing : (if s.canAccess actor serverId then s.servers.get? serverId else none) = none) :
    allowed s.servers s.subusers (actor, serverId) = permits none := by
  funext permission
  show allowed s.servers s.subusers (actor, serverId) permission = false
  unfold allowed
  cases stored : s.servers.get? serverId with
  | none => rfl
  | some server =>
    -- The server is there, so it is the policy that hides it.
    have hidden : s.canAccess actor serverId = false := by
      by_contra visible
      rw [Bool.not_eq_false] at visible
      rw [if_pos visible, stored] at missing
      cases missing
    simp only [State.canAccess, stored, Option.any_some, Bool.or_eq_false_iff, beq_eq_false_iff_ne,
      Option.isSome_eq_false_iff, Option.isNone_iff_eq_none] at hidden
    obtain ⟨⟨customer, stranger⟩, unknown⟩ := hidden
    simp [customer, stranger, permissionsIn, unknown]

theorem allowed_subuser (stored : s.servers.get? serverId = some server)
    (customer : ¬ actor.isAdmin) (stranger : server.ownerId ≠ actor.id) :
    allowed s.servers subusers (actor, serverId) =
      permits (some { server, role := .subuser (permissionsIn subusers (actor.id, serverId)) }) := by
  funext permission
  simp [allowed, permits, stored, customer, stranger, ResolvedAccess.can]

theorem held_subuser {since : Nat} (stored : s.servers.get? serverId = some server)
    (customer : ¬ actor.isAdmin) (stranger : server.ownerId ≠ actor.id)
    (held : Held permissionsIn s.versions (actor.id, serverId) since permissions) :
    Held (allowed s.servers) s.versions (actor, serverId) since
      (permits (some { server, role := .subuser permissions })) := by
  obtain ⟨version, subusers, after, there, rfl⟩ := held
  exact ⟨version, subusers, after, there, allowed_subuser stored customer stranger⟩

theorem Mode.Fits.changed_commit (s : State) (floor : UserId × ServerId → Nat) (thread : Nat)
    (key : UserId × ServerId) (subusers : Subusers) :
    (Mode.changed key).Fits (s.commit thread key subusers) floor thread := by
  refine ⟨s.versions.length, update_self .., ?_⟩
  show s.versions.length < (s.versions ++ [subusers]).length
  rw [List.length_append]
  exact Nat.lt_succ_self _

theorem State.visible_some (seen : s.visible actor id = some row) : s.subusers.get? id = some row :=
  (Option.filter_eq_some_iff.mp seen).1

theorem kept_modify (subusers : Subusers) (id : SubuserId) (permissions : List String)
    (other : SubuserId) (row' : Subuser)
    (stored : (subusers.modify id fun row => { row with permissions }).get? other = some row') :
    ∃ row, subusers.get? other = some row ∧ row'.key = row.key := by
  rw [Table.get?_modify] at stored
  split at stored
  · obtain ⟨row, found, rfl⟩ := Option.map_eq_some_iff.mp stored
    exact ⟨row, found, rfl⟩
  · exact ⟨row', stored, rfl⟩

theorem kept_erase (subusers : Subusers) (id other : SubuserId) (row' : Subuser)
    (stored : (subusers.erase id).get? other = some row') :
    ∃ row, subusers.get? other = some row ∧ row'.key = row.key := by
  rw [Table.get?_erase] at stored
  split at stored
  · cases stored
  · exact ⟨row', stored, rfl⟩

/-- An inserted row has an identifier no row has had, so the rows of others are as they were. -/
theorem kept_created (inserted : s.created id row = some subusers)
    (fresh : s.versions.all fun old => (old.get? id).isNone) (other : SubuserId) (row' : Subuser)
    (ever : s.Ever other) (stored : subusers.get? other = some row') :
    ∃ row, s.subusers.get? other = some row ∧ row'.key = row.key := by
  have differs : other ≠ id := by
    rintro rfl
    obtain ⟨old, member, some⟩ := ever
    have none := List.all_eq_true.mp fresh old member
    rw [Option.isNone_iff_eq_none] at none
    rw [none] at some
    cases some
  unfold State.created at inserted
  split at inserted
  · cases inserted
  · split at inserted
    · cases inserted
    · rw [Table.get?_insert? inserted, if_neg differs] at stored
      exact ⟨row', stored, rfl⟩

theorem State.cached_put (s : State) (key : UserId × ServerId) (entry : Option (List String × Time)) :
    State.cached { s with permissions := update s.permissions key entry } =
      update s.cached key (live s.clock entry) := by
  funext key'
  by_cases same : key' = key
  · subst same
    simp [State.cached]
  · simp [State.cached, same]

theorem live_some {clock expiry : Time} {value : List String}
    (there : live clock (some (permissions, expiry)) = some value) : value = permissions := by
  simp only [live, Option.bind_some] at there
  split at there
  · exact (Option.some.inj there).symm
  · cases there

section Coherent

variable (coherent : Coherent s modes floor)
include coherent

/-- A call keeps everything coherent if it keeps the cache so, and its own thread has what it needs. -/
theorem Coherent.advance (extends' : Extends thread s s')
    (regular : Regular permissionsIn s'.versions floor' s'.cached)
    (rises : ∀ key, floor key ≤ floor' key) (returned : ∀ key, s'.returned key ≤ floor' key)
    (decided : ∀ decision ∈ s'.decisions, decision ∈ s.decisions ∨ decision.Fits s')
    (fits : after.Fits s' floor' thread) : NeverStale s' (update modes thread after) := by
  refine ⟨floor', regular, returned, fun decision member => ?_, ?_⟩
  · rcases decided decision member with before | new
    · exact extends'.fits_decision (coherent.decisions decision before)
    · exact new
  · refine (forall_update_iff modes fun other mode => mode.Fits s' floor' other).mpr ⟨fits, ?_⟩
    exact fun other same => Mode.Fits.advance extends' (coherent.modes other) rises
      (extends'.began other same) (extends'.changed other same)

theorem Coherent.learn (fits : after.Fits s floor thread) :
    NeverStale s (update modes thread after) :=
  coherent.advance (.refl thread s) coherent.regular (fun _ => Nat.le_refl _) coherent.returned
    (fun _ member => .inl member) fits

theorem Coherent.began_lt (key : UserId × ServerId) :
    s.returned key ≤ s.history.length := by
  have reached := coherent.regular.reached key
  rw [State.versions, List.length_append, List.length_singleton] at reached
  exact Nat.le_trans (coherent.returned key) (Nat.le_of_lt_succ reached)

/-- A change of the table leaves what is cached, which is now older than the table. -/
theorem Coherent.commit
    (rows : ∀ id row', s.Ever id → subusers.get? id = some row' →
      ∃ row, s.subusers.get? id = some row ∧ row'.key = row.key)
    (rises : ∀ key, floor key ≤ floor' key)
    (regular : Regular permissionsIn (s.versions ++ [subusers]) floor' s.cached)
    (fits : after.Fits (s.commit thread key subusers) floor' thread) :
    NeverStale (s.commit thread key subusers) (update modes thread after) := by
  have extends' : Extends thread s (s.commit thread key subusers) :=
    ⟨rfl, .inr ⟨subusers, rfl⟩, fun _ => Nat.le_refl _, fun _ _ => rfl,
      fun _ differs => update_of_ne differs .., rows⟩
  exact coherent.advance extends' regular rises
    (fun key => Nat.le_trans (coherent.returned key) (rises key)) (fun _ member => .inl member) fits

theorem Coherent.rewrite
    (own : ∃ key, modes thread = .found id key) (seen : s.visible actor id = some row)
    (kept : ∀ other row', subusers.get? other = some row' →
      ∃ row, s.subusers.get? other = some row ∧ row'.key = row.key) :
    NeverStale (s.commit thread row.key subusers) (update modes thread (modes thread).changing) := by
  obtain ⟨key, mode⟩ := own
  have fits := coherent.modes thread
  rw [mode] at fits
  have same : row.key = key := fits.2 row (State.visible_some seen)
  refine coherent.commit (fun other row' _ stored => kept other row' stored) (fun _ => Nat.le_refl _)
    (coherent.regular.append subusers) ?_
  rw [mode, same]
  exact .changed_commit ..

/-- An invitation that finds nothing cached is settled as soon as it is made. -/
theorem Coherent.invited
    (inserted : s.created id row = some subusers)
    (fresh : s.versions.all fun old => (old.get? id).isNone) (absent : s.cached row.key = none) :
    NeverStale (s.commit thread row.key subusers) (update modes thread (.settled row.key)) := by
  have grown := coherent.regular.append subusers
  refine coherent.commit (kept_created inserted fresh) (grown.le_settle row.key) (grown.settle absent) ?_
  refine ⟨s.versions.length, update_self .., ?_⟩
  rw [update_self, List.length_append]
  exact Nat.le_refl _

/-- What is written to the cache is what the database has, so the cache stays regular. -/
theorem Coherent.cache
    (current : permissions = permissionsIn s.subusers key) (expiry : Time) :
    NeverStale { s with permissions := update s.permissions key (some (permissions, expiry)) }
      (update modes thread (modes thread)) := by
  have extends' : Extends thread s
      { s with permissions := update s.permissions key (some (permissions, expiry)) } :=
    { Extends.refl thread s with }
  refine coherent.advance extends' ?_ (fun _ => Nat.le_refl _) coherent.returned
    (fun _ member => .inl member)
    (.advance extends' (coherent.modes thread) (fun _ => Nat.le_refl _) rfl rfl)
  rw [State.cached_put]
  exact coherent.regular.put key fun value there => ((live_some there).trans current).symm

/-- After the invalidation nothing older than the change is cached. -/
theorem Coherent.invalidated {user : UserId}
    (own : modes thread = .changed (user, serverId))
    (heard : after = .settled (user, serverId) ∨ after = modes thread) :
    NeverStale { s with permissions := update s.permissions (user, serverId) none }
      (update modes thread after) := by
  have shrunk : Regular permissionsIn s.versions floor
      (State.cached { s with permissions := update s.permissions (user, serverId) none }) := by
    rw [State.cached_put]
    exact coherent.regular.put (user, serverId) fun _ there => by cases there
  have absent : (State.cached { s with
      permissions := update s.permissions (user, serverId) none }) (user, serverId) = none := by
    rw [State.cached_put, update_self]
    rfl
  have rises := shrunk.le_settle (user, serverId)
  have extends' : Extends thread s
      { s with permissions := update s.permissions (user, serverId) none } :=
    { Extends.refl thread s with }
  refine coherent.advance extends' (shrunk.settle absent) rises
    (fun key => Nat.le_trans (coherent.returned key) (rises key)) (fun _ member => .inl member) ?_
  have fits := coherent.modes thread
  rcases heard with rfl | rfl
  · rw [own] at fits
    obtain ⟨version, made, inside⟩ := fits
    refine ⟨version, made, ?_⟩
    rw [update_self]
    exact Nat.le_sub_one_of_lt inside
  · exact .advance extends' fits rises rfl rfl

/-- What a thread may decide is what the tables give at a time since it began. -/
theorem Coherent.supported
    (supports : (modes thread).supports actor serverId access) :
    Held (allowed s.servers) s.versions (actor, serverId) (s.began thread) (permits access) := by
  have fits := coherent.modes thread
  rcases supports with mode | ⟨server, mode, unconditional⟩
  · rw [mode] at fits
    exact fits
  · -- Operators and owners are decided by the server alone, so any version will do.
    rw [mode] at fits
    obtain ⟨stored, began⟩ := fits
    have decided : permits access = allowed s.servers s.subusers (actor, serverId) := by
      funext permission
      rcases unconditional with ⟨operator, rfl⟩ | ⟨customer, owner, rfl⟩
      · simp [permits, allowed, stored, operator, ResolvedAccess.can]
      · simp [permits, allowed, stored, customer, owner, ResolvedAccess.can]
    rw [decided]
    exact held_last s.history s.subusers
      (Nat.le_trans began (coherent.began_lt _))

theorem Coherent.decide
    (supports : (modes thread).supports actor serverId access) :
    NeverStale (perform thread s choice (.decide actor serverId access)).2
      (update modes thread .idle) := by
  obtain ⟨version, subusers, after, stored, same⟩ := coherent.supported supports
  have extends' : Extends thread s (perform thread s choice (.decide actor serverId access)).2 :=
    { Extends.refl thread s with }
  refine coherent.advance extends' coherent.regular (fun _ => Nat.le_refl _)
    coherent.returned (fun decision member => ?_) trivial
  rcases List.mem_cons.mp member with rfl | before
  · refine .inr ⟨version, subusers, after, ?_, stored, same⟩
    have inside := (List.getElem?_eq_some_iff.mp stored).1
    rw [State.versions, List.length_append, List.length_singleton] at inside
    exact Nat.le_of_lt_succ inside
  · exact .inl before

theorem Coherent.fetch :
    NeverStale (perform thread s choice (.fetchOwned actor serverId)).2
      (update modes thread ((modes thread).next (.fetchOwned actor serverId)
        (perform thread s choice (.fetchOwned actor serverId)).1)) := by
  have extends' : Extends thread s (perform thread s choice (.fetchOwned actor serverId)).2 :=
    { Extends.refl thread s with began := fun _ differs => update_of_ne differs .. }
  refine coherent.advance extends' coherent.regular (fun _ => Nat.le_refl _) coherent.returned
    (fun _ member => .inl member) ?_
  simp only [perform]
  cases found : if s.canAccess actor serverId then s.servers.get? serverId else none with
  | none =>
    show Held (allowed s.servers) s.versions _ (update s.began thread _ thread) _
    rw [← allowed_of_not_found found, update_self]
    exact held_last s.history s.subusers (coherent.began_lt _)
  | some server =>
    split at found
    · exact ⟨found, Nat.le_of_eq (update_self ..)⟩
    · cases found

/-- What a change has done may be relied on when it returns, for it is settled by then. -/
theorem Coherent.respond {changed : Bool}
    (permitted : (modes thread).permits (.respond changed)) :
    NeverStale (perform thread s choice (.respond changed)).2 (update modes thread .idle) := by
  simp only [perform]
  split
  · next key version made =>
    obtain ⟨own, mode⟩ := permitted
    have fits := coherent.modes thread
    rw [mode] at fits
    obtain ⟨version', made', below⟩ := fits
    rw [made, Option.some.injEq, Prod.mk.injEq] at made'
    obtain ⟨rfl, rfl⟩ := made'
    have rises : s.returned ≤ update s.returned key (max (s.returned key) version) :=
      le_update_iff.mpr ⟨Nat.le_max_left .., fun _ _ => Nat.le_refl _⟩
    have extends' : Extends thread s { s with
        returned := update s.returned key (max (s.returned key) version) } :=
      { Extends.refl thread s with returned := rises }
    have reached : update s.returned key (max (s.returned key) version) ≤ floor :=
      update_le_iff.mpr ⟨Nat.max_le.mpr ⟨coherent.returned key, below⟩, fun key' _ =>
        coherent.returned key'⟩
    exact coherent.advance extends' coherent.regular (fun _ => Nat.le_refl _) reached
      (fun _ member => .inl member) trivial
  · exact coherent.learn trivial

theorem Coherent.answering {user : UserId}
    (own : ∃ actor server, modes thread = .resolving actor serverId server ∧ actor.id = user ∧
      ¬ actor.isAdmin ∧ server.ownerId ≠ user)
    (held : Held permissionsIn s.versions (user, serverId) (s.returned (user, serverId)) permissions) :
    NeverStale s (update modes thread ((modes thread).answering permissions)) := by
  obtain ⟨actor, server, mode, rfl, customer, stranger⟩ := own
  have fits := coherent.modes thread
  rw [mode] at fits ⊢
  exact coherent.learn (held_subuser fits.1 customer stranger (held.mono fits.2))

end Coherent

theorem NeverStale.forget (linked : NeverStale s (update modes thread after)) :
    NeverStale s (update modes thread .idle) := by
  obtain ⟨floor, coherent⟩ := linked
  have idle : NeverStale s (update (update modes thread after) thread .idle) := coherent.learn trivial
  rwa [update_idem] at idle

section Calls

variable (linked : NeverStale s modes) (ok : undisturbed s task call choice)
  (punctual : s.clock = choice.now) (permitted : (modes thread).permits call)
  (accepted : s.accepts choice call)
include linked ok punctual permitted accepted

/-- No call leaves an answer in the cache that the database no longer gives. -/
theorem NeverStale.perform :
    NeverStale (Authorization.perform thread s choice call).2
      (update modes thread ((modes thread).next call (Authorization.perform thread s choice call).1)) := by
  obtain ⟨floor, coherent⟩ := linked
  have stays : NeverStale s (update modes thread (modes thread)) :=
    coherent.learn (coherent.modes thread)
  have dropped : NeverStale s (update modes thread .idle) := coherent.learn trivial
  cases call with
  | findCatalog | findUserByEmail | findSubuserOf => exact stays
  | fetchOwned actor serverId => exact coherent.fetch
  | decide actor serverId access => exact coherent.decide permitted
  | respond changed => exact coherent.respond permitted
  | setPermissions user serverId permissions => exact coherent.cache (by simpa [undisturbed] using ok) _
  | getPermissions user serverId =>
    simp only [Authorization.perform]
    cases hit : s.cached (user, serverId) with
    | none => exact stays
    | some permissions =>
      have held := coherent.regular.held _ _ hit
      exact coherent.answering permitted (held.mono (coherent.returned _))
  | findAccepted user serverId =>
    exact coherent.answering permitted (held_last s.history s.subusers (coherent.began_lt _))
  | delPermissions user serverId => exact coherent.invalidated permitted (.inl rfl)
  | findSubuser actor serverId id =>
    simp only [Authorization.perform]
    cases seen : (s.visible actor id).filter fun row => row.serverId == serverId with
    | none => exact stays
    | some row =>
      obtain ⟨visible, same⟩ := Option.filter_eq_some_iff.mp seen
      have stored := State.visible_some visible
      refine coherent.learn ⟨⟨s.subusers, by simp [State.versions], by simp [stored]⟩, ?_⟩
      intro row' stored'
      rw [stored, Option.some.injEq] at stored'
      rw [← stored', Subuser.key, beq_iff_eq.mp same]
  | createSubuser actor serverId user permissions =>
    simp only [Authorization.perform]
    split
    · cases inserted : s.created choice.id
          { serverId, userId := user, permissions, acceptedAt := some s.clock } with
      | none => exact dropped
      | some subusers =>
        -- The guard speaks of the moment of the call, which is the present one.
        simp only [undisturbed, ← punctual, inserted, Option.isNone_some, Bool.false_or,
          Option.isNone_iff_eq_none] at ok
        exact coherent.invited inserted accepted ok
    · exact dropped
  | updateSubuser actor id permissions =>
    simp only [Authorization.perform]
    cases seen : s.visible actor id with
    | none => exact dropped
    | some row =>
      dsimp only
      split
      · exact dropped
      · exact coherent.rewrite permitted seen (kept_modify s.subusers id permissions)
  | deleteSubuser actor id =>
    simp only [Authorization.perform]
    cases seen : s.visible actor id with
    | none => exact dropped
    | some row => exact coherent.rewrite permitted seen (kept_erase s.subusers id)

theorem NeverStale.unheard (failure : Failure) :
    NeverStale (Authorization.perform thread s choice call).2
      (update modes thread ((modes thread).next call (.error failure))) := by
  have performed := linked.perform ok punctual permitted accepted
  obtain ⟨floor, coherent⟩ := linked
  cases call with
  | fetchOwned | createSubuser | updateSubuser | deleteSubuser | decide | respond =>
    exact performed.forget
  | setPermissions => exact performed
  | delPermissions => exact coherent.invalidated permitted (.inr rfl)
  | _ => exact coherent.learn (coherent.modes thread)

end Calls

theorem NeverStale.waited {now : Time} (linked : NeverStale s modes) (later : s.clock ≤ now) :
    NeverStale { s with clock := now } modes := by
  obtain ⟨floor, coherent⟩ := linked
  have extends' : Extends 0 s { s with clock := now } := { Extends.refl 0 s with }
  have regular : Regular permissionsIn s.versions floor (State.cached { s with clock := now }) := by
    refine coherent.regular.shrink fun key value there => ?_
    simp only [State.cached, live] at there ⊢
    cases entry : s.permissions key with
    | none =>
      rw [entry] at there
      cases there
    | some entry' =>
      rw [entry, Option.bind_some] at there
      rw [Option.bind_some]
      split at there
      · next fresh => rw [if_pos (Int.lt_of_le_of_lt later fresh), there]
      · cases there
  exact ⟨floor, regular, coherent.returned,
    fun decision member => extends'.fits_decision (coherent.decisions decision member),
    fun other => Mode.Fits.advance extends' (coherent.modes other) (fun _ => Nat.le_refl _) rfl rfl⟩

theorem Mode.next_error (mode : Mode) (call : Call) (failure : Failure) :
    mode.next call (.error failure) = mode ∨ mode.next call (.error failure) = .idle := by
  cases call with
  | fetchOwned | createSubuser | updateSubuser | deleteSubuser | decide | respond => exact .inr rfl
  | _ => exact .inl rfl

theorem neverStale_sustained : Sustained answer? undisturbed discipline NeverStale := by
  intro s modes thread task call choice answer s' linked ok permitted answers
  refine ⟨_, rfl, ?_⟩
  obtain ⟨⟨later, accepted⟩, outcome⟩ := Fault.answer_cases answers
  have waited := linked.waited later
  rcases outcome with ⟨rfl, failure, rfl⟩ | ⟨rfl, heard⟩
  · -- A call that never arrives leaves the thread what it knows, or nothing.
    obtain ⟨floor, coherent⟩ := waited
    rcases Mode.next_error (modes thread) call failure with same | idle
    · rw [same]
      exact coherent.learn (coherent.modes thread)
    · rw [idle]
      exact coherent.learn trivial
  · have ok' : undisturbed { s with clock := choice.now } task call choice := ok
    rcases heard with rfl | ⟨failure, rfl⟩
    · exact waited.perform ok' rfl permitted accepted
    · exact waited.unheard ok' rfl permitted accepted failure

end Laws

section Code

variable {task : Task} {mode : Mode}

attribute [local simp] Mode.permits Mode.next Mode.answering Mode.changing forall_except
  Option.forall

theorem follows_resolve (actor : AccessActor) (serverId : ServerId) :
    Follows discipline task mode (resolve actor serverId).run fun _ _ => True := by
  simp +contextual [resolve, decided, resolveSubuserPermissions, Mode.supports]

theorem follows_checked {α : Type} {actor : AccessActor} {serverId : ServerId} {message : String}
    {rest : ResolvedAccess → Routine α} {post : Except Failure α → Mode → Prop}
    (failed : ∀ failure after, post (.error failure) after)
    (follows : ∀ access after, Follows discipline task after (rest access).run post) :
    Follows discipline task mode
      (do let access ← resolve actor serverId; assertManages access message; rest access).run post := by
  refine follows_run_bind.mpr ((follows_resolve actor serverId).mono fun result after _ => ?_)
  cases result with
  | error failure => exact failed failure after
  | ok access =>
    refine follows_run_bind.mpr ?_
    cases role : access.role with
    | subuser permissions =>
      simp only [assertManages, role]
      exact failed _ after
    | owner | admin =>
      simp only [assertManages, role]
      exact follows access after

abbrev Returned (result : Except Failure Unit) (after : Mode) : Prop :=
  result.isOk → ∃ key, after = .settled key

theorem returned_error (failure : Failure) (after : Mode) : Returned (.error failure) after := by
  intro succeeded
  cases succeeded

theorem follows_validated {keys : List String} {rest : Unit → Routine Unit}
    (follows : ∀ after, Follows discipline task after (rest ()).run Returned) :
    Follows discipline task mode (assertValidPermissions keys >>= rest).run Returned := by
  simp [assertValidPermissions, Returned, Except.isOk, Except.toBool, follows]

theorem follows_invite (actor : AccessActor) (serverId : ServerId) (dto : InviteSubuserDto) :
    Follows discipline task mode (invite actor serverId dto).run Returned := by
  unfold invite
  refine follows_checked returned_error fun access after => follows_validated fun after => ?_
  simp [Except.isOk, Except.toBool]

theorem follows_updatePermissions (actor : AccessActor) (serverId : ServerId) (id : SubuserId)
    (permissions : List String) :
    Follows discipline task mode (updatePermissions actor serverId id permissions).run Returned := by
  unfold updatePermissions
  refine follows_checked returned_error fun access after => follows_validated fun after => ?_
  simp [invalidatePermissionCache, Except.isOk, Except.toBool]

theorem follows_remove (actor : AccessActor) (serverId : ServerId) (id : SubuserId) :
    Follows discipline task mode (remove actor serverId id).run Returned := by
  unfold remove
  refine follows_checked returned_error fun access after => ?_
  simp [invalidatePermissionCache, Except.isOk, Except.toBool]

theorem follows_handled {routine : Routine Unit}
    (follows : Follows discipline task mode routine.run Returned) :
    Follows discipline task mode (handled routine) fun _ after => after = .idle := by
  rw [handled, follows_bind]
  refine follows.mono fun result after settled => ?_
  cases result with
  | error failure => simp [Except.isOk, Except.toBool]
  | ok _ => simpa [Except.isOk, Except.toBool] using settled rfl

theorem follows_code (task : Task) :
    Follows discipline task .idle (code task) fun _ after => after = .idle := by
  cases task with
  | resolve actor serverId =>
    rw [code, follows_bind]
    -- Whatever the request came to, its response ends it.
    refine (follows_resolve actor serverId).mono fun _ after _ => ?_
    exact ⟨trivial, fun _ _ moved => moved⟩
  | invite actor serverId dto => exact follows_handled (follows_invite actor serverId dto)
  | updatePermissions actor serverId id permissions =>
    exact follows_handled (follows_updatePermissions actor serverId id permissions)
  | remove actor serverId id => exact follows_handled (follows_remove actor serverId id)

end Code

section Runs

variable {servers : Table ServerId Server} {users : Table UserId User} {catalog : List String}
  {subusers : Subusers} {clock : Time} {moves : List (Move Task Choice)}

/--
In a run in which the cache is written only with what the database has, and an invitation is made
only when nothing is cached for its user, every request is decided as the tables themselves decide
it at a moment since the last change of the caller's permissions that had returned when it began.
-/
theorem requests_are_decided_by_stored_permissions
    (ok : Machine.Guarded step (fun panel move => panel.allows undisturbed move)
      (Panel.opened servers users catalog subusers clock) moves) :
    ∀ decision ∈ (Machine.run step (Panel.opened servers users catalog subusers clock) moves).shared.decisions,
      decision.Fits (Machine.run step (Panel.opened servers users catalog subusers clock) moves).shared := by
  have opened : NeverStale (Panel.opened servers users catalog subusers clock).shared fun _ => .idle :=
    ⟨fun _ => 0, Regular.start subusers, fun _ => Nat.le_refl 0, by simp [Panel.opened], fun _ => trivial⟩
  have moded : (Panel.opened servers users catalog subusers clock).Moded discipline .idle NeverStale :=
    .of_idle opened
  obtain ⟨_, ⟨floor, coherent⟩, -⟩ := moded.run follows_code neverStale_sustained ok
  exact coherent.decisions

end Runs

/-- A server of one user with another user as its subuser, who may start it. -/
def sampleOpened : Panel :=
  .opened ⟨[(1, { ownerId := 7, status := .ready })], by simp⟩
    ⟨[(7, { email := "ana@example.com" }), (8, { email := "rui@example.com" })], by simp⟩
    ["control.start", "control.stop"]
    ⟨[(1, { serverId := 1, userId := 8, permissions := ["control.start"], acceptedAt := some 0 })], by simp⟩
    0

def sampleTurns (thread count : Nat) (now : Time) : List (Move Task Choice) :=
  List.replicate count (.turn thread { now, id := 2 })

def sampleOwner : AccessActor := { id := 7, isAdmin := false }

def sampleSubuser : AccessActor := { id := 8, isAdmin := false }

/--
Whether the subuser may start the server: by each decision about them, with the versions it may rest
on, and by the table itself, with its version.
-/
def sampleStarts (moves : List (Move Task Choice)) : List (Nat × Nat × Bool) × Nat × Bool :=
  let s := (Machine.run step sampleOpened moves).shared
  ((s.decisions.filter (·.actor = sampleSubuser)).map fun decision =>
      (decision.since, decision.upTo, permits decision.access "control.start"),
    s.history.length, allowed s.servers s.subusers (sampleSubuser, 1) "control.start")

/-- The subuser's permissions are cached, then they are taken away, and they are asked for again. -/
def sampleRevocation : List (Move Task Choice) :=
  [.start (.resolve sampleSubuser 1)] ++ sampleTurns 0 6 1000 ++
    [.start (.updatePermissions sampleOwner 1 1 [])] ++ sampleTurns 1 6 2000 ++
    [.start (.resolve sampleSubuser 1)] ++ sampleTurns 2 6 3000

theorem sample_requests_are_decided_by_stored_permissions :
    sampleStarts sampleRevocation = ([(1, 1, false), (0, 0, true)], 1, false) ∧
      ∀ decision ∈ (Machine.run step sampleOpened sampleRevocation).shared.decisions,
        decision.Fits (Machine.run step sampleOpened sampleRevocation).shared :=
  ⟨by decide +kernel, requests_are_decided_by_stored_permissions (by decide +kernel)⟩

/--
A request that read the permissions before they are taken away caches them after the invalidation,
and the next one is decided by them. One that finds no row caches that there are no permissions,
which an invitation does not invalidate, so that the next one is refused what it was given.
-/
theorem request_is_decided_by_stale_permissions :
    sampleStarts ([.start (.resolve sampleSubuser 1)] ++ sampleTurns 0 3 1000 ++
      [.start (.updatePermissions sampleOwner 1 1 [])] ++ sampleTurns 1 6 2000 ++
      sampleTurns 0 3 3000 ++ [.start (.resolve sampleSubuser 1)] ++ sampleTurns 2 4 4000) =
      ([(1, 1, true), (0, 1, true)], 1, false) ∧
    sampleStarts ([.start (.resolve sampleSubuser 1)] ++ sampleTurns 0 1 1000 ++
      [.start (.remove sampleOwner 1 1)] ++ sampleTurns 1 6 2000 ++ sampleTurns 0 5 3000 ++
      [.start (.invite sampleOwner 1 { email := "rui@example.com", permissions := ["control.start"] })] ++
      sampleTurns 2 7 4000 ++ [.start (.resolve sampleSubuser 1)] ++ sampleTurns 3 4 5000) =
      ([(2, 2, false), (0, 1, false)], 2, true) := by
  decide +kernel

end PxHost.Authorization
