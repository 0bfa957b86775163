import PxHost.System.NodeCapacity
import PxHost.System.Site

/-! When the orphan sweep of a node leaves the containers of live servers alone. -/

namespace PxHost.Site

open Interleaving Machine Store Function

section Live

def resides (db : Db) (node : NodeId) (uuid : ServerId) : Bool :=
  (db.server? uuid).any (·.nodeId == node)

/--
The copy on the target of a transfer is wanted as long as the transfer is in flight, and after it
has succeeded until the server moves on.
-/
def isTargetCopy (db : Db) (node : NodeId) (uuid : ServerId) : Bool :=
  (db.transfers.find? fun _ t => t.serverId == uuid && t.targetNodeId == node &&
    (t.status.isActive || t.status == .success && resides db node uuid)).isSome

def isLive (db : Db) (node : NodeId) (uuid : ServerId) : Bool :=
  resides db node uuid || isTargetCopy db node uuid

/-- A transaction puts a server on the node, sends one there, or revives a transfer to it. -/
def brings (db : Db) (node : NodeId) : Tx → Bool
  | .createOnNode _ _ target .. | .initiateTransfer _ _ _ target .. => target == node
  | .setTransferStatus id .. | .handleResult _ _ id true _ =>
    (db.transfers.get? id).any fun t => t.targetNodeId == node && !t.status.isActive
  | _ => false

/-- The same, read off the places alone. -/
def Lives (p : Placement) (node : NodeId) (uuid : ServerId) : Prop :=
  (∃ uid, p.place uuid = some (node, uid)) ∨
    ∃ id t, p.transfer id = some t ∧ t.serverId = uuid ∧ t.targetNodeId = node ∧ t.status.isActive

variable {db after : Db} {node : NodeId} {uuid : ServerId} {tx : Tx} {p : Placement}

theorem resides_iff : resides db node uuid ↔ ∃ uid, db.placement.place uuid = some (node, uid) := by
  simp only [resides, Db.placement]
  cases db.server? uuid with
  | none => simp
  | some row => simp [Server.place]

theorem isLive_iff : isLive db node uuid ↔ Lives db.placement node uuid := by
  simp only [isLive, Lives, Bool.or_eq_true, resides_iff]
  constructor
  · rintro (here | copy)
    · exact .inl here
    · obtain ⟨⟨id, t⟩, found⟩ := Option.isSome_iff_exists.mp copy
      obtain ⟨stored, wanted⟩ := Table.find?_some found
      simp only [Bool.and_eq_true, beq_iff_eq, Bool.or_eq_true] at wanted
      obtain ⟨⟨server, target⟩, active | ⟨-, here⟩⟩ := wanted
      · exact .inr ⟨id, t, stored, server, target, active⟩
      · exact .inl (resides_iff.mp here)
  · rintro (here | ⟨id, t, stored, server, target, active⟩)
    · exact .inl here
    · refine .inr ?_
      by_contra missing
      have none := Option.not_isSome_iff_eq_none.mp missing
      simpa [server, target, active] using Table.find?_none none stored

theorem Lives.tracked {id : TransferId} {t : ServerTransfer}
    (lives : Lives (p.tracked id t) node uuid)
    (known : t.targetNodeId = node → t.status.isActive → Lives p node t.serverId) :
    Lives p node uuid := by
  rcases lives with here | ⟨other, row, stored, server, target, active⟩
  · exact .inl here
  · by_cases same : other = id
    · obtain rfl : t = row := by simpa [Placement.tracked, same] using stored
      exact server ▸ known target active
    · exact .inr ⟨other, row, by simpa [Placement.tracked, same] using stored, server, target, active⟩

variable {server : ServerId}

theorem Lives.settled {place : NodeId × Option Nat}
    (lives : Lives (p.settled server place) node uuid)
    (known : place.1 = node → Lives p node server) : Lives p node uuid := by
  rcases lives with ⟨uid, here⟩ | flying
  · by_cases same : uuid = server
    · obtain rfl : place = (node, uid) := by simpa [Placement.settled, same] using here
      exact same ▸ known rfl
    · exact .inl ⟨uid, by simpa [Placement.settled, same] using here⟩
  · exact .inr flying

theorem Lives.forgotten (lives : Lives (p.forgotten server) node uuid) :
    Lives p node uuid := by
  rcases lives with ⟨uid, here⟩ | ⟨id, t, stored, rest⟩
  · by_cases same : uuid = server
    · simp [Placement.forgotten, same] at here
    · exact .inl ⟨uid, by simpa [Placement.forgotten, same] using here⟩
  · obtain ⟨kept, -⟩ := Option.filter_eq_some_iff.mp stored
    exact .inr ⟨id, t, kept, rest⟩

theorem PlacementMove.lives (move : PlacementMove db tx p) (lives : Lives p node uuid)
    (nothing : ¬brings db node tx) : Lives db.placement node uuid := by
  -- What a call about a transfer finds is in flight already, or on its way to another node.
  have flying {id : TransferId} {t : ServerTransfer} (stored : db.placement.transfer id = some t)
      (target : t.targetNodeId = node)
      (calm : ¬(db.transfers.get? id).any fun t => t.targetNodeId == node && !t.status.isActive) :
      Lives db.placement node t.serverId := by
    have found : db.transfers.get? id = some t := stored
    have active : t.status.isActive := by simpa [found, target] using calm
    exact .inr ⟨id, t, stored, rfl, target, active⟩
  cases move with
  | kept => exact lives
  | created =>
    exact Lives.settled lives fun same => absurd same (by simpa [brings] using nothing)
  | removed => exact lives.forgotten
  -- The transfer that starts goes elsewhere, since one to the node is brought to it.
  | departed _ _ _ _ _ _ started =>
    refine Lives.tracked lives fun target _ => absurd target ?_
    simpa [started, brings] using nothing
  | @staged transfer stage startedAt t stored =>
    have before (target : t.targetNodeId = node) := flying stored target nothing
    exact lives.tracked fun target _ => before target
  -- A transfer that has ended is not in flight.
  | givenUp => exact Lives.tracked lives fun _ active => by cases active
  | arrived stored | arrivedPortless stored =>
    have still := Lives.tracked lives fun _ active => by cases active
    exact Lives.settled still fun target => flying stored target nothing

theorem isLive_of_commit (lives : isLive (commit db tx) node uuid) (nothing : ¬brings db node tx) :
    isLive db node uuid := by
  unfold commit at lives
  split at lives
  · rename_i executed
    exact isLive_iff.mpr
      (PlacementMove.lives (exec_placement executed) (isLive_iff.mp lives) nothing)
  · exact lives

end Live

section Sweeps

def Call.sweeps : Call → Option ServerId
  | unregister .sweep uuid => some uuid
  | removeContainer .sweep id => id.uuid
  | _ => none

/--
The list is asked for while no transfer to the node is in flight, and from then on until the sweep
is over no transaction brings anything to the node.
-/
def respectsSweep (s : State) (_ : Task) (call : Call) (_ : Choice) : Bool :=
  match call with
  | .listServers => (s.db.transfers.find? fun _ t => t.targetNodeId == s.node &&
      t.status.isActive && !resides s.db s.node t.serverId).isNone
  | .transact tx => s.sweeping.isEmpty || !brings s.db s.node tx
  | _ => true

/-- A goroutine sweeps with the list it was given. -/
inductive Mode where
  | idle
  | sweeping (known : List ServerId)

def discipline : Discipline Task Mode Call.Answer where
  permits mode call := ∀ uuid, call.sweeps = some uuid → ∃ known, mode = .sweeping known ∧ uuid ∉ known
  moves _ mode call answer after :=
    match call with
    | .listServers =>
      match (answer : Option (List ServerId)) with
      | none => after = mode
      | some known => after = .sweeping known
    | .listManaged =>
      match (answer : Option (List ManagedContainer)) with
      | none => after = .idle
      | some _ => after = mode
    | .reportInventory => after = .idle
    | _ => after = mode

variable {task : Task} {uuid : ServerId} {mode : Mode}

/-- A call that leaves its goroutine in whatever mode it is in. -/
def Call.isPlain : Call → Bool
  | listServers | listManaged | reportInventory => false
  | call => call.sweeps.isNone

theorem follows_plain {call : Call} (plain : call.isPlain) :
    Follows discipline task mode (ask call) fun _ after => after = mode := by
  refine follows_perform.mpr ⟨fun uuid sweeps => ?_, fun answer after moves => ?_⟩
  · cases call <;> simp_all [Call.isPlain, Call.sweeps]
  · cases call <;> first | exact moves | cases plain

theorem follows_remove : Follows discipline task mode (remove uuid) fun _ after => after = mode := by
  refine follows_after (follows_plain rfl) fun found => ?_
  cases found with
  | none => rfl
  | some id => exact follows_plain rfl

theorem follows_create : Follows discipline task mode (create uuid) fun _ after => after = mode :=
  follows_after (follows_plain rfl) fun _ => rfl

theorem follows_createAfter (work : External) :
    Follows discipline task mode (createAfter work uuid) fun _ after => after = mode := by
  refine follows_after (follows_plain rfl) fun done => ?_
  split
  · rfl
  · exact follows_create

theorem follows_reinstall :
    Follows discipline task mode (reinstall uuid) fun _ after => after = mode := by
  refine follows_after (follows_plain rfl) fun stopped => ?_
  split
  · rfl
  refine follows_after follows_remove fun removed => ?_
  split
  · rfl
  · exact follows_create

theorem follows_prepareContainer :
    Follows discipline task mode (prepareContainer uuid) fun _ after => after = mode := by
  refine follows_after (follows_plain rfl) fun registered => ?_
  split
  · refine follows_after (follows_plain rfl) fun pulled => ?_
    split
    · rfl
    · exact follows_reinstall
  · refine follows_after (follows_plain rfl) fun entered => ?_
    split
    · rfl
    refine follows_after (follows_createAfter .pull) fun created => ?_
    split
    · rfl
    · exact follows_after (follows_plain rfl) fun _ => rfl

theorem follows_install : Follows discipline task mode (install uuid) fun _ after => after = mode := by
  refine follows_after (follows_plain rfl) fun made => ?_
  cases made with
  | none => rfl
  | some installer =>
    refine follows_after (follows_plain rfl) fun _ => ?_
    refine follows_after (follows_plain rfl) fun installed => ?_
    exact follows_after (follows_plain rfl) fun _ => rfl

theorem follows_handleCreateServer (node : NodeId) (now : Time) :
    Follows discipline task mode (handleCreateServer node now uuid) fun _ after => after = mode := by
  refine follows_after follows_prepareContainer fun prepared => ?_
  split
  · refine follows_after follows_install fun installed => ?_
    exact follows_after (follows_plain rfl) fun _ => rfl
  · rfl

theorem follows_handleTransferImport (node : NodeId) (now : Time) (transfer : TransferId) :
    Follows discipline task mode (handleTransferImport node now transfer uuid)
      fun _ after => after = mode := by
  refine follows_after (follows_plain rfl) fun entered => ?_
  split
  · rfl
  refine follows_after (follows_plain rfl) fun pulled => ?_
  split
  · exact follows_after (follows_plain rfl) fun _ => rfl
  refine follows_after (follows_createAfter .fetchAndRestore) fun imported => ?_
  split
  · exact follows_after (follows_plain rfl) fun _ => rfl
  · refine follows_after follows_remove fun _ => ?_
    refine follows_after (follows_plain rfl) fun _ => ?_
    exact follows_after (follows_plain rfl) fun _ => rfl

theorem follows_killIfRunning (c : ManagedContainer) :
    Follows discipline task mode (killIfRunning c) fun _ after => after = mode := by
  unfold killIfRunning
  split
  · exact follows_plain rfl
  · rfl

theorem follows_listManaged :
    Follows discipline task .idle (ask .listManaged) fun _ after => after = .idle := by
  refine follows_perform.mpr ⟨nofun, fun answer after moves => ?_⟩
  cases answer <;> exact moves

theorem follows_handleDeleteServer :
    Follows discipline task .idle (handleDeleteServer uuid) fun _ after => after = .idle := by
  refine follows_after (follows_plain rfl) fun registered => ?_
  split
  · refine follows_after follows_remove fun removed => ?_
    split
    · exact follows_plain rfl
    · rfl
  · refine follows_after follows_listManaged fun listed => ?_
    cases listed with
    | none => rfl
    | some list =>
      dsimp only
      split
      · rfl
      refine follows_after (follows_killIfRunning _) fun killed => ?_
      split
      · rfl
      · exact follows_after (follows_plain rfl) fun _ => rfl

theorem follows_adoptAll (list : List ManagedContainer) :
    Follows discipline task mode (adoptAll list) fun _ after => after = mode := by
  induction list with
  | nil => rfl
  | cons c rest ih =>
    unfold adoptAll
    split
    · exact ih
    split
    · exact ih
    refine follows_after (follows_plain rfl) fun entered => ?_
    split
    · exact ih
    · rfl

theorem follows_removeOrphan {known : List ServerId} {orphan : ManagedContainer}
    (unknown : ∀ uuid, orphan.id.uuid = some uuid → uuid ∉ known) :
    Follows discipline task (.sweeping known) (removeOrphan orphan)
      fun _ after => after = .sweeping known := by
  refine follows_after (follows_killIfRunning orphan) fun killed => ?_
  split
  · rfl
  have removes : Follows discipline task (.sweeping known)
      (ask (.removeContainer .sweep orphan.id)) fun _ after => after = .sweeping known :=
    follows_perform.mpr ⟨fun uuid label => ⟨known, rfl, unknown uuid label⟩, fun _ _ moves => moves⟩
  refine follows_after removes fun removed => ?_
  split
  · rfl
  split
  · rfl
  · rename_i uuid label
    refine follows_perform.mpr ⟨?_, fun _ _ moves => moves⟩
    rintro _ ⟨⟩
    exact ⟨known, rfl, unknown uuid label⟩

/-- A sweep takes away only what the list did not name. -/
theorem follows_reconcile : Follows discipline task .idle reconcile fun _ after => after = .idle := by
  refine follows_bind.mpr (follows_perform.mpr ⟨nofun, fun listed after moves => ?_⟩)
  cases listed with
  | none => exact moves
  | some known =>
    obtain rfl : after = .sweeping known := moves
    refine follows_bind.mpr (follows_perform.mpr ⟨nofun, fun listed after moves => ?_⟩)
    cases listed with
    | none => exact moves
    | some list =>
      obtain rfl : after = .sweeping known := moves
      refine follows_after (follows_forM fun orphan member => ?_) fun _ => ?_
      · have unknown := (List.mem_filter.mp member).2
        refine follows_removeOrphan fun uuid label => ?_
        simpa [label] using unknown
      · exact follows_perform.mpr ⟨nofun, fun _ _ moves => moves⟩

theorem follows_code (node : NodeId) (task : Task) :
    Follows discipline task .idle (task.code node) fun _ after => after = .idle := by
  cases task with
  | transaction tx => exact follows_after (follows_plain rfl) fun _ => rfl
  | createServer now uuid => exact follows_handleCreateServer node now
  | importTransfer now transfer uuid => exact follows_handleTransferImport node now transfer
  | deleteServer uuid => exact follows_handleDeleteServer
  | boot =>
    refine follows_after follows_listManaged fun listed => ?_
    cases listed with
    | none => rfl
    | some list => exact follows_adoptAll list
  | reconcile => exact follows_reconcile
  | power id running =>
    cases running <;> exact follows_after (follows_plain rfl) fun _ => rfl

end Sweeps

section Invariant

/-- Every sweep under way was given a list that still names every live server. -/
def Current (node : NodeId) (s : State) (modes : Nat → Mode) : Prop :=
  s.node = node ∧ ∀ thread known, modes thread = .sweeping known →
    thread ∈ s.sweeping ∧ ∀ uuid, isLive s.db node uuid → uuid ∈ known

variable {node : NodeId} {s s' : State} {modes : Nat → Mode} {thread : Nat}

theorem Current.frame (current : Current node s modes) (sameDb : s'.db = s.db)
    (sameNode : s'.node = s.node) (sameSweeps : s'.sweeping = s.sweeping) :
    Current node s' (update modes thread (modes thread)) := by
  rw [update_eq_self]
  refine ⟨sameNode.trans current.1, ?_⟩
  rw [sameDb, sameSweeps]
  exact current.2

theorem Current.swept (current : Current node s modes) :
    Current node (s.swept thread) (update modes thread .idle) := by
  refine ⟨current.1, fun other known mode => ?_⟩
  by_cases same : other = thread
  · simp [same] at mode
  · rw [update_of_ne same] at mode
    obtain ⟨member, complete⟩ := current.2 other known mode
    exact ⟨List.mem_filter.mpr ⟨member, by simpa using same⟩, complete⟩

variable {uuid : ServerId}

theorem mem_listServerUuids {db : Db} (here : resides db node uuid) :
    uuid ∈ listServerUuids db node := by
  simp only [resides, Db.server?, Option.any_map] at here
  cases stored : db.servers.get? uuid with
  | none => simp [stored] at here
  | some row =>
    have onNode : row.val.nodeId = node := by simpa [stored] using here
    exact List.mem_map.mpr ⟨(uuid, row), Table.mem_filter_iff.mpr ⟨stored, by simpa using onNode⟩, rfl⟩

/-- With no transfer in flight to the node, the live servers are those that have their row there. -/
theorem resides_of_isLive {db : Db}
    (grounded : (db.transfers.find? fun _ t => t.targetNodeId == node && t.status.isActive &&
      !resides db node t.serverId).isNone) (lives : isLive db node uuid) :
    resides db node uuid := by
  rcases isLive_iff.mp lives with here | ⟨id, t, stored, rfl, target, active⟩
  · exact resides_iff.mpr here
  · have none := Table.find?_none (Option.isNone_iff_eq_none.mp grounded) stored
    simpa [target, active] using none

/-- The list of a sweep names every live server until the sweep is done. -/
theorem current_sustained : Sustained answer? respectsSweep discipline (Current node) := by
  intro s modes thread task call choice answer s' current allowed _ answers
  cases call with
  | transact tx =>
    cases answers
    refine ⟨modes thread, rfl, ?_⟩
    split
    · rw [update_eq_self]
      refine ⟨current.1, fun other known mode => ?_⟩
      obtain ⟨member, complete⟩ := current.2 other known mode
      -- A sweep is under way, so the transaction brings nothing that its list could lack.
      have nothing : ¬brings s.db s.node tx := by
        have busy : s.sweeping ≠ [] := List.ne_nil_of_mem member
        simpa [respectsSweep, busy] using allowed
      rw [current.1] at nothing
      exact ⟨member, fun uuid lives => complete uuid (isLive_of_commit lives nothing)⟩
    · exact current.frame rfl rfl rfl
  | listServers =>
    simp only [answer?] at answers
    split at answers
    · cases answers
      refine ⟨_, rfl, current.1, fun other known mode => ?_⟩
      by_cases same : other = thread
      -- The list is new and names every row of the node; no transfer adds a live server to these.
      · obtain rfl : listServerUuids s.db s.node = known := by simpa [same] using mode
        refine ⟨by simp [same], fun uuid lives => ?_⟩
        rw [respectsSweep, current.1] at allowed
        rw [current.1]
        exact mem_listServerUuids (resides_of_isLive allowed lives)
      · rw [update_of_ne same] at mode
        obtain ⟨member, complete⟩ := current.2 other known mode
        exact ⟨List.mem_cons_of_mem _ member, complete⟩
    · cases answers
      exact ⟨_, rfl, current.frame rfl rfl rfl⟩
  | listManaged =>
    simp only [answer?] at answers
    split at answers
    · cases answers
      exact ⟨_, rfl, current.frame rfl rfl rfl⟩
    · cases answers
      exact ⟨_, rfl, current.swept⟩
  | reportInventory =>
    cases answers
    exact ⟨_, rfl, current.swept⟩
  | register uuid =>
    simp only [answer?] at answers
    split at answers <;> cases answers <;> exact ⟨_, rfl, current.frame rfl rfl rfl⟩
  | createContainer | startContainer | killContainer | removeContainer =>
    cases answers
    refine ⟨_, rfl, ?_⟩
    split <;> exact current.frame rfl rfl rfl
  | get | unregister | containerOf | attempt =>
    cases answers
    exact ⟨_, rfl, current.frame rfl rfl rfl⟩

end Invariant

/-- The server whose container or entry a goroutine is about to sweep away. -/
def sweepsNext (site : Activity) (thread : Nat) : Option ServerId :=
  match site.threads[thread]? with
  | some (_, .ask call _) => call.sweeps
  | _ => none

/--
In every run on a node that respects its sweeps, whatever a sweep is about to remove or to
unregister belongs to no live server at that moment.
-/
theorem sweep_spares_live_servers (db : Db) (node : NodeId) (containers : List ManagedContainer)
    (registry : List ServerId) (fresh : Nat) (turns : List Turn)
    (respected : Guarded (step node) (fun site turn => site.allows respectsSweep turn = true)
      (quiet db node containers registry fresh) turns) (thread : Nat) (uuid : ServerId)
    (about : sweepsNext (run (step node) (quiet db node containers registry fresh) turns) thread =
      some uuid) :
    isLive (run (step node) (quiet db node containers registry fresh) turns).shared.db node uuid =
      false := by
  -- Nobody sweeps at first, so every list that is in use is current.
  have moded : (quiet db node containers registry fresh).Moded discipline .idle (Current node) :=
    .of_idle ⟨rfl, nofun⟩
  obtain ⟨modes, current, follow, -⟩ := moded.run (follows_code node) current_sustained respected
  unfold sweepsNext at about
  split at about
  · -- The mode of the goroutine that is about to act holds the list it was given.
    rename_i task call next found
    obtain ⟨known, mode, unknown⟩ := (follow thread task _ found).1 uuid about
    obtain ⟨-, complete⟩ := current.2 thread known mode
    exact Bool.eq_false_iff.mpr fun lives => unknown (complete uuid lives)
  · cases about

section Samples

def works (thread : Nat) : Turn := .turn thread .succeeds

/-- A sweep finds the container of a server that is gone, and a plan changes in the meantime. -/
def sampleOrphan : List Turn := [.start .reconcile, works 0, works 0,
  .start (.transaction (.updatePlan 1 {})), works 1]

theorem sample_sweep_spares_live_servers :
    isLive (run (step 1) (quiet samplePanel 1 [⟨⟨7, some 9, false⟩, false⟩] [9] 8)
      sampleOrphan).shared.db 1 9 = false :=
  sweep_spares_live_servers samplePanel 1 [⟨⟨7, some 9, false⟩, false⟩] [9] 8 sampleOrphan
    (by decide +kernel) 0 9 (by decide +kernel)

def sampleCreation : Tx :=
  .createOnNode 0 { ownerId := 1, planId := 1, name := some "survival" } 1 (some sampleTemplate)
    ⟨1, ["a1b2c3d4"]⟩

/-- The sweep gets its list, a server is created and its container made, the sweep goes on. -/
def sampleLateList : Activity :=
  run (step 1) (quiet samplePanel 1 [] [] 0) [.start .reconcile, works 0,
    .start (.transaction sampleCreation), works 1, .start (.createServer 1 1), works 2, works 2,
    works 2, works 2, works 0]

/-- The target of a transfer has made its copy and is about to report it when a sweep runs. -/
def sampleCopy : Activity :=
  run (step 2) (quiet (run commit samplePanel sampleTransfer) 2 [] [] 0) [
    .start (.importTransfer 12 1 1), works 0, works 0, works 0, works 0, .start .reconcile,
    works 1, works 1]

/--
A server that is created after the sweep got its list loses its container, and so does the copy
of a transfer whose result has not been reported yet.
-/
theorem sweep_removes_live_servers :
    (sweepsNext sampleLateList 0 = some 1 ∧ isLive sampleLateList.shared.db 1 1 ∧
      sampleLateList.shared.containers = [⟨⟨0, some 1, false⟩, false⟩] ∧
      (step 1 sampleLateList (works 0)).shared.containers = []) ∧
    sweepsNext sampleCopy 1 = some 1 ∧ isLive sampleCopy.shared.db 2 1 ∧
      sampleCopy.shared.containers = [⟨⟨0, some 1, false⟩, false⟩] ∧
      (step 2 sampleCopy (works 1)).shared.containers = [] := by
  decide +kernel

end Samples

end PxHost.Site
