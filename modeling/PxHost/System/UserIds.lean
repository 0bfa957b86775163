import PxHost.System.PortOwnership

/-! Which user ids servers are given on a node, and when one of them is given out again. -/

namespace PxHost

open Store Machine

/-- The user ids of a node that are given out: to the servers on it, and to those on their way. -/
def Db.assignedUids (db : Db) (node : NodeId) : List (ServerId × Nat) :=
  (db.servers.filter fun _ s => s.val.nodeId == node).filterMap
      (fun row => row.2.val.uid.map (row.1, ·)) ++
    (db.transfers.filter fun _ t => t.targetNodeId == node).filterMap
      fun row => row.2.targetUid.map (row.2.serverId, ·)

def Db.Assigned (db : Db) (server : ServerId) (node : NodeId) (uid : Nat) : Prop :=
  (server, uid) ∈ db.assignedUids node

instance (db : Db) (server : ServerId) (node : NodeId) (uid : Nat) :
    Decidable (db.Assigned server node uid) :=
  inferInstanceAs (Decidable (_ ∈ db.assignedUids node))

/-- A transfer reserves an id for its server on the node it leads to. -/
def ServerTransfer.Promises (t : ServerTransfer) (server : ServerId) (node : NodeId) (uid : Nat) :
    Prop :=
  t.serverId = server ∧ t.targetNodeId = node ∧ t.targetUid = some uid

variable {db after : Db} {tx : Tx} {server : ServerId} {node : NodeId} {uid : Nat}

/-- An id is given out by the row of a server or by that of a transfer. -/
theorem assigned_iff :
    db.Assigned server node uid ↔ db.placement.place server = some (node, some uid) ∨
      ∃ id t, db.placement.transfer id = some t ∧ t.Promises server node uid := by
  have held : (server, uid) ∈ (db.servers.filter fun _ s => s.val.nodeId == node).filterMap
        (fun row => row.2.val.uid.map (row.1, ·)) ↔
      db.placement.place server = some (node, some uid) := by
    simp only [List.mem_filterMap, Option.map_eq_some_iff, Prod.mk.injEq]
    constructor
    · rintro ⟨⟨id, row⟩, listed, uid', given, rfl, rfl⟩
      obtain ⟨stored, here⟩ := Table.mem_filter_iff.mp listed
      have onNode : row.val.nodeId = node := by simpa using here
      simpa [Db.placement, Db.server?, stored, Server.place, onNode] using given
    · intro placed
      simp only [Db.placement, Db.server?, Option.map_map, Option.map_eq_some_iff] at placed
      obtain ⟨row, stored, place⟩ := placed
      obtain ⟨here, given⟩ := Prod.mk.inj place
      exact ⟨(server, row), Table.mem_filter_iff.mpr ⟨stored, by simpa using here⟩, uid, given, rfl, rfl⟩
  have promised : (server, uid) ∈ (db.transfers.filter fun _ t => t.targetNodeId == node).filterMap
        (fun row => row.2.targetUid.map (row.2.serverId, ·)) ↔
      ∃ id t, db.placement.transfer id = some t ∧ t.Promises server node uid := by
    simp only [List.mem_filterMap, Option.map_eq_some_iff, Prod.mk.injEq]
    constructor
    · rintro ⟨⟨id, t⟩, listed, uid', given, own, rfl⟩
      obtain ⟨stored, here⟩ := Table.mem_filter_iff.mp listed
      exact ⟨id, t, stored, own, by simpa using here, given⟩
    · rintro ⟨id, t, stored, own, here, given⟩
      exact ⟨(id, t), Table.mem_filter_iff.mpr ⟨stored, by simpa using here⟩, uid, given, own, rfl⟩
  rw [Db.Assigned, Db.assignedUids, List.mem_append, held, promised]

/-- The next id is above those of the servers on the node. -/
theorem lt_nextUid (placed : db.placement.place server = some (node, some uid)) :
    uid < nextUid db node := by
  simp only [Db.placement, Db.server?, Option.map_map, Option.map_eq_some_iff] at placed
  obtain ⟨row, stored, place⟩ := placed
  obtain ⟨here, given⟩ := Prod.mk.inj place
  have listed : uid ∈ (db.servers.filter fun _ s => s.val.nodeId == node).filterMap (·.2.val.uid) :=
    List.mem_filterMap.mpr
      ⟨(server, row), Table.mem_filter_iff.mpr ⟨stored, by simpa using here⟩, given⟩
  unfold nextUid
  dsimp only
  cases highest : ((db.servers.filter fun _ s => s.val.nodeId == node).filterMap
      (·.2.val.uid)).max? with
  | none =>
    rw [List.max?_eq_none_iff.mp highest] at listed
    cases listed
  | some top =>
    have most := (List.max?_eq_some_iff.mp highest).2 uid listed
    simp only [Option.getD_some]
    omega

/-- Another server was given a higher id on the node. -/
def Db.outranked (db : Db) (id : ServerId) (node : NodeId) (uid : Nat) : Bool :=
  (db.assignedUids node).any fun other => other.1 != id && uid < other.2

theorem exists_of_outranked (outranked : db.outranked server node uid) :
    ∃ other uid', other ≠ server ∧ db.Assigned other node uid' ∧ uid < uid' := by
  obtain ⟨⟨other, uid'⟩, given, higher⟩ := List.any_eq_true.mp outranked
  simp only [Bool.and_eq_true, bne_iff_ne, decide_eq_true_eq] at higher
  exact ⟨other, uid', higher.1, given, higher.2⟩

/-- The ids that are promised on a node are below the next one there. -/
def Db.drawsApart (db : Db) (node : NodeId) : Bool :=
  db.transfers.rows.all fun row =>
    row.2.targetNodeId != node || row.2.targetUid.all (· < nextUid db node)

/--
An id is drawn on a node only above those promised there, and whoever is removed from a node or
leaves it is outranked there.
-/
def Tx.sparesUids (db : Db) : Tx → Bool
  | .createOnNode _ _ node _ _ => db.drawsApart node
  | .initiateTransfer _ _ _ target _ _ => db.drawsApart target
  | .removeServer id =>
    ((db.server? id).all fun s => s.uid.all (db.outranked id s.nodeId)) &&
      db.transfers.rows.all fun row =>
        row.2.serverId != id || row.2.targetUid.all (db.outranked id row.2.targetNodeId)
  | .handleResult _ node transfer true _ => (db.transfers.get? transfer).all fun t =>
    t.targetNodeId != node ||
      (db.server? t.serverId).all fun s => s.uid.all (db.outranked t.serverId s.nodeId)
  | _ => true

/-- The id is above all that are given out on the node. -/
def Db.Above (db : Db) (node : NodeId) (uid : Nat) : Prop :=
  ∀ server uid', db.Assigned server node uid' → uid' < uid

/-- An id that is drawn apart is above all that are given out. -/
theorem above_nextUid (apart : db.drawsApart node) : db.Above node (nextUid db node) := by
  intro server uid given
  rcases assigned_iff.mp given with placed | ⟨id, t, stored, -, here, promised⟩
  · exact lt_nextUid placed
  · have checked := List.all_eq_true.mp apart (id, t) (Table.get?_eq_some_iff.mp stored)
    simpa [here, promised] using checked

/-- What one transaction does to the user ids. -/
structure UidStep (db after : Db) : Prop where
  rises : ∀ {server node uid}, db.Assigned server node uid →
    ∃ server' uid', after.Assigned server' node uid' ∧ uid ≤ uid'
  old : ∀ {server node uid}, after.Assigned server node uid →
    db.Assigned server node uid ∨ db.Above node uid
  new : ∀ {server server' node uid}, after.Assigned server node uid →
    after.Assigned server' node uid → db.Above node uid → server = server'

/-- A transaction that gives out nothing new, and takes back only what is outranked. -/
theorem UidStep.of_kept
    (kept : ∀ {s n u}, db.Assigned s n u → after.Assigned s n u ∨
      s = server ∧ db.outranked server n u)
    (others : ∀ {s n u}, s ≠ server → db.Assigned s n u → after.Assigned s n u)
    (old : ∀ {s n u}, after.Assigned s n u → db.Assigned s n u) : UidStep db after where
  rises := by
    intro s n u given
    rcases kept given with stays | ⟨rfl, outranked⟩
    · exact ⟨s, u, stays, le_rfl⟩
    · obtain ⟨other, u', different, given', higher⟩ := exists_of_outranked outranked
      exact ⟨other, u', others different given', higher.le⟩
  old given := .inl (old given)
  new given _ above := absurd (above _ _ (old given)) (lt_irrefl _)

/-- A transaction that gives out one id, above all others on its node. -/
theorem UidStep.of_drawn (above : db.Above node uid)
    (same : ∀ {s n u}, after.Assigned s n u ↔
      db.Assigned s n u ∨ s = server ∧ n = node ∧ u = uid) : UidStep db after where
  rises given := ⟨_, _, same.mpr (.inl given), le_rfl⟩
  old := by
    intro s n u given
    refine (same.mp given).imp_right ?_
    rintro ⟨rfl, rfl, rfl⟩
    exact above
  new := by
    intro s s' n u given given' higher
    -- Nobody had the id before, so that both are the server it was drawn for.
    have drawn {s : ServerId} (given : after.Assigned s n u) : s = server :=
      ((same.mp given).resolve_left fun before => lt_irrefl _ (higher _ _ before)).1
    rw [drawn given, drawn given']

/-- A transfer that is rewritten promises what it promised. -/
theorem promises_update {transfer : TransferId} {t t' : ServerTransfer} {p : Placement}
    (stored : p.transfer transfer = some t)
    (same : ∀ s n u, t'.Promises s n u ↔ t.Promises s n u) (s : ServerId) (n : NodeId) (u : Nat) :
    (∃ id t₀, Function.update p.transfer transfer (some t') id = some t₀ ∧ t₀.Promises s n u) ↔
      ∃ id t₀, p.transfer id = some t₀ ∧ t₀.Promises s n u := by
  constructor
  · rintro ⟨id, t₀, found, promises⟩
    by_cases own : id = transfer
    · subst own
      obtain rfl : t' = t₀ := by simpa using found
      exact ⟨id, t, stored, (same s n u).mp promises⟩
    · exact ⟨id, t₀, by simpa [own] using found, promises⟩
  · rintro ⟨id, t₀, found, promises⟩
    by_cases own : id = transfer
    · subst own
      obtain rfl : t = t₀ := Option.mem_unique stored found
      exact ⟨id, t', by simp, (same s n u).mpr promises⟩
    · exact ⟨id, t₀, by simpa [own] using found, promises⟩

/-- Where no id is given out or taken back, nothing happens to the ids. -/
theorem UidStep.of_same (same : ∀ {s n u}, after.Assigned s n u ↔ db.Assigned s n u) :
    UidStep db after :=
  @UidStep.of_kept db after 0 (fun given => .inl (same.mpr given)) (fun _ given => same.mpr given)
    fun given => same.mp given

/-- A server arrives with the id it was promised, and gives up the one it had. -/
theorem UidStep.of_arrived {transfer : TransferId} {t : ServerTransfer} {now : Time}
    (stored : db.placement.transfer transfer = some t)
    (leaves : (db.server? t.serverId).all fun s => s.uid.all (db.outranked t.serverId s.nodeId))
    (places : after.placement.place = Function.update db.placement.place t.serverId
      (some (t.targetNodeId, t.targetUid)))
    (transfers : after.placement.transfer = Function.update db.placement.transfer transfer
      (some (t.succeeded now))) : UidStep db after := by
  have promises : ∀ s n u, _ :=
    @promises_update transfer t (t.succeeded now) db.placement stored fun _ _ _ => Iff.rfl
  refine @UidStep.of_kept db after t.serverId ?_ ?_ ?_
  · intro s n u given
    rcases assigned_iff.mp given with placed | promised
    · by_cases own : s = t.serverId
      · subst own
        refine .inr ⟨rfl, ?_⟩
        simp only [Db.placement, Option.map_eq_some_iff] at placed
        obtain ⟨row, found, place⟩ := placed
        obtain ⟨rfl, held⟩ := Prod.mk.inj place
        have uid : row.uid = some u := held
        simpa [found, uid] using leaves
      · exact .inl (assigned_iff.mpr (.inl (by simpa [places, own] using placed)))
    · exact .inl (assigned_iff.mpr (.inr (by simpa [transfers] using (promises s n u).mpr promised)))
  · intro s n u own given
    refine assigned_iff.mpr ((assigned_iff.mp given).imp (fun placed => ?_) fun promised => ?_)
    · simpa [places, own] using placed
    · simpa [transfers] using (promises s n u).mpr promised
  · intro s n u given
    rcases assigned_iff.mp given with placed | promised
    · by_cases own : s = t.serverId
      · subst own
        obtain ⟨rfl, identified⟩ : t.targetNodeId = n ∧ t.targetUid = some u := by
          simpa [places] using placed
        exact assigned_iff.mpr (.inr ⟨transfer, t, stored, rfl, rfl, identified⟩)
      · exact assigned_iff.mpr (.inl (by simpa [places, own] using placed))
    · exact assigned_iff.mpr (.inr ((promises s n u).mp (by simpa [transfers] using promised)))

/-- Where a transfer is only rewritten, nothing happens to the ids. -/
theorem UidStep.of_tracked {transfer : TransferId} {t t' : ServerTransfer}
    (stored : db.placement.transfer transfer = some t)
    (same : ∀ s n u, t'.Promises s n u ↔ t.Promises s n u)
    (places : after.placement.place = db.placement.place)
    (transfers : after.placement.transfer =
      Function.update db.placement.transfer transfer (some t')) : UidStep db after := by
  refine .of_same fun {s n u} => ?_
  rw [assigned_iff, assigned_iff, places, transfers, promises_update stored same]

/-- A server that is created draws the next id of its node. -/
theorem UidStep.of_created (apart : db.drawsApart node)
    (unused : db.placement.place server = none)
    (places : after.placement.place = Function.update db.placement.place server
      (some (node, some (nextUid db node))))
    (transfers : after.placement.transfer = db.placement.transfer) : UidStep db after := by
  refine @UidStep.of_drawn db after server node _ (above_nextUid apart) fun {s n u} => ?_
  rw [assigned_iff, assigned_iff, places, transfers, or_right_comm]
  refine or_congr_left ?_
  by_cases own : s = server
  · subst own
    simp [unused, eq_comm]
  · simp [own]

/-- A server that departs is promised the next id of the node it is going to. -/
theorem UidStep.of_departed {transfer : TransferId} {t : ServerTransfer} (apart : db.drawsApart node)
    (unused : db.placement.transfer transfer = none)
    (started : ∀ s n u, t.Promises s n u ↔ s = server ∧ n = node ∧ u = nextUid db node)
    (places : after.placement.place = db.placement.place)
    (transfers : after.placement.transfer =
      Function.update db.placement.transfer transfer (some t)) : UidStep db after := by
  refine @UidStep.of_drawn db after server node _ (above_nextUid apart) fun {s n u} => ?_
  rw [assigned_iff, assigned_iff, places, transfers, or_assoc]
  refine or_congr_right ⟨?_, ?_⟩
  · rintro ⟨id, t', found, promises⟩
    by_cases own : id = transfer
    · subst own
      obtain rfl : t = t' := by simpa using found
      exact .inr ((started s n u).mp promises)
    · exact .inl ⟨id, t', by simpa [own] using found, promises⟩
  · rintro (⟨id, t', found, promises⟩ | drawn)
    · have own : id ≠ transfer := by
        rintro rfl
        rw [unused] at found
        cases found
      exact ⟨id, t', by simpa [own] using found, promises⟩
    · exact ⟨transfer, t, by simp, (started s n u).mpr drawn⟩

/-- A server that is removed is outranked wherever it was or was going. -/
theorem UidStep.of_removed (spares : Tx.sparesUids db (.removeServer server))
    (moved : after.placement = db.placement.forgotten server) : UidStep db after := by
  simp only [Tx.sparesUids, Bool.and_eq_true, List.all_eq_true] at spares
  have others {s n u} (different : s ≠ server) (given : db.Assigned s n u) :
      after.Assigned s n u := by
    rw [assigned_iff, moved]
    refine (assigned_iff.mp given).imp (fun placed => ?_) ?_
    · simpa [Placement.forgotten, different] using placed
    · rintro ⟨id, t, stored, promises⟩
      refine ⟨id, t, ?_, promises⟩
      simp [Placement.forgotten, stored, promises.1, different]
  refine .of_kept (fun {s n u} given => ?_) others fun {s n u} given => ?_
  · by_cases own : s = server
    · subst own
      refine .inr ⟨rfl, ?_⟩
      rcases assigned_iff.mp given with placed | ⟨id, t, stored, own, here, promised⟩
      · simp only [Db.placement, Option.map_eq_some_iff] at placed
        obtain ⟨row, found, place⟩ := placed
        obtain ⟨rfl, held⟩ := Prod.mk.inj place
        have uid : row.uid = some u := held
        simpa [found, uid] using spares.1
      · have checked := spares.2 (id, t) (Table.get?_eq_some_iff.mp stored)
        simpa [own, here, promised] using checked
    · exact .inl (others own given)
  · rw [assigned_iff, moved] at given
    refine assigned_iff.mpr (given.imp (fun placed => ?_) ?_)
    · by_cases own : s = server
      · simp [Placement.forgotten, own] at placed
      · simpa [Placement.forgotten, own] using placed
    · rintro ⟨id, t, stored, promises⟩
      exact ⟨id, t, (Option.filter_eq_some_iff.mp stored).1, promises⟩

/-- A transaction gives out a user id above all that are out, or none. -/
theorem exec_uidStep (executed : exec db tx = .ok after) (spares : tx.sparesUids db) :
    UidStep db after := by
  have move := exec_placement executed
  generalize moved : after.placement = p at move
  cases move with
  | kept => exact .of_same (by simp [assigned_iff, moved])
  | staged stored | givenUp called stored =>
    have transfers := congrArg Placement.transfer moved
    refine .of_tracked stored ?_ (by rw [moved]; rfl) transfers
    exact fun _ _ _ => Iff.rfl
  | created unused => exact .of_created spares unused (by rw [moved]; rfl) (by rw [moved]; rfl)
  | @departed now server read target requested transfer port a t known unused alone stored onNode
      free started =>
    have promises (s : ServerId) (n : NodeId) (u : Nat) :
        t.Promises s n u ↔ s = server ∧ n = target ∧ u = nextUid db target := by
      rw [started]
      simp only [ServerTransfer.Promises, Option.some.injEq]
      exact and_congr eq_comm (and_congr eq_comm eq_comm)
    exact .of_departed spares unused promises (by rw [moved]; rfl) (by rw [moved]; rfl)
  | removed => exact .of_removed spares moved
  | @arrived now transfer error t port a stored | @arrivedPortless now transfer error t stored =>
    have found : db.transfers.get? transfer = some t := stored
    exact .of_arrived stored (by simpa [Tx.sparesUids, found] using spares) (by rw [moved]; rfl)
      (by rw [moved]; rfl)

theorem commit_uidStep (spares : tx.sparesUids db) : UidStep db (commit db tx) :=
  commit_preserves (P := UidStep db) (.of_same Iff.rfl) fun _ executed => exec_uidStep executed spares

/-- No two servers have, or are promised, one user id on the same node. -/
def DistinctUids (db : Db) : Prop :=
  ∀ {server server' node uid}, db.Assigned server node uid →
    db.Assigned server' node uid → server = server'

theorem UidStep.distinct (step : UidStep db after) (distinct : DistinctUids db) :
    DistinctUids after := by
  intro server server' node uid given given'
  rcases step.old given with before | above
  · rcases step.old given' with before' | above
    · exact distinct before before'
    · exact absurd (above _ _ before) (lt_irrefl _)
  · exact step.new given given' above

/-- Along a run, an id that is not above those of an earlier state belongs to whoever had it then. -/
theorem run_assigned {txs : List Tx} (spared : Guarded commit (fun db tx => tx.sparesUids db) db txs)
    (given : (run commit db txs).Assigned server node uid)
    (reached : ∃ other uid', db.Assigned other node uid' ∧ uid ≤ uid') :
    db.Assigned server node uid := by
  induction txs generalizing db with
  | nil => exact given
  | cons tx rest ih =>
    have step := commit_uidStep spared.1
    obtain ⟨other, uid', before, most⟩ := reached
    obtain ⟨other', uid'', after, higher⟩ := step.rises before
    have here := ih spared.2 given ⟨other', uid'', after, most.trans higher⟩
    exact (step.old here).resolve_right fun above => absurd (above _ _ before) (not_lt.mpr most)

/--
No user id on a node is given to two different servers, whether they are there or on their way there
together or one left before the other came, in every run in which nobody leaves a node with its
highest id and no id is drawn on a node that is not above those promised there.
-/
theorem uids_are_not_reused (db : Db) (pre post : List Tx) (server server' : ServerId)
    (node : NodeId) (uid : Nat) (distinct : DistinctUids db)
    (spared : Guarded commit (fun db tx => tx.sparesUids db) db (pre ++ post))
    (given : (run commit db pre).Assigned server node uid)
    (given' : (run commit db (pre ++ post)).Assigned server' node uid) :
    server = server' := by
  obtain ⟨sparedPre, sparedPost⟩ := guarded_append.mp spared
  have apart : DistinctUids (run commit db pre) :=
    invariant_run DistinctUids (fun _ _ before spares => (commit_uidStep spares).distinct before)
      distinct sparedPre
  rw [run_append] at given'
  exact apart given (run_assigned sparedPost given' ⟨server, uid, given, le_rfl⟩)

def sampleTenant (id : ServerId) (shortId : String) : Tx :=
  .createOnNode 14 { ownerId := 1, planId := 1, name := some "creative" } 1 (some sampleTemplate)
    ⟨id, [shortId]⟩

theorem sampleTower_port_checked : Allocation.Checked { nodeId := 1 } := nofun

def sampleTower : Db :=
  { samplePanel with
    allocations :=
      samplePanel.allocations.add 3 ⟨{ nodeId := 1 }, sampleTower_port_checked⟩ (by decide) }

/-- While a younger server stays, the id of a deleted one is not given out again. -/
theorem sample_uids_are_not_reused :
    ¬ (run commit sampleTower (sampleInstalled ++
        [.updatePlan 1 { maxSlots := some (some 2) }, sampleTenant 2 "e5f6a7b8", .removeServer 1,
          sampleTenant 3 "c9d0e1f2"])).Assigned 3 1 100000 := by
  intro reused
  have same := uids_are_not_reused sampleTower sampleInstalled
    [.updatePlan 1 { maxSlots := some (some 2) }, sampleTenant 2 "e5f6a7b8", .removeServer 1,
      sampleTenant 3 "c9d0e1f2"] 1 3 1 100000
    (fun given => nomatch given)
    (by decide +kernel) (by decide +kernel) reused
  simp at same

/-- The id of the only server on a node is given to the next one once it is deleted. -/
theorem uid_is_reused :
    (run commit samplePanel sampleInstalled).Assigned 1 1 100000 ∧
    (run commit samplePanel (sampleInstalled ++ [.removeServer 1,
      sampleTenant 2 "e5f6a7b8"])).Assigned 2 1 100000 := by
  decide +kernel

end PxHost
