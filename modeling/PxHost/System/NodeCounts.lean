import PxHost.System.NodeCapacity

/-! Counting what is on a node takes two queries, and other transactions commit between them. -/

namespace PxHost

open Store Machine Fallible

/-- What a count has found: the servers settled on the node, and then those underway to it. -/
structure Count where
  settled : Dimension → Nat
  inFlight : Option (Dimension → Nat)

/-- The database, and the nodes that are being counted under their locks. -/
structure Counting where
  db : Db
  counts : NodeId → Option Count

/-- The steps of transactions that may wait for the lock of a node. -/
inductive CountingStep where
  /-- A transaction whose reads and writes happen at once. -/
  | commit (tx : Tx)
  /-- A transaction takes the lock of a node and counts the servers on it. -/
  | countSettled (node : NodeId)
  | countInFlight (node : NodeId)
  /-- The transaction that has counted a node does the rest of its work, and commits or not. -/
  | place (tx : Tx)

/-- The node on which a transaction makes room for a server. -/
def Tx.placedOn : Tx → Option NodeId
  | .createOnNode _ _ node _ _ => some node
  | .initiateTransfer _ _ _ target _ _ => some target
  | _ => none

/-- What `usageForNode` makes of its two answers. -/
def countedUsage (settled inFlight : Dimension → Nat) : NodeUsage where
  memoryMb := settled .memory + inFlight .memory
  diskMb := settled .disk + inFlight .disk
  cpuPercent := settled .cpu + inFlight .cpu

/-- Create a server or begin a transfer with a usage that was counted before. -/
def execCounted (db : Db) (usage : NodeUsage) : Tx → Except ApiError Db
  | .createOnNode now dto node context fresh => createOnNode db now dto node context fresh usage
  | .initiateTransfer now id read target allocation transfer =>
    initiate db now id read target allocation transfer usage
  | tx => exec db tx

def Counting.step (s : Counting) : CountingStep → Counting
  -- Whoever needs a lock that is held waits for it.
  | .commit tx =>
    if (tx.locks s.db).any fun node => (s.counts node).isSome then s
    else { s with db := commit s.db tx }
  | .countSettled node =>
    match s.counts node with
    | some _ => s
    | none =>
      let count := ⟨fun d => s.db.servers.sum (serverLoad node d), none⟩
      { s with counts := Function.update s.counts node (some count) }
  | .countInFlight node =>
    match s.counts node with
    | some ⟨settled, none⟩ =>
      let count := ⟨settled, some fun d => s.db.transfers.sum (transferLoad s.db node d)⟩
      { s with counts := Function.update s.counts node (some count) }
    | _ => s
  | .place tx =>
    match tx.placedOn with
    | none => s
    | some node =>
      match s.counts node with
      | some ⟨settled, some inFlight⟩ =>
        { db := match execCounted s.db (countedUsage settled inFlight) tx with
            | .ok committed => committed
            | .error _ => s.db
          counts := Function.update s.counts node none }
      | _ => s

/-- The servers of the node are counted, and those underway to it are not. -/
def Counting.isHalfway (s : Counting) (node : NodeId) : Bool :=
  (s.counts node).any fun count => count.inFlight.isNone

/-- The node on which a server arrives when its transfer has succeeded. -/
def Tx.arrivesOn (db : Db) : Tx → Option NodeId
  | .handleResult _ _ transfer true _ => (db.transfers.get? transfer).map (·.targetNodeId)
  | _ => none

/-- A server arrives only on a node that is not between the two queries of a count. -/
def RespectsCounts (s : Counting) : CountingStep → Bool
  | .commit tx => RespectsCapacity s.db tx && (tx.arrivesOn s.db).all fun node => !s.isHalfway node
  | .place tx => RespectsCapacity s.db tx
  | _ => true

section Placing

variable {db after : Db} {now : Time} {node : NodeId} {usage : NodeUsage}

/-- Who is let in by a count is let in by any lower one. -/
theorem admitOnNode_of_le {texts : AdmissionTexts} {request : ResourceRequest}
    {requested : Option AllocationId} {allocation : AllocationId}
    (most : ∀ d, (usageIn db node d : Int) ≤ usage.get d)
    (lets : admitOnNode texts db now node request requested usage = .ok allocation) :
    admitOnNode texts db now node request requested = .ok allocation := by
  unfold admitOnNode at lets ⊢
  cases found : (db.nodes.get? node).filter (·.deletedAt.isNone) with
  | none => simp [found] at lets
  | some row =>
    simp only [found] at lets ⊢
    split at lets
    · cases lets
    · simp only [bind_eq_ok_iff, assertNodeFits_ok_iff] at lets ⊢
      obtain ⟨u, fits, chosen⟩ := lets
      refine ⟨u, fun d ceiling bounded => ?_, chosen⟩
      have room := fits d ceiling bounded
      have less := most d
      rw [usageForNode_get]
      omega

/-- A count that is not too low decides as the present usage does. -/
theorem execCounted_ok {tx : Tx} (places : tx.placedOn = some node)
    (most : ∀ d, (usageIn db node d : Int) ≤ usage.get d)
    (executed : execCounted db usage tx = .ok after) : exec db tx = .ok after := by
  cases tx with
  | createOnNode now dto node' context fresh =>
    obtain rfl : node' = node := Option.some.inj places
    simp only [execCounted, exec, createOnNode] at executed ⊢
    cases found : (db.plans.get? dto.planId).filter (·.deletedAt.isNone) with
    | none => simp [found] at executed
    | some plan =>
      simp only [found, bind_eq_ok_iff] at executed ⊢
      obtain ⟨u, slots, executed⟩ := executed
      refine ⟨u, slots, ?_⟩
      split at executed
      · cases executed
      · rename_i allowed
        rw [if_neg allowed]
        simp only [placeOnNode, bind_eq_ok_iff] at executed ⊢
        obtain ⟨allocation, lets, rest⟩ := executed
        exact ⟨allocation, admitOnNode_of_le most lets, rest⟩
  | initiateTransfer now id read target requested transfer =>
    obtain rfl : target = node := Option.some.inj places
    simp only [execCounted, exec, initiate, bind_eq_ok_iff] at executed ⊢
    obtain ⟨allocation, lets, rest⟩ := executed
    exact ⟨allocation, admitOnNode_of_le most lets, rest⟩
  | _ => cases places

end Placing

section Counts

variable {db after : Db} {tx : Tx} {node : NodeId}

/-- The servers on a node take more only under its lock, or when one arrives by a transfer. -/
theorem exec_settled_le (linked : Linked db) (executed : exec db tx = .ok after)
    (free : node ∉ tx.locks db) (spared : tx.arrivesOn db ≠ some node) (d : Dimension) :
    after.servers.sum (serverLoad node d) ≤ db.servers.sum (serverLoad node d) := by
  cases tx with
  | createOnNode now dto target context fresh =>
    obtain ⟨plan, created⟩ := createOnNode_ok executed
    obtain ⟨server, unused, allocations, subscriptions, new, -, written⟩ := created.rows
    have rows : after.servers = db.servers.add fresh.id server unused := by rw [written]
    have other : server.val.nodeId ≠ node := by
      rw [new.nodeId]
      exact fun own => free (by simp [Tx.locks, own])
    rw [rows, Table.sum_add]
    simp [serverLoad, Server.settledOn, other]
  | removeServer server =>
    obtain ⟨⟨row, stored⟩, rfl⟩ := removeServer_ok executed
    have servers : (db.removeServer server).servers.sum (serverLoad node d) +
        serverLoad node d server row = db.servers.sum (serverLoad node d) :=
      Table.sum_erase stored (serverLoad node d)
    omega
  | handleResult now reporter transfer successful error =>
    cases successful with
    | false => exact exec_serverLoad_le node d linked executed rfl rfl rfl rfl
    | true =>
      obtain ⟨t, f, status, outcome, ended⟩ := handleResult_ok executed
      obtain ⟨rfl, rfl⟩ := outcome
      obtain ⟨row, ok, allocations, g, found, written, restatus⟩ := ended.rows
      have moved : after.servers = db.servers.modify t.serverId fun _ => ⟨row.val.movedTo t, ok⟩ := by
        rw [written]
      have servers := Table.sum_modify found (fun _ => ⟨row.val.movedTo t, ok⟩) (serverLoad node d)
      -- The server may leave the node, but it does not come to it.
      have gone : serverLoad node d t.serverId ⟨row.val.movedTo t, ok⟩ = 0 := by
        have other : t.targetNodeId ≠ node := by simpa [Tx.arrivesOn, ended.stored] using spared
        simp [serverLoad, Server.settledOn, Server.movedTo, other]
      rw [moved]
      omega
  | applyToServers now planId => exact le_of_eq (applyToServers_unlocked executed free d)
  | _ => exact exec_serverLoad_le node d linked executed rfl rfl rfl rfl

/-- The nodes are within their ceilings, and no count has missed what is there by now. -/
structure CountsHold (s : Counting) : Prop where
  linked : Linked s.db
  within : WithinCapacity s.db
  halfway : ∀ node settled, s.counts node = some ⟨settled, none⟩ →
    ∀ d, s.db.servers.sum (serverLoad node d) ≤ settled d
  counted : ∀ node settled inFlight, s.counts node = some ⟨settled, some inFlight⟩ →
    ∀ d, usageIn s.db node d ≤ settled d + inFlight d

variable {s : Counting}

/-- A transaction that changes the database keeps the counts of the nodes it takes no lock of. -/
theorem CountsHold.exec (holds : CountsHold s) (respects : RespectsCapacity s.db tx)
    (executed : exec s.db tx = .ok after) {counts : NodeId → Option Count}
    (kept : ∀ node count, counts node = some count →
      s.counts node = some count ∧ node ∉ tx.locks s.db ∧
        (count.inFlight = none → tx.arrivesOn s.db ≠ some node)) :
    CountsHold ⟨after, counts⟩ where
  linked := exec_linked holds.linked executed
  within := exec_within holds.linked holds.within respects executed
  halfway := by
    intro node settled counted d
    obtain ⟨before, free, spared⟩ := kept node _ counted
    exact (exec_settled_le holds.linked executed free (spared rfl) d).trans
      (holds.halfway node settled before d)
  counted := by
    intro node settled inFlight counted d
    obtain ⟨before, free, -⟩ := kept node _ counted
    exact (exec_usage_le_of_unlocked holds.linked respects executed free d).trans
      (holds.counted node settled inFlight before d)

/-- Where the database stays, the remaining counts stay right. -/
theorem CountsHold.same (holds : CountsHold s) {counts : NodeId → Option Count}
    (kept : ∀ node count, counts node = some count → s.counts node = some count) :
    CountsHold ⟨s.db, counts⟩ where
  linked := holds.linked
  within := holds.within
  halfway node settled counted := holds.halfway node settled (kept node _ counted)
  counted node settled inFlight counted := holds.counted node settled inFlight (kept node _ counted)

/-- A count that was taken just now is right. -/
theorem CountsHold.count (holds : CountsHold s) {node : NodeId} {count : Count}
    (halfway : count.inFlight = none →
      ∀ d, s.db.servers.sum (serverLoad node d) ≤ count.settled d)
    (counted : ∀ inFlight, count.inFlight = some inFlight →
      ∀ d, usageIn s.db node d ≤ count.settled d + inFlight d) :
    CountsHold { s with counts := Function.update s.counts node (some count) } where
  linked := holds.linked
  within := holds.within
  halfway := by
    intro other settled found
    by_cases own : other = node
    · subst own
      simp only [Function.update_self, Option.some.injEq] at found
      subst found
      exact halfway rfl
    · simp only [Function.update_of_ne own] at found
      exact holds.halfway other settled found
  counted := by
    intro other settled inFlight found
    by_cases own : other = node
    · subst own
      simp only [Function.update_self, Option.some.injEq] at found
      subst found
      exact counted inFlight rfl
    · simp only [Function.update_of_ne own] at found
      exact holds.counted other settled inFlight found

end Counts

section Steps

variable {s : Counting} {tx : Tx} {db : Db} {node : NodeId}

theorem locks_of_placedOn (places : tx.placedOn = some node) : tx.locks db = [node] := by
  cases tx with
  | createOnNode | initiateTransfer =>
    obtain rfl := Option.some.inj places
    rfl
  | _ => cases places

theorem arrivesOn_of_placedOn (places : tx.placedOn = some node) : tx.arrivesOn db = none := by
  cases tx with
  | createOnNode | initiateTransfer => rfl
  | _ => cases places

/-- A server is placed by a count that is not too low: its node stays locked until then. -/
theorem CountsHold.place (holds : CountsHold s) (respects : RespectsCapacity s.db tx) :
    CountsHold (s.step (.place tx)) := by
  simp only [Counting.step]
  split
  · exact holds
  rename_i node places
  split
  · rename_i settled inFlight found
    have remaining : ∀ other count, Function.update s.counts node none other = some count →
        other ≠ node ∧ s.counts other = some count := by
      intro other count counted
      by_cases own : other = node
      · simp [own] at counted
      · exact ⟨own, by rwa [Function.update_of_ne own] at counted⟩
    cases executed : execCounted s.db (countedUsage settled inFlight) tx with
    | error e => exact holds.same fun other count counted => (remaining other count counted).2
    | ok after =>
      -- By this count the transaction does what it would do at once.
      have most : ∀ d, (usageIn s.db node d : Int) ≤ (countedUsage settled inFlight).get d := by
        intro d
        have counted := holds.counted node settled inFlight found d
        cases d <;> simp only [countedUsage, Resources.get] <;> omega
      refine holds.exec respects (execCounted_ok places most executed) fun other count counted => ?_
      obtain ⟨own, before⟩ := remaining other count counted
      refine ⟨before, by simpa [locks_of_placedOn places] using own, fun _ => ?_⟩
      simp [arrivesOn_of_placedOn places]
  · exact holds

theorem CountsHold.step (holds : CountsHold s) {step : CountingStep}
    (respects : RespectsCounts s step) : CountsHold (s.step step) := by
  cases step with
  | commit tx =>
    simp only [RespectsCounts, Bool.and_eq_true] at respects
    simp only [Counting.step]
    split
    · exact holds
    · rename_i waits
      simp only [commit]
      split
      · rename_i after executed
        -- A node that is being counted is locked, and no server arrives between the two queries.
        refine holds.exec respects.1 executed fun node count counted => ⟨counted, fun locked => waits ?_, ?_⟩
        · exact List.any_eq_true.mpr ⟨node, locked, by simp [counted]⟩
        · intro halfway arrives
          have refused := respects.2
          simp [arrives, Counting.isHalfway, counted, halfway] at refused
      · exact holds
  | countSettled node =>
    simp only [Counting.step]
    split
    · exact holds
    · exact holds.count (fun _ d => Nat.le_refl _) (by simp)
  | countInFlight node =>
    simp only [Counting.step]
    split
    · rename_i settled found
      refine holds.count (by simp) fun inFlight second d => ?_
      cases second
      rw [usageIn_eq_loads]
      exact Nat.add_le_add_right (holds.halfway node settled found d) _
    · exact holds
  | place => exact holds.place respects

end Steps

/--
No node is overcommitted in any run in which a resize meets no server in flight, a transfer
reserves its server's current size, no transfer comes back after it was given up, and no server
arrives on a node between the two queries of a count.
-/
theorem nodes_stay_within_capacity (db : Db) (steps : List CountingStep) (linked : Linked db)
    (within : WithinCapacity db)
    (respected : Guarded Counting.step (fun s step => RespectsCounts s step) ⟨db, fun _ => none⟩ steps) :
    WithinCapacity (run Counting.step ⟨db, fun _ => none⟩ steps).db := by
  have start : CountsHold ⟨db, fun _ => none⟩ := ⟨linked, within, nofun, nofun⟩
  exact (invariant_run CountsHold (fun _ _ holds respects => holds.step respects) start respected).within

/-- A transaction that makes room on a node counts it first. -/
def Tx.counting (tx : Tx) : List CountingStep :=
  match tx.placedOn with
  | none => [.commit tx]
  | some node => [.countSettled node, .countInFlight node, .place tx]

def samplePush : List CountingStep := [
  .commit (.updatePlan 1 { limits := some { memoryMb := 4096, diskMb := 10240 } }),
  .commit (.applyToServers 13 1)]

/-- A server that moves first and is resized afterwards leaves both nodes within bounds. -/
theorem sample_nodes_stay_within_capacity :
    WithinCapacity (run Counting.step ⟨samplePanel, fun _ => none⟩
      (sampleTransfer.flatMap Tx.counting ++ [.commit (.setTransferStatus 1 .archiving (some 11)),
        .commit (.handleResult 12 2 1 true none)] ++ samplePush)).db :=
  nodes_stay_within_capacity samplePanel _ (.of_empty rfl rfl rfl) (by decide +kernel)
    (by decide +kernel)

/-- Resized on its way, the server outgrows the node that had room for it at its old size. -/
theorem resize_in_flight_overcommits :
    let moving := sampleTransfer.flatMap Tx.counting
    WithinCapacity (run Counting.step ⟨samplePanel, fun _ => none⟩ moving).db ∧
      ¬ WithinCapacity (run Counting.step ⟨samplePanel, fun _ => none⟩ (moving ++ samplePush)).db := by
  decide +kernel

-- A server that arrives between the two queries is in neither, and another one is let in.
example :
    let port := samplePanel.allocations.add 3 ⟨{ nodeId := 2 }, by decide⟩ rfl
    let moving := sampleTransfer.flatMap Tx.counting ++ [.commit (.updatePlan 1 { maxSlots := some none })]
    ¬ WithinCapacity (run Counting.step ⟨{ samplePanel with allocations := port }, fun _ => none⟩
      (moving ++ [.countSettled 2, .commit (.handleResult 12 2 1 true none), .countInFlight 2,
        .place (.createOnNode 14 { ownerId := 1, planId := 1 } 2 none ⟨2, ["e5f6a7b8"]⟩)])).db := by
  decide +kernel

end PxHost
