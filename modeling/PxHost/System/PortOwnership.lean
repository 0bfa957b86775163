import PxHost.System.TransferPipeline

/-! Which server owns which port, in every state that timely transfers can lead to. -/

namespace PxHost

open Store Machine Placement Function

def Allocation.IsPrimaryOf (a : Allocation) (server : ServerId) : Prop :=
  a.serverId = some server ∧ a.isPrimary = true

instance (a : Allocation) (server : ServerId) : Decidable (a.IsPrimaryOf server) :=
  inferInstanceAs (Decidable (_ ∧ _))

/-- The port is held by the server besides its primary one. -/
def Allocation.IsSpareOf (a : Allocation) (server : ServerId) : Prop :=
  a.serverId = some server ∧ a.isPrimary = false

instance (a : Allocation) (server : ServerId) : Decidable (a.IsSpareOf server) :=
  inferInstanceAs (Decidable (_ ∧ _))

/-- Every server has one primary port, on its node, and others only for a move under way. -/
def PortsOwned (db : Db) : Prop :=
  (∀ server ∈ db.servers.rows, ∃ port ∈ db.allocations.rows, port.2.val.IsPrimaryOf server.1 ∧
    port.2.val.nodeId = server.2.val.nodeId ∧
    ∀ other ∈ db.allocations.rows, other.2.val.IsPrimaryOf server.1 → other.1 = port.1) ∧
  ∀ server ∈ db.servers.rows, ∀ port ∈ db.allocations.rows, port.2.val.IsSpareOf server.1 →
    ∃ transfer ∈ db.transfers.rows, transfer.2.status.isActive ∧ transfer.2.serverId = server.1 ∧
      transfer.2.targetAllocationId = some port.1

instance (db : Db) : Decidable (PortsOwned db) := inferInstanceAs (Decidable (_ ∧ _))

/-- What the operations keep true of the ports, so that servers keep theirs. -/
structure PortsHeld (p : Placement) : Prop where
  primary : ∀ {s n u}, p.place s = some (n, u) →
    ∃ id a, p.port id = some a ∧ a.IsPrimaryOf s ∧ a.nodeId = n
  unique : ∀ {s id id' a a'}, p.port id = some a → a.IsPrimaryOf s → p.port id' = some a' →
    a'.IsPrimaryOf s → id = id'
  spare : ∀ {s id a}, p.port id = some a → a.IsSpareOf s → ∃ transfer t,
    p.transfer transfer = some t ∧ t.status.isActive ∧ t.serverId = s ∧
      t.targetAllocationId = some id
  /-- The owner of a port exists. -/
  owner : ∀ {s id a}, p.port id = some a → a.serverId = some s → (p.place s).isSome
  /-- A move under way still holds the port it reserved. -/
  reserved : ∀ {transfer t}, p.transfer transfer = some t → t.status.isActive → ∃ id a,
    t.targetAllocationId = some id ∧ p.port id = some a ∧ a.IsSpareOf t.serverId ∧
      a.nodeId = t.targetNodeId
  single : ∀ {transfer transfer' t t'}, p.transfer transfer = some t → t.status.isActive →
    p.transfer transfer' = some t' → t'.status.isActive → t.serverId = t'.serverId →
    transfer = transfer'

variable {db : Db}

theorem PortsHeld.owned (held : PortsHeld db.placement) : PortsOwned db := by
  -- Rows of the tables and entries of the placement are the same thing.
  have port_iff (id : AllocationId) (row : AllocationRow) (listed : (id, row) ∈ db.allocations.rows) :
      db.placement.port id = some row.val := by
    simp [Db.placement, Table.get?_eq_some_iff.mpr listed]
  have port_row (id : AllocationId) (a : Allocation) (stored : db.placement.port id = some a) :
      ∃ row : AllocationRow, row.val = a ∧ (id, row) ∈ db.allocations.rows := by
    obtain ⟨row, found, same⟩ := Option.map_eq_some_iff.mp stored
    exact ⟨row, same, Table.get?_eq_some_iff.mp found⟩
  constructor
  · rintro ⟨server, row⟩ listed
    have placed : db.placement.place server = some (row.val.nodeId, row.val.uid) := by
      simp [Db.placement, Db.server?, Table.get?_eq_some_iff.mpr listed, Server.place]
    obtain ⟨id, a, stored, primary, onNode⟩ := held.primary placed
    obtain ⟨port, rfl, member⟩ := port_row id a stored
    refine ⟨(id, port), member, primary, onNode, ?_⟩
    rintro ⟨other, port'⟩ member' primary'
    exact held.unique (port_iff _ _ member') primary' stored primary
  · rintro ⟨server, row⟩ - ⟨id, port⟩ member spare
    obtain ⟨transfer, t, found, active, own, target⟩ := held.spare (port_iff _ _ member) spare
    exact ⟨(transfer, t), Table.get?_eq_some_iff.mp found, active, own, target⟩

namespace Placement

def portsOf (p : Placement) (s : ServerId) : Set (AllocationId × Allocation) :=
  {port | p.port port.1 = some port.2 ∧ port.2.serverId = some s}

def movesOf (p : Placement) (s : ServerId) : Set (TransferId × ServerTransfer) :=
  {move | p.transfer move.1 = some move.2 ∧ move.2.status.isActive ∧ move.2.serverId = s}

/-- A server does not exist, rests on its node, or is on its way to another one. -/
inductive Phase (p : Placement) (s : ServerId) : Prop where
  | absent (unplaced : p.place s = none) (ports : p.portsOf s = ∅) (moves : p.movesOf s = ∅)
  | resting {node : NodeId} {uid : Option Nat} (id : AllocationId) {a : Allocation}
      (placed : p.place s = some (node, uid)) (primary : a.isPrimary = true)
      (here : a.nodeId = node) (ports : p.portsOf s = {(id, a)}) (moves : p.movesOf s = ∅)
  | moving {node : NodeId} {uid : Option Nat} (id : AllocationId) {port : AllocationId}
      {a b : Allocation} (transfer : TransferId) {t : ServerTransfer}
      (placed : p.place s = some (node, uid)) (primary : a.isPrimary = true)
      (here : a.nodeId = node) (spare : b.isPrimary = false) (there : b.nodeId = t.targetNodeId)
      (reserved : t.targetAllocationId = some port)
      (ports : p.portsOf s = {(port, b), (id, a)}) (moves : p.movesOf s = {(transfer, t)})

variable {p p' : Placement} {s : ServerId} {port : AllocationId} {b b' : Allocation}
  {transfer : TransferId} {t : ServerTransfer}

theorem Phase.change (server : ServerId) (phases : ∀ s, p.Phase s) (own : p'.Phase server)
    (others : ∀ s, s ≠ server → p'.place s = p.place s ∧ p'.portsOf s = p.portsOf s ∧
      p'.movesOf s = p.movesOf s) (s : ServerId) : p'.Phase s := by
  by_cases same : s = server
  · exact same ▸ own
  obtain ⟨place, ports, moves⟩ := others s same
  cases phases s with
  | absent unplaced none still =>
    exact .absent (place.trans unplaced) (ports.trans none) (moves.trans still)
  | resting id placed primary here only still =>
    exact .resting id (place.trans placed) primary here (ports.trans only) (moves.trans still)
  | moving id transfer placed primary here spare there reserved both one =>
    exact .moving id transfer (place.trans placed) primary here spare there reserved
      (ports.trans both) (moves.trans one)

theorem portsOf_assigned : (p.assigned port b).portsOf s =
    {x | x = (port, b) ∧ b.serverId = some s} ∪ {x ∈ p.portsOf s | x.1 ≠ port} := by
  ext ⟨id, a⟩
  simp only [portsOf, assigned, update_apply, Set.mem_union, Set.mem_ofPred_eq, Prod.mk.injEq]
  grind

theorem movesOf_tracked : (p.tracked transfer t).movesOf s =
    {x | x = (transfer, t) ∧ t.status.isActive ∧ t.serverId = s} ∪
      {x ∈ p.movesOf s | x.1 ≠ transfer} := by
  ext ⟨id, row⟩
  simp only [movesOf, tracked, update_apply, Set.mem_union, Set.mem_ofPred_eq, Prod.mk.injEq]
  grind

theorem mem_portsOf_vacated {leaves : Allocation → Prop} [DecidablePred leaves] {id : AllocationId}
    {a : Allocation} :
    (id, a) ∈ (p.vacated leaves).portsOf s ↔ (id, a) ∈ p.portsOf s ∧ ¬ leaves a := by
  simp only [portsOf, vacated, Set.mem_ofPred_eq, Option.map_eq_some_iff]
  constructor
  · rintro ⟨⟨before, stored, kept⟩, own⟩
    split at kept
    · -- A port that was given back has no owner.
      subst kept
      simp [Allocation.freed] at own
    · rename_i stays
      subst kept
      exact ⟨⟨stored, own⟩, stays⟩
  · rintro ⟨⟨stored, own⟩, stays⟩
    exact ⟨⟨a, stored, by simp [stays]⟩, own⟩

theorem mem_portsOf_released {id : AllocationId} {a : Allocation} :
    (id, a) ∈ (p.released (some port)).portsOf s ↔ (id, a) ∈ p.portsOf s ∧ id ≠ port := by
  simp only [portsOf, released, Set.mem_ofPred_eq]
  by_cases same : id = port
  · rw [if_pos (by rw [same])]
    simp only [same, Option.map_eq_some_iff, ne_eq, not_true_eq_false, and_false, iff_false]
    rintro ⟨⟨_, -, rfl⟩, own⟩
    simp [Allocation.freed] at own
  · simp [same, Ne.symm same]

theorem ne_of_mem_portsOf (found : p.port port = some b) (strange : b.serverId ≠ some s)
    {x : AllocationId × Allocation} (mine : x ∈ p.portsOf s) : x.1 ≠ port := by
  rintro rfl
  exact strange (Option.mem_unique found mine.1 ▸ mine.2)

theorem portsOf_assigned_other (found : p.port port = some b) (before : b.serverId ≠ some s)
    (after : b'.serverId ≠ some s) : (p.assigned port b').portsOf s = p.portsOf s := by
  simpa [portsOf_assigned, after] using fun _ _ => ne_of_mem_portsOf found before

theorem movesOf_tracked_other (before : ∀ x ∈ p.movesOf s, x.1 ≠ transfer)
    (after : t.serverId ≠ s) : (p.tracked transfer t).movesOf s = p.movesOf s := by
  simpa [movesOf_tracked, after] using fun _ _ => before _

theorem movesOf_tracked_ended {row : ServerTransfer} (one : p.movesOf s = {(transfer, row)})
    (ended : t.status.isActive = false) : (p.tracked transfer t).movesOf s = ∅ := by
  ext x
  simp only [movesOf_tracked, one, ended, Set.mem_union, Set.mem_ofPred_eq, Set.mem_singleton_iff]
  grind

end Placement

variable {p : Placement}

/-- Ports are held as they should be when each server is in one of its phases. -/
theorem PortsHeld.of_phases (phases : ∀ s, p.Phase s) : PortsHeld p := by
  -- A port or a move under way tells the phase of its server.
  constructor
  · intro s n u placed
    cases phases s with
    | absent unplaced => simp [unplaced] at placed
    | @resting _ _ id a placed' primary here ports
    | @moving _ _ id _ a _ _ _ placed' primary here _ _ _ ports =>
      have mine : (id, a) ∈ p.portsOf s := by simp [ports]
      obtain ⟨rfl, -⟩ : _ = n ∧ _ = u := by simpa [placed'] using placed
      exact ⟨id, a, mine.1, ⟨mine.2, primary⟩, here⟩
  · rintro s id id' a a' stored ⟨own, primary⟩ stored' ⟨own', primary'⟩
    have mine : (id, a) ∈ p.portsOf s := ⟨stored, own⟩
    have mine' : (id', a') ∈ p.portsOf s := ⟨stored', own'⟩
    cases phases s with
    | absent _ ports | resting _ _ _ _ ports | moving _ _ _ _ _ spare _ _ ports =>
      rw [ports] at mine mine'
      aesop
  · rintro s id a stored ⟨own, spare⟩
    have mine : (id, a) ∈ p.portsOf s := ⟨stored, own⟩
    cases phases s with
    | absent _ none => simp [none] at mine
    | resting _ _ primary _ only =>
      rw [only] at mine
      aesop
    | @moving _ _ _ _ _ _ transfer t _ primary _ _ _ reserved both one =>
      obtain ⟨recorded, active, mover⟩ : (transfer, t) ∈ p.movesOf s := by simp [one]
      rw [both] at mine
      refine ⟨transfer, t, recorded, active, mover, ?_⟩
      aesop
  · intro s id a stored own
    have mine : (id, a) ∈ p.portsOf s := ⟨stored, own⟩
    cases phases s with
    | absent _ none => simp [none] at mine
    | resting _ placed | moving _ _ placed => simp [placed]
  · intro transfer t recorded active
    have mine : (transfer, t) ∈ p.movesOf t.serverId := ⟨recorded, active, rfl⟩
    cases phases t.serverId with
    | absent _ _ still | resting _ _ _ _ _ still => simp [still] at mine
    | @moving _ _ _ port _ b _ _ _ _ _ spare there reserved both one =>
      rw [one] at mine
      cases mine
      have held : (port, b) ∈ p.portsOf t.serverId := by simp [both]
      exact ⟨port, b, reserved, held.1, ⟨held.2, spare⟩, there⟩
  · intro transfer transfer' t t' recorded active recorded' active' same
    have mine : (transfer, t) ∈ p.movesOf t.serverId := ⟨recorded, active, rfl⟩
    have mine' : (transfer', t') ∈ p.movesOf t.serverId := ⟨recorded', active', same.symm⟩
    cases phases t.serverId with
    | absent _ _ moves | resting _ _ _ _ _ moves | moving _ _ _ _ _ _ _ _ _ moves =>
      rw [moves] at mine mine'
      aesop

section Preservation

variable {server : ServerId} {port : AllocationId} {b b' : Allocation} {transfer : TransferId}
  {t t' : ServerTransfer} (phases : ∀ s, p.Phase s)
include phases

theorem phases_created {node : NodeId} {uid : Option Nat} (unused : p.place server = none)
    (found : p.port port = some b) (free : b.serverId = none) (own : b'.serverId = some server)
    (primary : b'.isPrimary = true) (onNode : b'.nodeId = node) :
    ∀ s, ((p.settled server (node, uid)).assigned port b').Phase s := by
  refine Phase.change server phases ?_ fun s other => ⟨update_of_ne other .., ?_, rfl⟩
  · cases phases server with
    | resting _ placed | moving _ _ placed => simp [unused] at placed
    | absent _ none still =>
      have before : (p.settled server (node, uid)).portsOf server = ∅ := none
      exact .resting port (update_self ..) primary onNode (by simp [portsOf_assigned, before, own])
        still
  · have foreign : b'.serverId ≠ some s := by simpa [own] using other.symm
    exact portsOf_assigned_other (b := b) found (by simp [free]) foreign

theorem phases_removed (server : ServerId) : ∀ s, (p.forgotten server).Phase s := by
  have ports {s : ServerId} {id : AllocationId} {a : Allocation} :
      (id, a) ∈ (p.forgotten server).portsOf s ↔ (id, a) ∈ p.portsOf s ∧ s ≠ server := by
    refine mem_portsOf_vacated.trans (and_congr_right fun mine => ?_)
    rw [mine.2, Option.some.injEq]
  have moves {s : ServerId} {id : TransferId} {row : ServerTransfer} :
      (id, row) ∈ (p.forgotten server).movesOf s ↔ (id, row) ∈ p.movesOf s ∧ s ≠ server := by
    simp only [movesOf, forgotten, Option.filter_eq_some_iff, Set.mem_ofPred_eq]
    grind
  refine Phase.change server phases (.absent (update_self ..) ?_ ?_) fun s other =>
    ⟨update_of_ne other .., ?_, ?_⟩
  · ext ⟨id, a⟩
    simp [ports]
  · ext ⟨id, row⟩
    simp [moves]
  · ext ⟨id, a⟩
    simp [ports, other]
  · ext ⟨id, row⟩
    simp [moves, other]

theorem phases_departed (known : (p.place t.serverId).isSome) (unused : p.transfer transfer = none)
    (alone : p.Alone transfer t.serverId) (found : p.port port = some b) (free : b.serverId = none)
    (own : b'.serverId = some t.serverId) (spare : b'.isPrimary = false)
    (onNode : b'.nodeId = t.targetNodeId) (target : t.targetAllocationId = some port)
    (active : t.status.isActive) : ∀ s, ((p.tracked transfer t).assigned port b').Phase s := by
  have new {s : ServerId} : ∀ x ∈ p.movesOf s, x.1 ≠ transfer := by
    rintro _ ⟨recorded, -⟩ rfl
    simp [unused] at recorded
  refine Phase.change t.serverId phases ?_ fun s other => ⟨rfl, ?_, ?_⟩
  · cases phases t.serverId with
    | absent unplaced => simp [unplaced] at known
    | @moving _ _ _ _ _ _ id row _ _ _ _ _ _ _ one =>
      have under : (id, row) ∈ p.movesOf t.serverId := by simp [one]
      exact absurd (alone id row under.1 under.2.1 under.2.2) (new _ under)
    | @resting node uid id a placed primary here only still =>
      have before : (p.tracked transfer t).portsOf t.serverId = {(id, a)} := only
      have mine : (id, a) ∈ p.portsOf t.serverId := by simp [only]
      have apart : id ≠ port := ne_of_mem_portsOf found (by simp [free]) mine
      refine .moving id transfer placed primary here spare onNode target ?_ ?_
      · ext x
        simp only [portsOf_assigned, before, own, Set.mem_union, Set.mem_ofPred_eq,
          Set.mem_insert_iff, Set.mem_singleton_iff]
        grind
      · exact movesOf_tracked.trans (by simp [still, active])
  · have foreign : b'.serverId ≠ some s := by simpa [own] using other.symm
    exact portsOf_assigned_other (b := b) found (by simp [free]) foreign
  · exact movesOf_tracked_other new (Ne.symm other)

section Moving

variable (recorded : p.transfer transfer = some t) (active : t.status.isActive)
include recorded active

omit phases active in
theorem movesOf_tracked_of_ne {s : ServerId} (other : s ≠ t.serverId)
    (server : t'.serverId = t.serverId) : (p.tracked transfer t').movesOf s = p.movesOf s := by
  refine movesOf_tracked_other ?_ (server.trans_ne other.symm)
  rintro x mine rfl
  rw [← mine.2.2, Option.mem_unique mine.1 recorded] at other
  exact other rfl

theorem phases_staged (active' : t'.status.isActive) (server : t'.serverId = t.serverId)
    (node : t'.targetNodeId = t.targetNodeId)
    (target : t'.targetAllocationId = t.targetAllocationId) :
    ∀ s, (p.tracked transfer t').Phase s := by
  refine Phase.change t.serverId phases ?_ fun s other =>
    ⟨rfl, rfl, movesOf_tracked_of_ne recorded other server⟩
  have mine : (transfer, t) ∈ p.movesOf t.serverId := ⟨recorded, active, rfl⟩
  cases phases t.serverId with
  | absent _ _ still | resting _ _ _ _ _ still => simp [still] at mine
  | moving id _ placed primary here spare there reserved both one =>
    rw [one] at mine
    cases mine
    refine .moving id transfer placed primary here spare (there.trans node.symm)
      (target.trans reserved) both ?_
    ext x
    simp only [movesOf_tracked, one, active', server, Set.mem_union, Set.mem_ofPred_eq,
      Set.mem_singleton_iff]
    grind

theorem phases_givenUp (ended : t'.status.isActive = false) (server : t'.serverId = t.serverId) :
    ∀ s, ((p.tracked transfer t').released t.targetAllocationId).Phase s := by
  have mine : (transfer, t) ∈ p.movesOf t.serverId := ⟨recorded, active, rfl⟩
  cases phases t.serverId with
  | absent _ _ still | resting _ _ _ _ _ still => simp [still] at mine
  | @moving _ _ id port a b _ _ placed primary here spare there reserved both one =>
    rw [one] at mine
    cases mine
    rw [reserved]
    have ports (s : ServerId) : ((p.tracked transfer t').released (some port)).portsOf s =
        {x ∈ p.portsOf s | x.1 ≠ port} := by
      ext ⟨id, a⟩
      exact mem_portsOf_released
    refine Phase.change t.serverId phases ?_ fun s other =>
      ⟨rfl, ?_, movesOf_tracked_of_ne recorded other server⟩
    · refine .resting id placed primary here ?_ ?_
      · have second : (id, a) ∈ p.portsOf t.serverId := by simp [both]
        have first : (port, b) ∈ p.portsOf t.serverId := by simp [both]
        have apart : id ≠ port := by
          rintro rfl
          have := Option.mem_unique first.1 second.1
          simp_all
        rw [ports, both]
        ext x
        simp only [Set.mem_ofPred_eq, Set.mem_insert_iff, Set.mem_singleton_iff]
        grind
      · exact movesOf_tracked_ended one ended
    · have first : (port, b) ∈ p.portsOf t.serverId := by simp [both]
      rw [ports, Set.sep_eq_self_iff_mem_true]
      intro x
      exact ne_of_mem_portsOf first.1 (by rw [first.2]; simpa using other.symm)

theorem phases_arrived (ended : t'.status.isActive = false) (server : t'.serverId = t.serverId)
    (target : t.targetAllocationId = some port) (found : (p.evacuated t).port port = some b)
    (owned : b.serverId.isSome) (only : (p.evacuated t).OnlyPrimary port b.serverId) :
    ∀ s, ((((p.evacuated t).assigned port { b with isPrimary := true }).settled t.serverId
      (t.targetNodeId, t.targetUid)).tracked transfer t').Phase s := by
  have mine : (transfer, t) ∈ p.movesOf t.serverId := ⟨recorded, active, rfl⟩
  cases phases t.serverId with
  | absent _ _ still | resting _ _ _ _ _ still => simp [still] at mine
  | @moving _ _ id port' a b' _ _ placed primary here spare there reserved both one =>
    rw [one] at mine
    cases mine
    obtain rfl : port = port' := Option.mem_unique target reserved
    -- The reserved port was not among those given back, so it is still the server's.
    obtain ⟨owner, own⟩ := Option.isSome_iff_exists.mp owned
    have kept : (port, b) ∈ (p.evacuated t).portsOf owner := ⟨found, own⟩
    obtain ⟨held, stays⟩ := mem_portsOf_vacated.mp kept
    have first : (port, b') ∈ p.portsOf t.serverId := by simp [both]
    obtain rfl : b = b' := Option.mem_unique held.1 first.1
    obtain rfl : owner = t.serverId := Option.mem_unique own first.2
    refine Phase.change t.serverId phases ?_ fun s other =>
      ⟨update_of_ne other .., ?_, movesOf_tracked_of_ne recorded other server⟩
    · refine .resting port (update_self ..) (a := { b with isPrimary := true }) rfl there ?_ ?_
      · refine portsOf_assigned.trans ?_
        ext ⟨id', a'⟩
        have last (left : (id', a') ∈ (p.evacuated t).portsOf t.serverId) : id' = port := by
          have before := (mem_portsOf_vacated.mp left).1
          rw [both] at before
          by_contra apart
          obtain ⟨rfl, rfl⟩ : id' = id ∧ a' = a := by simpa [apart] using before
          exact apart (only id' a' left.1 primary (left.2.trans own.symm))
        simp only [Set.mem_union, Set.mem_ofPred_eq, Set.mem_singleton_iff]
        grind
      · exact movesOf_tracked_ended one ended
    · have foreign : b.serverId ≠ some s := by simpa [own] using other.symm
      refine Eq.trans (b := (p.evacuated t).portsOf s)
        (portsOf_assigned_other found foreign foreign) ?_
      ext ⟨id', a'⟩
      refine mem_portsOf_vacated.trans (and_iff_left_of_imp fun mine gives => other ?_)
      exact Option.some.inj (mine.2.symm.trans gives.1)

end Moving

end Preservation

theorem commit_phases {tx : Tx} (phases : ∀ s, db.placement.Phase s) (timely : tx.isTimely db) :
    ∀ s, (commit db tx).placement.Phase s := by
  refine commit_preserves (P := fun after => ∀ s, after.placement.Phase s) phases ?_
  intro after executed
  have move := exec_placement executed
  generalize after.placement = p at move ⊢
  cases move with
  | kept => exact phases
  | created unused stored onNode free =>
    exact phases_created phases unused stored free rfl rfl onNode
  | removed => exact phases_removed phases _
  | departed known unused alone stored onNode free started =>
    subst started
    exact phases_departed phases known unused alone stored free rfl rfl onNode rfl rfl
  | @staged transfer stage startedAt t stored alone =>
    have active' : (t.staged stage.status startedAt).status.isActive := by cases stage <;> rfl
    exact phases_staged phases stored (Tx.isTimely.staged timely stored) active' rfl rfl rfl
  | givenUp called stored =>
    exact phases_givenUp phases stored (Tx.isTimely.givenUp timely called stored) rfl rfl
  | arrived stored known reserved found owned primary =>
    exact phases_arrived phases stored (Tx.isTimely.arrived timely stored) rfl rfl reserved found
      owned primary
  | arrivedPortless stored known unreserved =>
    -- An active transfer has reserved a port.
    obtain ⟨port, -, reserved, -⟩ :=
      (PortsHeld.of_phases phases).reserved stored (Tx.isTimely.arrived timely stored)
    simp [unreserved] at reserved

theorem phases_of_empty (servers : db.servers = .empty) (transfers : db.transfers = .empty)
    (free : ∀ port ∈ db.allocations.rows, port.2.val.serverId = none) (s : ServerId) :
    db.placement.Phase s := by
  refine .absent (by simp [Db.placement, Db.server?, servers]) ?_ ?_
  · refine Set.eq_empty_of_forall_notMem ?_
    rintro ⟨id, a⟩ ⟨stored, own⟩
    obtain ⟨row, found, rfl⟩ := Option.map_eq_some_iff.mp stored
    have none : row.val.serverId = none := free (id, row) (Table.get?_eq_some_iff.mp found)
    simp [none] at own
  · simp [movesOf, Db.placement, transfers]

/--
Every server owns exactly one primary port, on its own node, and any other port only as the target
of its active transfer, in every state reached from an empty panel by transactions that are timely.
-/
theorem ports_stay_owned (db : Db) (txs : List Tx) (servers : db.servers = .empty)
    (transfers : db.transfers = .empty)
    (free : ∀ port ∈ db.allocations.rows, port.2.val.serverId = none)
    (timely : Guarded commit (fun db tx => tx.isTimely db) db txs) :
    PortsOwned (run commit db txs) := by
  have phases := invariant_run (fun db => ∀ s, db.placement.Phase s)
    (fun _ _ before timely => commit_phases before timely)
    (phases_of_empty servers transfers free) timely
  exact (PortsHeld.of_phases phases).owned

/-- With a second slot in the plan, a second server is created on the small node. -/
def sampleNewcomer : List Tx := [
  .updatePlan 1 { maxSlots := some (some 2) },
  .createOnNode 14 { ownerId := 1, planId := 1, name := some "creative" } 2 (some sampleTemplate)
    ⟨2, ["e5f6a7b8"]⟩]

/-- A transfer that fails in time gives its port to the next server there. -/
theorem sample_ports_stay_owned : PortsOwned (run commit samplePanel (sampleTransfer ++ [
      .setTransferStatus 1 .archiving (some 11),
      .handleResult 12 2 1 false (some "disk full")] ++ sampleNewcomer)) :=
  ports_stay_owned samplePanel _ rfl rfl (by decide) (by decide +kernel)

/-- A success reported after the timeout leaves the moved server without any port. -/
theorem late_success_takes_the_port : PortsOwned (run commit samplePanel
      (sampleTransfer ++ [.failTransfer 12 1 "timeout"] ++ sampleNewcomer)) ∧
    ¬ PortsOwned (run commit samplePanel (sampleTransfer ++ [.failTransfer 12 1 "timeout"] ++
      sampleNewcomer ++ [.handleResult 15 2 1 true none])) := by
  decide +kernel

end PxHost
