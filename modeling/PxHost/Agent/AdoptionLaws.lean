import Mathlib.Data.List.TakeWhile
import PxHost.Agent.Adoption
import PxHost.Agent.CommandShape

/-! Which parts of a server's specification a restarted agent reads back unchanged. -/

namespace PxHost.Spec

open Store Fallible

section Texts

@[simp] theorem parse64_formatInt (n : Int64) : Decimal.parse64 (formatInt n).toList = some n := by
  rw [formatInt, String.toList_ofList]
  exact Decimal.parse64_format n

end Texts

/-- What a pass over a list has found was there before, or was added by one of its items. -/
theorem foldl_iff_or_exists {α β : Type*} {step : β → α → β} (holds : β → Prop) (adds : α → Prop)
    (one : ∀ b a, holds (step b a) ↔ holds b ∨ adds a) (items : List α) (b : β) :
    holds (items.foldl step b) ↔ holds b ∨ ∃ a ∈ items, adds a := by
  induction items generalizing b with
  | nil => simp
  | cons a rest ih =>
    rw [List.foldl_cons, ih, one, or_assoc]
    simp only [List.mem_cons, exists_eq_or_imp]

section Addresses

variable {nat : NatPort}

/-- The protocol is among those that were found for the address. -/
def Recorded (byAddress : Table Address (List String)) (address : Address) (proto : String) :
    Prop :=
  ∃ protocols, byAddress.get? address = some protocols ∧ proto ∈ protocols

variable {byAddress : Table Address (List String)} {address : Address}

theorem recorded_addProtocol {at' : Address} {proto proto' : String} :
    Recorded (addProtocol byAddress address proto) at' proto' ↔
      Recorded byAddress at' proto' ∨ at' = address ∧ proto' = proto := by
  -- Only the entry of this address changes, and it never loses a protocol.
  unfold Recorded addProtocol
  rw [Table.get?_upsert]
  by_cases same : at' = address
  · subst same
    cases byAddress.get? at' with
    | none => simp
    | some protocols =>
      by_cases known : proto ∈ protocols
      · simp only [if_true, Option.elim_some, List.contains_iff_mem, known, Option.some.injEq,
          exists_eq_left', true_and]
        exact ⟨.inl, fun either => either.elim id fun same => same ▸ known⟩
      · simp [known]
  · simp [same]

def Occupied (byAddress : Table Address (List String)) : Prop :=
  ∀ address protocols, byAddress.get? address = some protocols → protocols ≠ []

theorem occupied_addProtocol {proto : String} (before : Occupied byAddress) :
    Occupied (addProtocol byAddress address proto) := by
  -- A new entry begins with the protocol it is made for.
  intro at' protocols found
  rw [addProtocol, Table.get?_upsert] at found
  split at found
  · cases stored : byAddress.get? address with
    | none =>
      simp only [stored, Option.elim_none, Option.some.injEq] at found
      simp [← found]
    | some old =>
      have kept := before address old stored
      simp only [stored, Option.elim_some, Option.some.injEq] at found
      rw [← found]
      split
      · exact kept
      · simp
  · exact before at' protocols found

/-- A binding is read back under its own address, with the protocol as the library reads it. -/
theorem readBinding_natPort (lawful : nat.Lawful) (a : Allocation) (proto : String) :
    readBinding nat (natPort a.port proto) ⟨a.ip, formatInt a.port⟩ =
      some (⟨a.ip, a.port⟩, nat.proto (natPort a.port proto)) := by
  simp [readBinding, lawful.port_written]

theorem recorded_collectBinding {key : String} {binding : PortBinding} {proto : String} :
    Recorded (collectBinding nat key byAddress binding) address proto ↔
      Recorded byAddress address proto ∨ readBinding nat key binding = some (address, proto) := by
  unfold collectBinding
  cases readBinding nat key binding with
  | none => simp
  | some found => simp [recorded_addProtocol, Prod.ext_iff, eq_comm]

/-- Each row adds what is read from its bindings to what the rows before it have recorded. -/
theorem recorded_protocolsByAddress {portBindings : Table String (List PortBinding)}
    {proto : String} :
    Recorded (protocolsByAddress nat portBindings) address proto ↔
      ∃ key bindings, portBindings.get? key = some bindings ∧
        ∃ binding ∈ bindings, readBinding nat key binding = some (address, proto) := by
  have row (byAddress : Table Address (List String)) (row : String × List PortBinding) :
      Recorded (row.2.foldl (collectBinding nat row.1) byAddress) address proto ↔ _ :=
    foldl_iff_or_exists (Recorded · address proto) (readBinding nat row.1 · = some (address, proto))
      (fun _ _ => recorded_collectBinding) row.2 byAddress
  refine (foldl_iff_or_exists (Recorded · address proto) _ row portBindings.rows .empty).trans ?_
  simp [Recorded, Table.get?_eq_some_iff]

theorem occupied_protocolsByAddress (portBindings : Table String (List PortBinding)) :
    Occupied (protocolsByAddress nat portBindings) := by
  refine List.foldlRecOn (motive := Occupied) _ _ (by simp [Occupied]) fun _ before row _ => ?_
  refine List.foldlRecOn (motive := Occupied) _ _ before fun _ before binding _ => ?_
  unfold collectBinding
  split
  · exact occupied_addProtocol before
  · exact before

end Addresses

section Bindings

variable {allocs : List Allocation} {key : String} {binding : PortBinding}

def Bound (bindings : Table String (List PortBinding)) (key : String) (binding : PortBinding) :
    Prop :=
  ∃ published, bindings.get? key = some published ∧ binding ∈ published

variable {bindings : Table String (List PortBinding)} {a : Allocation}

theorem bound_bindPort {proto : String} :
    Bound (bindPort bindings a proto) key binding ↔
      Bound bindings key binding ∨
        key = natPort a.port proto ∧ binding = ⟨a.ip, formatInt a.port⟩ := by
  -- A second binding for one container port is appended to the first.
  unfold Bound bindPort
  rw [Table.get?_upsert]
  by_cases same : key = natPort a.port proto
  · subst same
    cases bindings.get? (natPort a.port proto) with
    | none => simp
    | some published => simp
  · simp [same]

theorem bound_buildPortBindings :
    Bound (buildPortBindings allocs) key binding ↔
      ∃ a ∈ allocs, ∃ proto ∈ a.published,
        key = natPort a.port proto ∧ binding = ⟨a.ip, formatInt a.port⟩ := by
  have allocation (bindings : Table String (List PortBinding)) (a : Allocation) :
      Bound (a.published.foldl (bindPort · a) bindings) key binding ↔ _ :=
    foldl_iff_or_exists (Bound · key binding)
      (fun proto => key = natPort a.port proto ∧ binding = ⟨a.ip, formatInt a.port⟩)
      (fun _ _ => bound_bindPort) a.published bindings
  refine (foldl_iff_or_exists (Bound · key binding) _ allocation allocs .empty).trans ?_
  simp [Bound]

/-- What is recorded of a container are its allocations, with the protocols read back. -/
theorem recorded_buildPortBindings {nat : NatPort} (lawful : nat.Lawful) {address : Address}
    {proto : String} :
    Recorded (protocolsByAddress nat (buildPortBindings allocs)) address proto ↔
      ∃ a ∈ allocs, address = ⟨a.ip, a.port⟩ ∧
        ∃ p ∈ a.published, proto = nat.proto (natPort a.port p) := by
  -- Every binding was made for some allocation, and reads back as that allocation's address.
  rw [recorded_protocolsByAddress]
  constructor
  · rintro ⟨key, bindings, stored, binding, member, read⟩
    obtain ⟨a, listed, p, published, rfl, rfl⟩ :=
      bound_buildPortBindings.mp ⟨bindings, stored, member⟩
    rw [readBinding_natPort lawful, Option.some.injEq, Prod.mk.injEq] at read
    exact ⟨a, listed, read.1.symm, p, published, read.2.symm⟩
  · rintro ⟨a, listed, rfl, p, published, rfl⟩
    obtain ⟨bindings, stored, member⟩ :=
      bound_buildPortBindings.mpr ⟨a, listed, p, published, rfl, rfl⟩
    exact ⟨_, bindings, stored, _, member, readBinding_natPort lawful a p⟩

end Bindings

section Order

theorem Address.before_total (left right : Address) : left.before right ∨ right.before left := by
  unfold Address.before
  -- The ports decide, and the addresses only where the ports are the same.
  by_cases same : left.port = right.port
  · rcases le_total left.ip right.ip with first | second
    · exact .inl (.inr ⟨same, first⟩)
    · exact .inr (.inr ⟨same.symm, second⟩)
  · rcases Int64.le_total left.port right.port with below | above
    · exact .inl (.inl (Int64.lt_of_le_of_ne below same))
    · exact .inr (.inl (Int64.lt_of_le_of_ne above (Ne.symm same)))

theorem Address.before_trans {a b c : Address} (first : a.before b) (second : b.before c) :
    a.before c := by
  unfold Address.before at *
  rcases first with below | ⟨same, first⟩ <;> rcases second with below' | ⟨same', second⟩
  · exact .inl (Int64.lt_trans below below')
  · exact .inl (same' ▸ below)
  · exact .inl (same ▸ below')
  · exact .inr ⟨same.trans same', first.trans second⟩

instance : Std.Total Address.before := ⟨Address.before_total⟩

instance : IsTrans Address Address.before := ⟨fun _ _ _ => Address.before_trans⟩

theorem Address.port_le_of_before {left right : Address} (before : left.before right) :
    left.port ≤ right.port := by
  rcases before with below | ⟨same, _⟩
  · exact Int64.le_of_lt below
  · exact same ▸ Int64.le_refl _

end Order

section Allocations

variable {nat : NatPort} {srv : Server}

structure Endpoint where
  ip : String
  port : Int64
  protocol : String
deriving DecidableEq

def Server.endpoints (srv : Server) : List Endpoint :=
  srv.allocations.flatMap fun a => a.published.map fun proto => ⟨a.ip, a.port, proto⟩

theorem mem_endpoints_iff {endpoint : Endpoint} :
    endpoint ∈ srv.endpoints ↔ ∃ a ∈ srv.allocations, endpoint.ip = a.ip ∧
      endpoint.port = a.port ∧ endpoint.protocol ∈ a.published := by
  simp only [Server.endpoints, List.mem_flatMap, List.mem_map]
  constructor
  · rintro ⟨a, listed, proto, published, rfl⟩
    exact ⟨a, listed, rfl, rfl, published⟩
  · rintro ⟨a, listed, ip, port, published⟩
    exact ⟨a, listed, _, published, by rw [← ip, ← port]⟩

/-- The addresses that were found, in the order in which they become allocations. -/
def recoveredAddresses (nat : NatPort) (hc : HostConfig) : List Address :=
  ((protocolsByAddress nat hc.portBindings).rows.map Prod.fst).insertionSort Address.before

variable {hc : HostConfig}

theorem mem_recoveredAddresses {address : Address} :
    address ∈ recoveredAddresses nat hc ↔
      ∃ protocols, (protocolsByAddress nat hc.portBindings).get? address = some protocols := by
  simp [recoveredAddresses, List.mem_insertionSort, Table.get?_eq_some_iff]

theorem mem_recoveredAllocations {a : Allocation} :
    a ∈ recoveredAllocations nat hc ↔ ∃ i address, (recoveredAddresses nat hc)[i]? = some address ∧
      a = { ip := address.ip, port := address.port, primary := i == 0
            protocols := (((protocolsByAddress nat hc.portBindings).get? address).getD []).insertionSort
              (· ≤ ·) } := by
  simp only [recoveredAllocations, List.mem_map, Prod.exists, List.mem_zipIdx_iff_getElem?]
  constructor
  · rintro ⟨address, i, found, rfl⟩
    exact ⟨i, address, found, rfl⟩
  · rintro ⟨i, address, found, rfl⟩
    exact ⟨address, i, found, rfl⟩

theorem recovered_iff_recorded {ip : String} {port : Int64} {proto : String} :
    (∃ a ∈ recoveredAllocations nat hc, ip = a.ip ∧ port = a.port ∧ proto ∈ a.published) ↔
      Recorded (protocolsByAddress nat hc.portBindings) ⟨ip, port⟩ proto := by
  have published : ∀ address protocols,
      (protocolsByAddress nat hc.portBindings).get? address = some protocols →
        (protocols.insertionSort (· ≤ ·) ≠ []) := by
    intro address protocols stored empty
    have none := List.eq_nil_of_length_eq_zero
      ((List.length_insertionSort (· ≤ ·) protocols).symm.trans (by rw [empty]; rfl))
    exact occupied_protocolsByAddress _ address protocols stored none
  constructor
  · rintro ⟨a, listed, rfl, rfl, member⟩
    obtain ⟨i, address, found, rfl⟩ := mem_recoveredAllocations.mp listed
    obtain ⟨protocols, stored⟩ := mem_recoveredAddresses.mp (List.mem_of_getElem? found)
    refine ⟨protocols, stored, ?_⟩
    simpa [Allocation.published, stored, published address protocols stored,
      List.mem_insertionSort] using member
  · rintro ⟨protocols, stored, member⟩
    obtain ⟨i, found⟩ := List.mem_iff_getElem?.mp (mem_recoveredAddresses.mpr ⟨protocols, stored⟩)
    refine ⟨_, mem_recoveredAllocations.mpr ⟨i, _, found, rfl⟩, rfl, rfl, ?_⟩
    simpa [Allocation.published, stored, published _ protocols stored,
      List.mem_insertionSort] using member

theorem recovered_primaryPort {srv : Server} (recovered : srv.allocations = recoveredAllocations nat hc) :
    srv.primaryPort = ((recoveredAddresses nat hc).head?.map Address.port).getD 0 := by
  have shape : recoveredAllocations nat hc = (recoveredAddresses nat hc).zipIdx.map fun entry =>
      { ip := entry.1.ip, port := entry.1.port, primary := entry.2 == 0
        protocols := (((protocolsByAddress nat hc.portBindings).get? entry.1).getD []).insertionSort
          (· ≤ ·) } := rfl
  -- Exactly the first entry is marked, so the search for the mark stops there.
  rw [Server.primaryPort, recovered, shape]
  cases recoveredAddresses nat hc with
  | nil => rfl
  | cons address rest => simp [List.zipIdx_cons]

theorem head_recoveredAddresses_le {first address : Address}
    (head : (recoveredAddresses nat hc).head? = some first) (member : address ∈ recoveredAddresses nat hc) :
    first.port ≤ address.port := by
  have sorted : (recoveredAddresses nat hc).Pairwise Address.before :=
    List.pairwise_insertionSort Address.before _
  obtain ⟨rest, split⟩ := List.head?_eq_some_iff.mp head
  rw [split] at sorted member
  rcases List.mem_cons.mp member with rfl | later
  · exact Int64.le_refl _
  · exact Address.port_le_of_before (List.rel_of_pairwise_cons sorted later)

end Allocations

section Creation

variable {srv : Server} {node : Node} {handle : Handle}

structure Created (srv : Server) (handle : Handle) : Prop where
  spec : handle.spec = srv
  labels : handle.config.labels = buildLabels srv
  image : handle.config.image ≠ ""
  command : handle.config.entrypoint ++ handle.config.cmd ≠ []
  portBindings : handle.hostConfig.portBindings = buildPortBindings srv.allocations
  disk : 0 < srv.limits.diskMb
  primary : srv.allocations ≠ [] → ∃ a ∈ srv.allocations, a.primary

theorem create_ok (created : create srv node = .ok handle) : Created srv handle := by
  simp only [create, buildContainerSpec, validateServer, bind_eq_ok_iff, require_eq_ok_iff]
    at created
  -- Of all the checks only those on the image, the disk limit and the mark are needed here.
  obtain ⟨⟨config, hostConfig⟩, ⟨_, ⟨_, image, _, _, _, _, _, disk, _, _, primary⟩, argv, built,
    _, _, config'⟩, handle'⟩ := created
  cases config'
  cases handle'
  refine ⟨rfl, rfl, image, by simpa using (buildArgv_ok built).nonempty, rfl, disk, ?_⟩
  intro some
  simpa using primary.resolve_left some

/-- New limits change the specification and the resources, and nothing the agent reads back. -/
structure Updated (before after : Handle) (limits : Limits) : Prop where
  spec : after.spec = { before.spec with limits }
  config : after.config = before.config
  portBindings : after.hostConfig.portBindings = before.hostConfig.portBindings

theorem updated_foldl_updateLimits (node : Node) (handle : Handle) (updates : List Limits) :
    Updated handle (updates.foldl (Handle.updateLimits node) handle)
      (updates.getLast?.getD handle.spec.limits) := by
  -- Each update overwrites the limits of the one before; the labels are never written again.
  induction updates generalizing handle with
  | nil => exact ⟨rfl, rfl, rfl⟩
  | cons limits rest ih =>
    have later := ih (handle.updateLimits node limits)
    rw [List.foldl_cons, List.getLast?_cons]
    exact ⟨later.spec, later.config, later.portBindings⟩

end Creation

section Recovery

variable {nat : NatPort} {srv : Server} {node : Node} {handle current : Handle} {limits : Limits}

/-- The server a restarted agent finds: the labels are those of the creation. -/
structure ReadBack (nat : NatPort) (srv recovered : Server) : Prop where
  diskMb : recovered.limits.diskMb = srv.limits.diskMb
  allocations : ∃ hc : HostConfig, hc.portBindings = buildPortBindings srv.allocations ∧
    recovered.allocations = recoveredAllocations nat hc

theorem recovered_ok_iff (created : Created srv handle) (updated : Updated handle current limits) :
    (∃ recovered, current.recovered nat = .ok recovered) ↔ 0 < srv.uid := by
  -- The image and the command passed the checks of the creation, so only the uid can fail.
  have command : ¬(current.config.image = "" ∨
      current.config.entrypoint ++ current.config.cmd = []) := by
    rw [updated.config]
    exact fun missing => missing.elim created.image created.command
  have uid : label current.config.labels "gxhost.server.uid" = formatInt srv.uid := by
    rw [updated.config, created.labels]
    rfl
  rw [Handle.recovered, recoveredServerSpec, uid, parse64_formatInt]
  by_cases positive : 0 < srv.uid
  · rw [show (some srv.uid).filter (0 < ·) = some srv.uid by simp [Option.filter, positive]]
    simp only [if_neg command, positive, iff_true]
    exact ⟨_, rfl⟩
  · rw [show (some srv.uid).filter (0 < ·) = none by simp [Option.filter, positive]]
    simp [positive]

variable {recovered : Server}

theorem recoveredServerSpec_ok {cfg : Config} {hc : HostConfig}
    (ok : recoveredServerSpec nat cfg hc = .ok recovered) :
    recovered.limits = recoveredLimits (parseLabelInt64 (label cfg.labels "gxhost.limits.disk_mb"))
      hc.resources ∧ recovered.allocations = recoveredAllocations nat hc := by
  unfold recoveredServerSpec at ok
  split at ok
  · cases ok
  · dsimp only at ok
    split at ok
    · cases ok
    · cases ok
      exact ⟨rfl, rfl⟩

theorem readBack_of_recovered (created : Created srv handle)
    (updated : Updated handle current limits) (ok : current.recovered nat = .ok recovered) :
    ReadBack nat srv recovered := by
  have disk : label current.config.labels "gxhost.limits.disk_mb" = formatInt srv.limits.diskMb := by
    rw [updated.config, created.labels]
    rfl
  obtain ⟨limits, allocations⟩ := recoveredServerSpec_ok ok
  refine ⟨?_, current.hostConfig, updated.portBindings.trans created.portBindings, allocations⟩
  -- The label holds the limit of the creation, which was positive.
  have notNegative : ¬srv.limits.diskMb < 0 := Int64.not_lt.mpr (Int64.le_of_lt created.disk)
  simp [limits, recoveredLimits, disk, parseLabelInt64, notNegative]

/-- An endpoint as the library of Docker reads it back. -/
def Endpoint.reread (nat : NatPort) (endpoint : Endpoint) : Endpoint :=
  { endpoint with protocol := nat.proto (natPort endpoint.port endpoint.protocol) }

theorem ReadBack.mem_endpoints (lawful : nat.Lawful) (back : ReadBack nat srv recovered)
    {endpoint : Endpoint} :
    endpoint ∈ recovered.endpoints ↔ ∃ original ∈ srv.endpoints, endpoint = original.reread nat := by
  -- Nothing but the protocol passes through the text of the container port.
  obtain ⟨hc, bindings, allocations⟩ := back.allocations
  rw [mem_endpoints_iff, allocations, recovered_iff_recorded, bindings,
    recorded_buildPortBindings lawful]
  constructor
  · rintro ⟨a, listed, address, proto, published, decoded⟩
    obtain ⟨ip, port⟩ := Address.mk.injEq .. ▸ address
    exact ⟨⟨endpoint.ip, endpoint.port, proto⟩,
      mem_endpoints_iff.mpr ⟨a, listed, ip, port, published⟩,
      by rw [Endpoint.reread, port, ← decoded, ← port]⟩
  · rintro ⟨original, member, rfl⟩
    obtain ⟨a, listed, ip, port, published⟩ := mem_endpoints_iff.mp member
    refine ⟨a, listed, ?_, original.protocol, published, ?_⟩
    · rw [← ip, ← port]
      rfl
    · rw [← port]
      rfl

/-- Every protocol of the allocations is read back as it was written. -/
def Server.Readable (nat : NatPort) (srv : Server) : Prop :=
  ∀ a ∈ srv.allocations, ∀ proto ∈ a.protocols, nat.proto (natPort a.port proto) = proto

instance (nat : NatPort) (srv : Server) : Decidable (srv.Readable nat) :=
  inferInstanceAs (Decidable (∀ a ∈ srv.allocations, _))

theorem Server.Readable.reread (lawful : nat.Lawful) (readable : srv.Readable nat)
    {endpoint : Endpoint} (member : endpoint ∈ srv.endpoints) : endpoint.reread nat = endpoint := by
  obtain ⟨a, listed, -, port, published⟩ := mem_endpoints_iff.mp member
  have same : nat.proto (natPort endpoint.port endpoint.protocol) = endpoint.protocol := by
    rw [Allocation.published] at published
    split at published
    · exact lawful.proto_usual _ _ published
    · rw [port]
      exact readable a listed _ published
  rw [Endpoint.reread, same]

/-- The endpoints are the same exactly if each protocol is read back as it was written. -/
theorem ReadBack.endpoints_iff (lawful : nat.Lawful) (back : ReadBack nat srv recovered) :
    (∀ endpoint, endpoint ∈ recovered.endpoints ↔ endpoint ∈ srv.endpoints) ↔
      srv.Readable nat := by
  constructor
  -- A protocol that was read back is read so again; if it was there before, it is its own reading.
  · intro same a listed proto member
    have published : proto ∈ a.published := by
      rw [Allocation.published, if_neg (List.ne_nil_of_mem member)]
      exact member
    have original : (⟨a.ip, a.port, proto⟩ : Endpoint) ∈ srv.endpoints :=
      mem_endpoints_iff.mpr ⟨a, listed, rfl, rfl, published⟩
    obtain ⟨other, _, read⟩ := (back.mem_endpoints lawful).mp ((same _).mpr original)
    have port : a.port = other.port := congrArg Endpoint.port read
    have reading : proto = nat.proto (natPort other.port other.protocol) :=
      congrArg Endpoint.protocol read
    rw [port, reading]
    exact lawful.proto_stable other.port other.protocol
  · intro readable endpoint
    rw [back.mem_endpoints lawful]
    constructor
    · rintro ⟨original, member, rfl⟩
      exact (readable.reread lawful member).symm ▸ member
    · exact fun member => ⟨endpoint, member, (readable.reread lawful member).symm⟩

/-- The addresses found are those of the allocations, each of which is published somehow. -/
theorem mem_recoveredAddresses_iff (lawful : nat.Lawful) {hc : HostConfig}
    (bindings : hc.portBindings = buildPortBindings srv.allocations) {address : Address} :
    address ∈ recoveredAddresses nat hc ↔ ∃ a ∈ srv.allocations, address = ⟨a.ip, a.port⟩ := by
  rw [mem_recoveredAddresses, bindings]
  constructor
  · rintro ⟨protocols, stored⟩
    obtain ⟨proto, member⟩ := List.exists_mem_of_ne_nil _
      (occupied_protocolsByAddress _ address protocols stored)
    obtain ⟨a, listed, same, _⟩ :=
      (recorded_buildPortBindings lawful).mp ⟨protocols, stored, member⟩
    exact ⟨a, listed, same⟩
  · rintro ⟨a, listed, same⟩
    have published : a.published ≠ [] := by
      unfold Allocation.published
      split <;> simp_all
    obtain ⟨proto, member⟩ := List.exists_mem_of_ne_nil _ published
    obtain ⟨protocols, stored, _⟩ :=
      (recorded_buildPortBindings lawful).mpr ⟨a, listed, same, proto, member, rfl⟩
    exact ⟨protocols, stored⟩

/-- The lowest port is taken for the primary one. -/
theorem ReadBack.primaryPort_iff (lawful : nat.Lawful) (back : ReadBack nat srv recovered)
    (marked : srv.allocations ≠ [] → ∃ a ∈ srv.allocations, a.primary) :
    recovered.primaryPort = srv.primaryPort ↔ ∀ a ∈ srv.allocations, srv.primaryPort ≤ a.port := by
  obtain ⟨hc, bindings, allocations⟩ := back.allocations
  have listed (address : Address) : address ∈ recoveredAddresses nat hc ↔ _ :=
    mem_recoveredAddresses_iff lawful bindings
  rw [recovered_primaryPort allocations]
  cases first : (recoveredAddresses nat hc).head? with
  | none =>
    have nothing : srv.allocations = [] := by
      rw [List.head?_eq_none_iff] at first
      refine List.eq_nil_iff_forall_not_mem.mpr fun a member => ?_
      have found := (listed ⟨a.ip, a.port⟩).mpr ⟨a, member, rfl⟩
      rw [first] at found
      cases found
    simp [Server.primaryPort, nothing]
  | some address =>
    -- The marked allocation is one of those the first address is compared with.
    have lowest : ∀ a ∈ srv.allocations, address.port ≤ a.port := fun a member =>
      head_recoveredAddresses_le first ((listed ⟨a.ip, a.port⟩).mpr ⟨a, member, rfl⟩)
    obtain ⟨a, member, same⟩ := (listed address).mp (List.mem_of_head? first)
    have primary : ∃ a ∈ srv.allocations, a.port = srv.primaryPort := by
      obtain ⟨found, stored⟩ := Option.isSome_iff_exists.mp
        (List.find?_isSome.mpr (marked (List.ne_nil_of_mem member)))
      exact ⟨found, List.mem_of_find?_eq_some stored, by simp [Server.primaryPort, stored]⟩
    obtain ⟨marked, member', port⟩ := primary
    constructor
    · intro same a member
      exact same ▸ lowest a member
    · intro least
      have above := least a member
      rw [show a.port = address.port by rw [same]] at above
      exact Int64.le_antisymm (port ▸ lowest marked member') above

/--
After a restart the primary port, the endpoints and the disk limit are what they were exactly if the
uid is positive, the primary port is the lowest, each protocol is read back as it was written, and
the last update has left the disk limit as it was created.
-/
theorem restart_preserves_spec_iff (lawful : nat.Lawful) (created : create srv node = .ok handle)
    (updates : List Limits) :
    (∃ recovered, (updates.foldl (Handle.updateLimits node) handle).recovered nat = .ok recovered ∧
      recovered.primaryPort =
        (updates.foldl (Handle.updateLimits node) handle).spec.primaryPort ∧
      (∀ endpoint, endpoint ∈ recovered.endpoints ↔
        endpoint ∈ (updates.foldl (Handle.updateLimits node) handle).spec.endpoints) ∧
      recovered.limits.diskMb =
        (updates.foldl (Handle.updateLimits node) handle).spec.limits.diskMb) ↔
    0 < srv.uid ∧
      (∀ a ∈ srv.allocations, srv.primaryPort ≤ a.port) ∧
      srv.Readable nat ∧
      (∀ limits ∈ updates.getLast?, limits.diskMb = srv.limits.diskMb) := by
  have made := create_ok created
  have updated := updated_foldl_updateLimits node handle updates
  generalize updates.foldl (Handle.updateLimits node) handle = current at updated ⊢
  have spec := updated.spec
  rw [made.spec] at spec
  -- The allocations stay as they were; only the limits of the specification follow the updates.
  have primaryPort : current.spec.primaryPort = srv.primaryPort := by rw [spec]; rfl
  have endpoints : current.spec.endpoints = srv.endpoints := by rw [spec]; rfl
  have disk : srv.limits.diskMb = current.spec.limits.diskMb ↔
      ∀ limits ∈ updates.getLast?, limits.diskMb = srv.limits.diskMb := by
    rw [spec]
    cases updates.getLast? with
    | none => simp
    | some limits => simp [eq_comm]
  rw [primaryPort, endpoints, ← disk, ← @recovered_ok_iff nat _ _ _ _ made updated]
  constructor
  · rintro ⟨recovered, ok, primary, same, limit⟩
    have back := readBack_of_recovered made updated ok
    exact ⟨⟨recovered, ok⟩, (back.primaryPort_iff lawful made.primary).mp primary,
      (back.endpoints_iff lawful).mp same, back.diskMb.symm.trans limit⟩
  · rintro ⟨⟨recovered, ok⟩, lowest, readable, limit⟩
    have back := readBack_of_recovered made updated ok
    exact ⟨recovered, ok, (back.primaryPort_iff lawful made.primary).mpr lowest,
      (back.endpoints_iff lawful).mpr readable, back.diskMb.trans limit⟩

def sampleNode : Node where
  dataDir := "/var/lib/pxagent"
  uidRangeMin := 100000
  uidRangeMax := 165535
  ioWeightSupported := true

def sampleLimits : Limits where
  cpuPercent := 100
  memoryMb := 2048
  swapMb := 0
  diskMb := 10240
  ioWeight := 500
  pidsLimit := 0

/-- A server with a second port below the primary one. -/
def sampleServer : Server where
  uuid := "c0ffee"
  uid := 100001
  image := "game:latest"
  startupTmpl := "java -jar server.jar"
  stopSignal := ""
  env := .empty
  limits := sampleLimits
  allocations := [⟨"0.0.0.0", 25565, true, ["tcp"]⟩, ⟨"0.0.0.0", 25500, false, ["udp"]⟩]

/-- A library that cuts at the first slash, and reads `tcp` where nothing follows. -/
def sampleNat : NatPort where
  port text := String.ofList (text.toList.takeWhile (· ≠ '/'))
  proto text :=
    match text.toList.dropWhile (· ≠ '/') with
    | _ :: c :: rest => String.ofList (c :: rest)
    | _ => "tcp"

theorem sampleNat_lawful : sampleNat.Lawful := by
  -- No digit is a slash, so the port ends where the separator stands.
  have digits (port : Int64) : ∀ c ∈ Decimal.format port.toInt, decide (c ≠ '/') = true := by
    intro c member
    rcases Decimal.isDigit_of_mem_format member with rfl | digit
    · decide
    · rw [decide_eq_true_iff]
      rintro rfl
      simp at digit
  have proto (port : Int64) (proto : String) :
      sampleNat.proto (natPort port proto) = if proto = "" then "tcp" else proto := by
    simp only [sampleNat, natPort, String.toList_ofList]
    rw [List.dropWhile_append_of_pos (digits port)]
    cases text : proto.toList with
    | nil => simp [String.toList_eq_nil_iff.mp text]
    | cons c rest =>
      have some_ : proto ≠ "" := by
        rintro rfl
        simp at text
      rw [if_neg some_, List.dropWhile_cons_of_neg (by simp)]
      exact String.toList_inj.mp (by rw [String.toList_ofList, text])
  constructor
  · intro port proto
    simp only [sampleNat, natPort, String.toList_ofList]
    rw [List.takeWhile_append_of_pos (digits port)]
    simp [formatInt]
  · simp [proto]
  · intro port name
    simp only [proto]
    split <;> simp_all

/-- The restarted agent takes the lower port for the primary one, and the disk limit of the
    creation for the one that was doubled since. -/
theorem restart_changes_primaryPort_and_diskMb :
    ((create sampleServer sampleNode).toOption.map fun handle =>
      let current := handle.updateLimits sampleNode { sampleLimits with diskMb := 20480 }
      ((current.spec.primaryPort, current.spec.limits.diskMb),
        (current.recovered sampleNat).toOption.map fun srv => (srv.primaryPort, srv.limits.diskMb))) =
    some ((25565, 20480), some (25500, 10240)) := by
  decide +kernel

theorem restart_preserves_spec_ordered :
    ∃ handle, create { sampleServer with allocations := [⟨"0.0.0.0", 25565, true, ["tcp"]⟩] }
        sampleNode = .ok handle ∧
      ∃ recovered, ([sampleLimits].foldl (Handle.updateLimits sampleNode) handle).recovered sampleNat =
          .ok recovered ∧
        recovered.primaryPort = 25565 ∧ recovered.limits.diskMb = 10240 := by
  have accepted : Succeeds (create { sampleServer with
      allocations := [⟨"0.0.0.0", 25565, true, ["tcp"]⟩] } sampleNode) := by decide +kernel
  obtain ⟨handle, created⟩ := accepted
  have made := create_ok created
  obtain ⟨recovered, ok, primary, _, disk⟩ :=
    (restart_preserves_spec_iff sampleNat_lawful created [sampleLimits]).mpr (by decide +kernel)
  rw [(updated_foldl_updateLimits _ handle [sampleLimits]).spec, made.spec] at primary disk
  exact ⟨handle, created, recovered, ok, primary, disk⟩

end Recovery

end PxHost.Spec
