import PxHost.Capacity.Service

/-! When the capacity gates let a request through. -/

namespace PxHost

open Fallible

variable {u : Unit}

theorem assertSlots_ok_iff {occupied : Nat} {maxSlots : Option Nat} :
    assertSlots occupied maxSlots = .ok u ↔ ∀ max, maxSlots = some max → occupied < max := by
  unfold assertSlots
  cases maxSlots with
  | none => simp
  | some max =>
    simp only [Option.some.injEq, forall_eq']
    split
    · rename_i full
      simp
      omega
    · rename_i room
      simp
      omega

def Fits (node : NodeCapacityInputs) (usage : NodeUsage) (request : ResourceRequest) : Prop :=
  ∀ d ceiling, node.ceiling d = some ceiling → usage.get d + request.get d ≤ ceiling

variable {node : NodeCapacityInputs} {usage : NodeUsage} {request : ResourceRequest}

theorem fits_iff :
    Fits node usage request ↔
      (∀ c, node.ceiling .memory = some c → usage.memoryMb + request.memoryMb ≤ c) ∧
      (∀ c, node.ceiling .disk = some c → usage.diskMb + request.diskMb ≤ c) ∧
      (∀ c, node.ceiling .cpu = some c → usage.cpuPercent + request.cpuPercent ≤ c) := by
  constructor
  · intro fits
    exact ⟨fits .memory, fits .disk, fits .cpu⟩
  · rintro ⟨memory, disk, cpu⟩ d
    cases d with
    | memory => exact memory
    | disk => exact disk
    | cpu => exact cpu

theorem assertCapacity_ok_iff {label unit : String}
    {used requested total reserved overallocatePct : Int} :
    assertCapacity label used requested total reserved overallocatePct unit = .ok u ↔
      ∀ c, ceilingFor total reserved overallocatePct = some c → used + requested ≤ c := by
  unfold assertCapacity
  cases ceilingFor total reserved overallocatePct with
  | none => simp
  | some ceiling =>
    simp only [Option.some.injEq, forall_eq']
    split
    · rename_i exceeded
      simp
      omega
    · rename_i under
      simp
      omega

theorem fitReason_eq_nil_iff {label unit : String}
    {used requested total reserved overallocatePct : Int} :
    fitReason label used requested total reserved overallocatePct unit = [] ↔
      ∀ c, ceilingFor total reserved overallocatePct = some c → used + requested ≤ c := by
  unfold fitReason
  cases ceilingFor total reserved overallocatePct with
  | none => simp
  | some ceiling =>
    simp only [Option.some.injEq, forall_eq']
    split
    · rename_i exceeded
      simp
      omega
    · rename_i under
      simp
      omega

theorem assertNodeFits_ok_iff :
    assertNodeFits node usage request = .ok u ↔ Fits node usage request := by
  simp only [assertNodeFits, bind_eq_ok_iff, assertCapacity_ok_iff, fits_iff,
    NodeCapacityInputs.ceiling, exists_const]

theorem nodeFitReasons_eq_nil_iff :
    nodeFitReasons node usage request = [] ↔ Fits node usage request := by
  simp only [nodeFitReasons, List.append_eq_nil_iff, fitReason_eq_nil_iff, fits_iff,
    NodeCapacityInputs.ceiling, and_assoc]

@[simp] theorem usageForNode_get (db : Db) (nodeId : NodeId) (d : Dimension) :
    (usageForNode db nodeId).get d = usageIn db nodeId d := by
  cases d <;> rfl

def Node.ceiling (node : Node) (d : Dimension) : Option Int := (resolveNodeCapacity 0 node).ceiling d

@[simp] theorem ceiling_resolveNodeCapacity (now : Time) (node : Node) (d : Dimension) :
    (resolveNodeCapacity now node).ceiling d = node.ceiling d := by
  cases d <;> rfl

end PxHost
