import PxHost.Lib.Binary64
import PxHost.Schema.Rows

/-! The pure capacity arithmetic of nodes and plans. -/

namespace PxHost

/-- The overallocation value that switches a dimension's ceiling off. -/
def UNLIMITED : Int := -1

inductive Dimension where
  | memory | disk | cpu
deriving DecidableEq

/-- Amounts of each resource, for a node's usage and for a request alike. -/
structure Resources where
  memoryMb : Int
  diskMb : Int
  cpuPercent : Int
deriving DecidableEq

abbrev NodeUsage := Resources
abbrev ResourceRequest := Resources

def Resources.get (r : Resources) : Dimension → Int
  | .memory => r.memoryMb
  | .disk => r.diskMb
  | .cpu => r.cpuPercent

/-- The nine numbers that bound a node. -/
structure NodeCapacityInputs where
  memoryTotalMb : Int
  memoryReservedMb : Int
  memoryOverallocatePct : Int
  diskTotalMb : Int
  diskReservedMb : Int
  diskOverallocatePct : Int
  cpuTotalPercent : Int
  cpuReservedPercent : Int
  cpuOverallocatePct : Int
deriving DecidableEq

/-- How much of one resource may be promised, or `none` for no bound. -/
def ceilingFor (total reserved overallocatePct : Int) : Option Int :=
  if overallocatePct = UNLIMITED then none
  else if total ≤ 0 then none
  else some (Binary64.mul (total - reserved : Int)
    (Binary64.add 1 (Binary64.div overallocatePct 100))).floor

def NodeCapacityInputs.ceiling (node : NodeCapacityInputs) : Dimension → Option Int
  | .memory => ceilingFor node.memoryTotalMb node.memoryReservedMb node.memoryOverallocatePct
  | .disk => ceilingFor node.diskTotalMb node.diskReservedMb node.diskOverallocatePct
  | .cpu => ceilingFor node.cpuTotalPercent node.cpuReservedPercent node.cpuOverallocatePct

/-- Refuse a request that would lift the use of one resource over its ceiling. -/
def assertCapacity (label : String) (used requested total reserved overallocatePct : Int)
    (unit : String := "MB") : Except ApiError Unit :=
  match ceilingFor total reserved overallocatePct with
  -- Unlimited or unconfigured is never a ceiling of zero.
  | none => .ok ()
  | some ceiling =>
    if used + requested > ceiling then
      .error (.noCapacity label (used + requested) unit ceiling)
    else .ok ()

/-- Refuse one more customer on a plan whose slots are all taken. -/
def assertSlots (occupied : Nat) (maxSlots : Option Nat) : Except ApiError Unit :=
  match maxSlots with
  | none => .ok ()
  | some max => if occupied ≥ max then .error (.noSlots (occupied + 1) max) else .ok ()

def assertNodeFits (node : NodeCapacityInputs) (usage : NodeUsage) (request : ResourceRequest) :
    Except ApiError Unit := do
  assertCapacity "memory" usage.memoryMb request.memoryMb
    node.memoryTotalMb node.memoryReservedMb node.memoryOverallocatePct
  assertCapacity "disk" usage.diskMb request.diskMb
    node.diskTotalMb node.diskReservedMb node.diskOverallocatePct
  assertCapacity "cpu" usage.cpuPercent request.cpuPercent
    node.cpuTotalPercent node.cpuReservedPercent node.cpuOverallocatePct "%"

def fitReason (label : String) (used requested total reserved overallocatePct : Int)
    (unit : String) : List String :=
  match ceilingFor total reserved overallocatePct with
  | none => []
  | some ceiling =>
    if used + requested > ceiling then
      [s!"{label}: would be {used + requested}{unit}, ceiling is {ceiling}{unit}"]
    else []

/-- Every reason a node gives against a request, in the order of the dimensions. -/
def nodeFitReasons (node : NodeCapacityInputs) (usage : NodeUsage) (request : ResourceRequest) :
    List String :=
  fitReason "memory" usage.memoryMb request.memoryMb
      node.memoryTotalMb node.memoryReservedMb node.memoryOverallocatePct "MB" ++
    fitReason "disk" usage.diskMb request.diskMb
      node.diskTotalMb node.diskReservedMb node.diskOverallocatePct "MB" ++
    fitReason "cpu" usage.cpuPercent request.cpuPercent
      node.cpuTotalPercent node.cpuReservedPercent node.cpuOverallocatePct "%"

inductive CapacityProvenance where
  | auto | manual | unconfigured
deriving DecidableEq

/-- One dimension of a node after telemetry and reserves are taken into account. -/
structure ResolvedDimension where
  effectiveTotal : Int
  reserved : Int
  provenance : CapacityProvenance
deriving DecidableEq

/-- Telemetry older than this is not sold against. -/
def TELEMETRY_STALE_MS : Int := 5 * 60000

def resolveDimension (mode : CapacityMode) (declaredTotal declaredReserved safetyMarginPct : Int)
    (detected : Option Int) : ResolvedDimension :=
  match mode, detected with
  | .manual, _ => ⟨declaredTotal, declaredReserved, .manual⟩
  | .auto, none => ⟨declaredTotal, declaredReserved, .unconfigured⟩
  | .auto, some total =>
    let marginAmount := Binary64.roundHalfUp (Binary64.div (total * safetyMarginPct : Int) 100)
    ⟨total, marginAmount + declaredReserved, .auto⟩

structure ResolvedNodeCapacity extends NodeCapacityInputs where
  memory : ResolvedDimension
  disk : ResolvedDimension
  cpu : ResolvedDimension
  telemetryStale : Bool
deriving DecidableEq

def resolveNodeCapacity (now : Time) (node : Node) : ResolvedNodeCapacity :=
  let mode := node.capacityMode
  let memory := resolveDimension mode node.memoryTotalMb node.memoryReservedMb
    node.memorySafetyMarginPct (node.reportedMemoryLimitMb <|> node.reportedMemoryTotalMb)
  let disk := resolveDimension mode node.diskTotalMb node.diskReservedMb
    node.diskSafetyMarginPct node.reportedDiskTotalMb
  let cpu := resolveDimension mode node.cpuTotalPercent node.cpuReservedPercent
    node.cpuSafetyMarginPct (node.reportedCpuCount.map (· * 100))
  let telemetryStale := mode == .auto &&
    match node.reportedAt with
    | none => true
    | some reportedAt => decide (now - reportedAt > TELEMETRY_STALE_MS)
  { memoryTotalMb := memory.effectiveTotal
    memoryReservedMb := memory.reserved
    memoryOverallocatePct := node.memoryOverallocatePct
    diskTotalMb := disk.effectiveTotal
    diskReservedMb := disk.reserved
    diskOverallocatePct := node.diskOverallocatePct
    cpuTotalPercent := cpu.effectiveTotal
    cpuReservedPercent := cpu.reserved
    cpuOverallocatePct := node.cpuOverallocatePct
    memory, disk, cpu, telemetryStale }

def ONLINE_THRESHOLD_MS : Int := 45000
def DEGRADED_THRESHOLD_MS : Int := 120000

def deriveHealthStatus (now : Time) (lastHeartbeatAt : Option Time) : HealthStatus :=
  match lastHeartbeatAt with
  | none => .unknown
  | some at_ =>
    if now - at_ < ONLINE_THRESHOLD_MS then .online
    else if now - at_ < DEGRADED_THRESHOLD_MS then .degraded
    else .offline

/-- Whether a node takes new servers, or the reason it does not. -/
def nodeAcceptsNewServers (node : Node) (health : HealthStatus) (resolved : ResolvedNodeCapacity) :
    Except String Unit :=
  if node.maintenanceMode then .error "Node is in maintenance mode"
  else if node.capacityMode != .auto then .ok ()
  else if health == .offline || health == .degraded then
    .error s!"Node is {health.text} — automatic capacity requires a recent heartbeat"
  else if resolved.memory.provenance == .unconfigured
      || resolved.disk.provenance == .unconfigured then
    .error "Node is in automatic capacity mode but has not reported hardware telemetry yet"
  else if resolved.telemetryStale then .error "Node capacity telemetry is stale"
  else .ok ()

/-- How many more servers of a plan a node takes, and the dimension that sets the limit. -/
structure PlanSlotsResult where
  /-- It is `none` when nothing the plan uses is bounded. -/
  slots : Option Int
  limiting : Option Dimension
deriving DecidableEq

/-- How many more requests one dimension has room for, if it bounds them at all. -/
def slotsIn (node : NodeCapacityInputs) (usage : NodeUsage) (request : ResourceRequest)
    (d : Dimension) : Option Int :=
  if request.get d ≤ 0 then none
  else (node.ceiling d).map fun ceiling => max (ceiling - usage.get d) 0 / request.get d

/-- The tighter of the limit found so far and that of one more dimension. -/
def tighten (node : NodeCapacityInputs) (usage : NodeUsage) (request : ResourceRequest)
    (best : Option (Dimension × Int)) (d : Dimension) : Option (Dimension × Int) :=
  match slotsIn node usage request d, best with
  | none, _ => best
  | some slots, none => some (d, slots)
  | some slots, some (_, least) => if slots < least then some (d, slots) else best

def slotsForPlanOnNode (node : NodeCapacityInputs) (usage : NodeUsage)
    (request : ResourceRequest) : PlanSlotsResult :=
  let best := [.memory, .disk, .cpu].foldl (tighten node usage request) none
  ⟨best.map Prod.snd, best.map Prod.fst⟩

end PxHost
