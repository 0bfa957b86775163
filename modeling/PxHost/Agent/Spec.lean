import PxHost.Agent.Argv
import PxHost.Agent.Paths

/-! The container specification of a server: what Docker is asked to create. -/

namespace PxHost.Spec

open Store Fallible

structure Limits where
  cpuPercent : Int64
  memoryMb : Int64
  swapMb : Int64
  diskMb : Int64
  ioWeight : Int64
  pidsLimit : Int64
deriving DecidableEq

structure Allocation where
  ip : String
  port : Int64
  primary : Bool
  protocols : List String
deriving DecidableEq

structure Server where
  uuid : String
  uid : Int64
  image : String
  startupTmpl : String
  stopSignal : String
  env : Table String String
  limits : Limits
  allocations : List Allocation
  isSuspended : Bool := false
deriving DecidableEq

structure Node where
  dataDir : String
  uidRangeMin : Int64
  uidRangeMax : Int64
  ioWeightSupported : Bool
deriving DecidableEq

def defaultPidsLimit : Int64 := 512

def minHostPort : Int64 := 1024

def maxHostPort : Int64 := 65535

def specVersion : String := "1"

def formatInt (n : Int64) : String := String.ofList (Decimal.format n.toInt)

def Server.primaryPort (srv : Server) : Int64 :=
  match srv.allocations.find? (·.primary) with
  | some a => a.port
  | none => 0

def validateAllocation (a : Allocation) : Except SpecError Unit := do
  require (minHostPort ≤ a.port ∧ a.port ≤ maxHostPort) (.portOutsideRange a.port)
  require (a.ip ≠ "") .allocationMissingIp

def validateServer (srv : Server) (node : Node) : Except SpecError Unit := do
  require (srv.image ≠ "") .emptyImage
  require (node.uidRangeMin ≤ srv.uid ∧ srv.uid ≤ node.uidRangeMax ∧ srv.uid ≠ 0)
    (.uidOutsideRange srv.uid node.uidRangeMin node.uidRangeMax)
  require (0 < srv.limits.memoryMb) .memoryNotPositive
  require (0 < srv.limits.diskMb) .diskNotPositive
  srv.allocations.forM validateAllocation
  -- No port at all is fine; of the ports there are, one has to be primary.
  require (srv.allocations = [] ∨ srv.allocations.any (·.primary)) .noPrimaryAllocation

/-- Docker keeps no limit for the disk, so it is written on a label. -/
def buildLabels (srv : Server) : List (String × String) :=
  [("gxhost.managed", "true"),
    ("gxhost.server.uuid", srv.uuid),
    ("gxhost.server.uid", formatInt srv.uid),
    ("gxhost.limits.disk_mb", formatInt srv.limits.diskMb),
    ("gxhost.spec.version", specVersion)]

structure PortBinding where
  hostIp : String
  hostPort : String
deriving DecidableEq

/-- A port of the container with its protocol, as one text. -/
def natPort (port : Int64) (proto : String) : String :=
  String.ofList (Decimal.format port.toInt ++ '/' :: proto.toList)

def Allocation.published (a : Allocation) : List String :=
  if a.protocols = [] then ["tcp", "udp"] else a.protocols

def bindPort (bindings : Table String (List PortBinding)) (a : Allocation) (proto : String) :
    Table String (List PortBinding) :=
  let binding := ⟨a.ip, formatInt a.port⟩
  bindings.upsert (natPort a.port proto) [binding] (· ++ [binding])

def buildPortBindings (allocs : List Allocation) : Table String (List PortBinding) :=
  allocs.foldl (fun bindings a => a.published.foldl (bindPort · a) bindings) .empty

structure Resources where
  memory : Int64
  memoryReservation : Int64
  memorySwap : Int64
  cpuPeriod : Int64
  cpuQuota : Int64
  blkioWeight : UInt16
  pidsLimit : Option Int64
deriving DecidableEq

/-- Docker's swap ceiling includes the memory; a negative one is no ceiling. -/
def memSwapBytes (l : Limits) : Int64 :=
  if l.swapMb < 0 then -1 else l.memoryMb * 1024 * 1024 + l.swapMb * 1024 * 1024

def cpuQuota (percent : Int64) : Int64 := if percent ≤ 0 then 0 else percent * 1000

def clampInt (v lo hi default : Int64) : Int64 :=
  if v = 0 then default else if v < lo then lo else if hi < v then hi else v

def buildResources (limits : Limits) (node : Node) : Resources :=
  let memBytes := limits.memoryMb * 1024 * 1024
  { memory := memBytes
    memoryReservation := memBytes * 9 / 10
    memorySwap := memSwapBytes limits
    -- In microseconds, so that one percent of a core is a quota of 1000.
    cpuPeriod := 100000
    cpuQuota := cpuQuota limits.cpuPercent
    blkioWeight :=
      if node.ioWeightSupported then
        UInt16.ofNat (clampInt limits.ioWeight 10 1000 500).toInt.toNat
      else 0
    pidsLimit := some (if limits.pidsLimit = 0 then defaultPidsLimit else limits.pidsLimit) }

structure Config where
  image : String
  entrypoint : List String
  cmd : List String
  stopSignal : String
  labels : List (String × String)
deriving DecidableEq

structure HostConfig where
  portBindings : Table String (List PortBinding)
  resources : Resources
deriving DecidableEq

def looksLikeControlSocket (path : Agent.Path) : Bool :=
  (["docker.sock", "containerd.sock", "crio.sock"].map Agent.bytes).contains (path.getLastD [])
    || (Agent.bytes ".sock").isSuffixOf path.toBytes

/-- Where the data directory of a server is, if it may be mounted. -/
def buildDataMount (node : Node) (srv : Server) : Except SpecError Agent.Path := do
  require (node.dataDir ≠ "") .emptyDataDir
  require (srv.uuid ≠ "") .emptyUuid
  let source := Agent.Path.join (.ofBytes (Agent.bytes node.dataDir))
    (.ofBytes (Agent.bytes srv.uuid))
  require (!looksLikeControlSocket source) .dataMountIsControlSocket
  return source

def buildContainerSpec (srv : Server) (node : Node) : Except SpecError (Config × HostConfig) := do
  validateServer srv node
  let argv ← buildArgv srv.startupTmpl srv.env
  let _ ← buildDataMount node srv
  return ({ image := srv.image
            entrypoint := argv
            cmd := []
            stopSignal := if srv.stopSignal = "" then "SIGTERM" else srv.stopSignal
            labels := buildLabels srv },
          { portBindings := buildPortBindings srv.allocations
            resources := buildResources srv.limits node })

end PxHost.Spec
