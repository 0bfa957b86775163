import Mathlib.Data.List.Sort
import Mathlib.Data.Prod.Lex
import Mathlib.Data.String.Basic
import PxHost.Agent.Spec

/-! What a restarted agent reads back from a container, and what changes in the meantime. -/

namespace PxHost.Spec

open Store

inductive RecoveryError where
  | invalidUidLabel
  | missingImageOrCommand
deriving DecidableEq

def label (labels : List (String × String)) (key : String) : String :=
  (labels.lookup key).getD ""

/-- A label that is missing or no number stands for no limit. -/
def parseLabelInt64 (value : String) : Int64 :=
  match Decimal.parse64 value.toList with
  | some n => if n < 0 then 0 else n
  | none => 0

/-- How the library of Docker takes the text of a container port apart (`nat.Port`). -/
structure NatPort where
  port : String → String
  proto : String → String

/--
What the agent relies on there: the port is the number that was written, the two usual protocols are
read back, and whatever is read as a protocol is read in the same way once more.
-/
structure NatPort.Lawful (nat : NatPort) : Prop where
  port_written : ∀ port proto, nat.port (natPort port proto) = formatInt port
  proto_usual : ∀ port, ∀ proto ∈ ["tcp", "udp"], nat.proto (natPort port proto) = proto
  proto_stable : ∀ port proto, nat.proto (natPort port (nat.proto (natPort port proto))) =
    nat.proto (natPort port proto)

structure Address where
  ip : String
  port : Int64
deriving DecidableEq

/-- Lower ports come first, and on one port the address that is first in the alphabet. -/
def Address.before (left right : Address) : Prop :=
  left.port < right.port ∨ left.port = right.port ∧ left.ip ≤ right.ip

instance (left right : Address) : Decidable (left.before right) :=
  inferInstanceAs (Decidable (_ ∨ _ ∧ _))

def addProtocol (byAddress : Table Address (List String)) (address : Address) (proto : String) :
    Table Address (List String) :=
  byAddress.upsert address [proto] fun protocols =>
    -- The protocols are kept in a set.
    if protocols.contains proto then protocols else protocols ++ [proto]

section Allocations

variable (nat : NatPort)

/-- Only a port that is published under its own number is an allocation. -/
def readBinding (containerPort : String) (binding : PortBinding) : Option (Address × String) :=
  match Decimal.parse64 (nat.port containerPort).toList, Decimal.parse64 binding.hostPort.toList with
  | some port, some hostPort =>
    -- A port that is published under another number is not an allocation of the panel.
    if hostPort = port then some (⟨binding.hostIp, port⟩, nat.proto containerPort) else none
  | _, _ => none

def collectBinding (containerPort : String) (byAddress : Table Address (List String))
    (binding : PortBinding) : Table Address (List String) :=
  match readBinding nat containerPort binding with
  | some (address, proto) => addProtocol byAddress address proto
  | none => byAddress

def protocolsByAddress (portBindings : Table String (List PortBinding)) :
    Table Address (List String) :=
  portBindings.rows.foldl
    (fun byAddress row => row.2.foldl (collectBinding nat row.1) byAddress) .empty

/-- The first address in order is taken for the primary one. -/
def recoveredAllocations (hc : HostConfig) : List Allocation :=
  let byAddress := protocolsByAddress nat hc.portBindings
  let addresses := (byAddress.rows.map Prod.fst).insertionSort Address.before
  addresses.zipIdx.map fun (address, i) =>
    { ip := address.ip
      port := address.port
      primary := i == 0
      protocols := ((byAddress.get? address).getD []).insertionSort (· ≤ ·) }

end Allocations

def recoveredLimits (diskMb : Int64) (r : Resources) : Limits :=
  -- The inverse of what the limits were turned into, up to rounding.
  let memoryMb := r.memory / (1024 * 1024)
  { diskMb := diskMb
    memoryMb := if memoryMb ≤ 0 then 1 else memoryMb
    cpuPercent := if 0 < r.cpuPeriod then r.cpuQuota * 100 / r.cpuPeriod else 0
    swapMb :=
      if r.memorySwap < 0 then -1
      else if r.memory < r.memorySwap then (r.memorySwap - r.memory) / (1024 * 1024)
      else 0
    ioWeight := Int64.ofNat r.blkioWeight.toNat
    pidsLimit := r.pidsLimit.getD 0 }

def isShellSafe (c : Char) : Bool :=
  (('a' ≤ c && c ≤ 'z') || ('A' ≤ c && c ≤ 'Z') || ('0' ≤ c && c ≤ '9'))
    || "_./:@%+=,-".toList.contains c

/-- A single quote ends the quoted text, stands escaped, and opens it again. -/
def shellQuote (argument : List Char) : List Char :=
  if argument ≠ [] ∧ argument.all isShellSafe then argument
  else
    let escaped := argument.flatMap fun c =>
      if c = singleQuote then [singleQuote, backslash, singleQuote, singleQuote] else [c]
    singleQuote :: escaped ++ [singleQuote]

def joinShellArgs (argv : List String) : String :=
  String.ofList ([' '].intercalate (argv.map fun argument => shellQuote argument.toList))

def recoveredServerSpec (nat : NatPort) (cfg : Config) (hc : HostConfig) :
    Except RecoveryError Server :=
  match (Decimal.parse64 (label cfg.labels "gxhost.server.uid").toList).filter (0 < ·) with
  | none => .error .invalidUidLabel
  | some uid =>
    -- The variables were filled in at the creation, so there are none left.
    let argv := cfg.entrypoint ++ cfg.cmd
    if cfg.image = "" ∨ argv = [] then .error .missingImageOrCommand
    else .ok
      { uuid := label cfg.labels "gxhost.server.uuid"
        uid := uid
        image := cfg.image
        startupTmpl := joinShellArgs argv
        stopSignal := cfg.stopSignal
        env := .empty
        limits := recoveredLimits (parseLabelInt64 (label cfg.labels "gxhost.limits.disk_mb"))
          hc.resources
        allocations := recoveredAllocations nat hc }

/-- A server of the agent, with the container Docker keeps for it. -/
structure Handle where
  spec : Server
  config : Config
  hostConfig : HostConfig
deriving DecidableEq

/-- Docker leaves alone what is zero or missing in an update of a container. -/
def Resources.updatedBy (old new : Resources) : Resources where
  memory := if new.memory = 0 then old.memory else new.memory
  memoryReservation :=
    if new.memoryReservation = 0 then old.memoryReservation else new.memoryReservation
  memorySwap := if new.memorySwap = 0 then old.memorySwap else new.memorySwap
  cpuPeriod := if new.cpuPeriod = 0 then old.cpuPeriod else new.cpuPeriod
  cpuQuota := if new.cpuQuota = 0 then old.cpuQuota else new.cpuQuota
  blkioWeight := if new.blkioWeight = 0 then old.blkioWeight else new.blkioWeight
  pidsLimit := new.pidsLimit <|> old.pidsLimit

/-- What `Server.Create` leaves when Docker creates the container. -/
def create (srv : Server) (node : Node) : Except SpecError Handle := do
  let (config, hostConfig) ← buildContainerSpec srv node
  return ⟨srv, config, hostConfig⟩

/-- What `Server.UpdateLimits` leaves when Docker takes the update. -/
def Handle.updateLimits (node : Node) (handle : Handle) (newLimits : Limits) : Handle :=
  { handle with
    spec := { handle.spec with limits := newLimits }
    hostConfig := { handle.hostConfig with
      resources := handle.hostConfig.resources.updatedBy (buildResources newLimits node) } }

/-- What a restarted agent takes the server for. -/
def Handle.recovered (nat : NatPort) (handle : Handle) : Except RecoveryError Server :=
  recoveredServerSpec nat handle.config handle.hostConfig

end PxHost.Spec
