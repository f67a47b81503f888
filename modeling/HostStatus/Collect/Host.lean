import HostStatus.Collect.Error
import HostStatus.Usage

/-!
# Taking a snapshot of a host

A host answers five questions: where a path leads, what the counters of the filesystem there are,
how much memory there is, how busy each processor is, and what runs on it. `Host.collect` asks
about the disk first, then about memory and the processors, and the first failure is the result.
What runs on the host is told in any case.
-/

namespace HostStatus

/-- Counters as a filesystem reports them. -/
structure VolumeCounters where
  /-- The unit that blocks are counted in; some filesystems leave it zero. -/
  fragmentSize : Nat
  blockSize : Nat
  blocks : Nat
  free : Nat
  available : Nat

def VolumeCounters.toVolume (c : VolumeCounters) : Volume where
  fragmentSize := if c.fragmentSize > 0 then c.fragmentSize else c.blockSize
  blocks := c.blocks
  free := c.free
  available := c.available

/-- What the service asks about when nothing else is said. -/
def Collector.standardPath : String := "/"

/-- Milliseconds between the two readings that give the load of the processors. -/
def Collector.loadWindow : Nat := 500

structure Host where
  resolve : Text.Bytes → Except IoError Text.Bytes
  counters : Text.Bytes → Except IoError VolumeCounters
  memoryTotal : Nat
  memoryAvailable : Nat
  /-- The load of each processor, in percent. -/
  loads : List Single
  kernel : String
  release : String
  architecture : String
  /-- Whether the kernel tells these three when it is asked. -/
  tellsKernel : Bool := true
  /-- The name of the system and the release of its kernel where something else tells them. -/
  system? : Option String := none
  systemRelease? : Option String := none

namespace Host

/-- The system and the processors that the service is built for. -/
def builtFor : String × String := ("linux", "x86_64")

/-- The loads are added up in order; a sum begins at minus zero, which changes no number. -/
def meanLoad (loads : List Single) : Single :=
  (loads.foldl Binary.add (Binary.ofQuanta true 0)).div (.ofNat loads.length)

variable (h : Host)

def fallbackPlatform : String :=
  let release := h.systemRelease?.elim "" fun release => "-" ++ release
  h.system?.getD builtFor.1 ++ release ++ "-" ++ builtFor.2

def platform : String :=
  if h.tellsKernel then h.kernel ++ "-" ++ h.release ++ "-" ++ h.architecture
  else h.fallbackPlatform

def disk (path : Text.Bytes) : Except CollectError Usage := do
  let resolved ← (h.resolve path).mapError (.unresolvedPath path)
  let counters ← (h.counters resolved).mapError (.unreadableVolume resolved)
  match Usage.ofVolume? counters.toVolume with
  | some usage => pure usage
  | none => throw (.emptyVolume resolved)

def memory : Except CollectError Usage :=
  match Usage.ofAvailable? h.memoryTotal h.memoryAvailable with
  | some usage => pure usage
  | none => throw .noMemory

def cpuPercent : Except CollectError Single :=
  if h.loads.isEmpty then throw .noProcessors
  else pure (roundTenth ((meanLoad h.loads).convert .binary64))

def collect (path : Text.Bytes) : Except CollectError Snapshot := do
  let disk ← h.disk path
  let memory ← h.memory
  let cpuPercent ← h.cpuPercent
  pure
    { platform := h.platform
      cpuPercent := cpuPercent
      memory := memory
      disk := disk }

end Host

end HostStatus
