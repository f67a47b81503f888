import HostStatus.Binary.Arithmetic

/-!
# Usage of memory and of filesystems

A usage is a total and how much of it is in use, with a percentage to one decimal. There is none
of an empty total. For a filesystem the percentage is taken of what unprivileged users can reach,
so that blocks kept back for the administrator count neither as used nor as available.
-/

namespace HostStatus

/-- The nearest tenth, a half going away from zero, as a single-precision number. -/
def roundTenth (x : Double) : Single :=
  ((x.mul (.ofNat 10)).roundToWhole.div (.ofNat 10)).convert .binary32

def percentage (part whole : Nat) : Single :=
  roundTenth (((Binary.ofNat part : Double).div (.ofNat whole)).mul (.ofNat 100))

structure Usage where
  totalBytes : Nat
  usedBytes : Nat
  percent : Single
  deriving DecidableEq

/-- Counters of a filesystem, in blocks of `fragmentSize` bytes. -/
structure Volume where
  fragmentSize : Nat
  blocks : Nat
  /-- Free blocks, with those kept back for the administrator. -/
  free : Nat
  /-- Free blocks that anyone may use. -/
  available : Nat
  deriving DecidableEq

namespace Volume

def usedBlocks (v : Volume) : Nat :=
  v.blocks - v.free

/-- What unprivileged users have or may still take. -/
def reachableBlocks (v : Volume) : Nat :=
  v.usedBlocks + v.available

end Volume

namespace Usage

def ofAvailable? (total available : Nat) : Option Usage :=
  if total = 0 then none
  else
    let used := total - available
    some ⟨total, used, percentage used total⟩

def ofVolume? (v : Volume) : Option Usage :=
  if v.blocks = 0 then none
  else
    let percent :=
      if v.reachableBlocks = 0 then .ofNat 0 else percentage v.usedBlocks v.reachableBlocks
    some ⟨v.blocks * v.fragmentSize, v.usedBlocks * v.fragmentSize, percent⟩

end Usage

structure Snapshot where
  /-- Kernel name, release and architecture. -/
  platform : String
  cpuPercent : Single
  memory : Usage
  disk : Usage
  deriving DecidableEq

end HostStatus
