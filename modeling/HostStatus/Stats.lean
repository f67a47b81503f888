import HostStatus.Json.Basic
import HostStatus.Size
import HostStatus.Usage

/-!
# Statistics as the service publishes them

Published statistics carry sizes as texts for people and percentages as numbers.
-/

namespace HostStatus

structure UsageStats where
  total : String
  used : String
  percent : Single
  deriving DecidableEq

structure SystemStats where
  platform : String
  cpuPercent : Single
  memory : UsageStats
  disk : UsageStats
  deriving DecidableEq

namespace UsageStats

def ofUsage (u : Usage) : UsageStats where
  total := bytesText u.totalBytes
  used := bytesText u.usedBytes
  percent := u.percent

def toJson (u : UsageStats) : Json :=
  .object [("total", .string u.total), ("used", .string u.used), ("percent", .ofSingle u.percent)]

end UsageStats

namespace SystemStats

def ofSnapshot (s : Snapshot) : SystemStats where
  platform := s.platform
  cpuPercent := s.cpuPercent
  memory := .ofUsage s.memory
  disk := .ofUsage s.disk

def toJson (s : SystemStats) : Json :=
  .object
    [("platform", .string s.platform), ("cpu_percent", .ofSingle s.cpuPercent),
      ("memory", s.memory.toJson), ("disk", s.disk.toJson)]

end SystemStats

end HostStatus
