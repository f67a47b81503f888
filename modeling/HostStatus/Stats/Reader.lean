import HostStatus.Json.Record
import HostStatus.Stats

/-!
# Reading published statistics

Statistics are read back from the text they are published as, and from any other text of that
shape.
-/

namespace HostStatus

open Json

structure UsageStats.Draft where
  total : Option String := none
  used : Option String := none
  percent : Option Single := none

def UsageStats.reader : RecordReader UsageStats.Draft UsageStats where
  name := "UsageStats"
  empty := {}
  fields :=
    [.ofOption "total" (·.total) (fun d value => { d with total := value }) readString,
      .ofOption "used" (·.used) (fun d value => { d with used := value }) readString,
      .ofOption "percent" (·.percent) (fun d value => { d with percent := value }) readSingle]
  complete? d := do pure ⟨← d.total, ← d.used, ← d.percent⟩

structure SystemStats.Draft where
  platform : Option String := none
  cpuPercent : Option Single := none
  memory : Option UsageStats := none
  disk : Option UsageStats := none

def SystemStats.reader : RecordReader SystemStats.Draft SystemStats where
  name := "SystemStats"
  empty := {}
  fields :=
    [.ofOption "platform" (·.platform) (fun d value => { d with platform := value }) readString,
      .ofOption "cpu_percent" (·.cpuPercent) (fun d value => { d with cpuPercent := value })
        readSingle,
      .ofOption "memory" (·.memory) (fun d value => { d with memory := value })
        UsageStats.reader.read,
      .ofOption "disk" (·.disk) (fun d value => { d with disk := value }) UsageStats.reader.read]
  complete? d := do pure ⟨← d.platform, ← d.cpuPercent, ← d.memory, ← d.disk⟩

def UsageStats.parse (text : String) : Except ReadError UsageStats :=
  UsageStats.reader.readText text

def SystemStats.parse (text : String) : Except ReadError SystemStats :=
  SystemStats.reader.readText text

end HostStatus
