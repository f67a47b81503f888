import HostStatus.Collect.FileTree
import HostStatus.Collect.Host

/-!
# A small Linux host

A host to try the collector on, with one filesystem on disk, and with the filesystems that the
kernel makes up, which have no blocks at all. Only the best known places are there.
-/

namespace HostStatus.LinuxHost

open FileTree

/-- A name in a directory, and what is there. -/
abbrev Entry := Text.Bytes × FileTree

def files (names : List String) : List Entry :=
  names.map fun name => (Text.toUtf8 name, file)

def link (name target : String) : Entry :=
  (Text.toUtf8 name, FileTree.link (Text.toUtf8 target))

def folder (name : String) (entries : List Entry) : Entry :=
  (Text.toUtf8 name, directory false entries)

/-- Folders with nothing in them. -/
def folders (names : List String) : List Entry :=
  names.map fun name => folder name []

/-- A directory whose names the kernel makes up. -/
def synthetic (name : String) (entries : List Entry) : Entry :=
  (Text.toUtf8 name, directory true entries)

def kernelSettings : Entry :=
  synthetic "sys"
    [synthetic "fs" (files ["file-max", "file-nr"]),
      synthetic "kernel" (files ["hostname", "osrelease", "ostype", "pid_max", "version"]),
      synthetic "net"
        [synthetic "ipv4"
          (synthetic "conf" [synthetic "all" [], synthetic "lo" []] :: files ["ip_forward"])],
      synthetic "vm" (files ["laptop_mode", "overcommit_memory", "swappiness"])]

def networkState : Entry :=
  synthetic "net" (files ["arp", "dev", "route", "tcp", "udp", "unix"])

/-- A process with its only thread; what the links to its namespace and its pipe hold is no path. -/
def process (number working program : String) : Entry :=
  let thread : List Entry :=
    [link "cwd" working, link "exe" program, link "root" "/", networkState,
      synthetic "fd" [link "0" "pipe:[8000]"], synthetic "ns" [link "mnt" "mnt:[4026531835]"]] ++
    files
      ["cgroup", "cmdline", "comm", "environ", "io", "limits", "maps", "mountinfo", "mounts",
        "oom_score", "sched", "smaps", "stat", "statm", "status", "wchan"]
  synthetic number
    (synthetic "task" [synthetic number thread] :: thread ++ files ["timens_offsets"])

def processState : Entry :=
  synthetic "proc"
    ([process "1" "/" "/usr/sbin/init", process "4711" "/srv/status/work" "/usr/bin/webui-status",
        link "self" "4711", link "thread-self" "4711/task/4711", link "mounts" "self/mounts",
        link "net" "self/net", kernelSettings] ++
      files
        ["buddyinfo", "cgroups", "cmdline", "cpuinfo", "crypto", "devices", "diskstats",
          "filesystems", "interrupts", "iomem", "ioports", "kallsyms", "kmsg", "loadavg", "locks",
          "meminfo", "misc", "partitions", "softirqs", "stat", "swaps", "timer_list", "uptime",
          "version", "vmallocinfo", "vmstat", "zoneinfo"])

def deviceState : Entry :=
  synthetic "sys"
    [synthetic "block" [], synthetic "bus" [],
      synthetic "class" [synthetic "net" [link "lo" "../../devices/virtual/net/lo"]],
      synthetic "dev" [],
      synthetic "devices" [synthetic "system" [synthetic "cpu" (files ["online"])],
        synthetic "virtual" [synthetic "net" [synthetic "lo" (files ["address", "mtu"])]]],
      synthetic "firmware" [], synthetic "fs" [synthetic "cgroup" []],
      synthetic "kernel" [synthetic "mm" []], synthetic "module" [], synthetic "power" []]

def deviceFiles : Entry :=
  folder "dev"
    ([folder "pts" (files ["ptmx"]), folder "shm" [], link "fd" "/proc/self/fd",
        link "stdin" "/proc/self/fd/0"] ++
      files ["console", "full", "null", "ptmx", "random", "tty", "urandom", "zero"])

def root : FileTree :=
  directory false
    ([link "bin" "usr/bin", link "lib" "usr/lib", link "lib64" "usr/lib64",
        link "sbin" "usr/sbin", deviceFiles,
        folder "etc" (link "os-release" "../usr/lib/os-release" ::
          files ["fstab", "group", "hostname", "hosts", "passwd", "resolv.conf"]),
        processState, folder "run" [folder "lock" []],
        folder "srv" [folder "status" [folder "work" []]], deviceState,
        folder "usr"
          (folder "bin" (files ["bash", "cat", "env", "ls", "sh", "webui-status"]) ::
            folder "lib" (files ["os-release"]) :: folder "share" [folder "doc" []] ::
            folder "sbin" (files ["init"]) :: folders ["lib64", "local"]),
        folder "var" (link "run" "/run" :: folders ["cache", "lib", "log", "tmp"])] ++
      folders ["boot", "home", "media", "mnt", "opt", "root", "tmp"])

/-- The working directory, from the innermost. -/
def working : List Text.Bytes :=
  [Text.toUtf8 "work", Text.toUtf8 "status", Text.toUtf8 "srv"]

def diskCounters : VolumeCounters where
  fragmentSize := 4096
  blockSize := 4096
  blocks := 66052045
  free := 61650417
  available := 58285000

def noCounters : VolumeCounters where
  fragmentSize := 4096
  blockSize := 4096
  blocks := 0
  free := 0
  available := 0

/-- Names from the root to each filesystem that the kernel makes up. -/
def kernelVolumes : List (List Text.Bytes) :=
  [[Text.toUtf8 "proc"], [Text.toUtf8 "sys"], [Text.toUtf8 "dev", Text.toUtf8 "pts"]]

def counters (path : Text.Bytes) : VolumeCounters :=
  let names := (components path).filter (· ≠ [])
  if kernelVolumes.any fun volume => volume.isPrefixOf names then noCounters else diskCounters

def host : Host where
  resolve := resolve root working
  counters path := .ok (counters path)
  memoryTotal := 16393244 * 1024
  memoryAvailable := 12110648 * 1024
  loads := [.ofNat 7, .ofNat 4]
  kernel := "Linux"
  release := "6.18.0"
  architecture := "x86_64"

end HostStatus.LinuxHost
