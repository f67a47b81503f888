import HostStatus.Collect.Host
import HostStatus.Proofs.FaultReplies
import HostStatus.Proofs.Percentage

/-!
# Probes of a host

A host is probed in a fixed order, path, filesystem, memory, processors, and the first probe that
fails decides: `Host.Fails` says with what, and `Host.Completes` what a snapshot is made of when
none does. Nothing that would have been found later is in the error, and the service's answer to it
is the same for all of them.
-/

namespace HostStatus

open Router

namespace Host

variable {h h' : Host} {path resolved : Text.Bytes} {cause : IoError} {counters : VolumeCounters}
  {e : CollectError} {s : Snapshot}

/-- The first probe that fails, and its error. The path is shown as it was given where it leads
nowhere, and as what it leads to where the filesystem there is not read or has no blocks. -/
inductive Fails (h : Host) (path : Text.Bytes) : CollectError → Prop where
  | path {cause : IoError} (hresolve : h.resolve path = .error cause) :
      Fails h path (.unresolvedPath path cause)
  | unreadable {resolved : Text.Bytes} {cause : IoError} (hresolve : h.resolve path = .ok resolved)
      (hcounters : h.counters resolved = .error cause) :
      Fails h path (.unreadableVolume resolved cause)
  | volume {resolved : Text.Bytes} {counters : VolumeCounters}
      (hresolve : h.resolve path = .ok resolved) (hcounters : h.counters resolved = .ok counters)
      (hblocks : counters.blocks = 0) : Fails h path (.emptyVolume resolved)
  | memory {resolved : Text.Bytes} {counters : VolumeCounters}
      (hresolve : h.resolve path = .ok resolved) (hcounters : h.counters resolved = .ok counters)
      (hblocks : 0 < counters.blocks) (hmemory : h.memoryTotal = 0) : Fails h path .noMemory
  | processors {resolved : Text.Bytes} {counters : VolumeCounters}
      (hresolve : h.resolve path = .ok resolved) (hcounters : h.counters resolved = .ok counters)
      (hblocks : 0 < counters.blocks) (hmemory : 0 < h.memoryTotal) (hloads : h.loads = []) :
      Fails h path .noProcessors

/-- The counters of a filesystem in the unit that it reports them in, which is the size of its
blocks where it reports none. -/
def volumeOf (c : VolumeCounters) : Volume :=
  match c.fragmentSize with
  | 0 => ⟨c.blockSize, c.blocks, c.free, c.available⟩
  | unit => ⟨unit, c.blocks, c.free, c.available⟩

/-- No probe fails, and the snapshot is made of what they found. Where the kernel does not tell what
runs there, it is the system's own account that counts, or else what the service is built for. -/
structure Completes (h : Host) (path : Text.Bytes) (s : Snapshot) : Prop where
  platform : s.platform =
    if h.tellsKernel then h.kernel ++ "-" ++ h.release ++ "-" ++ h.architecture
    else h.system?.getD "linux" ++ h.systemRelease?.elim "" ("-" ++ ·) ++ "-" ++ "x86_64"
  loads : h.loads ≠ []
  cpuPercent : s.cpuPercent = roundTenth ((meanLoad h.loads).convert .binary64)
  memory : Usage.ofAvailable? h.memoryTotal h.memoryAvailable = some s.memory
  disk : ∃ resolved counters, h.resolve path = .ok resolved ∧ h.counters resolved = .ok counters ∧
    Usage.ofVolume? (volumeOf counters) = some s.disk

theorem volumeOf_eq (c : VolumeCounters) : volumeOf c = c.toVolume := by
  obtain ⟨fragmentSize, blockSize, blocks, free, available⟩ := c
  cases fragmentSize <;> rfl

/-! ## One probe -/

theorem disk_of_unresolved (hresolve : h.resolve path = .error cause) :
    h.disk path = .error (.unresolvedPath path cause) := by
  rw [disk, hresolve]
  rfl

theorem disk_of_unreadable (hresolve : h.resolve path = .ok resolved)
    (hcounters : h.counters resolved = .error cause) :
    h.disk path = .error (.unreadableVolume resolved cause) := by
  rw [disk, hresolve]
  dsimp only [Except.mapError, bind, Except.bind]
  rw [hcounters]

theorem disk_of_counters (hresolve : h.resolve path = .ok resolved)
    (hcounters : h.counters resolved = .ok counters) :
    h.disk path =
      (Usage.ofVolume? counters.toVolume).elim (.error (.emptyVolume resolved)) .ok := by
  rw [disk, hresolve]
  dsimp only [Except.mapError, bind, Except.bind]
  rw [hcounters]
  dsimp only
  cases Usage.ofVolume? counters.toVolume <;> rfl

theorem disk_of_no_blocks (hresolve : h.resolve path = .ok resolved)
    (hcounters : h.counters resolved = .ok counters) (hblocks : counters.blocks = 0) :
    h.disk path = .error (.emptyVolume resolved) := by
  have hnone : Usage.ofVolume? counters.toVolume = none := if_pos hblocks
  rw [disk_of_counters hresolve hcounters, hnone]
  rfl

theorem exists_disk (hresolve : h.resolve path = .ok resolved)
    (hcounters : h.counters resolved = .ok counters) (hblocks : 0 < counters.blocks) :
    ∃ usage, Usage.ofVolume? counters.toVolume = some usage ∧ h.disk path = .ok usage := by
  have hsome := Usage.ofVolume?_of_pos (v := counters.toVolume) hblocks
  refine ⟨_, hsome, ?_⟩
  rw [disk_of_counters hresolve hcounters, hsome]
  rfl

theorem memory_of_none (hmemory : h.memoryTotal = 0) : h.memory = .error .noMemory := by
  rw [memory, hmemory]
  rfl

theorem exists_memory (hmemory : 0 < h.memoryTotal) :
    ∃ usage, Usage.ofAvailable? h.memoryTotal h.memoryAvailable = some usage ∧
      h.memory = .ok usage := by
  have hsome := Usage.ofAvailable?_of_pos h.memoryAvailable hmemory
  refine ⟨_, hsome, ?_⟩
  rw [memory, hsome]
  rfl

theorem cpuPercent_of_none (hloads : h.loads = []) : h.cpuPercent = .error .noProcessors := by
  rw [cpuPercent, hloads]
  rfl

theorem cpuPercent_of_some (hloads : h.loads ≠ []) :
    h.cpuPercent = .ok (roundTenth ((meanLoad h.loads).convert .binary64)) :=
  if_neg (List.isEmpty_iff.not.2 hloads)

/-! ## All probes -/

theorem collect_of_disk_error (hdisk : h.disk path = .error e) : h.collect path = .error e := by
  rw [collect, hdisk]
  rfl

theorem collect_of_memory_error {disk : Usage} (hdisk : h.disk path = .ok disk)
    (hmemory : h.memory = .error e) : h.collect path = .error e := by
  rw [collect, hdisk, hmemory]
  rfl

theorem collect_of_memory_ok {disk memory : Usage} (hdisk : h.disk path = .ok disk)
    (hmemory : h.memory = .ok memory) :
    h.collect path = h.cpuPercent.map fun percent => ⟨h.platform, percent, memory, disk⟩ := by
  rw [collect, hdisk, hmemory]
  cases h.cpuPercent <;> rfl

theorem Fails.collect_eq (hfails : h.Fails path e) : h.collect path = .error e := by
  cases hfails with
  | path hresolve => exact collect_of_disk_error (disk_of_unresolved hresolve)
  | unreadable hresolve hcounters =>
    exact collect_of_disk_error (disk_of_unreadable hresolve hcounters)
  | volume hresolve hcounters hblocks =>
    exact collect_of_disk_error (disk_of_no_blocks hresolve hcounters hblocks)
  | memory hresolve hcounters hblocks hmemory =>
    obtain ⟨disk, -, hdisk⟩ := exists_disk hresolve hcounters hblocks
    exact collect_of_memory_error hdisk (memory_of_none hmemory)
  | processors hresolve hcounters hblocks hmemory hloads =>
    obtain ⟨disk, -, hdisk⟩ := exists_disk hresolve hcounters hblocks
    obtain ⟨memory, -, htotal⟩ := exists_memory hmemory
    rw [collect_of_memory_ok hdisk htotal, cpuPercent_of_none hloads]
    rfl

theorem Completes.collect_eq (hcompletes : h.Completes path s) : h.collect path = .ok s := by
  obtain ⟨hplatform, hloads, hcpu, hmemory, resolved, counters, hresolve, hcounters, hdisk⟩ :=
    hcompletes
  rw [volumeOf_eq] at hdisk
  have husage : h.disk path = .ok s.disk := by
    rw [disk_of_counters hresolve hcounters, hdisk]
    rfl
  have htotal : h.memory = .ok s.memory := by
    rw [Host.memory, hmemory]
    rfl
  have hruns : h.platform = s.platform := hplatform.symm
  rw [collect_of_memory_ok husage htotal, cpuPercent_of_some hloads, hruns, ← hcpu]
  rfl

theorem Fails.collect_congr (hfails : h.Fails path e) (hfails' : h'.Fails path e) :
    h'.collect path = h.collect path :=
  hfails'.collect_eq.trans hfails.collect_eq.symm

/-- Either some probe fails or all of them succeed. -/
theorem fails_or_completes (h : Host) (path : Text.Bytes) :
    (∃ e, h.Fails path e) ∨ ∃ s, h.Completes path s := by
  cases hresolve : h.resolve path with
  | error cause => exact .inl ⟨_, .path hresolve⟩
  | ok resolved =>
    cases hcounters : h.counters resolved with
    | error cause => exact .inl ⟨_, .unreadable hresolve hcounters⟩
    | ok counters =>
      rcases Nat.eq_zero_or_pos counters.blocks with hblocks | hblocks
      · exact .inl ⟨_, .volume hresolve hcounters hblocks⟩
      rcases Nat.eq_zero_or_pos h.memoryTotal with hmemory | hmemory
      · exact .inl ⟨_, .memory hresolve hcounters hblocks hmemory⟩
      by_cases hloads : h.loads = []
      · exact .inl ⟨_, .processors hresolve hcounters hblocks hmemory hloads⟩
      · obtain ⟨disk, hdisk, -⟩ := exists_disk hresolve hcounters hblocks
        obtain ⟨memory, htotal, -⟩ := exists_memory hmemory
        rw [← volumeOf_eq] at hdisk
        exact .inr ⟨⟨h.platform, roundTenth ((meanLoad h.loads).convert .binary64), memory, disk⟩,
          rfl, hloads, rfl, htotal, resolved, counters, hresolve, hcounters, hdisk⟩

theorem collect_eq_error : h.collect path = .error e ↔ h.Fails path e := by
  refine ⟨fun hcollect => ?_, Fails.collect_eq⟩
  rcases h.fails_or_completes path with ⟨e', hfails⟩ | ⟨s, hcompletes⟩
  · obtain rfl := Except.error.inj (hcollect.symm.trans hfails.collect_eq)
    exact hfails
  · cases hcollect.symm.trans hcompletes.collect_eq

theorem collect_eq_ok : h.collect path = .ok s ↔ h.Completes path s := by
  refine ⟨fun hcollect => ?_, Completes.collect_eq⟩
  rcases h.fails_or_completes path with ⟨e, hfails⟩ | ⟨s', hcompletes⟩
  · cases hcollect.symm.trans hfails.collect_eq
  · obtain rfl := Except.ok.inj (hcollect.symm.trans hcompletes.collect_eq)
    exact hcompletes

end Host

/-! ## The answer to a failure -/

/-- What a run of the collector comes to that gives such a result. -/
def Outcome.ofCollected : Except CollectError Snapshot → Outcome
  | .ok s => .snapshot s
  | .error e => .failed e

variable {request : Request} {h : Host} {path : Text.Bytes} {e : CollectError}

theorem FailureClass.response_collection (id : String) :
    (FailureClass.collection.response id).status = 500 ∧
      (FailureClass.collection.response id).headers =
        [("content-type", "application/json"),
          ("content-length", toString (FailureClass.collection.response id).body.utf8ByteSize)] ∧
      Report.parse (FailureClass.collection.response id).body =
        .ok ⟨"COLLECTION_FAILED", "Failed to read system statistics", id⟩ :=
  ⟨rfl, rfl, Fault.parse_body (.collection .noMemory) id⟩

theorem response_of_collect_error (settings : Settings) (ticket : Ticket)
    (hcollect : h.collect path = .error e) (hnames : request.namesResource = true)
    (hmethod : request.method = "GET") :
    (replyTo settings ticket request (.ofCollected (h.collect path))).response =
      FailureClass.collection.response ticket.request := by
  have hclass : (Outcome.ofCollected (h.collect path)).failureClass? = some .collection := by
    rw [hcollect]
    rfl
  obtain ⟨_, -, hreply⟩ := failure_reply hnames hmethod hclass
  rw [hreply]

/-- The collector makes its probes in order and gives the error of the first that fails, whatever
the later ones would have found, or else a snapshot of what all of them found. To each of its errors
both routes give one and the same answer, of which only the id is the request's. -/
theorem collect_stops_at_first_failure :
    (∀ (h : Host) path e, h.collect path = .error e ↔ h.Fails path e) ∧
    (∀ (h : Host) path s, h.collect path = .ok s ↔ h.Completes path s) ∧
    (∀ (h h' : Host) path, h'.resolve path = h.resolve path →
      (∀ cause, h.resolve path = .error cause → h'.collect path = h.collect path) ∧
      ∀ resolved, h.resolve path = .ok resolved →
        (∀ cause, h.counters resolved = .error cause → h'.counters resolved = .error cause →
          h'.collect path = h.collect path) ∧
        ∀ counters counters', h.counters resolved = .ok counters →
          h'.counters resolved = .ok counters' → counters'.blocks = counters.blocks →
          (counters.blocks = 0 → h'.collect path = h.collect path) ∧
          (h.memoryTotal = 0 → h'.memoryTotal = 0 → h'.collect path = h.collect path) ∧
          (h'.memoryTotal = h.memoryTotal → h.loads = [] → h'.loads = [] →
            h'.collect path = h.collect path)) ∧
    ∀ (h : Host) path e settings ticket request, h.collect path = .error e →
      request.namesResource = true → request.method = "GET" →
      let response :=
        (replyTo settings ticket request (.ofCollected (h.collect path))).response
      response.status = 500 ∧
        response.headers = [("content-type", "application/json"),
          ("content-length", toString response.body.utf8ByteSize)] ∧
        Report.parse response.body =
          .ok ⟨"COLLECTION_FAILED", "Failed to read system statistics", ticket.request⟩ ∧
        ∀ (h' : Host) path' e' settings' ticket' request', h'.collect path' = .error e' →
          request'.namesResource = true → request'.method = "GET" →
          ticket'.request = ticket.request →
          (replyTo settings' ticket' request' (.ofCollected (h'.collect path'))).response =
            response := by
  refine ⟨fun h path e => Host.collect_eq_error, fun h path s => Host.collect_eq_ok,
    fun h h' path hpath => ⟨fun cause hresolve => ?_, fun resolved hresolve => ⟨fun cause hcounters
      hcounters' => ?_, fun counters counters' hcounters hcounters' hblocks => ?_⟩⟩, ?_⟩
  · exact Host.Fails.collect_congr (.path hresolve) (.path (hpath.trans hresolve))
  · exact Host.Fails.collect_congr (.unreadable hresolve hcounters)
      (.unreadable (hpath.trans hresolve) hcounters')
  · have hresolve' : h'.resolve path = .ok resolved := hpath.trans hresolve
    have hempty (h₀ : counters.blocks = 0) : h'.collect path = h.collect path :=
      Host.Fails.collect_congr (.volume hresolve hcounters h₀)
        (.volume hresolve' hcounters' (hblocks.trans h₀))
    have hnothing (hmemory : h.memoryTotal = 0) (hmemory' : h'.memoryTotal = 0) :
        h'.collect path = h.collect path := by
      rcases Nat.eq_zero_or_pos counters.blocks with h₀ | hpos
      · exact hempty h₀
      · exact Host.Fails.collect_congr (.memory hresolve hcounters hpos hmemory)
          (.memory hresolve' hcounters' (hblocks ▸ hpos) hmemory')
    refine ⟨hempty, hnothing, fun htotal hloads hloads' => ?_⟩
    rcases Nat.eq_zero_or_pos counters.blocks with h₀ | hpos
    · exact hempty h₀
    rcases Nat.eq_zero_or_pos h.memoryTotal with hmemory | hmemory
    · exact hnothing hmemory (htotal.trans hmemory)
    · exact Host.Fails.collect_congr (.processors hresolve hcounters hpos hmemory hloads)
        (.processors hresolve' hcounters' (hblocks ▸ hpos) (htotal ▸ hmemory) hloads')
  · intro h path e settings ticket request hcollect hnames hmethod
    dsimp only
    rw [response_of_collect_error settings ticket hcollect hnames hmethod]
    obtain ⟨hstatus, hheaders, hbody⟩ := FailureClass.response_collection ticket.request
    refine ⟨hstatus, hheaders, hbody,
      fun h' path' e' settings' ticket' request' hcollect' hnames' hmethod' hid => ?_⟩
    rw [response_of_collect_error settings' ticket' hcollect' hnames' hmethod', hid]

/-- A host without processors and memory, a filesystem without blocks and a path that leads nowhere,
each of them behind the one before; and a host on which the filesystem reports no unit. -/
theorem collect_stops_at_first_failure_of_three_faults :
    let host (blocks total : ℕ) (loads : List Single) : Host :=
      { resolve := fun path => if path = [0x2f] then .ok [0x2f, 0x64] else .error (.os 2)
        counters := fun _ => .ok ⟨0, 4096, blocks, 600, 550⟩
        memoryTotal := total
        memoryAvailable := 1
        loads := loads
        kernel := "Linux"
        release := "6.8"
        architecture := "x86_64" }
    let page : Request := ⟨"GET", ⟨none, none, "/", none⟩⟩
    let stats : Request := ⟨"GET", ⟨none, none, "/api/stats", none⟩⟩
    (host 0 0 []).collect [0x78] = .error (.unresolvedPath [0x78] (.os 2)) ∧
      (host 1000 3 [.ofNat 7]).collect [0x78] = (host 0 0 []).collect [0x78] ∧
      (host 0 0 []).collect [0x2f] = .error (.emptyVolume [0x2f, 0x64]) ∧
      (host 0 3 [.ofNat 7]).collect [0x2f] = (host 0 0 []).collect [0x2f] ∧
      (host 1000 0 []).collect [0x2f] = .error .noMemory ∧
      (host 1000 3 []).collect [0x2f] = .error .noProcessors ∧
      (∃ s, (host 1000 3 [.ofNat 7]).collect [0x2f] = .ok s ∧ s.disk.totalBytes = 1000 * 4096) ∧
      (replyTo {} ⟨"7", "1"⟩ page (.ofCollected ((host 0 0 []).collect [0x2f]))).response.status =
        500 ∧
      (replyTo {} ⟨"7", "1"⟩ stats (.ofCollected ((host 1000 0 []).collect [0x2f]))).response =
        (replyTo {} ⟨"7", "1"⟩ page (.ofCollected ((host 0 0 []).collect [0x2f]))).response := by
  intro host page stats
  obtain ⟨herror, hok, hlater, hreplies⟩ := collect_stops_at_first_failure
  have hresolve (blocks total : ℕ) (loads : List Single) :
      (host blocks total loads).resolve [0x2f] = .ok [0x2f, 0x64] := rfl
  have hcounters (blocks total : ℕ) (loads : List Single) :
      (host blocks total loads).counters [0x2f, 0x64] = .ok ⟨0, 4096, blocks, 600, 550⟩ := rfl
  have hpath : (host 0 0 []).collect [0x78] = .error (.unresolvedPath [0x78] (.os 2)) :=
    (herror _ _ _).2 (.path rfl)
  have hvolume : (host 0 0 []).collect [0x2f] = .error (.emptyVolume [0x2f, 0x64]) :=
    (herror _ _ _).2 (.volume (hresolve 0 0 []) (hcounters 0 0 []) rfl)
  have hmemory : (host 1000 0 []).collect [0x2f] = .error .noMemory :=
    (herror _ _ _).2 (.memory (hresolve 1000 0 []) (hcounters 1000 0 []) (Nat.succ_pos 999) rfl)
  have hprocessors : (host 1000 3 []).collect [0x2f] = .error .noProcessors :=
    (herror _ _ _).2 (.processors (hresolve 1000 3 []) (hcounters 1000 3 []) (Nat.succ_pos 999)
      (Nat.succ_pos 2) rfl)
  obtain ⟨memory, htotal⟩ : ∃ usage, Usage.ofAvailable? 3 1 = some usage :=
    ⟨_, Usage.ofAvailable?_of_pos 1 (by norm_num)⟩
  obtain ⟨disk, hdisk, hbytes⟩ : ∃ usage, Usage.ofVolume? ⟨4096, 1000, 600, 550⟩ = some usage ∧
      usage.totalBytes = 1000 * 4096 :=
    ⟨_, Usage.ofVolume?_of_pos (by norm_num), rfl⟩
  have hcomplete : (host 1000 3 [.ofNat 7]).Completes [0x2f] ⟨"Linux-6.8-x86_64",
      roundTenth ((Host.meanLoad [.ofNat 7]).convert .binary64), memory, disk⟩ :=
    ⟨rfl, List.cons_ne_nil _ _, by dsimp only [host], htotal, [0x2f, 0x64], _,
      hresolve 1000 3 _, hcounters 1000 3 _, hdisk⟩
  obtain ⟨hstatus, -, -, hsame⟩ :=
    hreplies (host 0 0 []) [0x2f] _ {} ⟨"7", "1"⟩ page hvolume rfl rfl
  obtain ⟨-, hbehind⟩ := hlater (host 0 0 []) (host 0 3 [.ofNat 7]) [0x2f] rfl
  exact ⟨hpath, (hlater (host 0 0 []) (host 1000 3 [.ofNat 7]) [0x78] rfl).1 (.os 2) rfl, hvolume,
    ((hbehind [0x2f, 0x64] rfl).2 _ _ (hcounters 0 0 []) (hcounters 0 3 _) rfl).1 rfl, hmemory,
    hprocessors, ⟨_, (hok _ _ _).2 hcomplete, hbytes⟩, hstatus,
    hsame (host 1000 0 []) [0x2f] _ {} ⟨"7", "1"⟩ stats hmemory rfl rfl rfl⟩

end HostStatus
