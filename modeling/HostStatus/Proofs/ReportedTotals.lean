import HostStatus.Collect.Host
import HostStatus.Json.Pointer
import HostStatus.Proofs.MeasuredUsage
import HostStatus.Proofs.PageText

/-!
# Totals that are reported

Of nothing there is no percentage, so a usage ought to be of at least one byte. Memory is asked for
its total. A filesystem is only asked for its blocks: where it has some, but in a unit of no bytes,
a usage of nothing is returned and shown. Everywhere else a usage is returned exactly if there is a
capacity, and no total that is shown is zero.
-/

namespace HostStatus

attribute [local irreducible] Format.one Format.limit

namespace Usage

/-- A usage that was measured, and that of a filesystem in a unit of at least one byte. -/
inductive MeasuredInBytes (u : Usage) : Prop where
  | memory (total available : ℕ) (htotal : total < 2 ^ 64)
      (h : ofAvailable? total available = some u)
  | disk (v : Volume) (hfits : v.Fits) (hunit : 0 < v.fragmentSize) (h : ofVolume? v = some u)

variable {u : Usage} {v : Volume}

theorem exists_ofAvailable?_iff {total available : ℕ} :
    (∃ u, ofAvailable? total available = some u) ↔ 0 < total :=
  ⟨fun ⟨_, h⟩ => (ofAvailable?_eq_some h).1, fun h => ⟨_, ofAvailable?_of_pos available h⟩⟩

/-- Only the blocks are asked for. -/
theorem exists_ofVolume?_iff : (∃ u, ofVolume? v = some u) ↔ 0 < v.blocks :=
  ⟨fun ⟨_, h⟩ => (ofVolume?_eq_some h).1, fun h => ⟨_, ofVolume?_of_pos h⟩⟩

theorem exists_ofVolume?_iff_capacity :
    ((∃ u, ofVolume? v = some u) ↔ 0 < v.blocks * v.fragmentSize) ↔
      (0 < v.blocks → 0 < v.fragmentSize) := by
  rw [exists_ofVolume?_iff]
  constructor
  · exact fun hcapacity hblocks => Nat.pos_of_mul_pos_left (hcapacity.1 hblocks)
  · exact fun hunit =>
      ⟨fun hblocks => Nat.mul_pos hblocks (hunit hblocks), Nat.pos_of_mul_pos_right⟩

namespace MeasuredInBytes

theorem measured (h : u.MeasuredInBytes) : u.Measured := by
  cases h with
  | memory total available htotal h => exact .memory total available htotal h
  | disk v hfits hunit h => exact .disk v hfits h

theorem totalBytes_pos (h : u.MeasuredInBytes) : 0 < u.totalBytes := by
  cases h with
  | memory total available htotal h =>
    obtain ⟨hpos, rfl⟩ := ofAvailable?_eq_some h
    exact hpos
  | disk v hfits hunit h =>
    obtain ⟨hblocks, rfl⟩ := ofVolume?_eq_some h
    exact Nat.mul_pos hblocks hunit

end MeasuredInBytes

end Usage

/-! ## What is shown -/

/-- The text of a size says that there is at least one byte. -/
def ShowsBytes (text : String) : Prop :=
  text ≠ "0.00 B" ∧ ∃ bytes, readSize? text = some bytes ∧ 1 ≤ bytes

theorem readSize?_bytesText_zero : readSize? (bytesText 0) = some 0 := by
  have htext : bytesText 0 = (⟨⟨false, 0⟩, .b⟩ : Size).toText := by decide +kernel
  rw [htext, readSize?_toText rfl]
  norm_num [Size.hundredths]

theorem readSize?_bytesText_one : readSize? (bytesText 1) = some 1 := by
  have htext : bytesText 1 = (⟨⟨false, 100⟩, .b⟩ : Size).toText := by decide +kernel
  rw [htext, readSize?_toText rfl]
  norm_num [Size.hundredths, ByteUnit.power]

theorem bytesText_zero : bytesText 0 = "0.00 B" := by
  decide +kernel

theorem showsBytes_bytesText {n : ℕ} (hpos : 0 < n) (hn : n < 2 ^ 64) :
    ShowsBytes (bytesText n) := by
  obtain ⟨one, bytes, hone, hbytes, hle⟩ := readSize?_bytesText_mono hpos hn
  rw [readSize?_bytesText_one] at hone
  obtain rfl := Option.some.inj hone
  refine ⟨fun hzero => ?_, bytes, hbytes, hle⟩
  rw [hzero, ← bytesText_zero, readSize?_bytesText_zero] at hbytes
  obtain rfl := Option.some.inj hbytes
  norm_num at hle

theorem Usage.MeasuredInBytes.showsBytes {u : Usage} (h : u.MeasuredInBytes) :
    ShowsBytes (UsageStats.ofUsage u).total :=
  showsBytes_bytesText h.totalBytes_pos h.measured.totalBytes_lt

/-- The total of a part of the published statistics. -/
theorem at?_total (s : SystemStats) :
    s.toJson.at? "/memory/total" = some (.string s.memory.total) ∧
      s.toJson.at? "/disk/total" = some (.string s.disk.total) := by
  have hmemory : Json.steps? "/memory/total" = some ["memory".toList, "total".toList] := by decide
  have hdisk : Json.steps? "/disk/total" = some ["disk".toList, "total".toList] := by decide
  rw [Json.at?, Json.at?, hmemory, hdisk]
  exact ⟨rfl, rfl⟩

/-- Memory has a usage exactly if there is some. A filesystem does just unless it has blocks of no
size, as none has that reports either of the two sizes. Then there is at least one byte in the total
of a usage, and on the page and in the body of whatever is made of it. -/
theorem usage_iff_capacity (v : Volume) :
    (((∃ u, Usage.ofVolume? v = some u) ↔ 0 < v.blocks * v.fragmentSize) ↔
      (0 < v.blocks → 0 < v.fragmentSize)) ∧
    (∀ total available : ℕ, (∃ u, Usage.ofAvailable? total available = some u) ↔ 0 < total) ∧
    (∀ c : VolumeCounters, 0 < c.fragmentSize ∨ 0 < c.blockSize → 0 < c.toVolume.fragmentSize) ∧
    (∀ u : Usage, u.MeasuredInBytes → 0 < u.totalBytes) ∧
    ∀ (s : Snapshot) (settings : Settings), s.memory.MeasuredInBytes → s.disk.MeasuredInBytes →
      (∃ shown, Page.read? (Page.render (.ofSnapshot s) settings) = some shown ∧
        ShowsBytes shown.memory.total ∧ ShowsBytes shown.disk.total) ∧
      ∃ memory disk, (SystemStats.ofSnapshot s).toJson.at? "/memory/total" = some (.string memory) ∧
        (SystemStats.ofSnapshot s).toJson.at? "/disk/total" = some (.string disk) ∧
        ShowsBytes memory ∧ ShowsBytes disk := by
  refine ⟨Usage.exists_ofVolume?_iff_capacity, fun total available => Usage.exists_ofAvailable?_iff,
    fun c hsize => ?_, fun u => Usage.MeasuredInBytes.totalBytes_pos,
    fun s settings hmemory hdisk => ⟨?_, ?_⟩⟩
  · unfold VolumeCounters.toVolume
    dsimp only
    split
    · next hpos => exact hpos
    · next hzero => exact hsize.resolve_left hzero
  · exact ⟨_, Page.read?_render s settings, hmemory.showsBytes, hdisk.showsBytes⟩
  · obtain ⟨hmemoryAt, hdiskAt⟩ := at?_total (.ofSnapshot s)
    exact ⟨_, _, hmemoryAt, hdiskAt, hmemory.showsBytes, hdisk.showsBytes⟩

/-- One byte of memory, which is in use, and a filesystem of one block whose unit is the size of its
blocks. -/
theorem usage_iff_capacity_of_least :
    let c : VolumeCounters := ⟨0, 512, 1, 0, 0⟩
    c.toVolume.Fits ∧ (0 < c.toVolume.blocks ∧ 0 < c.toVolume.fragmentSize) ∧
      (0 < c.fragmentSize ∨ 0 < c.blockSize) ∧
      ∃ memory disk, Usage.ofAvailable? 1 0 = some memory ∧ Usage.ofVolume? c.toVolume = some disk ∧
        (memory.MeasuredInBytes ∧ disk.MeasuredInBytes) ∧ 0 < disk.totalBytes ∧
        ∃ shown, Page.read? (Page.render (.ofSnapshot ⟨"x", .ofNat 0, memory, disk⟩) {}) =
          some shown ∧
          ShowsBytes shown.memory.total ∧ ShowsBytes shown.disk.total := by
  intro c
  obtain ⟨hvolume, hmemory, hunit, htotal, hshown⟩ := usage_iff_capacity c.toVolume
  have hfits : c.toVolume.Fits := ⟨by decide, by decide⟩
  have hsize : 0 < c.fragmentSize ∨ 0 < c.blockSize := .inr (by decide)
  obtain ⟨memory, hmemoryUsage⟩ := (hmemory 1 0).2 Nat.one_pos
  obtain ⟨disk, hdiskUsage⟩ := (hvolume.2 fun _ => hunit c hsize).2 (by decide)
  have hmeasured : memory.MeasuredInBytes := .memory 1 0 (by norm_num) hmemoryUsage
  have hmeasured' : disk.MeasuredInBytes := .disk _ hfits (hunit c hsize) hdiskUsage
  exact ⟨hfits, ⟨by decide, hunit c hsize⟩, hsize, memory, disk, hmemoryUsage, hdiskUsage,
    ⟨hmeasured, hmeasured'⟩, htotal disk hmeasured', (hshown _ {} hmeasured hmeasured').1⟩

/-- Blocks of no bytes are counted all the same. -/
theorem Usage.ofVolume?_of_no_unit {v : Volume} (hblocks : 0 < v.blocks)
    (hunit : v.fragmentSize = 0) :
    ∃ u, ofVolume? v = some u ∧ u.totalBytes = 0 ∧ (UsageStats.ofUsage u).total = "0.00 B" := by
  have htotal : v.blocks * v.fragmentSize = 0 := by rw [hunit, Nat.mul_zero]
  refine ⟨_, ofVolume?_of_pos hblocks, htotal, ?_⟩
  rw [UsageStats.ofUsage, htotal, bytesText_zero]

/-- One block of no bytes, in use: all of nothing. -/
theorem usage_of_no_capacity :
    let v : Volume := ⟨0, 1, 0, 0⟩
    v.Fits ∧ v.blocks * v.fragmentSize = 0 ∧
      ∃ u, Usage.ofVolume? v = some u ∧ u.totalBytes = 0 ∧
        (UsageStats.ofUsage u).total = "0.00 B" :=
  ⟨⟨by decide, by decide⟩, rfl, Usage.ofVolume?_of_no_unit Nat.one_pos rfl⟩

end HostStatus
