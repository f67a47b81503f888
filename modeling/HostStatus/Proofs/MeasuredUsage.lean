import HostStatus.Proofs.Percentage
import HostStatus.Proofs.SizeOrder
import HostStatus.Stats

/-!
# What a measured usage shows

`Usage.Measured` holds of the usages that the two measurements return. In these no more is used than
there is, and the percentage is the single nearest to some tenths. What is shown of them keeps to
that: the two sizes are rounded each on its own and may be in different units, but read back they
are in the order of the counts.
-/

namespace HostStatus

open Format

attribute [local irreducible] Format.one Format.limit

namespace Usage

/-- A usage that was measured, with no number beyond 64 bits on the way. -/
inductive Measured (u : Usage) : Prop where
  | memory (total available : ℕ) (htotal : total < 2 ^ 64)
      (h : ofAvailable? total available = some u)
  | disk (v : Volume) (hfits : v.Fits) (h : ofVolume? v = some u)

variable {u : Usage}

theorem ofAvailable?_eq_some {total available : ℕ} (h : ofAvailable? total available = some u) :
    0 < total ∧ u = ⟨total, total - available, percentage (total - available) total⟩ := by
  rcases Nat.eq_zero_or_pos total with rfl | hpos
  · cases h
  · rw [ofAvailable?_of_pos available hpos] at h
    exact ⟨hpos, (Option.some.inj h).symm⟩

theorem ofVolume?_eq_some {v : Volume} (h : ofVolume? v = some u) :
    0 < v.blocks ∧ u = ⟨v.blocks * v.fragmentSize, v.usedBlocks * v.fragmentSize,
      if v.reachableBlocks = 0 then .ofNat 0 else percentage v.usedBlocks v.reachableBlocks⟩ := by
  rcases Nat.eq_zero_or_pos v.blocks with hzero | hpos
  · rw [ofVolume?, if_pos hzero] at h
    cases h
  · rw [ofVolume?_of_pos hpos] at h
    exact ⟨hpos, (Option.some.inj h).symm⟩

theorem Measured.usedBytes_le (h : u.Measured) : u.usedBytes ≤ u.totalBytes := by
  cases h with
  | memory total available htotal h =>
    obtain ⟨_, rfl⟩ := ofAvailable?_eq_some h
    exact Nat.sub_le _ _
  | disk v hfits h =>
    obtain ⟨_, rfl⟩ := ofVolume?_eq_some h
    exact Nat.mul_le_mul_right _ (Nat.sub_le _ _)

theorem Measured.totalBytes_lt (h : u.Measured) : u.totalBytes < 2 ^ 64 := by
  cases h with
  | memory total available htotal h =>
    obtain ⟨_, rfl⟩ := ofAvailable?_eq_some h
    exact htotal
  | disk v hfits h =>
    obtain ⟨_, rfl⟩ := ofVolume?_eq_some h
    exact hfits.2

theorem Measured.percent_hasQuanta (h : u.Measured) :
    ∃ n : ℕ, n ≤ 1000 ∧ u.percent.HasQuanta (tenthQuanta n) := by
  cases h with
  | memory total available htotal h =>
    obtain ⟨hpos, rfl⟩ := ofAvailable?_eq_some h
    obtain ⟨n, hn, hx, _⟩ := percentage_hasQuanta (Nat.sub_le total available) hpos htotal
    exact ⟨n, hn, hx⟩
  | disk v hfits h =>
    obtain ⟨hpos, rfl⟩ := ofVolume?_eq_some h
    dsimp only
    split
    · refine ⟨0, Nat.zero_le _, ?_⟩
      rw [tenthQuanta_zero]
      exact ⟨by decide +kernel, by decide +kernel⟩
    · next hreach =>
      have hreachable : v.reachableBlocks < 2 ^ 64 := by
        have := hfits.1
        unfold Volume.reachableBlocks Volume.usedBlocks
        omega
      obtain ⟨n, hn, hx, _⟩ := percentage_hasQuanta (Nat.le_add_right v.usedBlocks v.available)
        (Nat.pos_of_ne_zero hreach) hreachable
      exact ⟨n, hn, hx⟩

end Usage

/-- Counts of 64 bits have a size, and the larger count never reads back as the smaller size. -/
theorem readSize?_bytesText_mono {m n : ℕ} (h : m ≤ n) (hn : n < 2 ^ 64) :
    ∃ x y, readSize? (bytesText m) = some x ∧ readSize? (bytesText n) = some y ∧ x ≤ y := by
  have hx := Binary.ofNat_hasQuanta_of_lt_two_pow (h.trans_lt hn)
  have hy := Binary.ofNat_hasQuanta_of_lt_two_pow hn
  have hround : binary64.round (m * binary64.one) 1 ≤ binary64.round (n * binary64.one) 1 :=
    round_mono Nat.one_pos Nat.one_pos (Nat.mul_le_mul_right 1 (Nat.mul_le_mul_right _ h))
  obtain ⟨s, t, hs, ht, hspos, htpos, hle⟩ := Size.hundredths_mono hx hy hround
  have htext {k : ℕ} {size : Size} (hk : Size.ofCount (.ofNat k) = .ok size)
      (hpos : size.amount.negative = false) :
      readSize? (bytesText k) = some ((size.hundredths : ℚ) / 100) := by
    rw [bytesText, show Size.ofBytes k = .ok size from hk]
    exact readSize?_toText hpos
  refine ⟨_, _, htext hs hspos, htext ht htpos, ?_⟩
  gcongr

/-- Whatever units and decimals the two sizes of a measured usage got, the one shown as used is not
above the one shown as total. -/
theorem Usage.shown_used_le_total {u : Usage} (h : u.Measured) :
    u.usedBytes ≤ u.totalBytes ∧
      ∃ used total, readSize? (UsageStats.ofUsage u).used = some used ∧
        readSize? (UsageStats.ofUsage u).total = some total ∧ used ≤ total :=
  ⟨h.usedBytes_le, readSize?_bytesText_mono h.usedBytes_le h.totalBytes_lt⟩

/-- One byte is left of a mebibyte: `1024.00 KB` of `1.00 MB`. -/
theorem Usage.shown_used_le_total_at_boundary :
    (⟨1048576, 1048575, percentage 1048575 1048576⟩ : Usage).Measured ∧
      1048575 ≤ 1048576 ∧
      ∃ used total, readSize? (bytesText 1048575) = some used ∧
        readSize? (bytesText 1048576) = some total ∧ used ≤ total := by
  have h : (⟨1048576, 1048575, percentage 1048575 1048576⟩ : Usage).Measured :=
    .memory 1048576 1 (by norm_num) rfl
  exact ⟨h, Usage.shown_used_le_total h⟩

end HostStatus
