import HostStatus.Proofs.MeasuredUsage
import HostStatus.Proofs.WholeCounts

/-!
# The order of usages

How a usage moves when the counts do. Each step from two counts to a percentage keeps the order, the
two conversions included, so what is left to compare are the two quotients of counts as they are
held. With one count fixed their order is that of the counts. When blocks become used both counts of
a filesystem grow, and there the quotient is known to grow only as long as the counts are held
exactly.
-/

namespace HostStatus

open Format

attribute [local irreducible] Format.one Format.limit

namespace Binary

variable {F : Format} {x y c : Binary F} {a b p : ℕ}

/-- Both are numbers, and `x` is not above `y`. -/
structure AtMost (x y : Binary F) : Prop where
  left : x.isFinite = true
  right : y.isFinite = true
  value_le : x.value ≤ y.value

/-- Both are numbers of quanta, and `x` has no more of them. -/
def Below (x y : Binary F) : Prop :=
  ∃ p q, x.HasQuanta p ∧ y.HasQuanta q ∧ p ≤ q

theorem Below.atMost (h : Below x y) : AtMost x y := by
  obtain ⟨p, q, hx, hy, hpq⟩ := h
  refine ⟨hx.isFinite, hy.isFinite, ?_⟩
  rw [hx.value_eq, hy.value_eq]
  exact div_le_div_of_nonneg_right (by exact_mod_cast hpq) F.cast_one_pos.le

theorem eq_round_of_hasQuanta {num den : ℕ}
    (h : (ofQuotient false num den : Binary F).HasQuanta p) :
    p = F.round num den := by
  obtain ⟨hp, heq⟩ := h
  unfold ofQuotient ofQuanta at heq
  split at heq
  · exact (Binary.finite.inj heq).2.symm
  · cases heq

theorem HasQuanta.eq_of_mul (hx : x.HasQuanta a) (hy : y.HasQuanta b)
    (h : (x.mul y).HasQuanta p) : p = F.round (a * b) F.one := by
  obtain ⟨_, rfl⟩ := hx
  obtain ⟨_, rfl⟩ := hy
  exact eq_round_of_hasQuanta h

theorem HasQuanta.eq_of_div (hx : x.HasQuanta a) (hy : y.HasQuanta b) (hb : 0 < b)
    (h : (x.div y).HasQuanta p) : p = F.round (a * F.one) b := by
  obtain ⟨_, rfl⟩ := hx
  obtain ⟨_, rfl⟩ := hy
  rw [Binary.div, if_neg hb.ne'] at h
  exact eq_round_of_hasQuanta h

/-- A product with a whole number keeps the order of its other factor. -/
theorem Below.mul (h : Below x y) (hc : c.HasQuanta a) (hx : ∃ p, (x.mul c).HasQuanta p)
    (hy : ∃ q, (y.mul c).HasQuanta q) : Below (x.mul c) (y.mul c) := by
  obtain ⟨p, q, hxp, hyq, hpq⟩ := h
  obtain ⟨p', hxc⟩ := hx
  obtain ⟨q', hyc⟩ := hy
  refine ⟨p', q', hxc, hyc, ?_⟩
  rw [hxp.eq_of_mul hc hxc, hyq.eq_of_mul hc hyc]
  exact round_mono F.one_pos F.one_pos
    (Nat.mul_le_mul_right _ (Nat.mul_le_mul_right _ hpq))

end Binary

/-! ## Percentages -/

section Percentages

variable {part whole part' whole' : ℕ}

/-- The quotients of two counts are in the order of the quotients of what is held of them. -/
theorem below_quotient (h : part ≤ whole) (hpos : 0 < whole) (hwhole : whole < 2 ^ 64)
    (h' : part' ≤ whole') (hpos' : 0 < whole') (hwhole' : whole' < 2 ^ 64)
    (hratio : heldQuanta part * heldQuanta whole' ≤ heldQuanta part' * heldQuanta whole) :
    Binary.Below ((Binary.ofNat part : Double).div (.ofNat whole))
      ((Binary.ofNat part').div (.ofNat whole')) := by
  obtain ⟨p, hp, -⟩ := reaches_quotient h hpos hwhole
  obtain ⟨q, hq, -⟩ := reaches_quotient h' hpos' hwhole'
  have hheld : 0 < heldQuanta whole := binary64.one_pos.trans_le (one_le_round_ofNat hpos)
  have hheld' : 0 < heldQuanta whole' := binary64.one_pos.trans_le (one_le_round_ofNat hpos')
  refine ⟨p, q, hp, hq, ?_⟩
  rw [(ofNat_heldQuanta (h.trans_lt hwhole)).eq_of_div (ofNat_heldQuanta hwhole) hheld hp,
    (ofNat_heldQuanta (h'.trans_lt hwhole')).eq_of_div (ofNat_heldQuanta hwhole') hheld' hq]
  apply round_mono hheld hheld'
  calc heldQuanta part * binary64.one * heldQuanta whole' =
        heldQuanta part * heldQuanta whole' * binary64.one := by ring
    _ ≤ heldQuanta part' * heldQuanta whole * binary64.one := Nat.mul_le_mul_right _ hratio
    _ = heldQuanta part' * binary64.one * heldQuanta whole := by ring

theorem below_percentage (h : part ≤ whole) (hpos : 0 < whole) (hwhole : whole < 2 ^ 64)
    (h' : part' ≤ whole') (hpos' : 0 < whole') (hwhole' : whole' < 2 ^ 64)
    (hratio : heldQuanta part * heldQuanta whole' ≤ heldQuanta part' * heldQuanta whole) :
    Binary.Below (percentage part whole) (percentage part' whole') := by
  have hhundred := Binary.ofNat_hasQuanta_of_lt (show 100 < 2 ^ 53 by norm_num)
  have hten := Binary.ofNat_hasQuanta_of_lt (show 10 < 2 ^ 53 by norm_num)
  obtain ⟨p, hp, hple, -⟩ := reaches_tenths h hpos hwhole
  obtain ⟨q, hq, hqle, -⟩ := reaches_tenths h' hpos' hwhole'
  have hpercent := (below_quotient h hpos hwhole h' hpos' hwhole' hratio).mul hhundred
    ((reaches_percent h hpos hwhole).imp fun _ => And.left)
    ((reaches_percent h' hpos' hwhole').imp fun _ => And.left)
  obtain ⟨p', q', hp', hq', hpq⟩ := hpercent.mul hten ⟨p, hp⟩ ⟨q, hq⟩
  obtain rfl := hp.eq hp'
  obtain rfl := hq.eq hq'
  exact ⟨_, _, roundTenth_hasQuanta hp hple, roundTenth_hasQuanta hq hqle,
    tenthQuanta_mono (Nearest.halfUp_mono hpq)⟩

/-- Of one whole, a larger part is no smaller percentage. -/
theorem below_percentage_of_part (hpart : part ≤ part') (h' : part' ≤ whole) (hpos : 0 < whole)
    (hwhole : whole < 2 ^ 64) : Binary.Below (percentage part whole) (percentage part' whole) :=
  below_percentage (hpart.trans h') hpos hwhole h' hpos hwhole
    (Nat.mul_le_mul_right _ (heldQuanta_mono hpart))

/-- One part is no larger percentage of a larger whole. -/
theorem below_percentage_of_whole (h : part ≤ whole) (hpos : 0 < whole) (hle : whole ≤ whole')
    (hwhole' : whole' < 2 ^ 64) : Binary.Below (percentage part whole') (percentage part whole) :=
  below_percentage (h.trans hle) (hpos.trans_le hle) hwhole' h hpos (hle.trans_lt hwhole')
    (Nat.mul_le_mul_left _ (heldQuanta_mono hle))

/-- What is added to the part and to the whole does not lower the percentage, where all counts are
held as they are. -/
theorem below_percentage_of_exact {rest : ℕ} (hpart : part ≤ part') (hpos : 0 < part + rest)
    (hheld : part' + rest ≤ 2 ^ 53) :
    Binary.Below (percentage part (part + rest)) (percentage part' (part' + rest)) := by
  apply below_percentage (Nat.le_add_right _ _) hpos (by omega) (Nat.le_add_right _ _) (by omega)
    (by omega)
  rw [heldQuanta_of_le (by omega), heldQuanta_of_le (by omega), heldQuanta_of_le (by omega),
    heldQuanta_of_le (by omega)]
  have hratio : part * (part' + rest) ≤ part' * (part + rest) := by
    rw [Nat.mul_add, Nat.mul_add, Nat.mul_comm part' part]
    exact Nat.add_le_add_left (Nat.mul_le_mul_right _ hpart) _
  calc part * binary64.one * ((part' + rest) * binary64.one) =
        part * (part' + rest) * (binary64.one * binary64.one) := by ring
    _ ≤ part' * (part + rest) * (binary64.one * binary64.one) := Nat.mul_le_mul_right _ hratio
    _ = part' * binary64.one * ((part + rest) * binary64.one) := by ring

end Percentages

/-! ## Volumes -/

namespace Volume

variable {v : Volume}

/-- The percentage of a volume's usage. -/
def percent (v : Volume) : Single :=
  if v.reachableBlocks = 0 then .ofNat 0 else percentage v.usedBlocks v.reachableBlocks

theorem percent_of_unreachable (h : v.reachableBlocks = 0) : v.percent.HasQuanta 0 := by
  rw [percent, if_pos h]
  exact ⟨by decide +kernel, by decide +kernel⟩

theorem percent_of_reachable (h : 0 < v.reachableBlocks) :
    v.percent = percentage v.usedBlocks v.reachableBlocks :=
  if_neg h.ne'

theorem exists_percent_hasQuanta (h : v.reachableBlocks < 2 ^ 64) : ∃ p, v.percent.HasQuanta p := by
  rcases Nat.eq_zero_or_pos v.reachableBlocks with hzero | hpos
  · exact ⟨0, percent_of_unreachable hzero⟩
  · obtain ⟨n, -, hx, -⟩ := percentage_hasQuanta (Nat.le_add_right v.usedBlocks v.available) hpos h
    exact ⟨_, percent_of_reachable hpos ▸ hx⟩

theorem percent_of_unused (hused : v.usedBlocks = 0) (h : v.reachableBlocks < 2 ^ 64) :
    v.percent.HasQuanta 0 := by
  rcases Nat.eq_zero_or_pos v.reachableBlocks with hzero | hpos
  · exact percent_of_unreachable hzero
  · obtain ⟨n, -, hx, herror⟩ :=
      percentage_hasQuanta (Nat.le_add_right v.usedBlocks v.available) hpos h
    have hn : n = 0 := by
      rw [hused, Nat.cast_zero, mul_zero, zero_div, sub_zero, abs_of_nonneg (Nat.cast_nonneg n)]
        at herror
      have hlt : (n : ℚ) < 1 := by linarith
      exact Nat.lt_one_iff.1 (by exact_mod_cast hlt)
    rw [hn, tenthQuanta_zero] at hx
    exact percent_of_reachable hpos ▸ hx

theorem Fits.reachableBlocks_lt (h : v.Fits) : v.reachableBlocks < 2 ^ 64 := by
  have := h.1
  unfold reachableBlocks usedBlocks
  omega

/-- More blocks that anyone may use do not raise the percentage. -/
theorem below_percent_of_available {more : ℕ} (hmore : v.available ≤ more)
    (hfits : ({ v with available := more } : Volume).Fits) :
    Binary.Below ({ v with available := more } : Volume).percent v.percent := by
  have hle : v.reachableBlocks ≤ ({ v with available := more } : Volume).reachableBlocks :=
    Nat.add_le_add_left hmore v.usedBlocks
  rcases Nat.eq_zero_or_pos v.reachableBlocks with hzero | hpos
  · have hunused : ({ v with available := more } : Volume).usedBlocks = 0 :=
      (Nat.add_eq_zero_iff.1 hzero).1
    exact ⟨0, 0, percent_of_unused hunused hfits.reachableBlocks_lt, percent_of_unreachable hzero,
      le_rfl⟩
  · rw [percent_of_reachable hpos, percent_of_reachable (hpos.trans_le hle)]
    exact below_percentage_of_whole (Nat.le_add_right v.usedBlocks v.available) hpos hle
      hfits.reachableBlocks_lt

theorem usedBlocks_le_of_free {less : ℕ} (hless : less ≤ v.free) :
    v.usedBlocks ≤ ({ v with free := less } : Volume).usedBlocks :=
  Nat.sub_le_sub_left hless v.blocks

/-- Fewer free blocks do not lower the percentage, as long as the counts are held exactly. -/
theorem below_percent_of_free {less : ℕ} (hless : less ≤ v.free)
    (hheld : ({ v with free := less } : Volume).reachableBlocks ≤ 2 ^ 53) :
    Binary.Below v.percent ({ v with free := less } : Volume).percent := by
  have hle : v.reachableBlocks ≤ ({ v with free := less } : Volume).reachableBlocks :=
    Nat.add_le_add_right (usedBlocks_le_of_free hless) v.available
  rcases Nat.eq_zero_or_pos v.reachableBlocks with hzero | hpos
  · obtain ⟨q, hq⟩ := exists_percent_hasQuanta (hheld.trans_lt (by norm_num))
    exact ⟨0, q, percent_of_unreachable hzero, hq, Nat.zero_le q⟩
  · rw [percent_of_reachable hpos, percent_of_reachable (hpos.trans_le hle)]
    exact below_percentage_of_exact (usedBlocks_le_of_free hless) hpos hheld

end Volume

/-- What more available memory, more available blocks, fewer free blocks, blocks kept back for the
administrator and the size of a block do to a usage. -/
theorem usage_follows_counts :
    (∀ total available more : ℕ, 0 < total → total < 2 ^ 64 → available ≤ more →
      ∃ u u', Usage.ofAvailable? total available = some u ∧
        Usage.ofAvailable? total more = some u' ∧ u'.usedBytes ≤ u.usedBytes ∧
        u'.percent.AtMost u.percent) ∧
    (∀ (v : Volume) (more : ℕ), 0 < v.blocks → v.available ≤ more →
      ({ v with available := more } : Volume).Fits →
        ∃ u u', Usage.ofVolume? v = some u ∧
          Usage.ofVolume? { v with available := more } = some u' ∧
          u'.percent.AtMost u.percent ∧ u'.totalBytes = u.totalBytes ∧
          u'.usedBytes = u.usedBytes) ∧
    (∀ (v : Volume) (less : ℕ), 0 < v.blocks → less ≤ v.free →
      ∃ u u', Usage.ofVolume? v = some u ∧ Usage.ofVolume? { v with free := less } = some u' ∧
        u.usedBytes ≤ u'.usedBytes ∧
        (v.reachableBlocks ≤ 2 ^ 53 →
          ({ v with free := less } : Volume).reachableBlocks ≤ 2 ^ 53 →
            u.percent.AtMost u'.percent)) ∧
    (∀ (v : Volume) (reserved : ℕ), 0 < v.blocks →
      ∃ u u', Usage.ofVolume? v = some u ∧
        Usage.ofVolume? { v with blocks := v.blocks + reserved, free := v.free + reserved } =
          some u' ∧ u'.usedBytes = u.usedBytes ∧ u'.percent = u.percent) ∧
    ∀ (v : Volume) (size : ℕ), 0 < v.blocks →
      ∃ u u', Usage.ofVolume? v = some u ∧
        Usage.ofVolume? { v with fragmentSize := size } = some u' ∧ u'.percent = u.percent := by
  refine ⟨fun total available more hpos htotal hmore => ?_, fun v more hpos hmore hfits => ?_,
    fun v less hpos hless => ?_, fun v reserved hpos => ?_, fun v size hpos => ?_⟩
  · refine ⟨_, _, Usage.ofAvailable?_of_pos available hpos, Usage.ofAvailable?_of_pos more hpos,
      ?_, ?_⟩
    · exact Nat.sub_le_sub_left hmore total
    · exact (below_percentage_of_part (Nat.sub_le_sub_left hmore total) (Nat.sub_le _ _) hpos
        htotal).atMost
  · exact ⟨_, _, Usage.ofVolume?_of_pos hpos, Usage.ofVolume?_of_pos hpos,
      (Volume.below_percent_of_available hmore hfits).atMost, rfl, rfl⟩
  · exact ⟨_, _, Usage.ofVolume?_of_pos hpos, Usage.ofVolume?_of_pos hpos,
      Nat.mul_le_mul_right _ (Volume.usedBlocks_le_of_free hless),
      fun _ hheld => (Volume.below_percent_of_free hless hheld).atMost⟩
  · have hused : ({ v with blocks := v.blocks + reserved, free := v.free + reserved } :
        Volume).usedBlocks = v.usedBlocks := Nat.add_sub_add_right v.blocks reserved v.free
    refine ⟨_, _, Usage.ofVolume?_of_pos hpos, Usage.ofVolume?_of_pos (Nat.add_pos_left hpos _),
      ?_, ?_⟩
    · rw [hused]
    · dsimp only
      rw [hused, Volume.reachableBlocks, hused]
      rfl
  · exact ⟨_, _, Usage.ofVolume?_of_pos hpos, Usage.ofVolume?_of_pos hpos, rfl⟩

/-- A volume of 1000 blocks of which 600 are free, 550 of them for anyone. -/
theorem usage_follows_counts_of_partly_used :
    let v : Volume := ⟨4096, 1000, 600, 550⟩
    (0 < 1000 ∧ 1000 < 2 ^ 64 ∧ 250 ≤ 300 ∧
      ∃ u u', Usage.ofAvailable? 1000 250 = some u ∧ Usage.ofAvailable? 1000 300 = some u' ∧
        u'.usedBytes ≤ u.usedBytes ∧ u'.percent.AtMost u.percent) ∧
    (0 < v.blocks ∧ v.available ≤ 600 ∧ ({ v with available := 600 } : Volume).Fits ∧
      ∃ u u', Usage.ofVolume? v = some u ∧ Usage.ofVolume? { v with available := 600 } = some u' ∧
        u'.percent.AtMost u.percent) ∧
    (500 ≤ v.free ∧ v.reachableBlocks ≤ 2 ^ 53 ∧
      ({ v with free := 500 } : Volume).reachableBlocks ≤ 2 ^ 53 ∧
      ∃ u u', Usage.ofVolume? v = some u ∧ Usage.ofVolume? { v with free := 500 } = some u' ∧
        u.percent.AtMost u'.percent) ∧
    (∃ u u', Usage.ofVolume? v = some u ∧ Usage.ofVolume? ⟨4096, 1050, 650, 550⟩ = some u' ∧
      u'.percent = u.percent) ∧
    ∃ u u', Usage.ofVolume? v = some u ∧ Usage.ofVolume? ⟨512, 1000, 600, 550⟩ = some u' ∧
      u'.percent = u.percent := by
  intro v
  obtain ⟨hmemory, havailable, hfree, hreserved, hsize⟩ := usage_follows_counts
  have hfits : ({ v with available := 600 } : Volume).Fits := ⟨by decide, by decide⟩
  have hheld : v.reachableBlocks ≤ 2 ^ 53 := by decide
  have hheld' : ({ v with free := 500 } : Volume).reachableBlocks ≤ 2 ^ 53 := by decide
  obtain ⟨u₁, u₁', h₁, h₁', hpercent₁, -⟩ := havailable v 600 (by decide) (by decide) hfits
  obtain ⟨u₂, u₂', h₂, h₂', -, hpercent₂⟩ := hfree v 500 (by decide) (by decide)
  obtain ⟨u₃, u₃', h₃, h₃', -, hpercent₃⟩ := hreserved v 50 (by decide)
  exact ⟨⟨by norm_num, by norm_num, by norm_num,
      hmemory 1000 250 300 (by norm_num) (by norm_num) (by norm_num)⟩,
    ⟨by decide, by decide, hfits, u₁, u₁', h₁, h₁', hpercent₁⟩,
    ⟨by decide, hheld, hheld', u₂, u₂', h₂, h₂', hpercent₂ hheld hheld'⟩,
    ⟨u₃, u₃', h₃, h₃', hpercent₃⟩, hsize v 512 (by decide)⟩

end HostStatus
