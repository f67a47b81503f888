import HostStatus.Text.Utf8
import Mathlib.Data.Nat.Notation
import Mathlib.Tactic.Common

/-!
# Texts and their bytes

The bytes of a text are those of its characters, one after the other, and from the bytes of a
character the scanner takes that character and nothing of what follows. So a text is read back from
its bytes. A byte below 128 is a character of its own: all bytes of longer characters are above.
-/

namespace HostStatus.Text

variable {c : Char} {n k : ℕ}

/-! ## Bytes of a text -/

theorem loop_eq_append (b : ByteArray) (i : ℕ) (r : Bytes) :
    ByteArray.toList.loop b i r = r.reverse ++ b.data.toList.drop i := by
  fun_induction ByteArray.toList.loop b i r with
  | case1 i r h ih =>
    have hget : b.get! i = b.data.toList.get ⟨i, h⟩ := getElem!_pos b.data i h
    rw [ih, hget, List.reverse_cons, List.append_assoc, List.singleton_append, List.get_eq_getElem,
      List.getElem_cons_drop]
  | case2 i r h =>
    have hlength : b.data.toList.length ≤ i := Nat.le_of_not_lt h
    rw [List.drop_eq_nil_of_le hlength, List.append_nil]

theorem toUtf8_eq_flatMap (s : String) : toUtf8 s = s.toList.flatMap String.utf8EncodeChar := by
  have hbytes : s.toUTF8 = (s.toList.flatMap String.utf8EncodeChar).toByteArray := by
    conv_lhs => rw [← String.ofList_toList (s := s)]
    rfl
  rw [toUtf8, ByteArray.toList, loop_eq_append, hbytes, List.toList_data_toByteArray]
  rfl

theorem toUtf8_append (s t : String) : toUtf8 (s ++ t) = toUtf8 s ++ toUtf8 t := by
  simp only [toUtf8_eq_flatMap, String.toList_append, List.flatMap_append]

theorem length_toUtf8 (s : String) : (toUtf8 s).length = s.utf8ByteSize := by
  rw [toUtf8, ByteArray.toList, loop_eq_append]
  rfl

theorem toNat_byte (h : n < 256) : (UInt8.ofNat n).toNat = n :=
  UInt8.toNat_ofNat_of_lt' h

/-- An ASCII byte is not part of any longer character. -/
theorem eq_of_mem_utf8EncodeChar (hn : n < 0x80) (h : UInt8.ofNat n ∈ String.utf8EncodeChar c) :
    c.toNat = n := by
  have hbyte {m : ℕ} (hm : m < 256) (heq : UInt8.ofNat n = UInt8.ofNat m) : n = m := by
    have htoNat := congrArg UInt8.toNat heq
    rwa [toNat_byte (by omega), toNat_byte hm] at htoNat
  have hc : c.toNat = c.val.toNat := rfl
  unfold String.utf8EncodeChar at h
  dsimp only at h
  split_ifs at h <;> simp only [List.mem_cons, List.not_mem_nil, or_false] at h
  · rw [hc, hbyte (by omega) h]
  · rcases h with h | h <;> have := hbyte (by omega) h <;> omega
  · rcases h with h | h | h <;> have := hbyte (by omega) h <;> omega
  · rcases h with h | h | h | h <;> have := hbyte (by omega) h <;> omega

/-! ## Scanning -/

namespace Utf8

theorem start_one (h : n < 0x80) : start (UInt8.ofNat n) = .character (Char.ofNat n) := by
  have hn : (UInt8.ofNat n).toNat = n := toNat_byte (by omega)
  rw [start, hn, if_pos h]

theorem start_two (h : 0xc2 ≤ n) (h' : n < 0xe0) :
    start (UInt8.ofNat n) = .pending ⟨1, 0x80, 0xbf, n - 0xc0⟩ := by
  have hn : (UInt8.ofNat n).toNat = n := toNat_byte (by omega)
  rw [start, hn, if_neg (by omega), if_neg (by omega), if_pos h']

/-- Of three bytes the second may not make the character shorter, nor a surrogate. -/
theorem start_three (h : 0xe0 ≤ n) (h' : n < 0xf0) :
    start (UInt8.ofNat n) = .pending
      ⟨2, if n = 0xe0 then 0xa0 else 0x80, if n = 0xed then 0x9f else 0xbf, n - 0xe0⟩ := by
  have hn : (UInt8.ofNat n).toNat = n := toNat_byte (by omega)
  rw [start, hn, if_neg (by omega), if_neg (by omega), if_neg (by omega)]
  by_cases hlow : n = 0xe0
  · subst hlow
    rfl
  · by_cases hhigh : n = 0xed
    · subst hhigh
      rfl
    · rw [if_neg hlow, if_neg hhigh, if_pos h', if_neg hlow, if_neg hhigh]

/-- Of four bytes the second may not make the character shorter, nor go beyond the last one. -/
theorem start_four (h : 0xf0 ≤ n) (h' : n ≤ 0xf4) :
    start (UInt8.ofNat n) = .pending
      ⟨3, if n = 0xf0 then 0x90 else 0x80, if n = 0xf4 then 0x8f else 0xbf, n - 0xf0⟩ := by
  have hn : (UInt8.ofNat n).toNat = n := toNat_byte (by omega)
  rw [start, hn, if_neg (by omega), if_neg (by omega), if_neg (by omega), if_neg (by omega),
    if_neg (by omega), if_neg (by omega)]
  by_cases hlow : n = 0xf0
  · subst hlow
    rfl
  · by_cases hhigh : n = 0xf4
    · subst hhigh
      rfl
    · rw [if_neg hlow, if_pos (by omega), if_neg hlow, if_neg hhigh]

/-- One more byte of a character, with six binary digits of it. -/
theorem scan_pending {missing : ℕ} {least greatest : UInt8} {value : ℕ}
    (hleast : least.toNat ≤ k % 0x40 + 0x80) (hgreatest : k % 0x40 + 0x80 ≤ greatest.toNat)
    (rest : Bytes) :
    scan (some ⟨missing, least, greatest, value⟩) (UInt8.ofNat (k % 0x40 + 0x80) :: rest) =
      if missing = 1 then some (Char.ofNat (64 * value + k % 64)) :: scan none rest
      else scan (some ⟨missing - 1, 0x80, 0xbf, 64 * value + k % 64⟩) rest := by
  have hbyte : (UInt8.ofNat (k % 0x40 + 0x80)).toNat = k % 0x40 + 0x80 :=
    toNat_byte (by omega)
  have hbounds : least ≤ UInt8.ofNat (k % 0x40 + 0x80) ∧
      UInt8.ofNat (k % 0x40 + 0x80) ≤ greatest := by
    rw [UInt8.le_iff_toNat_le, UInt8.le_iff_toNat_le, hbyte]
    exact ⟨hleast, hgreatest⟩
  rw [scan, if_pos hbounds, hbyte]
  dsimp only
  rw [Nat.add_sub_cancel]

theorem scan_utf8EncodeChar (c : Char) (rest : Bytes) :
    scan none (String.utf8EncodeChar c ++ rest) = some c :: scan none rest := by
  have hvalid : c.val.toNat < 0xd800 ∨ 0xdfff < c.val.toNat ∧ c.val.toNat < 0x110000 := c.valid
  have hc : Char.ofNat c.val.toNat = c := Char.ofNat_toNat c
  have h80 : (0x80 : UInt8).toNat = 0x80 := rfl
  have hbf : (0xbf : UInt8).toNat = 0xbf := rfl
  unfold String.utf8EncodeChar
  dsimp only
  split_ifs with h₁ h₂ h₃
  · rw [List.singleton_append, scan, start_one (by omega), hc]
  · have hvalue :
        64 * (c.val.toNat / 64 % 0x20 + 0xc0 - 0xc0) + c.val.toNat % 64 = c.val.toNat := by
      omega
    rw [List.cons_append, List.singleton_append, scan, start_two (by omega) (by omega)]
    dsimp only
    rw [scan_pending (by omega) (by omega), if_pos rfl, hvalue, hc]
  · have hvalue : 64 * (64 * (c.val.toNat / 4096 % 0x10 + 0xe0 - 0xe0) + c.val.toNat / 64 % 64) +
        c.val.toNat % 64 = c.val.toNat := by
      omega
    rw [List.cons_append, List.cons_append, List.singleton_append, scan,
      start_three (by omega) (by omega)]
    dsimp only
    rw [scan_pending, if_neg (by decide), scan_pending (by omega) (by omega), if_pos rfl,
      hvalue, hc]
    · split_ifs
      · change 0xa0 ≤ _
        omega
      · omega
    · split_ifs
      · change _ ≤ 0x9f
        omega
      · omega
  · have hvalue : 64 * (64 * (64 * (c.val.toNat / 262144 % 0x08 + 0xf0 - 0xf0) +
        c.val.toNat / 4096 % 64) + c.val.toNat / 64 % 64) + c.val.toNat % 64 = c.val.toNat := by
      omega
    rw [List.cons_append, List.cons_append, List.cons_append, List.singleton_append, scan,
      start_four (by omega) (by omega)]
    dsimp only
    rw [scan_pending, if_neg (by decide), scan_pending (by omega) (by omega), if_neg (by decide),
      scan_pending (by omega) (by omega), if_pos rfl, hvalue, hc]
    · split_ifs
      · change 0x90 ≤ _
        omega
      · omega
    · split_ifs
      · change _ ≤ 0x8f
        omega
      · omega

end Utf8

theorem ofUtf8?_toUtf8 (s : String) : ofUtf8? (toUtf8 s) = some s := by
  have hscan (cs : List Char) :
      Utf8.scan none (cs.flatMap String.utf8EncodeChar) = cs.map some := by
    induction cs with
    | nil => rfl
    | cons c cs ih => rw [List.flatMap_cons, Utf8.scan_utf8EncodeChar, ih, List.map_cons]
  have hall (cs : List Char) : (cs.map some).mapM id = some cs := by
    induction cs with
    | nil => rfl
    | cons c cs ih => simp [List.mapM_cons, ih]
  rw [ofUtf8?, toUtf8_eq_flatMap, hscan, hall, Option.map_some, String.ofList_toList]

end HostStatus.Text
