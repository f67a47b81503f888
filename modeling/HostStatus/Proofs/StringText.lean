import Mathlib.Data.Nat.Notation
import HostStatus.Json.Basic
import HostStatus.Json.Record

/-!
# Strings read back

`ReadsBack read j x` says that a reader takes the text of `j` for `x` in any place where a value may
stand, and leaves what follows. For strings this holds of all of them: each character is undone on
its own, whether it is written as it is, with a letter behind the backslash or by its number.
-/

namespace HostStatus.Json

/-- What may stand right behind a value. -/
def EndsValue (rest : List Char) : Prop :=
  ∀ c ∈ rest.head?, c = ',' ∨ c = '}' ∨ c = ']'

def ReadsBack {α : Type} (read : List Char → Except ReadError (Scanned α)) (j : Json) (x : α) :
    Prop :=
  ∀ rest, EndsValue rest → read (j.toChars ++ rest) = .ok (x, rest)

/-- The reader stops at the value with this error, whatever follows. -/
def Refuses {α : Type} (read : List Char → Except ReadError (Scanned α)) (j : Json)
    (e : ReadError) : Prop :=
  ∀ rest, EndsValue rest → read (j.toChars ++ rest) = .error e

theorem endsValue_nil : EndsValue [] := by
  simp [EndsValue]

theorem endsValue_cons {c : Char} (h : c = ',' ∨ c = '}' ∨ c = ']') (rest : List Char) :
    EndsValue (c :: rest) := by
  simpa [EndsValue] using h

theorem hexQuad?_digitChar {n : ℕ} (h : n < 0x20) :
    hexQuad? '0' '0' (Nat.digitChar (n / 16)) (Nat.digitChar (n % 16)) = some n := by
  have hall : ∀ k < 0x20,
      hexQuad? '0' '0' (Nat.digitChar (k / 16)) (Nat.digitChar (k % 16)) = some k := by decide
  exact hall n h

theorem scanString_plain {c : Char} (hquote : c ≠ '"') (hslash : c ≠ '\\') (h : 0x20 ≤ c.toNat)
    (cs : List Char) : scanString (c :: cs) = consChar c (scanString cs) := by
  rw [scanString.eq_def]
  split
  · next heq => cases heq
  · next heq => exact absurd (List.cons.inj heq).1 hquote
  · next heq => exact absurd (List.cons.inj heq).1 hslash
  · next heq => exact absurd (List.cons.inj heq).1 hslash
  · next heq => exact absurd (List.cons.inj heq).1 hslash
  · next heq => exact absurd (List.cons.inj heq).1 hslash
  · next heq =>
    obtain ⟨rfl, rfl⟩ := List.cons.inj heq
    exact if_neg (Nat.not_lt.2 h)

theorem scanString_numbered {n : ℕ} (h : n < 0x20) (cs : List Char) :
    scanString
        ('\\' :: 'u' :: '0' :: '0' :: Nat.digitChar (n / 16) :: Nat.digitChar (n % 16) :: cs) =
      consChar (Char.ofNat n) (scanString cs) := by
  rw [scanString]
  rw [hexQuad?_digitChar h]
  have htrailing : isTrailing n = false := by
    simp [isTrailing]
    omega
  have hleading : isLeading n = false := by
    simp [isLeading]
    omega
  simp [htrailing, hleading]

theorem scanString_escapeChar (c : Char) (cs : List Char) :
    scanString (escapeChar c ++ cs) = consChar c (scanString cs) := by
  unfold escapeChar
  split
  · rfl
  · rfl
  · rfl
  · rfl
  · rfl
  · rfl
  · rfl
  · next hquote hslash _ _ _ _ _ =>
    split
    · next hcontrol =>
      have hc := scanString_numbered hcontrol cs
      rwa [Char.ofNat_toNat] at hc
    · next hcontrol => exact scanString_plain hquote hslash (Nat.le_of_not_lt hcontrol) cs

/-- The characters of a string are those that were quoted. -/
theorem scanString_quoted (cs rest : List Char) :
    scanString (cs.flatMap escapeChar ++ '"' :: rest) = .ok (cs, rest) := by
  induction cs with
  | nil => rfl
  | cons c cs ih =>
    rw [List.flatMap_cons, List.append_assoc, scanString_escapeChar, ih]
    rfl

theorem skipBlank_of_not_isBlank {c : Char} (h : isBlank c = false) (cs : List Char) :
    skipBlank (c :: cs) = c :: cs := by
  simp [skipBlank, h]

theorem readString_quote (cs : List Char) :
    readString ('"' :: cs) = (scanString cs).map fun (s, rest) => (String.ofList s, rest) := rfl

/-- Every string is read back, whatever its characters are. -/
theorem readString_readsBack (s : String) : ReadsBack readString (.string s) s := by
  intro rest _
  rw [toChars, quoteChars, List.cons_append, List.cons_append, readString_quote, List.append_assoc,
    List.singleton_append, scanString_quoted]
  simp only [Except.map, String.ofList_toList]

end HostStatus.Json
