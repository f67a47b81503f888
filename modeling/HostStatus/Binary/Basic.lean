import HostStatus.Binary.Format

/-!
# Binary floating-point numbers

A number of a format is not a number, infinite, or finite; a finite one is a sign and a
representable number of quanta. `ofBits` and `toBits` are the interchange encoding, in which the
magnitudes of one sign are numbered in order: `q` quanta have the number
`spacing q * hidden + q / 2 ^ spacing q`.
-/

namespace HostStatus

inductive Binary (F : Format) where
  | nan (negative : Bool) (payload : Nat) (valid : 0 < payload ∧ payload < F.hidden)
  | infinite (negative : Bool)
  | finite (negative : Bool) (quanta : Nat) (representable : F.Representable quanta)
  deriving DecidableEq

abbrev Single := Binary .binary32

abbrev Double := Binary .binary64

namespace Binary

variable {F : Format}

/-- A magnitude too large for the format is infinite. -/
def ofQuanta (negative : Bool) (quanta : Nat) : Binary F :=
  if h : F.Representable quanta then finite negative quanta h else infinite negative

/-- The number nearest to `num / den` quanta. -/
def ofQuotient (negative : Bool) (num den : Nat) : Binary F :=
  ofQuanta negative (F.round num den)

/-- The whole number `n`, rounded once if it has too many digits. -/
def ofNat (n : Nat) : Binary F :=
  ofQuotient false (n * F.one) 1

/-- What is not a number, with nothing more to say of it. -/
def undefined (negative : Bool) : Binary F :=
  nan negative (F.hidden / 2) (by have := F.one_lt_hidden; omega)

def isNegative : Binary F → Bool
  | nan negative _ _ | infinite negative | finite negative _ _ => negative

def isFinite : Binary F → Bool
  | finite _ _ _ => true
  | _ => false

/-- A finite number in quanta; both zeros are zero. -/
def signed (negative : Bool) (quanta : Nat) : Int :=
  if negative then -quanta else quanta

/-- The strict order: zeros of both signs are equal, and what is not a number is below nothing. -/
def less : Binary F → Binary F → Bool
  | nan _ _ _, _ | _, nan _ _ _ => false
  | infinite s, infinite t => s && !t
  | infinite s, finite _ _ _ => s
  | finite _ _ _, infinite t => !t
  | finite s a _, finite t b _ => signed s a < signed t b

def ofBits (bits : Nat) : Binary F :=
  let negative := bits / (F.hidden * (F.lastField + 1)) % 2 = 1
  let field := bits / F.hidden % (F.lastField + 1)
  let fraction := bits % F.hidden
  if field = F.lastField then
    if h : 0 < fraction then
      nan negative fraction ⟨h, Nat.mod_lt _ (Nat.zero_lt_of_lt F.one_lt_hidden)⟩
    else infinite negative
  else if field = 0 then ofQuanta negative fraction
  else ofQuanta negative ((F.hidden + fraction) * Nat.pow 2 (field - 1))

def toBits (x : Binary F) : Nat :=
  let sign := if x.isNegative then F.hidden * (F.lastField + 1) else 0
  sign + match x with
    | nan _ payload _ => F.lastField * F.hidden + payload
    | infinite _ => F.lastField * F.hidden
    | finite _ quanta _ => F.spacing quanta * F.hidden + quanta / Nat.pow 2 (F.spacing quanta)

end Binary

end HostStatus
