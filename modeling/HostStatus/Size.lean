import HostStatus.Binary.Arithmetic
import HostStatus.Decimal.Layout

/-!
# Sizes for people

A byte count is shown in the largest unit that leaves at least one, with two decimals.
`Size.ofCount` divides by 1024 as long as the count is not below 1024, through the units `B` to
`TB`, and stays with `PB` after those, however large the count. Counts are finite and not below
zero.
-/

namespace HostStatus

inductive ByteUnit where
  | b
  | kb
  | mb
  | gb
  | tb
  | pb
  deriving DecidableEq

namespace ByteUnit

def symbol : ByteUnit → String
  | b => "B"
  | kb => "KB"
  | mb => "MB"
  | gb => "GB"
  | tb => "TB"
  | pb => "PB"

/-- The unit is 1024 to this power. -/
def power : ByteUnit → Nat
  | b => 0
  | kb => 1
  | mb => 2
  | gb => 3
  | tb => 4
  | pb => 5

/-- The units that a count may leave by reaching 1024 of them. -/
def bounded : List ByteUnit :=
  [b, kb, mb, gb, tb]

end ByteUnit

structure Size where
  amount : Decimal.Fixed 2
  unit : ByteUnit
  deriving DecidableEq

inductive SizeError where
  | invalidCount (count : Double)

namespace SizeError

def message : SizeError → String
  | invalidCount count =>
    "invalid byte count: " ++ Decimal.Layout.plain.toText count ++
      " (expected a non-negative finite number)"

end SizeError

namespace Size

def step : Double :=
  .ofNat 1024

/-- The first of the units in which the count is below 1024, and the count in that unit. -/
def reduce : List ByteUnit → Double → Double × ByteUnit
  | [], count => (count, .pb)
  | u :: units, count => if count.less step then (count, u) else reduce units (count.div step)

def ofCount (count : Double) : Except SizeError Size :=
  if !count.isFinite || count.less (.ofNat 0) then .error (.invalidCount count)
  else
    match reduce ByteUnit.bounded count with
    | (.finite negative quanta _, unit) => .ok ⟨.ofQuanta .binary64 negative quanta, unit⟩
    | _ => .error (.invalidCount count)

/-- The size of a whole number of bytes, which is first rounded to a binary number if it is
large. -/
def ofBytes (bytes : Nat) : Except SizeError Size :=
  ofCount (.ofNat bytes)

def toText (s : Size) : String :=
  s.amount.toText ++ " " ++ s.unit.symbol

/-- What the text of a size says, in hundredths of a byte. -/
def hundredths (s : Size) : Nat :=
  s.amount.units * Nat.pow 1024 s.unit.power

end Size

/-- The text of a byte count; one that has no size is written in plain bytes. -/
def bytesText (bytes : Nat) : String :=
  (Size.ofBytes bytes).toOption.elim (toString bytes ++ " B") Size.toText

end HostStatus
