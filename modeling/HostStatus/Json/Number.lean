import HostStatus.Binary.Arithmetic
import HostStatus.Json.Scan

/-!
# The value of a numeral

A whole number of 64 bits keeps its value. Any other numeral is evaluated in double precision: its
digits are gathered into a 64-bit significand, what does not fit is left out, and the significand
is multiplied or divided by a power of ten. Each of these steps rounds, so the value may be a
neighbour of the nearest number. A value beyond the largest number is refused.
-/

namespace HostStatus.Json

inductive Number where
  | natural (n : Nat)
  /-- Minus `n`, which is not zero. -/
  | negative (n : Nat)
  | floating (x : Double)

namespace Number

def found : Number → Found
  | natural n => .integer n
  | negative n => .integer (-(n : Int))
  | floating x => .floating x

def withSign (negative : Bool) (x : Double) : Double :=
  match x with
  | .finite s q h => .finite (s ^^ negative) q h
  | .infinite s => .infinite (s ^^ negative)
  | x => x

/-- Rounded once from the whole number, or once more from double precision. -/
def toSingle : Number → Single
  | natural n => .ofNat n
  | negative n =>
    match (Binary.ofNat n : Single) with
    | .finite _ q h => .finite true q h
    | .infinite _ => .infinite true
    | x => x
  | floating x => x.convert .binary32

def maxSignificand : Nat := 18446744073709551615

def digitValue (c : Char) : Nat :=
  c.toNat - '0'.toNat

/-- Appends digits as long as the significand stays in 64 bits; gives back those left. -/
def gather (significand : Nat) : List Char → Nat × List Char
  | [] => (significand, [])
  | c :: cs =>
    let next := 10 * significand + digitValue c
    if next ≤ maxSignificand then gather next cs else (significand, c :: cs)

/-- The greatest power of ten that is used at once. -/
def maxPower : Nat := 308

def powerOfTen (n : Nat) : Double :=
  .ofNat (Nat.pow 10 n)

def scaleUp? (x : Double) (n : Nat) : Option Double :=
  if n ≤ maxPower then
    let y := x.mul (powerOfTen n)
    if y.isFinite then some y else none
  else if x.less (.ofNat 0) || Binary.less (.ofNat 0) x then none
  else some x

def scaleDown (x : Double) (n : Nat) : Double :=
  if n ≤ maxPower then x.div (powerOfTen n)
  else if x.less (.ofNat 0) || Binary.less (.ofNat 0) x then
    scaleDown (x.div (powerOfTen maxPower)) (n - maxPower)
  else x
termination_by n
decreasing_by simp only [maxPower] at *; omega

/-- `significand * 10 ^ exponent`, if that is finite. -/
def scaled? (significand : Nat) (exponent : Int) : Option Double :=
  match exponent with
  | .ofNat n => scaleUp? (.ofNat significand) n
  | .negSucc n => some (scaleDown (.ofNat significand) (n + 1))

def ofInteger (negative : Bool) (n : Nat) : Number :=
  if !negative then .natural n
  else if n = 0 ∨ 9223372036854775808 < n then .floating (withSign true (.ofNat n))
  else .negative n

/-- Exponents past this are not added up. -/
def maxExponent : Nat := 2147483647

def floating? (negative : Bool) (significand : Nat) (exponent : Int) (e : Option Exponent) :
    Option Double :=
  match e with
  | none => (scaled? significand exponent).map (withSign negative)
  | some e =>
    let n := Nat.ofDigitChars 10 e.digits 0
    if maxExponent < n then
      if significand ≠ 0 ∧ e.negative = false then none else some (withSign negative (.ofNat 0))
    else
      (scaled? significand (if e.negative then exponent - n else exponent + n)).map
        (withSign negative)

def ofNumeral? (n : Numeral) : Option Number :=
  let (whole, dropped) := gather 0 n.whole
  if dropped.isEmpty ∧ n.fraction.isEmpty ∧ n.exponent.isNone then
    some (ofInteger n.negative whole)
  else
    let (significand, unused) := gather whole n.fraction
    let places := n.fraction.length - unused.length
    (floating? n.negative significand ((dropped.length : Int) - places) n.exponent).map .floating

end Number

def scanNumber (cs : List Char) : Except ReadError (Scanned Number) := do
  let (numeral, rest) ← scanNumeral cs
  match Number.ofNumeral? numeral with
  | some n => pure (n, rest)
  | none => throw .malformed

end HostStatus.Json
