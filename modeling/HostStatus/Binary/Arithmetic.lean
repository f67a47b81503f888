import HostStatus.Binary.Basic

/-!
# Arithmetic on binary floating-point numbers

Each operation takes the exact result and rounds it once. The sum of two infinities of different
signs, zero times infinity and the quotients of two zeros or of two infinities are not numbers.
-/

namespace HostStatus.Binary

variable {F : Format}

/-- A sum of zero is negative only where both numbers are. -/
def add : Binary F → Binary F → Binary F
  | nan s p h, _ | _, nan s p h => nan s p h
  | infinite s, infinite t => if s = t then infinite s else undefined false
  | infinite s, finite _ _ _ | finite _ _ _, infinite s => infinite s
  | finite s a _, finite t b _ =>
    let sum := signed s a + signed t b
    if sum = 0 then ofQuanta (s && t) 0 else ofQuotient (sum < 0) sum.natAbs 1

def mul : Binary F → Binary F → Binary F
  | nan s p h, _ | _, nan s p h => nan s p h
  | infinite s, infinite t => infinite (s ^^ t)
  | infinite s, finite t b _ | finite t b _, infinite s =>
    if b = 0 then undefined false else infinite (s ^^ t)
  | finite s a _, finite t b _ => ofQuotient (s ^^ t) (a * b) F.one

def div : Binary F → Binary F → Binary F
  | nan s p h, _ | _, nan s p h => nan s p h
  | infinite _, infinite _ => undefined false
  | infinite s, finite t _ _ => infinite (s ^^ t)
  | finite s _ _, infinite t => ofQuanta (s ^^ t) 0
  | finite s a _, finite t b _ =>
    if b = 0 then if a = 0 then undefined false else infinite (s ^^ t)
    else ofQuotient (s ^^ t) (a * F.one) b

/-- The nearest whole number; a half goes away from zero. -/
def roundToWhole : Binary F → Binary F
  | finite s a _ => ofQuanta s (Nearest.halfUp a F.one * F.one)
  | x => x

/-- The same number in another format, rounded once if that one is coarser there. -/
def convert (G : Format) : Binary F → Binary G
  | nan s _ _ => undefined s
  | infinite s => infinite s
  | finite s a _ => ofQuotient s (a * G.one) F.one

end HostStatus.Binary
