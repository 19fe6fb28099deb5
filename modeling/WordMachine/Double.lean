/-!
# Binary64 arithmetic on registers

A register also holds an IEEE-754 binary64 number by its bit pattern. Sum, difference, product
and quotient are the rounded ones of the host. The remainder is exact: it is the dividend less the
greatest multiple of the divisor that does not exceed it in magnitude, with the dividend's sign.

* `DoubleOp.apply` : the five operations on bit patterns.
* `Double.remainder` : the exact remainder, by integer arithmetic on the two significands.
* `Double.nearest` : a natural number as a double holds it.
-/

namespace WordMachine

namespace Double

/-- The sign bit as a number. -/
def signBit : Nat := 0x8000000000000000

/-- The magnitude: a bit pattern less its sign bit. -/
def magnitude (bits : Nat) : Nat := bits % signBit

/-- The magnitude of infinity; greater magnitudes are not numbers. -/
def infinity : Nat := 0x7ff0000000000000

/-- A bit pattern that is not a number. -/
def nan : Nat := 0x7ff8000000000000

/-- The leading bit of a significand, `2 ^ 52`, which the bit pattern of a large number leaves
out. -/
def leadingBit : Nat := 0x10000000000000

/-- Significand and exponent field of a finite magnitude. The value is the significand times two
to the exponent field, times one unit common to all numbers. -/
def split (m : Nat) : Nat × Nat :=
  if m < leadingBit then (m, 1) else (m % leadingBit + leadingBit, m / leadingBit)

/-- The magnitude with a significand below `2 ^ 53` and an exponent field of at least one. -/
def join (significand field : Nat) : Nat :=
  if significand = 0 then 0
  else
    let up := min (52 - significand.log2) (field - 1)
    let s := significand <<< up
    if s < leadingBit then s else (field - up) * leadingBit + (s - leadingBit)

/-- The least natural number that is rounded to infinity. -/
def overflow : Nat := 1 <<< 1024 - 1 <<< 970

/-- The natural number with at most 53 significant bits that is nearest to another; of two, the one
whose last significant bit is zero. -/
def nearest (n : Nat) : Nat :=
  let shift := n.log2 - 52
  let low := n >>> shift
  let rest := n - low <<< shift
  let half := 1 <<< shift
  if half < 2 * rest ∨ (half = 2 * rest ∧ low % 2 = 1) then (low + 1) <<< shift else low <<< shift

/-- The exact remainder of two finite magnitudes, the second of which is not zero. -/
def remainderMagnitude (x y : Nat) : Nat :=
  let (mx, ex) := split x
  let (my, ey) := split y
  if ey ≤ ex then join ((mx <<< (ex - ey)) % my) ey
  else join (mx % (my <<< (ey - ex))) ex

/-- The exact remainder of two bit patterns. -/
def remainder (x y : Nat) : Nat :=
  let mx := magnitude x
  let my := magnitude y
  if infinity ≤ mx ∨ infinity < my ∨ my = 0 then nan
  else if my = infinity then x
  else (x - mx) + remainderMagnitude mx my

end Double

/-- The operations on two doubles. -/
inductive DoubleOp where
  | add | sub | mul | div | mod
  deriving DecidableEq, Repr

/-- An operation on two registers read as doubles. -/
def DoubleOp.apply (op : DoubleOp) (x y : UInt64) : UInt64 :=
  match op with
  | .add => (Float.ofBits x + Float.ofBits y).toBits
  | .sub => (Float.ofBits x - Float.ofBits y).toBits
  | .mul => (Float.ofBits x * Float.ofBits y).toBits
  | .div => (Float.ofBits x / Float.ofBits y).toBits
  | .mod => UInt64.ofNat (Double.remainder x.toNat y.toNat)

end WordMachine
