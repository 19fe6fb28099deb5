/-!
# Fixed-width arithmetic

Registers, addresses and instruction words are unsigned integers of a fixed width. Sums,
differences and products wrap around; a shift by the width or more leaves nothing; a quotient or
remainder by zero does not exist.

* `BinaryOp.result?` : the eight two-operand operations at any width.
* `Direction.shift` : shifts by any amount; `Direction.eval` : by the amount in a register.
* `fitting?` : a sum or product that must not wrap around.
-/

namespace WordMachine

/-- A sum or product of offsets and lengths, if it fits in 64 bits. -/
def fitting? (n : Nat) : Option Nat := if n < UInt64.size then some n else none

/-- The two-operand integer operations. -/
inductive BinaryOp where
  | and | or | xor | add | sub | mul | div | mod
  deriving DecidableEq, Repr

/-- The result of an operation, or `none` for a division by zero. -/
def BinaryOp.result? {w : Nat} (x y : BitVec w) : BinaryOp → Option (BitVec w)
  | .and => some (x &&& y)
  | .or => some (x ||| y)
  | .xor => some (x ^^^ y)
  | .add => some (x + y)
  | .sub => some (x - y)
  | .mul => some (x * y)
  | .div => if y = 0 then none else some (x / y)
  | .mod => if y = 0 then none else some (x % y)

/-- An operation on two registers. -/
def BinaryOp.eval? (op : BinaryOp) (x y : UInt64) : Option UInt64 :=
  (op.result? x.toBitVec y.toBitVec).map UInt64.ofBitVec

/-- Which way bits are shifted. -/
inductive Direction where
  | left | right
  deriving DecidableEq, Repr

/-- A shift that fills with zeros. There is none by the width or more. -/
def Direction.shift? {w : Nat} (d : Direction) (x : BitVec w) (amount : Nat) : Option (BitVec w) :=
  if amount < w then
    match d with
    | .left => some (x <<< amount)
    | .right => some (x >>> amount)
  else none

/-- A shift that fills with zeros. Amounts of the width and above shift everything out. -/
def Direction.shift {w : Nat} (d : Direction) (x : BitVec w) (amount : Nat) : BitVec w :=
  (d.shift? x amount).getD 0

/-- The amount of a shift in 32 bits. More than fits counts as the most that does. -/
def shiftAmount (y : UInt64) : UInt32 :=
  if y.toNat < UInt32.size then y.toUInt32 else 0xffffffff

/-- A shift of one register by another. -/
def Direction.eval (d : Direction) (x y : UInt64) : UInt64 :=
  UInt64.ofBitVec (d.shift x.toBitVec (shiftAmount y).toNat)

/-- The number a register holds in two's complement. -/
def signed (x : UInt64) : Int :=
  x.toBitVec.toInt

end WordMachine
