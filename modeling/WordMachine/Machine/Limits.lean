/-!
# Limits

The bounds a machine is given before it runs.
-/

namespace WordMachine

/-- Bounds of one machine; each is a 64-bit number. -/
structure Limits where
  /-- The most bytes on the calculation stack. -/
  maxStackBytes : Nat := 0x100000
  /-- The most pending returns. -/
  maxCallDepth : Nat := 65536
  /-- The first offset that the heap hands out. -/
  heapBase : Nat := 0x10000000
  /-- The most bytes held by live heap blocks. -/
  maxHeapBytes : Nat := 0x100000000
  deriving DecidableEq, Repr, Inhabited

end WordMachine
