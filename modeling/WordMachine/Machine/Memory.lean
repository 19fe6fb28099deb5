import Std.Data.ExtTreeMap.Lemmas
import WordMachine.ByteOrder
import WordMachine.Machine.Fault

/-!
# Memory

Two spaces of `2 ^ 63` offsets. A byte of the static space exists if it was loaded, and never
changes. A byte of the dynamic space exists if it was written, or, with the value zero, if it lies
in a live heap block. An access of several bytes stays in the space of its address.

The heap hands out ever higher offsets. Its live blocks are a list of extents, highest base first;
releasing part of a block leaves the rest of it live.

* `Memory.byte?` : the byte at an offset of a space, if it exists.
* `Memory.readBytes`, `Memory.writeBytes`, `Memory.readString` : accesses of several bytes.
* `Memory.putSpan` : bytes written one after the other, in place.
* `Memory.allocate`, `Memory.release` : the heap.
-/

namespace WordMachine

/-- A live heap block. -/
structure Extent where
  base : Nat
  size : Nat
  deriving DecidableEq, Repr

/-- The first offset behind a block. -/
def Extent.stop (e : Extent) : Nat := e.base + e.size

namespace Extents

/-- Put a block in its place, highest base first. It takes the place of a block with its base. -/
def insert (e : Extent) : List Extent → List Extent
  | [] => [e]
  | x :: xs =>
    if x.base < e.base then e :: x :: xs
    else if x.base = e.base then e :: xs
    else x :: insert e xs

/-- Remove the block with a base. -/
def erase (base : Nat) (xs : List Extent) : List Extent :=
  xs.filter fun e => e.base ≠ base

/-- Whether an offset lies in the block with the highest base at or below it. -/
def covers (xs : List Extent) (offset : Nat) : Bool :=
  match xs.find? fun e => e.base ≤ offset with
  | some e => offset - e.base < e.size
  | none => false

/-- The blocks that reach into the range from `start` up to `stop`. -/
def touching (xs : List Extent) (start stop : Nat) : List Extent :=
  (xs.dropWhile fun e => stop ≤ e.base).takeWhile fun e => start < e.stop

/-- Cut a range out of one block. What lies before and behind the range stays. -/
def cut (start stop : Nat) (xs : List Extent) (e : Extent) : List Extent :=
  let xs := erase e.base xs
  let xs := if e.base < start then insert ⟨e.base, start - e.base⟩ xs else xs
  if stop < e.stop then insert ⟨stop, e.stop - stop⟩ xs else xs

/-- How many bytes of a block lie in a range that it reaches into. -/
def overlap (start stop : Nat) (e : Extent) : Nat :=
  min e.stop stop - max e.base start

end Extents

/-- The memory of one machine. -/
structure Memory where
  /-- The dynamic bytes that were written. -/
  written : Std.ExtTreeMap Nat UInt8 := ∅
  /-- The live heap blocks, highest base first. -/
  extents : List Extent := []
  /-- The static bytes. -/
  fixed : Std.ExtTreeMap Nat UInt8 := ∅
  /-- The next offset that the heap hands out. -/
  next : Nat
  /-- The bytes held by live blocks. -/
  inUse : Nat := 0
  /-- The most bytes that live blocks may hold. -/
  limit : Nat := 0x100000000

namespace Memory

/-- Memory with given static bytes and heap base. -/
def ofFixed (fixed : Std.ExtTreeMap Nat UInt8) (heapBase : Nat) : Memory :=
  { fixed, next := heapBase % spaceSize }

/-- Write bytes over the offsets from a start on. -/
def overlay (bytes : Std.ExtTreeMap Nat UInt8) (start : Nat) :
    List UInt8 → Std.ExtTreeMap Nat UInt8
  | [] => bytes
  | b :: bs => overlay (bytes.insert start b) (start + 1) bs

/-- Memory whose static bytes lie side by side from offset zero on. -/
def ofLiteral (literal : List UInt8) (heapBase : Nat) : Memory :=
  ofFixed (overlay ∅ 0 literal) heapBase

/-! ## Single bytes -/

/-- The byte at an offset of a space, if it exists. -/
def byte? (m : Memory) (s : Space) (offset : Nat) : Option UInt8 :=
  match s with
  | .static => m.fixed[offset]?
  | .dynamic =>
    match m.written[offset]? with
    | some b => some b
    | none => if Extents.covers m.extents offset then some 0 else none

/-- The byte at an offset of a space. -/
def readAt (m : Memory) (s : Space) (offset : Nat) : Except Fault UInt8 :=
  match m.byte? s offset with
  | some b => .ok b
  | none => .error (.unmapped s offset)

/-- The byte at an address. -/
def read (m : Memory) (a : Address) : Except Fault UInt8 :=
  m.readAt a.space a.offset

/-- Write the byte at an address. -/
def write (m : Memory) (a : Address) (b : UInt8) : Except Fault Memory :=
  match a.space with
  | .static => .error (.writeToStatic a.offset)
  | .dynamic => .ok { m with written := m.written.insert a.offset b }

/-! ## Several bytes -/

/-- Fails unless the bytes from an address on stay in its space. -/
def checkSpan (a : Address) (length : Nat) : Except Fault Unit :=
  if a.offset + length ≤ spaceSize then .ok ()
  else .error (.crossesSpace a.space a.offset length)

/-- The bytes from an offset on, in order, behind those already collected (newest first). -/
def collect (m : Memory) (s : Space) : (offset length : Nat) → List UInt8 →
    Except Fault (List UInt8)
  | _, 0, done => .ok done.reverse
  | offset, length + 1, done =>
    match m.readAt s offset with
    | .error f => .error f
    | .ok b => m.collect s (offset + 1) length (b :: done)

/-- The bytes from an address on. -/
def readBytes (m : Memory) (a : Address) (length : Nat) : Except Fault (List UInt8) := do
  checkSpan a length
  m.collect a.space a.offset length []

/-- Write bytes from an address on: all of them, or none. -/
def writeBytes (m : Memory) (a : Address) (bytes : List UInt8) : Except Fault Memory := do
  checkSpan a bytes.length
  match a.space with
  | .dynamic => return { m with written := overlay m.written a.offset bytes }
  | .static => if bytes.isEmpty then return m else throw (.writeToStatic a.offset)

/-- The number in the bytes from an address on, least significant first. Only the low 64 bits are
kept. -/
def readValue (m : Memory) (a : Address) (width : Nat) : Except Fault UInt64 := do
  return joinBytes (← m.readBytes a width).reverse

/-- Write the low `width` bytes of a value from an address on, least significant first. -/
def writeValue (m : Memory) (a : Address) (value : UInt64) (width : Nat) :
    Except Fault Memory :=
  if 8 < width then .error .misuse
  else m.writeBytes a (littleEndian width value.toNat)

/-- Write one byte in place. -/
def put (a : Address) (b : UInt8) : EStateM Fault Memory Unit := fun m =>
  match m.write a b with
  | .ok m' => .ok () m'
  | .error e => .error e m

/-- Write bytes in place, one after the other, at addresses that count up and wrap around. Those
written before a refusal stay. -/
def putAll : Address → List UInt8 → EStateM Fault Memory Unit
  | _, [] => pure ()
  | a, b :: bytes => do
    put a b
    putAll a.next bytes

/-- Check the span of some bytes, then write them in place one after the other. -/
def putSpan (a : Address) (bytes : List UInt8) : EStateM Fault Memory Unit :=
  match checkSpan a bytes.length with
  | .ok () => putAll a bytes
  | .error e => throw e

/-- Write the low `width` bytes of a value in place, least significant first. -/
def putValue (a : Address) (value : UInt64) (width : Nat) : EStateM Fault Memory Unit :=
  if 8 < width then throw .misuse
  else putSpan a (littleEndian width value.toNat)

/-- The bytes of a space from an offset up to the first zero, behind those already collected
(newest first). `room` is the number of offsets left in the space. -/
def collectString (m : Memory) (s : Space) (start : Nat) : (room offset : Nat) → List UInt8 →
    Except Fault (List UInt8)
  | 0, _, done => .error (.crossesSpace s start (done.length + 1))
  | room + 1, offset, done =>
    match m.readAt s offset with
    | .error f => .error f
    | .ok b =>
      if b = 0 then .ok done.reverse else m.collectString s start room (offset + 1) (b :: done)

/-- The bytes from an address up to, and not including, the first zero. -/
def readString (m : Memory) (a : Address) : Except Fault (List UInt8) :=
  m.collectString a.space a.offset (spaceSize - a.offset) a.offset []

/-! ## The heap -/

/-- Reserve a block of zero bytes. An empty block still takes one offset, so no address is handed
out twice. -/
def allocate (m : Memory) (size : Nat) : Except Fault (Address × Memory) :=
  if m.limit < m.inUse + size ∨ spaceSize < m.next + max size 1 then
    .error (.heapExhausted size m.limit)
  else
    .ok (Address.ofOffset .dynamic m.next,
      { m with
        extents := if size = 0 then m.extents else Extents.insert ⟨m.next, size⟩ m.extents
        next := m.next + max size 1
        inUse := m.inUse + size })

/-- Release the bytes from an address on. They no longer exist, written or not. -/
def release (m : Memory) (a : Address) (size : Nat) : Except Fault Memory :=
  match a.space with
  | .static => .error (.writeToStatic a.offset)
  | .dynamic => do
    checkSpan a size
    let start := a.offset
    let stop := a.offset + size
    let touched := Extents.touching m.extents start stop
    return { m with
      written := m.written.filter fun offset _ => offset < start || stop ≤ offset
      extents := touched.foldl (Extents.cut start stop) m.extents
      inUse := touched.foldl (fun n e => n - Extents.overlap start stop e) m.inUse }

/-- Move the offset that the heap hands out next. -/
def setHeapBase (m : Memory) (base : Nat) : Memory := { m with next := base % spaceSize }

/-- Change the most bytes that live blocks may hold. -/
def setHeapLimit (m : Memory) (limit : Nat) : Memory := { m with limit }

end Memory

end WordMachine
