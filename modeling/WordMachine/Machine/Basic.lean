import WordMachine.Log.Notice
import WordMachine.Machine.Descriptors
import WordMachine.Machine.Limits
import WordMachine.Machine.Memory
import WordMachine.Machine.Stack

/-!
# The machine

The state of a machine, and actions on it. An action may end in a fault, and then keeps what it
changed before.

* `Machine` : the state.
* `Action` : a computation on the state that may fault.
-/

namespace WordMachine

/-- The state of one machine. -/
structure Machine where
  registers : Vector UInt64 16 := Vector.replicate 16 0
  counter : Address := ⟨0⟩
  stack : ByteStack
  calls : CallStack
  memory : Memory
  descriptors : Descriptors := {}
  limits : Limits := {}
  /-- What was reported so far, newest first. -/
  journal : List Entry := []

/-- A computation on a machine. -/
abbrev Action := EStateM Fault Machine

namespace Machine

/-- A machine with empty stacks, zero registers and a given memory. The heap of the memory is left
as it is. -/
def ofMemory (memory : Memory) (limits : Limits) : Machine :=
  { stack := .empty limits.maxStackBytes, calls := .empty limits.maxCallDepth, memory, limits }

/-- A machine with given static bytes and the usual limits. -/
def ofFixed (fixed : Std.ExtTreeMap Nat UInt8) : Machine :=
  ofMemory (Memory.ofFixed fixed ({} : Limits).heapBase) {}

/-- A machine with static bytes from offset zero on and the usual limits. -/
def ofLiteral (literal : List UInt8) : Machine :=
  ofMemory (Memory.ofLiteral literal ({} : Limits).heapBase) {}

/-- Apply limits: both stacks become empty, and the heap goes on from its new base. -/
def withLimits (m : Machine) (limits : Limits) : Machine :=
  { m with
    stack := .empty limits.maxStackBytes
    calls := .empty limits.maxCallDepth
    memory := (m.memory.setHeapBase limits.heapBase).setHeapLimit limits.maxHeapBytes
    limits }

/-- Report something. -/
def note (m : Machine) (n : Notice) : Machine := { m with journal := .notice n :: m.journal }

/-- The value of a register. -/
def register (m : Machine) (i : RegisterIndex) : UInt64 := m.registers[i]

/-- Change a register. -/
def setRegister (m : Machine) (i : RegisterIndex) (value : UInt64) : Machine :=
  { m with registers := m.registers.set i value }

/-- The value of a register by its number. -/
def register? (m : Machine) (i : Nat) : Except Fault UInt64 :=
  if h : i < 16 then .ok (m.register ⟨i, h⟩) else .error .misuse

/-- Change a register by its number. -/
def setRegister? (m : Machine) (i : Nat) (value : UInt64) : Except Fault Machine :=
  if h : i < 16 then .ok (m.setRegister ⟨i, h⟩ value) else .error .misuse

/-- The registers on one line. -/
def renderRegisters (m : Machine) : String :=
  String.intercalate " " (m.registers.toList.zipIdx.map fun (value, i) =>
    "r" ++ toString i ++ ":" ++ Text.hex value.toNat)

end Machine

namespace Action

/-- Report something. -/
def note (n : Notice) : Action Unit := modify fun m => m.note n

/-- Change the machine by a function that may fault; a fault changes nothing. -/
def update (f : Machine → Except Fault Machine) : Action Unit := fun m =>
  match f m with
  | .ok m' => .ok () m'
  | .error e => .error e m

/-- Look something up that may fault. -/
def look {α : Type} (f : Machine → Except Fault α) : Action α := fun m =>
  match f m with
  | .ok a => .ok a m
  | .error e => .error e m

/-- Pop a value of the given width from the calculation stack. -/
def pop (width : Nat) : Action UInt64 := fun m =>
  match m.stack.pop width with
  | .ok (value, stack) => .ok value { m with stack }
  | .error e => .error e m

/-- Push a value of the given width on the calculation stack. -/
def push (value : UInt64) (width : Nat) : Action Unit :=
  update fun m => return { m with stack := ← m.stack.push value width }

/-- Pop a whole argument. -/
def popArgument : Action UInt64 := pop 8

/-- Push a whole result. -/
def pushResult (value : UInt64) : Action Unit := push value 8

/-- Change memory in place. What was changed before a fault stays. -/
def onMemory (x : EStateM Fault Memory Unit) : Action Unit := fun m =>
  match x m.memory with
  | .ok () memory => .ok () { m with memory }
  | .error e memory => .error e { m with memory }

/-- Write bytes to memory. -/
def writeBytes (a : Address) (bytes : List UInt8) : Action Unit := onMemory (Memory.putSpan a bytes)

/-- Write the low bytes of a value to memory. -/
def writeValue (a : Address) (value : UInt64) (width : Nat) : Action Unit :=
  onMemory (Memory.putValue a value width)

/-- Reserve a heap block. -/
def allocate (size : Nat) : Action Address := fun m =>
  match m.memory.allocate size with
  | .ok (a, memory) => .ok a ({ m with memory }.note (.allocated size a))
  | .error e => .error e m

/-- Release heap bytes. -/
def release (a : Address) (size : Nat) : Action Unit := do
  update fun m => return { m with memory := ← m.memory.release a size }
  note (.released a size)

end Action

end WordMachine
