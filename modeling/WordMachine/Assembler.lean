import WordMachine.ByteOrder
import WordMachine.HostFunction
import WordMachine.Instruction

/-!
# Assembling code

Words are emitted in order. Registers are filled only from the calculation stack or from memory, so
an immediate load is eight literal pushes, least significant byte first, and one pop.

* `Assembler.loadImmediate` : an immediate load and the index of its first word.
* `Assembler.patchImmediate` : another value for an immediate load emitted before.
* `Assembler.callHost` : a call of a host function through a scratch register.
-/

namespace WordMachine

/-- Code under construction. -/
structure Assembler where
  code : Array Word := #[]

/-- The words of an immediate load: eight pushes and a pop. -/
def immediateLoadLength : Nat := 9

namespace Assembler

/-- The index of the next word. -/
def position (a : Assembler) : Nat := a.code.size

/-- Append one word. -/
def append (a : Assembler) (w : Word) : Assembler := { a with code := a.code.push w }

/-- Append an operation with two register numbers. -/
def emit (a : Assembler) (op : Opcode) (first second : Nat) : Assembler :=
  a.append (Word.ofOperands op first second)

/-- Append a literal push. -/
def pushLiteral (a : Assembler) (literal : UInt8) : Assembler :=
  a.append (Word.ofLiteral .pushLiteral literal)

/-- Append the literal pushes of a 64-bit value, least significant byte first. -/
def pushValue (a : Assembler) (value : UInt64) : Assembler :=
  (littleEndian 8 value.toNat).foldl pushLiteral a

/-- Append an immediate load; also the index of its first word. -/
def loadImmediate (a : Assembler) (register : Nat) (value : UInt64) : Nat × Assembler :=
  (a.position, (a.pushValue value).emit (.pop .double) register 0)

/-- Whether the code holds the eight words from an index on. -/
def holdsImmediate (a : Assembler) (index : Nat) : Bool := index + 8 ≤ a.position

/-- Write literal pushes over the words from an index on. Nothing is written past the end. -/
def overwrite (code : Array Word) (index : Nat) : List UInt8 → Array Word
  | [] => code
  | b :: bs => overwrite (code.setIfInBounds index (Word.ofLiteral .pushLiteral b)) (index + 1) bs

/-- Give the immediate load at an index another value. -/
def patchImmediate (a : Assembler) (index : Nat) (value : UInt64) : Assembler :=
  { a with code := overwrite a.code index (littleEndian 8 value.toNat) }

/-- Append a call of a host function whose address goes through a scratch register. -/
def callHost (a : Assembler) (scratch : Nat) (f : HostFunction) : Assembler :=
  (a.loadImmediate scratch f.callAddress.bits).2.emit .call scratch 0

end Assembler

end WordMachine
