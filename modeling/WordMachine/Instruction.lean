import WordMachine.Word

/-!
# Decoded instructions

An instruction is an operation with the operands that its shape shows. Decoding forgets the bits of
the low byte that the operation does not use; encoding writes them as zero.

* `Instruction.decode?`, `Instruction.encode` : between words and instructions.
* `Instruction.render` : the line of a listing.
-/

namespace WordMachine

/-- The operands of an instruction. -/
inductive Operands where
  | none
  | one (a : RegisterIndex)
  | two (a b : RegisterIndex)
  | literal (value : UInt8)
  deriving DecidableEq, Repr

/-- An operation and its operands. -/
structure Instruction where
  opcode : Opcode
  operands : Operands
  deriving DecidableEq, Repr

namespace Instruction

/-- The operands of a word read in a given shape. -/
def readOperands (w : Word) : Shape → Operands
  | .none => .none
  | .one => .one w.first
  | .two => .two w.first w.second
  | .literal => .literal w.literal

/-- The instruction of a word, if its opcode is defined. -/
def decode? (w : Word) : Option Instruction :=
  w.opcode?.map fun op => ⟨op, readOperands w op.shape⟩

/-- The word of an instruction. -/
def encode (i : Instruction) : Word :=
  match i.operands with
  | .none => Word.ofOperands i.opcode 0 0
  | .one a => Word.ofOperands i.opcode a 0
  | .two a b => Word.ofOperands i.opcode a b
  | .literal value => Word.ofLiteral i.opcode value

/-- Mnemonic and operands; registers are decimal and literals hexadecimal. -/
def render (i : Instruction) : String :=
  match i.operands with
  | .none => i.opcode.mnemonic
  | .one a => i.opcode.mnemonic ++ " r" ++ toString a.val
  | .two a b => i.opcode.mnemonic ++ " r" ++ toString a.val ++ ",r" ++ toString b.val
  | .literal value => i.opcode.mnemonic ++ " " ++ Text.hex value.toNat

end Instruction

/-- A word with the bits cleared that its operation does not use; a word without an operation is
left alone. -/
def Word.canonical (w : Word) : Word :=
  match Instruction.decode? w with
  | some i => i.encode
  | none => w

end WordMachine
