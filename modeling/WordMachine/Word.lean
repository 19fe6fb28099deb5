import WordMachine.Opcode
import WordMachine.Text.Digits

/-!
# Instruction words

A word has sixteen bits: the opcode in the high byte, and in the low byte either two register
numbers of four bits each or one literal byte.

* `Word.ofOperands`, `Word.ofLiteral` : building a word.
* `Word.opcode?`, `Word.first`, `Word.second`, `Word.literal` : its parts.
-/

namespace WordMachine

/-- The number of a register. -/
abbrev RegisterIndex := Fin 16

/-- A 16-bit instruction word. -/
structure Word where
  bits : UInt16
  deriving DecidableEq, Repr, Inhabited

namespace Word

/-- The number of a word. -/
def toNat (w : Word) : Nat := w.bits.toNat

/-- The word with a given number, modulo `2 ^ 16`. -/
def ofNat (n : Nat) : Word := ⟨UInt16.ofNat n⟩

/-- The word of an operation with two register numbers, of which the low four bits count. -/
def ofOperands (op : Opcode) (a b : Nat) : Word :=
  ofNat (op.code * 256 + a % 16 * 16 + b % 16)

/-- The word of an operation with a literal byte. -/
def ofLiteral (op : Opcode) (literal : UInt8) : Word :=
  ofNat (op.code * 256 + literal.toNat)

/-- The high byte. -/
def opcodeByte (w : Word) : UInt8 := UInt8.ofNat (w.toNat / 256)

/-- The operation of a word, if its high byte is the code of one. -/
def opcode? (w : Word) : Option Opcode := Opcode.ofCode? (w.toNat / 256)

/-- The register number in the upper half of the low byte. -/
def first (w : Word) : RegisterIndex := Fin.ofNat 16 (w.toNat / 16)

/-- The register number in the lower half of the low byte. -/
def second (w : Word) : RegisterIndex := Fin.ofNat 16 w.toNat

/-- The low byte. -/
def literal (w : Word) : UInt8 := UInt8.ofNat w.toNat

/-- Four hexadecimal digits. -/
def render (w : Word) : String := Text.hexPadded 4 w.toNat

end Word

end WordMachine
