import WordMachine.Bits
import WordMachine.Double

/-!
# Opcodes

The high byte of an instruction word selects one of forty-one operations. Operations that differ
only in a width, a condition or an arithmetic function share a constructor.

* `Opcode.all` : the operations in the order of their codes.
* `Opcode.code`, `Opcode.ofCode?` : the numbering.
* `Opcode.name`, `Opcode.mnemonic` : the two spellings.
* `Opcode.shape` : what the low byte of the word means.
-/

namespace WordMachine

/-- How many bytes a sized transfer moves. -/
inductive Width where
  | byte | half | word | double
  deriving DecidableEq, Repr

/-- The number of bytes of a width. -/
def Width.bytes : Width → Nat
  | .byte => 1
  | .half => 2
  | .word => 4
  | .double => 8

/-- The number of values of a width. -/
def Width.modulus : Width → Nat
  | .byte => 0x100
  | .half => 0x10000
  | .word => 0x100000000
  | .double => 0x10000000000000000

/-- The number of bits of a width as text. -/
def Width.bitsText : Width → String
  | .byte => "8"
  | .half => "16"
  | .word => "32"
  | .double => "64"

/-- The test of a conditional branch, on the signed value of a register. -/
inductive Condition where
  | zero | positive | negative
  deriving DecidableEq, Repr

/-- Whether a condition holds of a register. -/
def Condition.holds (c : Condition) (x : UInt64) : Bool :=
  match c with
  | .zero => signed x == 0
  | .positive => 0 < signed x
  | .negative => signed x < 0

/-- The operations of the machine. -/
inductive Opcode where
  | nop
  /-- Copy a register. -/
  | mov
  | binary (op : BinaryOp)
  /-- Complement every bit. -/
  | not
  | double (op : DoubleOp)
  /-- Push the low bytes of a register. -/
  | pushRegister (width : Width)
  /-- Push the low byte of the word itself. -/
  | pushLiteral
  | pop (width : Width)
  | store (width : Width)
  | load (width : Width)
  | shift (direction : Direction)
  | branch (condition : Condition)
  | goto
  | call
  | ret
  deriving DecidableEq, Repr

/-- What the low byte of a word holds. -/
inductive Shape where
  | none | one | two | literal
  deriving DecidableEq, Repr

namespace Opcode

/-- Every operation, at the index of its code. -/
def all : Array Opcode := #[
  nop, mov, binary .and, binary .or, binary .xor, not, binary .add, binary .sub, binary .mul,
  binary .div, binary .mod, double .add, double .sub, double .mul, double .div, double .mod,
  pushRegister .byte, pushRegister .half, pushRegister .word, pushRegister .double, pushLiteral,
  pop .byte, pop .half, pop .word, pop .double, store .byte, store .half, store .word,
  store .double, load .byte, load .half, load .word, load .double, shift .left, shift .right,
  branch .zero, branch .positive, branch .negative, goto, call, ret]

/-- The offset of a width within its group of four. -/
def widthCode : Width → Nat
  | .byte => 0
  | .half => 1
  | .word => 2
  | .double => 3

/-- The number of an operation. -/
def code : Opcode → Nat
  | nop => 0
  | mov => 1
  | binary .and => 2
  | binary .or => 3
  | binary .xor => 4
  | not => 5
  | binary .add => 6
  | binary .sub => 7
  | binary .mul => 8
  | binary .div => 9
  | binary .mod => 10
  | double .add => 11
  | double .sub => 12
  | double .mul => 13
  | double .div => 14
  | double .mod => 15
  | pushRegister w => 16 + widthCode w
  | pushLiteral => 20
  | pop w => 21 + widthCode w
  | store w => 25 + widthCode w
  | load w => 29 + widthCode w
  | shift .left => 33
  | shift .right => 34
  | branch .zero => 35
  | branch .positive => 36
  | branch .negative => 37
  | goto => 38
  | call => 39
  | ret => 40

/-- The operation with a number, if there is one. -/
def ofCode? (n : Nat) : Option Opcode := all[n]?

theorem ofCode?_code (op : Opcode) : ofCode? op.code = some op := by
  cases op with
  | binary op => cases op <;> rfl
  | double op => cases op <;> rfl
  | pushRegister w | pop w | store w | load w => cases w <;> rfl
  | shift d => cases d <;> rfl
  | branch c => cases c <;> rfl
  | _ => rfl

/-- The name of an operation in structured data. -/
def name : Opcode → String
  | nop => "Nop"
  | mov => "Mov"
  | binary .and => "And"
  | binary .or => "Or"
  | binary .xor => "Xor"
  | not => "Not"
  | binary .add => "Add"
  | binary .sub => "Sub"
  | binary .mul => "Mul"
  | binary .div => "Div"
  | binary .mod => "Mod"
  | double .add => "DAdd"
  | double .sub => "DSub"
  | double .mul => "DMul"
  | double .div => "DDiv"
  | double .mod => "DMod"
  | pushRegister w => "PushR" ++ w.bitsText
  | pushLiteral => "PushL"
  | pop w => "Pop" ++ w.bitsText
  | store w => "Store" ++ w.bitsText
  | load w => "Load" ++ w.bitsText
  | shift .left => "LShift"
  | shift .right => "RShift"
  | branch .zero => "IfZ"
  | branch .positive => "IfP"
  | branch .negative => "IfN"
  | goto => "Goto"
  | call => "Call"
  | ret => "Ret"

/-- The name of an operation in listings. -/
def mnemonic : Opcode → String
  | nop => "NOP"
  | mov => "MOV"
  | binary .and => "AND"
  | binary .or => "OR"
  | binary .xor => "XOR"
  | not => "NOT"
  | binary .add => "ADD"
  | binary .sub => "SUB"
  | binary .mul => "MUL"
  | binary .div => "DIV"
  | binary .mod => "MOD"
  | double .add => "DADD"
  | double .sub => "DSUB"
  | double .mul => "DMUL"
  | double .div => "DDIV"
  | double .mod => "DMOD"
  | pushRegister w => "PUSHR" ++ w.bitsText
  | pushLiteral => "PUSHL"
  | pop w => "POP" ++ w.bitsText
  | store w => "STORE" ++ w.bitsText
  | load w => "LOAD" ++ w.bitsText
  | shift .left => "LSHIFT"
  | shift .right => "RSHIFT"
  | branch .zero => "IFZ"
  | branch .positive => "IFP"
  | branch .negative => "IFN"
  | goto => "GOTO"
  | call => "CALL"
  | ret => "RET"

/-- The operation with a given name. -/
def ofName? (text : String) : Option Opcode :=
  all.find? fun op => op.name == text

/-- What the low byte means to an operation. -/
def shape : Opcode → Shape
  | nop | ret => .none
  | pushLiteral => .literal
  | not | pushRegister _ | pop _ | goto | call => .one
  | _ => .two

/-- The width moved by the sized stack and memory operations. -/
def width? : Opcode → Option Width
  | pushRegister w | pop w | store w | load w => some w
  | _ => none

end Opcode

end WordMachine
