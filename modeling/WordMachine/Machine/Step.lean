import WordMachine.Machine.HostCall

/-!
# One instruction

What a word does to the machine. An instruction that does not say where to go on leaves that to
the word behind it.

* `Machine.fetch` : the word at the program counter.
* `step` : the effect of one word.
-/

namespace WordMachine

/-- How a run goes on after an instruction. -/
inductive Flow where
  /-- At the next word. -/
  | next
  /-- At an address. -/
  | jump (target : Address)
  /-- Not at all: the program ended itself. -/
  | exit (status : Int)
  /-- At the next word, once the host has answered. -/
  | ask (request : Request)
  deriving DecidableEq, Repr

/-- What stands at the program counter. -/
inductive Fetched where
  | word (w : Word)
  /-- The end of the code. -/
  | finished
  /-- Neither a word nor the end of the code. -/
  | outside
  deriving DecidableEq, Repr

/-- The word at an address. The address behind the last word is the end of the code. -/
def fetch (code : Array Word) (a : Address) : Fetched :=
  match a.space with
  | .static => .outside
  | .dynamic =>
    match code[a.toNat]? with
    | some w => .word w
    | none => if a.toNat = code.size then .finished else .outside

/-- The low bytes of a register replaced by those of a value. -/
def mergeLow (old value : UInt64) (w : Width) : UInt64 :=
  if 8 ≤ w.bytes then value
  else
    let mask : UInt64 := 1 <<< UInt64.ofNat (w.bytes * 8) - 1
    (old &&& ~~~mask) ||| (value &&& mask)

namespace Opcode

/-- Change the first operand register. -/
def assign (a : RegisterIndex) (value : UInt64) : Action Flow := do
  modify fun m => m.setRegister a value
  return .next

/-- Call the host function with a number from an address. -/
def callHost (address : Address) (number : Nat) : Action Flow :=
  match HostFunction.ofNumber? number with
  | none => throw (.unknownFunction address number)
  | some f => do
    Action.note (.calling address f)
    match ← f.begin with
    | .done => return .next
    | .exit status => return .exit status
    | .ask request => return .ask request

/-- The effect of an operation. `a` is the register of the first operand; `x` and `y` are the
values of both; `literal` is the low byte of the word. -/
def run (address : Address) (a : RegisterIndex) (x y : UInt64) (literal : UInt8) :
    Opcode → Action Flow
  | nop => return .next
  | mov => assign a y
  | binary op =>
    match op.eval? x y with
    | some value => assign a value
    | none => throw (.divisionByZero address)
  | not => assign a (~~~x)
  | double op => assign a (op.apply x y)
  | pushRegister w => do
    Action.push x w.bytes
    return .next
  | pushLiteral => do
    Action.update fun m => return { m with stack := ← m.stack.pushByte literal }
    return .next
  | pop w => do
    let value ← Action.pop w.bytes
    assign a (mergeLow x value w)
  | store w => do
    Action.writeValue ⟨x⟩ y w.bytes
    return .next
  | load w => do
    let value ← Action.look fun m => m.memory.readValue ⟨y⟩ w.bytes
    assign a (mergeLow x value w)
  | shift d => assign a (d.eval x y)
  | branch c => return if c.holds x then .jump ⟨y⟩ else .next
  | goto => return .jump ⟨x⟩
  | call =>
    let target : Address := ⟨x⟩
    match target.space with
    | .static => callHost address target.offset
    | .dynamic => do
      Action.update fun m => return { m with calls := ← m.calls.push address }
      return .jump target
  | ret => fun m =>
    match m.calls.pop address with
    | .ok (caller, calls) => .ok (.jump caller.next) { m with calls }
    | .error e => .error e m

end Opcode

/-- The effect of the word at an address. -/
def step (address : Address) (w : Word) : Action Flow :=
  match w.opcode? with
  | none => throw (.unknownOpcode address w.opcodeByte)
  | some op => do
    let m ← get
    let x := m.register w.first
    let y := m.register w.second
    Action.note (.executingStep address op w.first x w.second y)
    op.run address w.first x y w.literal

end WordMachine
