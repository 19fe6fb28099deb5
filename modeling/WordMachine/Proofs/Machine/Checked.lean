import WordMachine.Proofs.Machine.Invariant
import WordMachine.Proofs.Memory.Checked

/-!
# Words in checked arithmetic

Here a word is fetched and executed a second time, with every partial operation left partial: an
index has to be in range, a divisor must not be zero, a shift has to stay below the width, and heap
bytes are released in checked arithmetic. Everything else is a misuse, as is a transfer of more than
eight bytes. On a machine whose heap is bounded both ways agree.

* `fetchChecked`, `stepChecked` : fetching and executing with checks.
* `fetchChecked_eq`, `agrees_stepChecked` : no check fails.
-/

namespace WordMachine

open Effect

/-! ## Executing with checks

Operations that are not said again are taken as they are: pushing and storing check their widths
themselves, and reading goes byte by byte, as in `Memory.byteChecked`. -/

/-- The word at an address. The index of a word has to be in range. -/
def fetchChecked (code : Array Word) (a : Address) : Except Fault Fetched :=
  match a.space with
  | .static => return .outside
  | .dynamic =>
    if code.size < a.toNat then return .outside
    else if a.toNat = code.size then return .finished
    else
      match code[a.toNat]? with
      | some w => return .word w
      | none => throw .misuse

/-- The low bytes of a register replaced by those of a value. The width is shifted out only if it is
less than the whole register, and the shift has to be by less than 64. -/
def mergeLowChecked (old value : UInt64) (w : Width) : Except Fault UInt64 :=
  if 8 ≤ w.bytes then return value
  else if 64 ≤ w.bytes * 8 then throw .misuse
  else do
    let shifted : UInt64 := 1 <<< UInt64.ofNat (w.bytes * 8)
    let mask := UInt64.ofNat (← Checked.sub shifted.toNat 1)
    return (old &&& ~~~mask) ||| (value &&& mask)

/-- Whether an operation divides. -/
def BinaryOp.divides : BinaryOp → Bool
  | .div | .mod => true
  | _ => false

namespace Action

/-- A register by its number, which has to be in range. -/
def index (n : Nat) : Action RegisterIndex :=
  if h : n < 16 then pure ⟨n, h⟩ else throw .misuse

def releaseChecked (a : Address) (size : Nat) : Action Unit := do
  update fun m => return { m with memory := ← m.memory.releaseChecked a size }
  note (.released a size)

end Action

def HostFunction.beginChecked : HostFunction → Action Progress
  | free => do
    let address ← Action.popArgument
    let size ← Action.popArgument
    Action.releaseChecked ⟨address⟩ size.toNat
    return .done
  | f => f.begin

namespace Opcode

def callHostChecked (address : Address) (number : Nat) : Action Flow :=
  match HostFunction.ofNumber? number with
  | none => throw (.unknownFunction address number)
  | some f => do
    Action.note (.calling address f)
    match ← f.beginChecked with
    | .done => return .next
    | .exit status => return .exit status
    | .ask request => return .ask request

/-- The effect of an operation. Divisors are looked at first, and then must not be zero. -/
def runChecked (address : Address) (a : RegisterIndex) (x y : UInt64) (literal : UInt8) :
    Opcode → Action Flow
  | binary op =>
    if op.divides ∧ y = 0 then throw (.divisionByZero address)
    else
      match op.eval? x y with
      | some value => assign a value
      | none => throw .misuse
  | pop w => do
    let value ← Action.pop w.bytes
    let merged ← Action.look fun _ => mergeLowChecked x value w
    assign a merged
  | load w => do
    let value ← Action.look fun m => m.memory.readValue ⟨y⟩ w.bytes
    let merged ← Action.look fun _ => mergeLowChecked x value w
    assign a merged
  | call =>
    let target : Address := ⟨x⟩
    match target.space with
    | .static => callHostChecked address target.offset
    | .dynamic => run address a x y literal call
  | op => op.run address a x y literal

end Opcode

def stepChecked (address : Address) (w : Word) : Action Flow :=
  match w.opcode? with
  | none => throw (.unknownOpcode address w.opcodeByte)
  | some op => do
    let a ← Action.index (w.toNat / 16 % 16)
    let b ← Action.index (w.toNat % 16)
    let m ← get
    let x := m.register a
    let y := m.register b
    Action.note (.executingStep address op a x b y)
    op.runChecked address a x y w.literal

/-! ## No check fails -/

theorem fetchChecked_eq (code : Array Word) (a : Address) :
    fetchChecked code a = .ok (fetch code a) := by
  unfold fetchChecked fetch
  cases a.space with
  | static => rfl
  | dynamic =>
    dsimp only
    rcases Nat.lt_trichotomy a.toNat code.size with hlt | heq | hgt
    · simp [hlt, hlt.ne, hlt.le, pure, Except.pure]
    · simp [heq, pure, Except.pure]
    · simp [hgt, hgt.ne', hgt.le, pure, Except.pure]

theorem mergeLowChecked_eq (old value : UInt64) (w : Width) :
    mergeLowChecked old value w = .ok (mergeLow old value w) := by
  cases w <;> rfl

theorem BinaryOp.eval?_eq_none {op : BinaryOp} {x y : UInt64} :
    op.eval? x y = none ↔ op.divides = true ∧ y = 0 := by
  have hzero : y.toBitVec = 0#64 ↔ y = 0 := UInt64.toBitVec_inj (b := 0)
  cases op <;> simp [eval?, result?, divides, hzero]

theorem Action.index_first (w : Word) : index (w.toNat / 16 % 16) = pure w.first :=
  dif_pos (Nat.mod_lt _ (by decide))

theorem Action.index_second (w : Word) : index (w.toNat % 16) = pure w.second :=
  dif_pos (Nat.mod_lt _ (by decide))

def Machine.HeapBounded (m : Machine) : Prop := m.memory.HeapBounded

theorem Machine.stable_heapBounded : Machine.Stable Machine.HeapBounded where
  journal _ h := h
  counter _ h := h
  registers _ h := h
  descriptors _ h := h
  drop _ h := h
  extend _ h _ := h
  call _ h _ := h
  ret h := h
  written _ h := h
  allocate h hm := Memory.HeapBounded.allocate h hm
  release h hm := Memory.HeapBounded.release h hm

open Machine (HeapBounded stable_heapBounded)

theorem Action.agrees_releaseChecked (a : Address) (size : Nat) :
    Agrees HeapBounded (releaseChecked a size) (release a size) := by
  intro m hm
  simp only [releaseChecked, release, bind, EStateM.bind, update, hm.releaseChecked_eq]

theorem HostFunction.agrees_beginChecked (f : HostFunction) :
    Agrees HeapBounded f.beginChecked f.begin := by
  have hpop : Keeps HeapBounded Action.popArgument :=
    (Action.sound_pop stable_heapBounded.toSteady 8).keeps
  cases f with
  | free =>
    refine agrees_bind (agrees_refl _) hpop fun address => ?_
    refine agrees_bind (agrees_refl _) hpop fun size => ?_
    exact agrees_bind (Action.agrees_releaseChecked _ _)
      (Action.sound_release stable_heapBounded.toSteady _ _).keeps fun _ => agrees_refl _
  | read | write | openFile | closeFile | exit | malloc => exact agrees_refl _

namespace Opcode

theorem agrees_callHostChecked (address : Address) (number : Nat) :
    Agrees HeapBounded (callHostChecked address number) (callHost address number) := by
  unfold callHostChecked callHost
  cases HostFunction.ofNumber? number with
  | none => exact agrees_refl _
  | some f =>
    have hnote := (Action.sound_note stable_heapBounded.toSteady (.calling address f)).keeps
    have hbegin := (HostFunction.sound_begin stable_heapBounded.toSteady f).keeps
    refine agrees_bind (agrees_refl _) hnote fun _ => ?_
    exact agrees_bind f.agrees_beginChecked hbegin fun _ => agrees_refl _

theorem look_mergeLowChecked (a : RegisterIndex) (x value : UInt64) (w : Width) :
    (Action.look (fun _ => mergeLowChecked x value w) >>= fun merged => assign a merged) =
      assign a (mergeLow x value w) := by
  simp only [mergeLowChecked_eq]
  rfl

theorem agrees_runChecked (address : Address) (a : RegisterIndex) (x y : UInt64) (literal : UInt8)
    (op : Opcode) :
    Agrees HeapBounded (op.runChecked address a x y literal) (op.run address a x y literal) := by
  cases op with
  | binary op =>
    simp only [runChecked, run, ← BinaryOp.eval?_eq_none (x := x)]
    cases op.eval? x y <;> exact agrees_refl _
  | pop w =>
    simp only [runChecked, run, look_mergeLowChecked]
    exact agrees_refl _
  | load w =>
    simp only [runChecked, run, look_mergeLowChecked]
    exact agrees_refl _
  | call =>
    simp only [runChecked, run]
    cases Address.space ⟨x⟩ with
    | static => exact agrees_callHostChecked _ _
    | dynamic => exact agrees_refl _
  | nop | mov | not | double | pushRegister | pushLiteral | store | shift | branch | goto | ret =>
    exact agrees_refl _

end Opcode

/-- Executing a word on a machine whose heap is bounded is the same with and without checks. -/
theorem agrees_stepChecked (address : Address) (w : Word) :
    Agrees HeapBounded (stepChecked address w) (step address w) := by
  unfold stepChecked step
  cases w.opcode? with
  | none => exact agrees_refl _
  | some op =>
    simp only [Action.index_first, Action.index_second, pure_bind]
    refine agrees_bind (agrees_refl _) (triple_get fun _ h => h) fun m => ?_
    refine agrees_bind (agrees_refl _)
      (Action.sound_note stable_heapBounded.toSteady _).keeps fun _ => ?_
    exact Opcode.agrees_runChecked _ _ _ _ _ _

end WordMachine
