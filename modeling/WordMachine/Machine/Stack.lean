import WordMachine.ByteOrder
import WordMachine.Machine.Fault

/-!
# The two stacks

Both stacks are lists with their newest item first, a depth kept beside the list, and a limit on
it. The calculation stack holds bytes: a value is pushed least significant byte first, so its most
significant byte is on top and is popped first. The call stack holds the addresses of calls.

* `ByteStack.push`, `ByteStack.pop` : transfers of a given width.
* `CallStack.push`, `CallStack.pop` : calls and returns.
-/

namespace WordMachine

/-- A bounded stack. -/
structure Stack (α : Type) where
  /-- The items, newest first. -/
  items : List α
  depth : Nat
  limit : Nat
  depth_eq : depth = items.length

namespace Stack

variable {α : Type}

/-- A stack with nothing on it. -/
def empty (limit : Nat) : Stack α := ⟨[], 0, limit, rfl⟩

instance : Inhabited (Stack α) := ⟨empty 0⟩

/-- Whether nothing is on the stack. -/
def isEmpty (s : Stack α) : Bool := s.items.isEmpty

/-- Put items on the stack, the last of them on top, whatever the limit. -/
def extend (s : Stack α) (xs : List α) : Stack α :=
  ⟨xs.reverse ++ s.items, xs.length + s.depth, s.limit, by simp [s.depth_eq]⟩

/-- Take items off the top. -/
def drop (s : Stack α) (n : Nat) : Stack α :=
  ⟨s.items.drop n, s.depth - n, s.limit, by simp [s.depth_eq]⟩

end Stack

/-- The calculation stack. -/
abbrev ByteStack := Stack UInt8

namespace ByteStack

/-- Push one byte. -/
def pushByte (s : ByteStack) (b : UInt8) : Except Fault ByteStack :=
  if s.limit ≤ s.depth then .error (.stackOverflow s.limit) else .ok (s.extend [b])

/-- Push the low `width` bytes of a value, least significant first. -/
def push (s : ByteStack) (value : UInt64) (width : Nat) : Except Fault ByteStack :=
  if s.limit < s.depth + width then .error (.stackOverflow s.limit)
  else if 8 < width then .error .misuse
  else .ok (s.extend (littleEndian width value.toNat))

/-- Pop `width` bytes, the most significant first. Only the low 64 bits are kept. -/
def pop (s : ByteStack) (width : Nat) : Except Fault (UInt64 × ByteStack) :=
  if s.depth < width then .error (.stackUnderflow width s.depth)
  else .ok (joinBytes (s.items.take width), s.drop width)

end ByteStack

/-- The call stack. -/
abbrev CallStack := Stack Address

namespace CallStack

/-- Remember the address of a call. -/
def push (s : CallStack) (a : Address) : Except Fault CallStack :=
  if s.limit ≤ s.depth then .error (.callDepthExceeded s.limit) else .ok (s.extend [a])

/-- Forget the newest call. The return that asks for it stands at `returning`. -/
def pop (s : CallStack) (returning : Address) : Except Fault (Address × CallStack) :=
  match s.items with
  | [] => .error (.callStackEmpty returning)
  | a :: _ => .ok (a, s.drop 1)

end CallStack

end WordMachine
