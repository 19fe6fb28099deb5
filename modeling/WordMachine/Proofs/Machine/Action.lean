import Mathlib.Tactic.SplitIfs
import WordMachine.Machine.Basic
import WordMachine.Proofs.Memory.Writing

/-!
# What the actions of a machine do

Each action changes the part of the machine that it is about, or faults and changes nothing. None of
them lets the calculation stack grow over its limit.

* `Machine.StackFits` : the calculation stack is within its limit.
* `Machine.Popped` : a machine with bytes taken off its calculation stack, and nothing else changed.
* `Action.update_eq_error`, `Action.look_eq_error`, `Action.pop_eq_error` : faults in place.
* `Action.writeBytes_eq`, `Action.writeValue_eq` : bytes written one by one are written at once.
-/

namespace WordMachine

/-! ## Stacks -/

namespace Stack

variable {α : Type}

theorem drop_zero (s : Stack α) : s.drop 0 = s := by
  cases s
  simp [drop]

theorem drop_drop (s : Stack α) (m n : Nat) : (s.drop m).drop n = s.drop (m + n) := by
  simp [drop, Nat.sub_sub]

end Stack

namespace ByteStack

theorem pop_eq_ok {s t : ByteStack} {width : Nat} {value : UInt64} :
    s.pop width = .ok (value, t) ↔ width ≤ s.depth ∧
      value = UInt64.ofNat (ofLittleEndian (s.items.take width).reverse) ∧ t = s.drop width := by
  unfold pop
  split
  · rename_i h
    simp only [reduceCtorEq, false_iff, not_and]
    omega
  · rename_i h
    simp only [Except.ok.injEq, Prod.mk.injEq, Nat.not_lt.mp h, true_and, ← joinBytes_reverse,
      List.reverse_reverse]
    exact ⟨fun h => ⟨h.1.symm, h.2.symm⟩, fun h => ⟨h.1.symm, h.2.symm⟩⟩

theorem pop_eq_error {s : ByteStack} {width : Nat} {e : Fault} :
    s.pop width = .error e ↔ s.depth < width ∧ e = .stackUnderflow width s.depth := by
  unfold pop
  split <;> simp [*, eq_comm]

theorem push_eq_ok {s t : ByteStack} {value : UInt64} {width : Nat} :
    s.push value width = .ok t ↔ s.depth + width ≤ s.limit ∧ width ≤ 8 ∧
      t = s.extend (littleEndian width value.toNat) := by
  unfold push
  split_ifs with hfull hwidth
  · simp only [false_iff, not_and]
    omega
  · simp only [false_iff, not_and]
    omega
  · simp only [Nat.not_lt.mp hfull, Nat.not_lt.mp hwidth, true_and, Except.ok.injEq, eq_comm]

theorem pushByte_eq_ok {s t : ByteStack} {b : UInt8} :
    s.pushByte b = .ok t ↔ s.depth < s.limit ∧ t = s.extend [b] := by
  unfold pushByte
  split
  · rename_i h
    simp only [reduceCtorEq, false_iff, not_and]
    omega
  · rename_i h
    simp only [Nat.not_le.mp h, true_and, Except.ok.injEq, eq_comm]

theorem push_error {s : ByteStack} {value : UInt64} {width : Nat} {e : Fault} (hwidth : width ≤ 8)
    (h : s.push value width = .error e) : e = .stackOverflow s.limit := by
  unfold push at h
  split_ifs at h
  · cases h
    rfl
  · omega

theorem pushByte_error {s : ByteStack} {b : UInt8} {e : Fault} (h : s.pushByte b = .error e) :
    e = .stackOverflow s.limit := by
  unfold pushByte at h
  split_ifs at h
  cases h
  rfl

end ByteStack

namespace CallStack

theorem push_eq_ok {s t : CallStack} {a : Address} :
    s.push a = .ok t ↔ s.depth < s.limit ∧ t = s.extend [a] := by
  unfold push
  split
  · rename_i h
    simp only [reduceCtorEq, false_iff, not_and]
    omega
  · rename_i h
    simp only [Nat.not_le.mp h, true_and, Except.ok.injEq, eq_comm]

theorem pop_eq_ok {s t : CallStack} {a returning : Address} :
    s.pop returning = .ok (a, t) ↔ s.items.head? = some a ∧ t = s.drop 1 := by
  unfold pop
  split <;> simp [*, eq_comm]

theorem push_error {s : CallStack} {a : Address} {e : Fault} (h : s.push a = .error e) :
    e = .callDepthExceeded s.limit := by
  unfold push at h
  split_ifs at h
  cases h
  rfl

theorem pop_error {s : CallStack} {returning : Address} {e : Fault}
    (h : s.pop returning = .error e) : e = .callStackEmpty returning := by
  unfold pop at h
  split at h
  · cases h
    rfl
  · cases h

end CallStack

/-! ## Machines -/

namespace Machine

/-- The calculation stack is within its limit. -/
def StackFits (m : Machine) : Prop := m.stack.depth ≤ m.stack.limit

/-- A machine with `n` bytes taken off its calculation stack. Nothing else has changed but what was
reported. -/
structure Popped (m : Machine) (n : Nat) (m' : Machine) : Prop where
  enough : n ≤ m.stack.depth
  eq : m' = { m with stack := m.stack.drop n, journal := m'.journal }

theorem popped_journal (m : Machine) (journal : List Entry) : m.Popped 0 { m with journal } :=
  ⟨Nat.zero_le _, by simp [Stack.drop_zero]⟩

theorem popped_refl (m : Machine) : m.Popped 0 m := popped_journal m m.journal

theorem popped_note (m : Machine) (n : Notice) : m.Popped 0 (m.note n) := popped_journal m _

theorem popped_drop {m : Machine} {n : Nat} (h : n ≤ m.stack.depth) :
    m.Popped n { m with stack := m.stack.drop n } := ⟨h, rfl⟩

theorem Popped.trans {m d m' : Machine} {a b : Nat} (h : m.Popped a d) (h' : d.Popped b m') :
    m.Popped (a + b) m' := by
  obtain ⟨ha, hd⟩ := h
  obtain ⟨hb, hm⟩ := h'
  rw [hd] at hb hm
  refine ⟨?_, ?_⟩
  · simp only [Stack.drop] at hb
    omega
  · rw [hm]
    simp [Stack.drop_drop]

section Unchanged

variable {m m' : Machine} {n : Nat} (h : m.Popped n m')

include h

theorem Popped.registers : m'.registers = m.registers := by rw [h.eq]

theorem Popped.counter : m'.counter = m.counter := by rw [h.eq]

theorem Popped.stack : m'.stack = m.stack.drop n := by rw [h.eq]

theorem Popped.calls : m'.calls = m.calls := by rw [h.eq]

theorem Popped.memory : m'.memory = m.memory := by rw [h.eq]

theorem Popped.descriptors : m'.descriptors = m.descriptors := by rw [h.eq]

end Unchanged

/-- What was taken off a stack within its limit can be put on again. -/
theorem Popped.room {m d : Machine} {n : Nat} (h : m.Popped n d) (hm : m.StackFits) :
    d.stack.depth + n ≤ d.stack.limit := by
  obtain ⟨hn, hd⟩ := h
  unfold StackFits at hm
  rw [hd]
  simp only [Stack.drop]
  omega

end Machine

/-! ## Actions -/

namespace Action

variable {α : Type}

theorem update_eq_ok {f : Machine → Except Fault Machine} {m m' : Machine} :
    update f m = .ok () m' ↔ f m = .ok m' := by
  unfold update
  cases f m <;> simp

/-- A fault of an update happens in place. -/
theorem update_eq_error {f : Machine → Except Fault Machine} {m m' : Machine} {e : Fault} :
    update f m = .error e m' ↔ f m = .error e ∧ m' = m := by
  unfold update
  cases f m <;> simp [eq_comm]

/-- A change of memory that happens as a whole or not at all is an update. -/
theorem onMemory_eq {x : EStateM Fault Memory Unit} {f : Memory → Except Fault Memory}
    (h : ∀ memory, x memory = match f memory with
      | .ok memory' => .ok () memory'
      | .error e => .error e memory) :
    onMemory x = update fun m => return { m with memory := ← f m.memory } := by
  funext m
  unfold onMemory update
  dsimp only
  rw [h]
  cases f m.memory <;> rfl

theorem writeBytes_eq (a : Address) (bytes : List UInt8) :
    writeBytes a bytes =
      update fun m => return { m with memory := ← m.memory.writeBytes a bytes } :=
  onMemory_eq fun memory => memory.putSpan_eq a bytes

theorem writeValue_eq (a : Address) (value : UInt64) (width : Nat) :
    writeValue a value width =
      update fun m => return { m with memory := ← m.memory.writeValue a value width } :=
  onMemory_eq fun memory => memory.putValue_eq a value width

theorem look_eq_ok {f : Machine → Except Fault α} {m m' : Machine} {a : α} :
    look f m = .ok a m' ↔ f m = .ok a ∧ m' = m := by
  unfold look
  cases f m <;> simp [eq_comm]

theorem look_eq_error {f : Machine → Except Fault α} {m m' : Machine} {e : Fault} :
    look f m = .error e m' ↔ f m = .error e ∧ m' = m := by
  unfold look
  cases f m <;> simp [eq_comm]

theorem pop_eq_ok {width : Nat} {m m' : Machine} {value : UInt64} :
    pop width m = .ok value m' ↔ width ≤ m.stack.depth ∧
      value = UInt64.ofNat (ofLittleEndian (m.stack.items.take width).reverse) ∧
      m' = { m with stack := m.stack.drop width } := by
  unfold pop
  cases h : m.stack.pop width with
  | error e =>
    obtain ⟨hlt, -⟩ := ByteStack.pop_eq_error.mp h
    simp only [reduceCtorEq, false_iff, not_and]
    omega
  | ok p =>
    obtain ⟨hle, hvalue, hstack⟩ := ByteStack.pop_eq_ok.mp h
    simp only [hle, ← hvalue, ← hstack, true_and, EStateM.Result.ok.injEq]
    exact ⟨fun h => ⟨h.1.symm, h.2.symm⟩, fun h => ⟨h.1.symm, h.2.symm⟩⟩

theorem pop_eq_error {width : Nat} {m m' : Machine} {e : Fault} :
    pop width m = .error e m' ↔ m.stack.depth < width ∧
      e = .stackUnderflow width m.stack.depth ∧ m' = m := by
  unfold pop
  cases h : m.stack.pop width with
  | error f =>
    obtain ⟨hlt, hf⟩ := ByteStack.pop_eq_error.mp h
    simp only [hlt, ← hf, true_and, EStateM.Result.error.injEq, eq_comm]
  | ok p =>
    obtain ⟨hle, -⟩ := ByteStack.pop_eq_ok.mp h
    simp only [reduceCtorEq, false_iff, not_and]
    omega

theorem push_eq_ok {value : UInt64} {width : Nat} {m m' : Machine} :
    push value width m = .ok () m' ↔ m.stack.depth + width ≤ m.stack.limit ∧ width ≤ 8 ∧
      m' = { m with stack := m.stack.extend (littleEndian width value.toNat) } := by
  unfold push
  rw [update_eq_ok, Effect.except_map_eq_ok]
  constructor
  · rintro ⟨t, ht, rfl⟩
    obtain ⟨hdepth, hwidth, rfl⟩ := ByteStack.push_eq_ok.mp ht
    exact ⟨hdepth, hwidth, rfl⟩
  · rintro ⟨hdepth, hwidth, rfl⟩
    exact ⟨_, ByteStack.push_eq_ok.mpr ⟨hdepth, hwidth, rfl⟩, rfl⟩

theorem allocate_eq_ok {size : Nat} {m m' : Machine} {a : Address}
    (h : allocate size m = .ok a m') : ∃ memory, m.memory.allocate size = .ok (a, memory) ∧
      m' = { m with memory }.note (.allocated size a) := by
  unfold allocate at h
  split at h
  · rename_i a memory hm
    cases h
    exact ⟨memory, hm, rfl⟩
  · cases h

theorem allocate_eq_error {size : Nat} {m m' : Machine} {e : Fault}
    (h : allocate size m = .error e m') : m.memory.allocate size = .error e ∧ m' = m := by
  unfold allocate at h
  split at h
  · cases h
  · rename_i f hm
    cases h
    exact ⟨hm, rfl⟩

end Action

end WordMachine
