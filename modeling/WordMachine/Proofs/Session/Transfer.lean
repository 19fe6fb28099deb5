import WordMachine.Proofs.Memory.Writing
import WordMachine.Proofs.Session.Reaches

/-!
# Sized transfers

The low bytes of a register go to another register by way of the calculation stack or of memory, in
one of four widths. The stack gives back the most significant byte first and memory the least
significant one; either way the register at the end has the low bytes of the register at the start
over its own upper bytes, whichever of the registers are the same.

* `Joined` : low bytes from one value, upper bytes from another.
* `Machine.reaches_through_stack`, `Machine.reaches_through_memory` : the two ways.
* `Session.sized_transfer` : what two words of a transfer do.
-/

namespace WordMachine

open Effect

/-! ## Low and upper bytes -/

/-- A value with the low bytes of one value and the upper bytes of another. -/
structure Joined (width : Width) (low upper value : UInt64) : Prop where
  low_eq : value.toNat % 256 ^ width.bytes = low.toNat % 256 ^ width.bytes
  upper_eq : value.toNat / 256 ^ width.bytes = upper.toNat / 256 ^ width.bytes

theorem joined_mergeLow (old value : UInt64) (width : Width) :
    Joined width value old (mergeLow old value width) := by
  have hmerged := toNat_mergeLow old value width
  have hpos : 0 < width.modulus := by cases width <;> decide
  have hlow : value.toNat % width.modulus < width.modulus := Nat.mod_lt _ hpos
  rw [Nat.mul_comm] at hmerged
  constructor
  · rw [← width.modulus_eq, hmerged, Nat.mul_add_mod, Nat.mod_mod]
  · rw [← width.modulus_eq, hmerged, Nat.mul_add_div hpos, Nat.div_eq_of_lt hlow, Nat.add_zero]

/-! ## Values in memory -/

namespace Memory

variable {m m' : Memory} {a : Address}

theorem writeValue_eq (m : Memory) (a : Address) (value : UInt64) (width : Width) :
    m.writeValue a value width.bytes = m.writeBytes a (littleEndian width.bytes value.toNat) :=
  if_neg (Nat.not_lt.mpr width.bytes_le)

theorem readValue_of_writeBytes {width n : Nat}
    (h : m.writeBytes a (littleEndian width n) = .ok m') :
    m'.readValue a width = .ok (UInt64.ofNat (n % 256 ^ width)) := by
  have hread := readBytes_of_writeBytes h
  rw [length_littleEndian] at hread
  rw [readValue_eq_map, hread, ← ofLittleEndian_littleEndian]
  rfl

end Memory

/-! ## Two words -/

namespace Machine

variable {code : Array Word} {m : Machine} {u v w : Word} {width : Width}

theorem reaches_pushRegister (hfetch : fetch code m.counter = .word w)
    (hop : w.opcode? = some (.pushRegister width))
    (hroom : m.stack.depth + width.bytes ≤ m.stack.limit) :
    m.Reaches code 1 { m with
      counter := m.counter.next
      stack := m.stack.extend (littleEndian width.bytes (m.register w.first).toNat) } := by
  have hpush : Action.push (m.register w.first) width.bytes m = .ok () { m with
      stack := m.stack.extend (littleEndian width.bytes (m.register w.first).toNat) } :=
    Action.push_eq_ok.mpr ⟨hroom, width.bytes_le, rfl⟩
  have hrun : m.operate (.pushRegister width) w m = .ok .next { m with
      stack := m.stack.extend (littleEndian width.bytes (m.register w.first).toNat) } := by
    simp only [operate, Opcode.run]
    rw [bind_of_ok hpush]
    rfl
  exact reaches_of_run hfetch hop hrun

/-- What is pushed by one word and popped by the next leaves the stack as it was. -/
theorem reaches_through_stack (hu : fetch code m.counter = .word u)
    (hpush : u.opcode? = some (.pushRegister width))
    (hv : fetch code m.counter.next = .word v) (hpop : v.opcode? = some (.pop width))
    (hroom : m.stack.depth + width.bytes ≤ m.stack.limit) :
    m.Reaches code 2
      { m.setRegister v.first (mergeLow (m.register v.first) (m.register u.first) width) with
        counter := m.counter.next.next } := by
  have hpushed := reaches_pushRegister hu hpush hroom
  have hpopped := reaches_pop (m := { m with
    counter := m.counter.next
    stack := m.stack.extend (littleEndian width.bytes (m.register u.first).toNat) }) hv hpop rfl
  exact hpushed.trans hpopped

theorem reaches_store {memory : Memory} (hfetch : fetch code m.counter = .word w)
    (hop : w.opcode? = some (.store width))
    (hwrite : m.memory.writeValue ⟨m.register w.first⟩ (m.register w.second) width.bytes =
      .ok memory) :
    m.Reaches code 1 { m with counter := m.counter.next, memory } := by
  have hrun : m.operate (.store width) w m = .ok .next { m with memory } := by
    simp only [operate, Opcode.run, Action.writeValue_eq]
    rw [bind_of_ok (Action.update_eq_ok.mpr (except_map_eq_ok.mpr ⟨_, hwrite, rfl⟩))]
    rfl
  exact reaches_of_run hfetch hop hrun

theorem reaches_load {value : UInt64} (hfetch : fetch code m.counter = .word w)
    (hop : w.opcode? = some (.load width))
    (hread : m.memory.readValue ⟨m.register w.second⟩ width.bytes = .ok value) :
    m.Reaches code 1
      { m.setRegister w.first (mergeLow (m.register w.first) value width) with
        counter := m.counter.next } := by
  have hrun : m.operate (.load width) w m = .ok .next
      (m.setRegister w.first (mergeLow (m.register w.first) value width)) := by
    simp only [operate, Opcode.run]
    rw [bind_of_ok (Action.look_eq_ok.mpr ⟨hread, rfl⟩)]
    rfl
  exact reaches_of_run hfetch hop hrun

/-- What is stored by one word is loaded by the next, if both go through the same register. -/
theorem reaches_through_memory {memory : Memory} (hu : fetch code m.counter = .word u)
    (hstore : u.opcode? = some (.store width))
    (hv : fetch code m.counter.next = .word v) (hload : v.opcode? = some (.load width))
    (hpointer : v.second = u.first)
    (hwrite : m.memory.writeBytes ⟨m.register u.first⟩
      (littleEndian width.bytes (m.register u.second).toNat) = .ok memory) :
    m.Reaches code 2
      { m.setRegister v.first (mergeLow (m.register v.first) (m.register u.second) width) with
        counter := m.counter.next.next
        memory } := by
  have hread := Memory.readValue_of_writeBytes hwrite
  rw [← Memory.writeValue_eq] at hwrite
  rw [← hpointer] at hread
  have hstored := reaches_store hu hstore hwrite
  have hloaded := reaches_load (m := { m with counter := m.counter.next, memory }) hv hload hread
  rw [mergeLow_ofNat_mod] at hloaded
  exact hstored.trans hloaded

end Machine

/-! ## Both ways -/

namespace Session

theorem turnWith_of_store_refused {s : Session} {code : Array Word} {w : Word} {width : Width}
    {fault : Fault} (hfetch : fetch code s.machine.counter = .word w)
    (hop : w.opcode? = some (.store width))
    (hwrite : s.machine.memory.writeValue ⟨s.machine.register w.first⟩
      (s.machine.register w.second) width.bytes = .error fault) (host : Host) :
    ∃ t, s.turnWith host code = .ended (.error fault) t := by
  have hrun : s.machine.operate (.store width) w s.machine = .error fault s.machine := by
    simp only [Machine.operate, Opcode.run, Action.writeValue_eq]
    apply bind_eq_error.mpr
    exact .inl (Action.update_eq_error.mpr ⟨except_map_eq_error.mpr hwrite, rfl⟩)
  obtain ⟨t, ht, -⟩ := turnWith_of_fault hfetch hop hrun host
  exact ⟨t, ht⟩

/-- **Sized transfers.** Two words follow one another from the program counter on. If the first
pushes a register and the second pops one in the same width, and the stack has room for the bytes,
both go on: the popped register then has the low bytes of the pushed one, as they were at the start,
and its own upper bytes, and apart from it and the program counter the machine is as before. If the
first stores a register and the second loads one in the same width through the same pointer, and
the store does not fault, the load does not fault either and the loaded register is the same as if
popped; in memory the bytes from the pointer on are the low bytes of the stored register, least
significant first, and all else is as before. The registers may be any, the same or not. -/
theorem sized_transfer {s : Session} {code : Array Word} {u v : Word} (width : Width)
    (hu : fetch code s.machine.counter = .word u)
    (hv : fetch code s.machine.counter.next = .word v) (hosts : Nat → Host) :
    (u.opcode? = some (.pushRegister width) → v.opcode? = some (.pop width) →
      s.machine.stack.depth + width.bytes ≤ s.machine.stack.limit →
      ∃ t value, s.course hosts code 2 = .running t ∧
        Joined width (s.machine.register u.first) (s.machine.register v.first) value ∧
        Machine.Alike { s.machine.setRegister v.first value with
          counter := s.machine.counter.next.next } t.machine ∧
        t.world = s.world) ∧
    (u.opcode? = some (.store width) → v.opcode? = some (.load width) → v.second = u.first →
      (∀ fault t, s.turnWith (hosts 0) code ≠ .ended (.error fault) t) →
      ∃ t value, s.course hosts code 2 = .running t ∧
        Joined width (s.machine.register u.second) (s.machine.register v.first) value ∧
        s.machine.memory.Overlaid ⟨s.machine.register u.first⟩
          (littleEndian width.bytes (s.machine.register u.second).toNat) t.machine.memory ∧
        Machine.Alike { s.machine.setRegister v.first value with
          counter := s.machine.counter.next.next
          memory := t.machine.memory } t.machine ∧
        t.world = s.world) := by
  constructor
  · intro hpush hpop hroom
    have hreach := Machine.reaches_through_stack hu hpush hv hpop hroom
    obtain ⟨t, ht, halike, hworld⟩ := hreach s hosts ⟨_, rfl⟩
    exact ⟨t, _, ht, joined_mergeLow _ _ width, halike, hworld⟩
  · intro hstore hload hpointer hgoes
    cases hwrite : s.machine.memory.writeBytes ⟨s.machine.register u.first⟩
        (littleEndian width.bytes (s.machine.register u.second).toNat) with
    | error fault =>
      rw [← Memory.writeValue_eq] at hwrite
      obtain ⟨t, ht⟩ := turnWith_of_store_refused hu hstore hwrite (hosts 0)
      exact absurd ht (hgoes fault t)
    | ok memory =>
      have hreach := Machine.reaches_through_memory hu hstore hv hload hpointer hwrite
      obtain ⟨t, ht, halike, hworld⟩ := hreach s hosts ⟨_, rfl⟩
      have hmemory : t.machine.memory = memory := by
        obtain ⟨journal, hm⟩ := halike
        rw [hm]
      refine ⟨t, _, ht, joined_mergeLow _ _ width, ?_, ?_, hworld⟩
      · rw [hmemory]
        exact Memory.overlaid_of_writeBytes hwrite
      · rw [hmemory]
        exact halike

/-- A push and a pop of two bytes, and a store and a load of four through the register that is
loaded. -/
def transferCode : Array Word := #[
  Word.ofOperands (.pushRegister .half) 1 0, Word.ofOperands (.pop .half) 2 0,
  Word.ofOperands (.store .word) 3 1, Word.ofOperands (.load .word) 3 3]

/-- A value in register 1, all ones in register 2, and a pointer in register 3. -/
def transferSession (counter : Nat) : Session where
  machine :=
    { Machine.ofFixed ∅ with
      registers := #v[0, 0x1122334455667788, 0xffffffffffffffff, 0x4000, 0, 0, 0, 0, 0, 0, 0, 0, 0, 0,
        0, 0]
      counter := Address.ofNat counter }

theorem sized_transfer_aliased :
    (∃ t, (transferSession 0).course (fun _ => World.answer) transferCode 2 = .running t ∧
      t.machine.register 2 = 0xffffffffffff7788) ∧
    ∃ t, (transferSession 2).course (fun _ => World.answer) transferCode 2 = .running t ∧
      t.machine.register 3 = 0x55667788 ∧ t.machine.memory.read ⟨0x4003⟩ = .ok 0x55 := by
  refine ⟨?_, ?_⟩
  · have hpush : fetch transferCode (transferSession 0).machine.counter =
        .word (Word.ofOperands (.pushRegister .half) 1 0) := rfl
    have hpop : fetch transferCode (transferSession 0).machine.counter.next =
        .word (Word.ofOperands (.pop .half) 2 0) := rfl
    obtain ⟨hstack, -⟩ := sized_transfer .half hpush hpop fun _ => World.answer
    obtain ⟨t, value, ht, hjoined, ⟨journal, hm⟩, -⟩ := hstack rfl rfl (by decide)
    have hlow : value.toNat % 65536 = 0x7788 := hjoined.low_eq
    have hupper : value.toNat / 65536 = 0xffffffffffff := hjoined.upper_eq
    have hvalue : value = 0xffffffffffff7788 := by
      apply UInt64.toNat_inj.mp
      change value.toNat = 0xffffffffffff7788
      omega
    refine ⟨t, ht, ?_⟩
    rw [hm, ← hvalue]
    rfl
  · have hstore : fetch transferCode (transferSession 2).machine.counter =
        .word (Word.ofOperands (.store .word) 3 1) := rfl
    have hload : fetch transferCode (transferSession 2).machine.counter.next =
        .word (Word.ofOperands (.load .word) 3 3) := rfl
    have hgoes : ∀ fault t, (transferSession 2).turnWith World.answer transferCode ≠
        .ended (.error fault) t := by
      rintro fault t ⟨⟩
    obtain ⟨-, hmemory⟩ := sized_transfer .word hstore hload fun _ => World.answer
    obtain ⟨t, value, ht, hjoined, hoverlaid, ⟨journal, hm⟩, -⟩ := hmemory rfl rfl rfl hgoes
    have hlow : value.toNat % 4294967296 = 0x55667788 := hjoined.low_eq
    have hupper : value.toNat / 4294967296 = 0 := hjoined.upper_eq
    have hvalue : value = 0x55667788 := by
      apply UInt64.toNat_inj.mp
      change value.toNat = 0x55667788
      omega
    refine ⟨t, ht, ?_, hoverlaid.here 3 (by decide)⟩
    rw [hm, ← hvalue]
    rfl

end Session

end WordMachine
