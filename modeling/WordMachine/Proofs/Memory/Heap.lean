import WordMachine.Proofs.Memory.Bytes
import WordMachine.Proofs.Memory.Extents

/-!
# The heap over any sequence of operations

Whatever is written, reserved and released, in any order and with any arguments, the live blocks of
a heap are not empty, do not overlap and end below the next offset to hand out, and the bytes in use
are those of the live blocks. Only moving the heap base may break this, and does not before the
first block is reserved.

* `Memory.HeapInvariant` : the invariant, with the order of the blocks that carries it.
* `Memory.Operation`, `Memory.after` : sequences of operations. One that fails changes nothing.
* `Memory.heapInvariant_after` : the invariant holds after any sequence of operations.
* `Memory.heap_after` : what it says of the blocks and the bytes in use.
-/

namespace WordMachine

namespace Memory

/-- The live blocks are ordered and end below the next offset, and the bytes in use are theirs. -/
structure HeapInvariant (m : Memory) : Prop where
  ordered : Extents.Ordered m.extents
  below : ∀ e ∈ m.extents, e.stop ≤ m.next
  next_le : m.next ≤ spaceSize
  inUse_eq : m.inUse = Extents.total m.extents

/-! ## What each operation does -/

theorem write_ok {m m' : Memory} {a : Address} {b : UInt8} (h : m.write a b = .ok m') :
    ∃ written, m' = { m with written } := ⟨_, (write_eq_ok.mp h).2⟩

theorem writeBytes_ok {m m' : Memory} {a : Address} {bytes : List UInt8}
    (h : m.writeBytes a bytes = .ok m') : ∃ written, m' = { m with written } := by
  rcases (writeBytes_eq_ok.mp h).2 with ⟨-, hm⟩ | ⟨-, -, hm⟩
  · exact ⟨_, hm⟩
  · exact ⟨m.written, hm⟩

theorem writeValue_ok {m m' : Memory} {a : Address} {value : UInt64} {width : Nat}
    (h : m.writeValue a value width = .ok m') : ∃ written, m' = { m with written } := by
  unfold writeValue at h
  split at h
  · cases h
  · exact writeBytes_ok h

theorem allocate_eq_ok {m m' : Memory} {size : Nat} {a : Address} :
    m.allocate size = .ok (a, m') ↔ m.inUse + size ≤ m.limit ∧ m.next + max size 1 ≤ spaceSize ∧
      a = Address.ofOffset .dynamic m.next ∧
      m' = { m with
        extents := if size = 0 then m.extents else Extents.insert ⟨m.next, size⟩ m.extents
        next := m.next + max size 1
        inUse := m.inUse + size } := by
  unfold allocate
  split
  · rename_i h
    simp only [reduceCtorEq, false_iff]
    omega
  · rename_i h
    rw [not_or, Nat.not_lt, Nat.not_lt] at h
    simp only [Except.ok.injEq, Prod.mk.injEq, h.1, h.2, true_and]
    exact ⟨fun h => ⟨h.1.symm, h.2.symm⟩, fun h => ⟨h.1.symm, h.2.symm⟩⟩

/-- The memory without the bytes of a range. -/
def discard (m : Memory) (start stop : Nat) : Memory :=
  { m with
    written := m.written.filter fun offset _ => offset < start || stop ≤ offset
    extents := (Extents.touching m.extents start stop).foldl (Extents.cut start stop) m.extents
    inUse := (Extents.touching m.extents start stop).foldl
      (fun n e => n - Extents.overlap start stop e) m.inUse }

theorem release_eq_ok {m m' : Memory} {a : Address} {size : Nat} :
    m.release a size = .ok m' ↔ a.space = .dynamic ∧ a.offset + size ≤ spaceSize ∧
      m' = m.discard a.offset (a.offset + size) := by
  unfold release
  cases hspace : a.space with
  | static => simp
  | dynamic =>
    by_cases hspan : a.offset + size ≤ spaceSize
    · simp only [checkSpan, hspan, if_true, bind, Except.bind, pure, Except.pure, true_and,
        Except.ok.injEq]
      exact eq_comm
    · simp [checkSpan, hspan, bind, Except.bind]

/-! ## Operations keep the invariant -/

theorem heapInvariant_ofFixed (fixed : Std.ExtTreeMap Nat UInt8) (heapBase : Nat) :
    HeapInvariant (ofFixed fixed heapBase) where
  ordered := Extents.ordered_nil
  below := by simp [ofFixed]
  next_le := (Nat.mod_lt _ (by decide)).le
  inUse_eq := rfl

theorem HeapInvariant.written {m : Memory} (h : m.HeapInvariant)
    (written : Std.ExtTreeMap Nat UInt8) : HeapInvariant { m with written } :=
  ⟨h.ordered, h.below, h.next_le, h.inUse_eq⟩

/-- A new block lies above all live ones, so it goes in front of them. -/
theorem HeapInvariant.insert_next {m : Memory} (h : m.HeapInvariant) (size : Nat) :
    Extents.insert ⟨m.next, size⟩ m.extents = ⟨m.next, size⟩ :: m.extents := by
  refine @Extents.insert_between [] m.extents ⟨m.next, size⟩ (by simp) ?_
  intro e he
  exact (h.ordered.base_lt_stop he).trans_le (h.below e he)

theorem HeapInvariant.allocate {m m' : Memory} {size : Nat} {a : Address} (h : m.HeapInvariant)
    (hm : m.allocate size = .ok (a, m')) : m'.HeapInvariant := by
  obtain ⟨-, hnext, -, rfl⟩ := allocate_eq_ok.mp hm
  by_cases hsize : size = 0
  · subst hsize
    refine ⟨h.ordered, fun e he => ?_, hnext, h.inUse_eq⟩
    exact (h.below e he).trans (Nat.le_add_right _ _)
  · have hmax : max size 1 = size := by omega
    have htotal := h.inUse_eq
    rw [hmax] at hnext
    simp only [hsize, if_false, hmax, h.insert_next size]
    refine ⟨?_, ?_, hnext, ?_⟩
    · exact Extents.ordered_cons.mpr ⟨Nat.pos_of_ne_zero hsize, h.ordered, h.below⟩
    · refine List.forall_mem_cons.mpr ⟨le_rfl, fun e he => ?_⟩
      exact (h.below e he).trans (Nat.le_add_right _ _)
    · simp only [htotal, Extents.total, List.map_cons, List.sum_cons]
      omega

theorem HeapInvariant.discard {m : Memory} (h : m.HeapInvariant) {start stop : Nat}
    (hle : start ≤ stop) : (m.discard start stop).HeapInvariant := by
  have hcut := Extents.foldl_cut_touching hle h.ordered
  have htotal := Extents.total_without hle m.extents
  refine ⟨?_, ?_, h.next_le, ?_⟩
  · simp only [Memory.discard, hcut]
    exact Extents.ordered_without hle h.ordered
  · simp only [Memory.discard, hcut]
    intro x hx
    obtain ⟨e, he, hxe⟩ := List.mem_flatMap.mp hx
    exact (Extents.mem_without (h.ordered.positive e he) hxe).2.2.trans (h.below e he)
  · simp only [Memory.discard, hcut, Extents.foldl_overlap_touching start stop h.ordered,
      h.inUse_eq]
    omega

theorem HeapInvariant.setHeapLimit {m : Memory} (h : m.HeapInvariant) (limit : Nat) :
    (m.setHeapLimit limit).HeapInvariant :=
  ⟨h.ordered, h.below, h.next_le, h.inUse_eq⟩

/-- Without live blocks the heap may go on anywhere. -/
theorem HeapInvariant.setHeapBase {m : Memory} (h : m.HeapInvariant) (hnone : m.extents = [])
    (base : Nat) : (m.setHeapBase base).HeapInvariant :=
  ⟨h.ordered, by simp [Memory.setHeapBase, hnone], (Nat.mod_lt _ (by decide)).le, h.inUse_eq⟩

/-! ## Sequences of operations -/

/-- What can be done to a memory. -/
inductive Operation where
  | write (a : Address) (b : UInt8)
  | writeBytes (a : Address) (bytes : List UInt8)
  | writeValue (a : Address) (value : UInt64) (width : Nat)
  | allocate (size : Nat)
  | release (a : Address) (size : Nat)
  | setHeapBase (base : Nat)
  | setHeapLimit (limit : Nat)

/-- The memory after an operation, or why it fails. -/
def Operation.result (m : Memory) : Operation → Except Fault Memory
  | write a b => m.write a b
  | writeBytes a bytes => m.writeBytes a bytes
  | writeValue a value width => m.writeValue a value width
  | allocate size => (m.allocate size).map (·.2)
  | release a size => m.release a size
  | setHeapBase base => .ok (m.setHeapBase base)
  | setHeapLimit limit => .ok (m.setHeapLimit limit)

/-- The memory after an operation. One that fails leaves it as it is. -/
def perform (m : Memory) (op : Operation) : Memory :=
  match op.result m with
  | .ok m' => m'
  | .error _ => m

/-- The memory after a sequence of operations. -/
def after (m : Memory) (ops : List Operation) : Memory := ops.foldl perform m

/-- The heap base is moved only before the first block is reserved. -/
def BaseSetFirst (ops : List Operation) : Prop :=
  ∃ first later, ops = first ++ later ∧ (∀ size, .allocate size ∉ first) ∧
    ∀ base, .setHeapBase base ∉ later

theorem allocate_of_result {m m' : Memory} {size : Nat}
    (h : Operation.result m (.allocate size) = .ok m') : ∃ a, m.allocate size = .ok (a, m') := by
  cases hm : m.allocate size with
  | error f => simp [Operation.result, hm, Except.map] at h
  | ok p =>
    simp only [Operation.result, hm, Except.map, Except.ok.injEq] at h
    exact ⟨p.1, by rw [← h]⟩

/-- All that an operation can do: change written bytes, reserve a block, cut a range out, or move a
bound of the heap. One that fails changes no byte. -/
theorem perform_cases (m : Memory) (op : Operation) :
    (∃ written, m.perform op = { m with written }) ∨
    (∃ size a, op = .allocate size ∧ m.allocate size = .ok (a, m.perform op)) ∨
    (∃ start stop, start ≤ stop ∧ m.perform op = m.discard start stop) ∨
    (∃ base, op = .setHeapBase base ∧ m.perform op = m.setHeapBase base) ∨
    ∃ limit, m.perform op = m.setHeapLimit limit := by
  unfold perform
  cases hop : op.result m with
  | error f => exact Or.inl ⟨m.written, rfl⟩
  | ok m' =>
    cases op with
    | write a b => exact Or.inl (write_ok hop)
    | writeBytes a bytes => exact Or.inl (writeBytes_ok hop)
    | writeValue a value width => exact Or.inl (writeValue_ok hop)
    | allocate size =>
      obtain ⟨a, ha⟩ := allocate_of_result hop
      exact Or.inr (Or.inl ⟨size, a, rfl, ha⟩)
    | release a size =>
      obtain ⟨-, -, rfl⟩ := release_eq_ok.mp hop
      exact Or.inr (Or.inr (Or.inl ⟨a.offset, a.offset + size, Nat.le_add_right _ _, rfl⟩))
    | setHeapBase base => exact Or.inr (Or.inr (Or.inr (Or.inl ⟨base, rfl, by cases hop; rfl⟩)))
    | setHeapLimit limit => exact Or.inr (Or.inr (Or.inr (Or.inr ⟨limit, by cases hop; rfl⟩)))

/-- One operation keeps the invariant, if it does not move the heap base away from live blocks. -/
theorem HeapInvariant.perform {m : Memory} (h : m.HeapInvariant) {op : Operation}
    (hbase : ∀ base, op = .setHeapBase base → m.extents = []) : (m.perform op).HeapInvariant := by
  rcases m.perform_cases op with ⟨written, hm⟩ | ⟨size, a, -, hm⟩ | ⟨start, stop, hle, hm⟩ |
      ⟨base, hop, hm⟩ | ⟨limit, hm⟩
  · exact hm ▸ h.written written
  · exact h.allocate hm
  · exact hm ▸ h.discard hle
  · exact hm ▸ h.setHeapBase (hbase base hop) base
  · exact hm ▸ h.setHeapLimit limit

/-- Only reserving makes a first block. -/
theorem extents_perform_eq_nil {m : Memory} (h : m.extents = []) {op : Operation}
    (hop : ∀ size, op ≠ .allocate size) : (m.perform op).extents = [] := by
  rcases m.perform_cases op with ⟨written, hm⟩ | ⟨size, a, hsize, -⟩ | ⟨start, stop, -, hm⟩ |
      ⟨base, -, hm⟩ | ⟨limit, hm⟩
  · rw [hm]
    exact h
  · exact absurd hsize (hop size)
  · rw [hm]
    simp [Memory.discard, h, Extents.touching]
  · rw [hm]
    exact h
  · rw [hm]
    exact h

theorem HeapInvariant.after_first {m : Memory} (h : m.HeapInvariant) (hnone : m.extents = [])
    {ops : List Operation} (hops : ∀ size, .allocate size ∉ ops) :
    (m.after ops).HeapInvariant := by
  induction ops generalizing m with
  | nil => exact h
  | cons op ops ih =>
    simp only [List.mem_cons, not_or] at hops
    exact ih (h.perform fun _ _ => hnone)
      (extents_perform_eq_nil hnone fun size hop => (hops size).1 hop.symm)
      fun size => (hops size).2

theorem HeapInvariant.after_later {m : Memory} (h : m.HeapInvariant) {ops : List Operation}
    (hops : ∀ base, .setHeapBase base ∉ ops) : (m.after ops).HeapInvariant := by
  induction ops generalizing m with
  | nil => exact h
  | cons op ops ih =>
    simp only [List.mem_cons, not_or] at hops
    exact ih (h.perform fun base hop => absurd hop.symm (hops base).1) fun base => (hops base).2

theorem heapInvariant_after (fixed : Std.ExtTreeMap Nat UInt8) (heapBase : Nat)
    {ops : List Operation} (h : BaseSetFirst ops) :
    ((ofFixed fixed heapBase).after ops).HeapInvariant := by
  obtain ⟨first, later, rfl, hfirst, hlater⟩ := h
  have hstart := (heapInvariant_ofFixed fixed heapBase).after_first rfl hfirst
  simp only [after, List.foldl_append] at hstart ⊢
  exact hstart.after_later hlater

/-- After any sequence of operations, the live blocks are not empty, no two of them share an offset,
they end at or below the next offset to hand out, which is in the space or just behind it, and the
bytes in use are the sum of their sizes. -/
theorem heap_after (fixed : Std.ExtTreeMap Nat UInt8) (heapBase : Nat) {ops : List Operation}
    (h : BaseSetFirst ops) :
    let m := (ofFixed fixed heapBase).after ops
    (∀ e ∈ m.extents, 0 < e.size) ∧
      (m.extents.Pairwise fun a b => ∀ offset, ¬ (a.Holds offset ∧ b.Holds offset)) ∧
      (∀ e ∈ m.extents, e.stop ≤ m.next) ∧ m.next ≤ 2 ^ 63 ∧
      m.inUse = (m.extents.map Extent.size).sum := by
  intro m
  have hm : m.HeapInvariant := heapInvariant_after fixed heapBase h
  exact ⟨hm.ordered.positive, hm.ordered.disjoint, hm.below, hm.next_le, hm.inUse_eq⟩

/-- Three blocks; a range inside one of them, an empty range and a range over two are released. -/
def fragmenting : List Operation :=
  [.setHeapBase 0x8000000000000010, .setHeapLimit 64, .allocate 8, .allocate 4, .allocate 0,
    .allocate 6, .write ⟨0x12⟩ 7, .release ⟨0x12⟩ 3, .release ⟨0x11⟩ 0, .release ⟨0x17⟩ 4,
    .allocate 100, .release ⟨0x8000000000000000⟩ 1]

theorem heap_after_fragmenting : BaseSetFirst fragmenting ∧
    let m := (ofFixed ∅ 0).after fragmenting
    (∀ e ∈ m.extents, 0 < e.size) ∧
      (m.extents.Pairwise fun a b => ∀ offset, ¬ (a.Holds offset ∧ b.Holds offset)) ∧
      (∀ e ∈ m.extents, e.stop ≤ m.next) ∧ m.next ≤ 2 ^ 63 ∧
      m.inUse = (m.extents.map Extent.size).sum := by
  have h : BaseSetFirst fragmenting :=
    ⟨fragmenting.take 2, fragmenting.drop 2, rfl, by simp [fragmenting], by simp [fragmenting]⟩
  exact ⟨h, heap_after ∅ 0 h⟩

example : ((ofFixed ∅ 0).after fragmenting).extents =
    [⟨0x1d, 6⟩, ⟨0x1b, 1⟩, ⟨0x15, 2⟩, ⟨0x11, 1⟩, ⟨0x10, 1⟩] := by
  decide +kernel

end Memory

end WordMachine
