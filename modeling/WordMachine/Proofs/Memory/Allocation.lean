import WordMachine.Proofs.Memory.Heap

/-!
# What the heap hands out

A reserved block lies above every block reserved before it, whatever was released in between, so no
address is handed out twice. Reserving does not touch the bytes that were written: a byte of a new
block is what the program wrote there before and did not release since, and zero otherwise.

* `Memory.grants` : the blocks that a sequence of operations hands out.
* `Memory.grants_disjoint` : their addresses rise, and no two of them share one.
* `Memory.allocate_contents` : what a new block reads as.
* `Memory.allocate_not_zeroed` : it need not read as zero.
-/

namespace WordMachine

namespace Memory

/-! ## Blocks handed out -/

/-- A block that the heap handed out: its address, and the size that was asked for. -/
structure Grant where
  address : Address
  size : Nat
  deriving DecidableEq, Repr

/-- The first number behind the addresses of a block. An empty block takes one address. -/
def Grant.stop (g : Grant) : Nat := g.address.toNat + max g.size 1

/-- A number is an address of a block. -/
def Grant.Holds (g : Grant) (n : Nat) : Prop := g.address.toNat ≤ n ∧ n < g.stop

/-- The block that an operation hands out, if it reserves one and succeeds. -/
def Operation.grant? (m : Memory) : Operation → Option Grant
  | allocate size =>
    match m.allocate size with
    | .ok (a, _) => some ⟨a, size⟩
    | .error _ => none
  | _ => none

/-- The blocks that a sequence of operations hands out, oldest first. -/
def grants (m : Memory) : List Operation → List Grant
  | [] => []
  | op :: ops => (op.grant? m).toList ++ (m.perform op).grants ops

theorem grants_append (m : Memory) (first later : List Operation) :
    m.grants (first ++ later) = m.grants first ++ (m.after first).grants later := by
  induction first generalizing m with
  | nil => rfl
  | cons op first ih =>
    rw [List.cons_append, grants, ih, grants, List.append_assoc]
    rfl

theorem grants_eq_nil {m : Memory} {ops : List Operation} (h : ∀ size, .allocate size ∉ ops) :
    m.grants ops = [] := by
  induction ops generalizing m with
  | nil => rfl
  | cons op ops ih =>
    simp only [List.mem_cons, not_or] at h
    have hop : op.grant? m = none := by
      cases op with
      | allocate size => exact absurd rfl (h size).1
      | _ => rfl
    rw [grants, hop, ih fun size => (h size).2]
    rfl

theorem grant?_eq_some {m : Memory} {op : Operation} {g : Grant} (h : op.grant? m = some g) :
    m.allocate g.size = .ok (g.address, m.perform op) := by
  cases op with
  | allocate size =>
    simp only [Operation.grant?] at h
    split at h
    · rename_i a m' hm
      cases h
      simp [perform, Operation.result, hm, Except.map]
    · cases h
  | _ => cases h

/-- A block starts at the next offset of the heap, and the heap goes on behind it. -/
theorem allocate_bounds {m m' : Memory} {size : Nat} {a : Address}
    (h : m.allocate size = .ok (a, m')) : a.space = .dynamic ∧ a.toNat = m.next ∧
      a.toNat + max size 1 = m'.next ∧ m'.next ≤ spaceSize := by
  obtain ⟨-, hspan, ha, rfl⟩ := allocate_eq_ok.mp h
  have hnext : m.next < spaceSize := by omega
  have haddress : a = Address.ofNat m.next := by
    rw [ha, Address.ofOffset, Nat.mod_eq_of_lt hnext]
  obtain ⟨hnumber, hspace, -⟩ := Address.ofNat_dynamic hnext
  rw [haddress, hnumber]
  exact ⟨hspace, rfl, rfl, hspan⟩

/-- The next offset only rises, unless the heap base is moved. -/
theorem next_le_perform {m : Memory} {op : Operation} (hop : ∀ base, op ≠ .setHeapBase base) :
    m.next ≤ (m.perform op).next := by
  rcases m.perform_cases op with ⟨written, hm⟩ | ⟨size, a, -, hm⟩ | ⟨start, stop, -, hm⟩ |
      ⟨base, hbase, -⟩ | ⟨limit, hm⟩
  · rw [hm]
  · obtain ⟨-, -, -, hm⟩ := allocate_eq_ok.mp hm
    rw [hm]
    exact Nat.le_add_right _ _
  · rw [hm]
    exact le_rfl
  · exact absurd hbase (hop base)
  · rw [hm]
    exact le_rfl

/-- All blocks handed out from here on lie above the next offset, one above the other. -/
theorem grants_ascending {m : Memory} {ops : List Operation}
    (hops : ∀ base, .setHeapBase base ∉ ops) :
    (∀ g ∈ m.grants ops,
      g.address.space = .dynamic ∧ m.next ≤ g.address.toNat ∧ g.stop ≤ spaceSize) ∧
    (m.grants ops).Pairwise fun g h => g.stop ≤ h.address.toNat := by
  induction ops generalizing m with
  | nil => exact ⟨by simp [grants], .nil⟩
  | cons op ops ih =>
    simp only [List.mem_cons, not_or] at hops
    have hrise := next_le_perform (m := m) fun base hop => (hops base).1 hop.symm
    obtain ⟨hall, hpairs⟩ := ih (m := m.perform op) fun base => (hops base).2
    have hlater : ∀ g ∈ (m.perform op).grants ops,
        g.address.space = .dynamic ∧ m.next ≤ g.address.toNat ∧ g.stop ≤ spaceSize :=
      fun g hg => ⟨(hall g hg).1, hrise.trans (hall g hg).2.1, (hall g hg).2.2⟩
    cases hop : op.grant? m with
    | none =>
      rw [grants, hop]
      exact ⟨hlater, hpairs⟩
    | some g =>
      obtain ⟨hspace, haddress, hstop, hle⟩ := allocate_bounds (grant?_eq_some hop)
      rw [grants, hop]
      refine ⟨List.forall_mem_cons.mpr ⟨⟨hspace, haddress.ge, hstop.trans_le hle⟩, hlater⟩, ?_⟩
      exact List.pairwise_cons.mpr ⟨fun h hh => hstop.trans_le (hall h hh).2.1, hpairs⟩

/-- Whatever is written, reserved and released, in any order: the addresses of the blocks handed out
are dynamic and rise, and no two blocks share an address. They end with the space at the latest. -/
theorem grants_disjoint (fixed : Std.ExtTreeMap Nat UInt8) (heapBase : Nat) {ops : List Operation}
    (h : BaseSetFirst ops) :
    let gs := (ofFixed fixed heapBase).grants ops
    (∀ g ∈ gs, g.address.space = .dynamic ∧ g.stop ≤ 2 ^ 63) ∧
      (gs.Pairwise fun g h => g.address.toNat < h.address.toNat) ∧
      gs.Pairwise fun g h => ∀ n, ¬ (g.Holds n ∧ h.Holds n) := by
  obtain ⟨first, later, rfl, hfirst, hlater⟩ := h
  intro gs
  have hgs : gs = ((ofFixed fixed heapBase).after first).grants later := by
    simp only [gs, grants_append, grants_eq_nil hfirst, List.nil_append]
  obtain ⟨hall, hpairs⟩ := grants_ascending (m := (ofFixed fixed heapBase).after first) hlater
  rw [hgs]
  refine ⟨fun g hg => ⟨(hall g hg).1, (hall g hg).2.2⟩, hpairs.imp ?_, hpairs.imp ?_⟩
  · intro g h hgh
    unfold Grant.stop at hgh
    omega
  · rintro g h hgh n ⟨hg, hh⟩
    have := hg.2
    have := hh.1
    omega

/-- An empty block, a block that is released and one that ends with the space; then nothing is
left. -/
def exhausting : List Operation :=
  [.setHeapBase 0xfffffffffffffff0, .allocate 0, .allocate 7, .release ⟨0x7ffffffffffffff0⟩ 16,
    .write ⟨0x7ffffffffffffff3⟩ 1, .allocate 9, .allocate 8, .allocate 0]

theorem grants_disjoint_exhausting : BaseSetFirst exhausting ∧
    (ofFixed ∅ 0).grants exhausting = [⟨⟨0x7ffffffffffffff0⟩, 0⟩, ⟨⟨0x7ffffffffffffff1⟩, 7⟩,
      ⟨⟨0x7ffffffffffffff8⟩, 8⟩] ∧
    let gs := (ofFixed ∅ 0).grants exhausting
    (∀ g ∈ gs, g.address.space = .dynamic ∧ g.stop ≤ 2 ^ 63) ∧
      (gs.Pairwise fun g h => g.address.toNat < h.address.toNat) ∧
      gs.Pairwise fun g h => ∀ n, ¬ (g.Holds n ∧ h.Holds n) := by
  have h : BaseSetFirst exhausting :=
    ⟨exhausting.take 1, exhausting.drop 1, rfl, by simp [exhausting], by simp [exhausting]⟩
  exact ⟨h, by decide +kernel, grants_disjoint ∅ 0 h⟩

/-! ## The bytes of a new block -/

/-- No block that ends at or below an offset covers it. -/
theorem covers_eq_false {xs : List Extent} {offset : Nat} (h : ∀ e ∈ xs, e.stop ≤ offset) :
    Extents.covers xs offset = false := by
  unfold Extents.covers
  split
  · rename_i e he
    have hstop := h e (List.mem_of_find?_eq_some he)
    unfold Extent.stop at hstop
    simp only [decide_eq_false_iff_not]
    omega
  · rfl

/-- Above all blocks, only what was written exists. -/
theorem HeapInvariant.byte?_above {m : Memory} (h : m.HeapInvariant) {offset : Nat}
    (hoffset : m.next ≤ offset) : m.byte? .dynamic offset = m.written[offset]? := by
  have hcovers : Extents.covers m.extents offset = false :=
    covers_eq_false fun e he => (h.below e he).trans hoffset
  simp only [byte?, hcovers, Bool.false_eq_true, if_false]
  split <;> simp [*]

/-- A new block covers its offsets: what was not written there is zero. -/
theorem HeapInvariant.byte?_allocate {m m' : Memory} (h : m.HeapInvariant) {size : Nat}
    {a : Address} (hm : m.allocate size = .ok (a, m')) {i : Nat} (hi : i < size) :
    m'.byte? .dynamic (m.next + i) = some (m.written[m.next + i]?.getD 0) := by
  obtain ⟨-, -, -, rfl⟩ := allocate_eq_ok.mp hm
  have hsize : size ≠ 0 := by omega
  have hcovers : Extents.covers (⟨m.next, size⟩ :: m.extents) (m.next + i) = true := by
    simp [Extents.covers, hi]
  simp only [byte?, hsize, if_false, h.insert_next size, hcovers, if_true]
  split <;> simp [*]

/-- What a byte of a new block reads as, before and after. -/
theorem HeapInvariant.read_block {m m' : Memory} (h : m.HeapInvariant) {size : Nat} {a : Address}
    (hm : m.allocate size = .ok (a, m')) {i : Nat} (hi : i < size) :
    (m.read (.ofNat (a.toNat + i))).toOption = m.written[a.toNat + i]? ∧
      m'.read (.ofNat (a.toNat + i)) = .ok (m.written[a.toNat + i]?.getD 0) := by
  obtain ⟨-, haddress, hnext, hspan⟩ := allocate_bounds hm
  obtain ⟨-, hspace, hoffset⟩ := Address.ofNat_dynamic (n := a.toNat + i) (by omega)
  have hbefore : m.byte? .dynamic (a.toNat + i) = m.written[a.toNat + i]? :=
    h.byte?_above (by omega)
  have hafter := h.byte?_allocate hm hi
  rw [← haddress] at hafter
  simp only [read, readAt, hspace, hoffset, hbefore, hafter, and_true]
  cases m.written[a.toNat + i]? <;> rfl

/-- An operation stores a byte at an offset of the dynamic space, if it succeeds. -/
def Operation.Stores (offset : Nat) : Operation → Prop
  | write a _ => a.space = .dynamic ∧ a.offset = offset
  | writeBytes a bytes =>
    a.space = .dynamic ∧ a.offset ≤ offset ∧ offset < a.offset + bytes.length
  | writeValue a _ width => a.space = .dynamic ∧ a.offset ≤ offset ∧ offset < a.offset + width
  | _ => False

theorem written_writeBytes {m m' : Memory} {a : Address} {bytes : List UInt8} {offset : Nat}
    (hm : m.writeBytes a bytes = .ok m')
    (h : ¬ (a.space = .dynamic ∧ a.offset ≤ offset ∧ offset < a.offset + bytes.length)) :
    m'.written[offset]? = m.written[offset]? := by
  rcases (writeBytes_eq_ok.mp hm).2 with ⟨hspace, rfl⟩ | ⟨-, -, rfl⟩
  · rw [getElem?_overlay, if_neg fun hin => h ⟨hspace, hin⟩]
  · rfl

/-- What does not exist at an offset comes to exist only by storing there. -/
theorem written_perform {m : Memory} {op : Operation} {offset : Nat} (hop : ¬ op.Stores offset)
    (h : m.written[offset]? = none) : (m.perform op).written[offset]? = none := by
  unfold perform
  cases hresult : op.result m with
  | error f => exact h
  | ok m' =>
    cases op with
    | write a b =>
      obtain ⟨hspace, rfl⟩ := write_eq_ok.mp hresult
      dsimp only
      rw [getElem?_insert, if_neg fun heq => hop ⟨hspace, heq⟩, h]
    | writeBytes a bytes =>
      exact (written_writeBytes hresult hop).trans h
    | writeValue a value width =>
      simp only [Operation.result, writeValue] at hresult
      split at hresult
      · cases hresult
      · refine (written_writeBytes hresult ?_).trans h
        rwa [length_littleEndian]
    | allocate size =>
      obtain ⟨a, ha⟩ := allocate_of_result hresult
      obtain ⟨-, -, -, rfl⟩ := allocate_eq_ok.mp ha
      exact h
    | release a size =>
      obtain ⟨-, -, rfl⟩ := release_eq_ok.mp hresult
      simp [discard, h]
    | setHeapBase base =>
      cases hresult
      exact h
    | setHeapLimit limit =>
      cases hresult
      exact h

theorem written_after {m : Memory} {ops : List Operation} {offset : Nat}
    (hops : ∀ op ∈ ops, ¬ op.Stores offset) (h : m.written[offset]? = none) :
    (m.after ops).written[offset]? = none := by
  induction ops generalizing m with
  | nil => exact h
  | cons op ops ih =>
    rw [List.forall_mem_cons] at hops
    exact ih hops.2 (written_perform hops.1 h)

/-- A byte of a new block reads as it did before, and as zero if it did not exist. So the block
reads as zero if nothing was ever stored in it. -/
theorem allocate_contents (fixed : Std.ExtTreeMap Nat UInt8) (heapBase : Nat)
    {ops : List Operation} (h : BaseSetFirst ops) {size : Nat} {a : Address} {m' : Memory}
    (hm : ((ofFixed fixed heapBase).after ops).allocate size = .ok (a, m')) :
    let m := (ofFixed fixed heapBase).after ops
    (∀ i < size, m'.read (.ofNat (a.toNat + i)) =
      .ok ((m.read (.ofNat (a.toNat + i))).toOption.getD 0)) ∧
    ((∀ op ∈ ops, ∀ i < size, ¬ op.Stores (a.toNat + i)) →
      ∀ i < size, m'.read (.ofNat (a.toNat + i)) = .ok 0) := by
  intro m
  have hheap : m.HeapInvariant := heapInvariant_after fixed heapBase h
  refine ⟨fun i hi => ?_, fun hstores i hi => ?_⟩
  · obtain ⟨hbefore, hafter⟩ := hheap.read_block hm hi
    rw [hafter, hbefore]
  · have hnone : m.written[a.toNat + i]? = none :=
      written_after (fun op hop => hstores op hop i hi) (by simp [ofFixed])
    rw [(hheap.read_block hm hi).2, hnone]
    rfl

/-- A byte is stored where the heap will hand out its first block. -/
def scribbling : List Operation := [.write ⟨0x12⟩ 7]

theorem baseSetFirst_scribbling : BaseSetFirst scribbling :=
  ⟨[], scribbling, rfl, by simp, by simp [scribbling]⟩

theorem allocate_contents_scribbling : BaseSetFirst scribbling ∧
    ∃ m', ((ofFixed ∅ 0x10).after scribbling).allocate 4 = .ok (⟨0x10⟩, m') ∧
      m'.read ⟨0x11⟩ = .ok 0 ∧ m'.read ⟨0x12⟩ = .ok 7 := by
  obtain ⟨m', hm⟩ : ∃ m', ((ofFixed ∅ 0x10).after scribbling).allocate 4 = .ok (⟨0x10⟩, m') :=
    ⟨_, rfl⟩
  have hread := (allocate_contents ∅ 0x10 baseSetFirst_scribbling hm).1
  exact ⟨baseSetFirst_scribbling, m', hm, hread 1 (by decide), hread 2 (by decide)⟩

/-- New blocks need not read as zero. -/
theorem allocate_not_zeroed :
    ¬ ∀ (fixed : Std.ExtTreeMap Nat UInt8) (heapBase : Nat) (ops : List Operation),
      BaseSetFirst ops → ∀ (size : Nat) (a : Address) (m' : Memory),
        ((ofFixed fixed heapBase).after ops).allocate size = .ok (a, m') →
          ∀ i < size, m'.read (.ofNat (a.toNat + i)) = .ok 0 := by
  intro h
  have hzero := h ∅ 0x10 scribbling baseSetFirst_scribbling 4 _ _ rfl 2 (by decide)
  cases hzero

end Memory

end WordMachine
