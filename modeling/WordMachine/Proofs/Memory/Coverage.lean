import Mathlib.Data.Finset.Card
import Mathlib.Order.Interval.Finset.Nat
import WordMachine.Proofs.Memory.Heap

/-!
# The offsets that live blocks cover

What a heap holds is a set of offsets; how this set is split into blocks depends on what was
reserved and released. In an ordered list an offset is covered if it lies in any block, although
only one block is looked at. The bytes of all blocks are as many as the offsets they cover, a new
block adds offsets to the set, and cutting a range out takes its offsets from it.

* `Extents.covers_iff` : the covered offsets are those of all blocks.
* `Extents.total_eq_card` : the bytes of all blocks, counted by offsets.
* `Memory.HeapInvariant.covers_allocate` : what reserving adds.
* `Memory.HeapInvariant.covers_discard`, `Memory.getElem?_written_discard` : what releasing leaves.
-/

namespace WordMachine

namespace Extents

/-- The block with the highest base at or below an offset is the only one that can hold it. -/
theorem covers_iff {xs : List Extent} (h : Ordered xs) (offset : Nat) :
    covers xs offset = true ↔ ∃ e ∈ xs, e.Holds offset := by
  induction xs with
  | nil => simp [covers]
  | cons x xs ih =>
    obtain ⟨-, hxs, hbelow⟩ := ordered_cons.mp h
    by_cases hx : x.base ≤ offset
    · have hcovers : covers (x :: xs) offset = decide (offset - x.base < x.size) := by
        simp [covers, hx]
      have hrest : ¬ ∃ e ∈ xs, e.Holds offset := by
        rintro ⟨e, he, hholds⟩
        have hstop := hbelow e he
        have hlt := hholds.2
        omega
      rw [hcovers, List.exists_mem_cons_iff, or_iff_left hrest, decide_eq_true_iff]
      unfold Extent.Holds Extent.stop
      omega
    · have hcovers : covers (x :: xs) offset = covers xs offset := by
        simp [covers, hx]
      have hnot : ¬ x.Holds offset := fun hholds => hx hholds.1
      rw [hcovers, ih hxs, List.exists_mem_cons_iff, or_iff_right hnot]

theorem covers_cons {x : Extent} {xs : List Extent} (h : Ordered (x :: xs)) (offset : Nat) :
    covers (x :: xs) offset = true ↔ x.Holds offset ∨ covers xs offset = true := by
  rw [covers_iff h, covers_iff (ordered_cons.mp h).2.1, List.exists_mem_cons_iff]

/-- The bytes of blocks below a bound are as many as the offsets they cover. -/
theorem total_eq_card {xs : List Extent} (h : Ordered xs) {bound : Nat}
    (hbound : ∀ e ∈ xs, e.stop ≤ bound) :
    total xs = ((Finset.range bound).filter fun offset => covers xs offset = true).card := by
  induction xs with
  | nil => simp [total, covers]
  | cons x xs ih =>
    obtain ⟨hx, hxs, hbelow⟩ := ordered_cons.mp h
    rw [List.forall_mem_cons] at hbound
    -- The offsets of the highest block, and those below it.
    have hsplit : ((Finset.range bound).filter fun offset => covers (x :: xs) offset = true) =
        Finset.Ico x.base x.stop ∪
          (Finset.range bound).filter fun offset => covers xs offset = true := by
      ext offset
      have hholds : x.Holds offset ↔ x.base ≤ offset ∧ offset < x.stop := Iff.rfl
      simp only [Finset.mem_filter, Finset.mem_range, Finset.mem_union, Finset.mem_Ico,
        covers_cons h, hholds]
      have hstop := hbound.1
      constructor
      · rintro ⟨hlt, hin | hin⟩
        · exact Or.inl hin
        · exact Or.inr ⟨hlt, hin⟩
      · rintro (hin | ⟨hlt, hin⟩)
        · exact ⟨by omega, Or.inl hin⟩
        · exact ⟨hlt, Or.inr hin⟩
    have hdisjoint : Disjoint (Finset.Ico x.base x.stop)
        ((Finset.range bound).filter fun offset => covers xs offset = true) := by
      rw [Finset.disjoint_left]
      intro offset hin hout
      obtain ⟨e, he, hholds⟩ := (covers_iff hxs offset).mp (Finset.mem_filter.mp hout).2
      have hstop := hbelow e he
      have hlt := hholds.2
      have hle := (Finset.mem_Ico.mp hin).1
      omega
    have hsize : (Finset.Ico x.base x.stop).card = x.size := by
      rw [Nat.card_Ico, Extent.stop, Nat.add_sub_cancel_left]
    rw [hsplit, Finset.card_union_of_disjoint hdisjoint, hsize, ← ih hxs hbound.2]
    rfl

/-- A range leaves the offsets of a block that are not in it. -/
theorem holds_without (start stop : Nat) (e : Extent) (offset : Nat) :
    (∃ x ∈ without start stop e, x.Holds offset) ↔
      e.Holds offset ∧ ¬ (start ≤ offset ∧ offset < stop) := by
  simp only [mem_without_iff]
  constructor
  · rintro ⟨x, ⟨hcut, rfl⟩ | ⟨hcut, rfl⟩, hholds⟩
    · unfold Extent.Holds Extent.stop at *
      dsimp only at hholds
      omega
    · unfold Extent.Holds Extent.stop at *
      dsimp only at hholds
      omega
  · rintro ⟨hholds, hout⟩
    by_cases hlow : offset < start
    · refine ⟨_, Or.inr ⟨?_, rfl⟩, ?_⟩
      · exact hholds.1.trans_lt hlow
      · unfold Extent.Holds Extent.stop at *
        dsimp only
        omega
    · refine ⟨_, Or.inl ⟨?_, rfl⟩, ?_⟩
      · have hlt := hholds.2
        omega
      · unfold Extent.Holds Extent.stop at *
        dsimp only
        omega

end Extents

namespace Memory

/-- A new block adds the offsets from the next one on. -/
theorem HeapInvariant.covers_allocate {m m' : Memory} (h : m.HeapInvariant) {size : Nat}
    {a : Address} (hm : m.allocate size = .ok (a, m')) (offset : Nat) :
    Extents.covers m'.extents offset = true ↔
      (m.next ≤ offset ∧ offset < m.next + size) ∨ Extents.covers m.extents offset = true := by
  have hheap := h.allocate hm
  obtain ⟨-, -, -, rfl⟩ := allocate_eq_ok.mp hm
  have hordered := hheap.ordered
  by_cases hsize : size = 0
  · have hempty : ¬ (m.next ≤ offset ∧ offset < m.next + size) := by omega
    simp only [if_pos hsize]
    rw [or_iff_right hempty]
  · simp only [if_neg hsize, h.insert_next size] at hordered ⊢
    exact Extents.covers_cons hordered offset

/-- Releasing a range takes its offsets from the covered ones. -/
theorem HeapInvariant.covers_discard {m : Memory} (h : m.HeapInvariant) {start stop : Nat}
    (hle : start ≤ stop) (offset : Nat) :
    Extents.covers (m.discard start stop).extents offset = true ↔
      Extents.covers m.extents offset = true ∧ ¬ (start ≤ offset ∧ offset < stop) := by
  -- Only blocks that touch the range are cut, but a cut leaves the others as they are.
  have hcut : (m.discard start stop).extents = m.extents.flatMap (Extents.without start stop) :=
    Extents.foldl_cut_touching hle h.ordered
  rw [Extents.covers_iff (h.discard hle).ordered, Extents.covers_iff h.ordered, hcut]
  constructor
  · rintro ⟨x, hx, hholds⟩
    obtain ⟨e, he, hxe⟩ := List.mem_flatMap.mp hx
    obtain ⟨hin, hout⟩ := (Extents.holds_without start stop e offset).mp ⟨x, hxe, hholds⟩
    exact ⟨⟨e, he, hin⟩, hout⟩
  · rintro ⟨⟨e, he, hin⟩, hout⟩
    obtain ⟨x, hxe, hholds⟩ := (Extents.holds_without start stop e offset).mpr ⟨hin, hout⟩
    exact ⟨x, List.mem_flatMap.mpr ⟨e, he, hxe⟩, hholds⟩

theorem getElem?_written_discard (m : Memory) (start stop offset : Nat) :
    (m.discard start stop).written[offset]? =
      if start ≤ offset ∧ offset < stop then none else m.written[offset]? := by
  simp only [discard, Std.ExtTreeMap.getElem?_filter']
  cases m.written[offset]? with
  | none => simp
  | some b =>
    by_cases hin : start ≤ offset ∧ offset < stop
    · simp [hin]
    · have hout : offset < start ∨ stop ≤ offset := by omega
      simp [hin, hout]

end Memory

end WordMachine
