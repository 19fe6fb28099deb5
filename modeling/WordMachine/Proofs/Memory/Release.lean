import WordMachine.Proofs.Memory.Coverage

/-!
# What releasing takes away

Releasing a range works on two structures, the written bytes and the live blocks, and takes the same
offsets from both: afterwards no byte of the range exists, and every other byte of either space is
what it was. The bytes in use drop by as many as there were live offsets in the range, whatever
blocks they lay in.

* `Memory.liveIn` : the live offsets of a range.
* `Memory.HeapInvariant.read_discard` : what reads as before.
* `Memory.HeapInvariant.inUse_discard` : the bytes in use that are left.
* `Memory.release_effect` : when releasing succeeds, and all that it changes.
-/

namespace WordMachine

instance (e : Extent) (offset : Nat) : Decidable (e.Holds offset) :=
  inferInstanceAs (Decidable (_ ∧ _))

namespace Memory

/-- The offsets of a range that lie in live blocks. -/
def liveIn (m : Memory) (start stop : Nat) : Finset Nat :=
  (Finset.Ico start stop).filter fun offset => ∃ e ∈ m.extents, e.Holds offset

variable {m : Memory} {a : Address} {size start stop : Nat}

/-! ## What a range leaves -/

theorem HeapInvariant.byte?_discard (h : m.HeapInvariant) (hle : start ≤ stop) (space : Space)
    (offset : Nat) :
    (m.discard start stop).byte? space offset =
      if space = .dynamic ∧ start ≤ offset ∧ offset < stop then none
      else m.byte? space offset := by
  cases space with
  | static => rfl
  | dynamic =>
    have hcovers := h.covers_discard hle offset
    simp only [byte?, getElem?_written_discard, true_and]
    by_cases hin : start ≤ offset ∧ offset < stop
    · simp [hin, hcovers]
    · simp [hin, hcovers]

theorem HeapInvariant.read_discard (h : m.HeapInvariant) (hle : start ≤ stop) (b : Address) :
    (m.discard start stop).read b =
      if b.space = .dynamic ∧ start ≤ b.offset ∧ b.offset < stop then
        .error (.unmapped .dynamic b.offset)
      else m.read b := by
  unfold read readAt
  rw [h.byte?_discard hle]
  by_cases hin : b.space = .dynamic ∧ start ≤ b.offset ∧ b.offset < stop
  · rw [if_pos hin, if_pos hin, hin.1]
  · rw [if_neg hin, if_neg hin]

/-- Live offsets lie below the next one, so those of a range are the covered ones among them. -/
theorem HeapInvariant.liveIn_eq (h : m.HeapInvariant) (start stop : Nat) :
    m.liveIn start stop = (Finset.range m.next).filter fun offset =>
      Extents.covers m.extents offset = true ∧ start ≤ offset ∧ offset < stop := by
  ext offset
  simp only [liveIn, Finset.mem_filter, Finset.mem_Ico, Finset.mem_range,
    Extents.covers_iff h.ordered]
  constructor
  · rintro ⟨hin, e, he, hholds⟩
    exact ⟨hholds.2.trans_le (h.below e he), ⟨e, he, hholds⟩, hin⟩
  · rintro ⟨-, hlive, hin⟩
    exact ⟨hin, hlive⟩

/-- The bytes in use are the covered offsets, and those of the range are no longer covered. -/
theorem HeapInvariant.inUse_discard (h : m.HeapInvariant) (hle : start ≤ stop) :
    (m.discard start stop).inUse + (m.liveIn start stop).card = m.inUse := by
  have hafter := h.discard hle
  have hsplit := Finset.card_filter_add_card_filter_not
    (s := (Finset.range m.next).filter fun offset => Extents.covers m.extents offset = true)
    fun offset => start ≤ offset ∧ offset < stop
  rw [Finset.filter_filter, Finset.filter_filter] at hsplit
  have hleft : (m.discard start stop).inUse = ((Finset.range m.next).filter fun offset =>
      Extents.covers m.extents offset = true ∧ ¬ (start ≤ offset ∧ offset < stop)).card := by
    rw [hafter.inUse_eq, Extents.total_eq_card hafter.ordered hafter.below]
    simp only [h.covers_discard hle]
    rfl
  rw [hleft, h.liveIn_eq, h.inUse_eq, Extents.total_eq_card h.ordered h.below, Nat.add_comm]
  exact hsplit

/-! ## When releasing fails -/

theorem release_eq_error_of_static (h : a.space = .static) :
    m.release a size = .error (.writeToStatic a.offset) := by
  unfold release
  rw [h]

theorem release_eq_error_of_crosses (h : a.space = .dynamic) (hspan : spaceSize < a.offset + size) :
    m.release a size = .error (.crossesSpace .dynamic a.offset size) := by
  unfold release checkSpan
  rw [if_neg (Nat.not_le.mpr hspan), h]
  rfl

theorem perform_release_of_ok {m' : Memory} (h : m.release a size = .ok m') :
    m.perform (.release a size) = m' := by
  simp only [perform, Operation.result, h]

theorem perform_release_of_error {e : Fault} (h : m.release a size = .error e) :
    m.perform (.release a size) = m := by
  simp only [perform, Operation.result, h]

/-! ## Releasing -/

/-- Whatever was written, reserved and released before: releasing bytes of the dynamic space
succeeds, if they end with the space at the latest. Then the released bytes no longer exist, all
others of both spaces read as before, and the bytes in use are fewer by the live offsets among the
released ones. Otherwise releasing fails, because the address is static or the bytes would run past
the end of the space, and nothing changes. -/
theorem release_effect (fixed : Std.ExtTreeMap Nat UInt8) (heapBase : Nat) {ops : List Operation}
    (h : BaseSetFirst ops) (a : Address) (size : Nat) :
    let m := (ofFixed fixed heapBase).after ops
    let m' := m.perform (.release a size)
    (a.space = .dynamic ∧ a.offset + size ≤ 2 ^ 63 →
      m.release a size = .ok m' ∧
      (∀ b : Address, m'.read b =
        if b.space = .dynamic ∧ a.offset ≤ b.offset ∧ b.offset < a.offset + size then
          .error (.unmapped .dynamic b.offset)
        else m.read b) ∧
      m'.inUse + (m.liveIn a.offset (a.offset + size)).card = m.inUse) ∧
    (a.space = .static → m.release a size = .error (.writeToStatic a.offset)) ∧
    (a.space = .dynamic → 2 ^ 63 < a.offset + size →
      m.release a size = .error (.crossesSpace .dynamic a.offset size)) ∧
    (¬ (a.space = .dynamic ∧ a.offset + size ≤ 2 ^ 63) →
      (∀ b : Address, m'.read b = m.read b) ∧ m'.inUse = m.inUse) := by
  intro m m'
  have hheap : m.HeapInvariant := heapInvariant_after fixed heapBase h
  have hle : a.offset ≤ a.offset + size := Nat.le_add_right _ _
  refine ⟨fun hspan => ?_, release_eq_error_of_static, release_eq_error_of_crosses,
    fun hfails => ?_⟩
  · have hok : m.release a size = .ok (m.discard a.offset (a.offset + size)) :=
      release_eq_ok.mpr ⟨hspan.1, hspan.2, rfl⟩
    have hm' : m' = m.discard a.offset (a.offset + size) := perform_release_of_ok hok
    rw [hm']
    exact ⟨hok, hheap.read_discard hle, hheap.inUse_discard hle⟩
  · have hm' : m' = m := by
      cases hresult : m.release a size with
      | error e => exact perform_release_of_error hresult
      | ok memory =>
        obtain ⟨hspace, hspan, -⟩ := release_eq_ok.mp hresult
        exact absurd ⟨hspace, hspan⟩ hfails
    rw [hm']
    exact ⟨fun _ => rfl, rfl⟩

/-- Two blocks side by side with a written byte in the first, and a written byte behind both. -/
def sideBySide : List Operation :=
  [.setHeapBase 0x10, .allocate 8, .allocate 4, .write ⟨0x12⟩ 7, .write ⟨0x30⟩ 9]

/-- The end of the first block, all of the second and the byte behind both are released at once. A
range at a static address and one past the end of the space are not. -/
theorem release_effect_sideBySide : BaseSetFirst sideBySide ∧
    let m := (ofFixed ∅ 0).after sideBySide
    let m' := m.perform (.release ⟨0x14⟩ 0x20)
    m.release ⟨0x14⟩ 0x20 = .ok m' ∧ m.inUse = 12 ∧ m'.inUse = 4 ∧
      m.read ⟨0x14⟩ = .ok 0 ∧ m'.read ⟨0x14⟩ = .error (.unmapped .dynamic 0x14) ∧
      m.read ⟨0x30⟩ = .ok 9 ∧ m'.read ⟨0x30⟩ = .error (.unmapped .dynamic 0x30) ∧
      m'.read ⟨0x13⟩ = .ok 0 ∧ m'.read ⟨0x12⟩ = .ok 7 ∧
      m.release ⟨0x8000000000000014⟩ 1 = .error (.writeToStatic 0x14) ∧
      m.release ⟨0x14⟩ 0x7fffffffffffffed =
        .error (.crossesSpace .dynamic 0x14 0x7fffffffffffffed) := by
  have h : BaseSetFirst sideBySide :=
    ⟨sideBySide.take 1, sideBySide.drop 1, rfl, by simp [sideBySide], by simp [sideBySide]⟩
  refine ⟨h, ?_⟩
  intro m m'
  obtain ⟨hok, hread, hinUse⟩ := (release_effect ∅ 0 h ⟨0x14⟩ 0x20).1 (by decide)
  have hbefore : m.inUse = 12 := by decide +kernel
  have hlive : (m.liveIn 0x14 0x34).card = 8 := by decide +kernel
  have hafter : m'.inUse = 4 := by
    have hsum : m'.inUse + (m.liveIn 0x14 0x34).card = m.inUse := hinUse
    omega
  exact ⟨hok, hbefore, hafter, by decide +kernel, hread ⟨0x14⟩, by decide +kernel, hread ⟨0x30⟩,
    (hread ⟨0x13⟩).trans (by decide +kernel), (hread ⟨0x12⟩).trans (by decide +kernel),
    (release_effect ∅ 0 h ⟨0x8000000000000014⟩ 1).2.1 rfl,
    (release_effect ∅ 0 h ⟨0x14⟩ 0x7fffffffffffffed).2.2.1 rfl (by decide)⟩

end Memory

end WordMachine
