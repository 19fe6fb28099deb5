import WordMachine.Proofs.Memory.Heap

/-!
# The heap in checked arithmetic

Here the heap is read and released a second time, with sums that must fit in 64 bits and differences
that must not be negative: everything else is a misuse. Both ways agree as long as the live blocks
have different bases, end within the space and hold no more bytes than are in use. Blocks may
overlap: this is so after the heap base was moved below them, when the blocks are no longer ordered
and the bytes in use are more than theirs.

* `Checked.add`, `Checked.sub` : checked arithmetic.
* `Memory.byteChecked`, `Memory.releaseChecked` : reading and releasing in checked arithmetic.
* `Memory.HeapBounded` : the invariant, which no operation breaks.
* `Memory.byteChecked_eq`, `Memory.HeapBounded.releaseChecked_eq` : no check fails.
-/

namespace WordMachine

namespace Checked

/-- The sum of two numbers. It has to fit in 64 bits. -/
def add (x y : Nat) : Except Fault Nat :=
  if x + y < 2 ^ 64 then .ok (x + y) else .error .misuse

/-- The difference of two numbers. It must not be negative. -/
def sub (x y : Nat) : Except Fault Nat :=
  if y ≤ x then .ok (x - y) else .error .misuse

theorem add_eq {x y : Nat} (h : x + y < 2 ^ 64) : add x y = .ok (x + y) := if_pos h

theorem sub_eq {x y : Nat} (h : y ≤ x) : sub x y = .ok (x - y) := if_pos h

end Checked

/-! ## Blocks -/

namespace Extents

/-- Whether an offset lies in the block with the highest base at or below it. -/
def coversChecked (xs : List Extent) (offset : Nat) : Except Fault Bool :=
  match xs.find? fun e => e.base ≤ offset with
  | some e => do return (← Checked.sub offset e.base) < e.size
  | none => return false

/-- The blocks up to the first that ends at or below `start`. -/
def reachingChecked (start : Nat) : List Extent → Except Fault (List Extent)
  | [] => return []
  | e :: es => do
    if start < (← Checked.add e.base e.size) then return e :: (← reachingChecked start es)
    else return []

/-- The blocks that reach into the range from `start` up to `stop`. -/
def touchingChecked (xs : List Extent) (start stop : Nat) : Except Fault (List Extent) :=
  reachingChecked start (xs.dropWhile fun e => stop ≤ e.base)

/-- Put in the block from `base` up to `stop`, if there is something between them. -/
def putChecked (base stop : Nat) (xs : List Extent) : Except Fault (List Extent) := do
  if base < stop then
    let size ← Checked.sub stop base
    return insert ⟨base, size⟩ xs
  else return xs

/-- Cut a range out of one block, and count its bytes off those in use. -/
def cutChecked (start stop : Nat) (heap : List Extent × Nat) (e : Extent) :
    Except Fault (List Extent × Nat) := do
  let xs := erase e.base heap.1
  let last ← Checked.add e.base e.size
  let xs ← putChecked e.base start xs
  let xs ← putChecked stop last xs
  let freed ← Checked.sub (min last stop) (max e.base start)
  let inUse ← Checked.sub heap.2 freed
  return (xs, inUse)

/-- The block that is looked at starts at or below the offset. -/
theorem coversChecked_eq (xs : List Extent) (offset : Nat) :
    coversChecked xs offset = .ok (covers xs offset) := by
  unfold coversChecked covers
  cases hfind : xs.find? fun e => e.base ≤ offset with
  | none => rfl
  | some e =>
    have hbase : e.base ≤ offset := by simpa using List.find?_some hfind
    simp only [Checked.sub_eq hbase]
    rfl

theorem reachingChecked_eq {start : Nat} {es : List Extent} (h : ∀ e ∈ es, e.stop ≤ spaceSize) :
    reachingChecked start es = .ok (es.takeWhile fun e => start < e.stop) := by
  induction es with
  | nil => rfl
  | cons e es ih =>
    rw [List.forall_mem_cons] at h
    have hsum : Checked.add e.base e.size = .ok e.stop :=
      Checked.add_eq (h.1.trans_lt (by decide))
    rw [reachingChecked, hsum, ih h.2, List.takeWhile_cons]
    simp only [bind, Except.bind]
    split <;> simp [*, pure, Except.pure]

theorem touchingChecked_eq {xs : List Extent} (h : ∀ e ∈ xs, e.stop ≤ spaceSize)
    (start stop : Nat) : touchingChecked xs start stop = .ok (touching xs start stop) :=
  reachingChecked_eq fun e he => h e ((List.dropWhile_sublist _).subset he)

theorem putChecked_eq (base stop : Nat) (xs : List Extent) :
    putChecked base stop xs =
      .ok (if base < stop then insert ⟨base, stop - base⟩ xs else xs) := by
  unfold putChecked
  split
  · rename_i h
    simp only [Checked.sub_eq h.le]
    rfl
  · rfl

/-! ### Insertion and removal -/

/-- Bases fall from block to block. -/
def Descending (xs : List Extent) : Prop := xs.Pairwise fun a b => b.base < a.base

theorem mem_insert {e x : Extent} {xs : List Extent} (h : x ∈ insert e xs) : x = e ∨ x ∈ xs := by
  induction xs with
  | nil => simpa [insert] using h
  | cons y ys ih =>
    unfold insert at h
    split_ifs at h
    · exact List.mem_cons.mp h
    · exact (List.mem_cons.mp h).imp_right (List.mem_cons_of_mem y)
    · rcases List.mem_cons.mp h with rfl | h
      · exact .inr List.mem_cons_self
      · exact (ih h).imp_right (List.mem_cons_of_mem y)

/-- A block with another base stays. -/
theorem mem_insert_of_ne {e x : Extent} {xs : List Extent} (hx : x ∈ xs) (hne : x.base ≠ e.base) :
    x ∈ insert e xs := by
  induction xs with
  | nil => cases hx
  | cons y ys ih =>
    unfold insert
    split_ifs with hlt heq
    · exact List.mem_cons_of_mem e hx
    · rcases List.mem_cons.mp hx with rfl | hx
      · exact absurd heq hne
      · exact List.mem_cons_of_mem e hx
    · rcases List.mem_cons.mp hx with rfl | hx
      · exact List.mem_cons_self
      · exact List.mem_cons_of_mem y (ih hx)

theorem Descending.insert {xs : List Extent} (h : Descending xs) (e : Extent) :
    Descending (insert e xs) := by
  induction xs with
  | nil => exact List.pairwise_singleton _ _
  | cons y ys ih =>
    obtain ⟨hy, hys⟩ := List.pairwise_cons.mp h
    unfold Extents.insert
    split_ifs with hlt heq
    · refine List.pairwise_cons.mpr ⟨List.forall_mem_cons.mpr ⟨hlt, fun x hx => ?_⟩, h⟩
      exact (hy x hx).trans hlt
    · exact List.pairwise_cons.mpr ⟨fun x hx => (hy x hx).trans_eq heq, hys⟩
    · refine List.pairwise_cons.mpr ⟨fun x hx => ?_, ih hys⟩
      rcases mem_insert hx with rfl | hx
      · omega
      · exact hy x hx

theorem Descending.erase {xs : List Extent} (h : Descending xs) (base : Nat) :
    Descending (erase base xs) := h.filter _

/-- A block that is put in may take the place of another, never more room than its own. -/
theorem total_insert_le (e : Extent) (xs : List Extent) :
    total (insert e xs) ≤ total xs + e.size := by
  induction xs with
  | nil => simp [insert, total]
  | cons y ys ih =>
    unfold total at ih
    unfold insert total
    split_ifs <;> simp only [List.map_cons, List.sum_cons] <;> omega

theorem total_erase {xs : List Extent} (h : Descending xs) {e : Extent} (he : e ∈ xs) :
    total (erase e.base xs) + e.size = total xs := by
  induction xs with
  | nil => cases he
  | cons y ys ih =>
    obtain ⟨hy, hys⟩ := List.pairwise_cons.mp h
    rcases List.mem_cons.mp he with rfl | he
    · have hsame : erase e.base ys = ys :=
        List.filter_eq_self.mpr fun x hx => by simpa using (hy x hx).ne
      have hcons : erase e.base (e :: ys) = erase e.base ys := by simp [erase]
      rw [hcons, hsame]
      simp only [total, List.map_cons, List.sum_cons]
      omega
    · have hne : y.base ≠ e.base := (hy e he).ne'
      have hcons : erase e.base (y :: ys) = y :: erase e.base ys := by simp [erase, hne]
      have hys := ih hys he
      rw [hcons]
      simp only [total, List.map_cons, List.sum_cons] at hys ⊢
      omega

/-! ### One cut -/

/-- A list of blocks for which checked arithmetic is safe: bases fall, all blocks end within the
space, and they hold at most `n` bytes. -/
structure Bounded (xs : List Extent) (n : Nat) : Prop where
  descending : Descending xs
  within : ∀ e ∈ xs, e.stop ≤ spaceSize
  total_le : total xs ≤ n

/-- A block can be put in if there is room for its bytes. -/
theorem Bounded.insert {xs : List Extent} {n : Nat} (h : Bounded xs n) {e : Extent}
    (he : e.stop ≤ spaceSize) : Bounded (insert e xs) (n + e.size) where
  descending := h.descending.insert e
  within x hx := by
    rcases mem_insert hx with rfl | hx
    · exact he
    · exact h.within x hx
  total_le := (total_insert_le e xs).trans (Nat.add_le_add_right h.total_le _)

theorem Bounded.erase {xs : List Extent} {n : Nat} (h : Bounded xs n) {e : Extent} (he : e ∈ xs) :
    Bounded (erase e.base xs) (n - e.size) where
  descending := h.descending.erase e.base
  within x hx := h.within x (List.mem_of_mem_filter hx)
  total_le := by
    have htotal := total_erase h.descending he
    have hle := h.total_le
    omega

theorem Bounded.mono {xs : List Extent} {n k : Nat} (h : Bounded xs n) (hk : n ≤ k) :
    Bounded xs k := { h with total_le := h.total_le.trans hk }

theorem Bounded.size_le {xs : List Extent} {n : Nat} (h : Bounded xs n) {e : Extent}
    (he : e ∈ xs) : e.size ≤ n := by
  have htotal := total_erase h.descending he
  have hle := h.total_le
  omega

theorem Bounded.put {xs : List Extent} {n : Nat} (h : Bounded xs n) {base stop : Nat}
    (hstop : stop ≤ spaceSize) :
    Bounded (if base < stop then Extents.insert ⟨base, stop - base⟩ xs else xs)
      (n + (stop - base)) := by
  split
  · rename_i hlt
    refine h.insert ?_
    simp only [Extent.stop]
    omega
  · exact h.mono (Nat.le_add_right _ _)

variable {start stop : Nat}

/-- A cut gives back at least the bytes that it counts. -/
theorem Bounded.cut {xs : List Extent} {n : Nat} (h : Bounded xs n) (hle : start ≤ stop)
    {e : Extent} (he : e ∈ xs) (hbase : e.base < stop) (hstop : start < e.stop) :
    Bounded (cut start stop xs e) (n - overlap start stop e) := by
  have hwithin := h.within e he
  have hsize := h.size_le he
  refine (((h.erase he).put (hstop.le.trans hwithin)).put hwithin).mono ?_
  unfold overlap Extent.stop at *
  omega

/-- No check of a cut fails. -/
theorem Bounded.cutChecked_eq {xs : List Extent} {n : Nat} (h : Bounded xs n) (hle : start ≤ stop)
    {e : Extent} (he : e ∈ xs) (hbase : e.base < stop) (hstop : start < e.stop) :
    cutChecked start stop (xs, n) e =
      .ok (Extents.cut start stop xs e, n - overlap start stop e) := by
  have hsize := h.size_le he
  have hlast : Checked.add e.base e.size = .ok e.stop :=
    Checked.add_eq ((h.within e he).trans_lt (by decide))
  have hfreed : Checked.sub (min e.stop stop) (max e.base start) =
      .ok (overlap start stop e) := by
    refine Checked.sub_eq ?_
    have hend : e.base ≤ e.stop := Nat.le_add_right _ _
    omega
  have hinUse : Checked.sub n (overlap start stop e) = .ok (n - overlap start stop e) := by
    refine Checked.sub_eq ?_
    unfold overlap Extent.stop
    omega
  simp only [cutChecked, hlast, putChecked_eq, hfreed, hinUse, bind, Except.bind]
  rfl

/-- A block of another base that starts before the end of the range is left as it is. -/
theorem mem_cut_of_ne {xs : List Extent} {e x : Extent} (hx : x ∈ xs) (hne : x.base ≠ e.base)
    (hbase : x.base < stop) : x ∈ cut start stop xs e := by
  have herase : x ∈ erase e.base xs := List.mem_filter.mpr ⟨hx, by simpa using hne⟩
  have hlow : x ∈ if e.base < start then
      insert ⟨e.base, start - e.base⟩ (erase e.base xs) else erase e.base xs := by
    split
    · exact mem_insert_of_ne herase hne
    · exact herase
  unfold cut
  dsimp only
  split
  · exact mem_insert_of_ne hlow hbase.ne
  · exact hlow

/-! ### All cuts of a range -/

/-- No check fails in cutting a range out of several blocks, one after the other. -/
theorem Bounded.cuts {xs ts : List Extent} {n : Nat} (h : Bounded xs n) (hle : start ≤ stop)
    (hts : Descending ts) (hmem : ∀ e ∈ ts, e ∈ xs ∧ e.base < stop ∧ start < e.stop) :
    ts.foldlM (cutChecked start stop) (xs, n) =
        .ok (ts.foldl (Extents.cut start stop) xs,
          ts.foldl (fun n e => n - overlap start stop e) n) ∧
      Bounded (ts.foldl (Extents.cut start stop) xs)
        (ts.foldl (fun n e => n - overlap start stop e) n) := by
  induction ts generalizing xs n with
  | nil => exact ⟨rfl, h⟩
  | cons e ts ih =>
    obtain ⟨hbelow, hts⟩ := List.pairwise_cons.mp hts
    obtain ⟨⟨he, hbase, hstop⟩, hmem⟩ := List.forall_mem_cons.mp hmem
    -- The blocks still to cut have other bases, so this cut has left them in place.
    have hrest : ∀ x ∈ ts, x ∈ Extents.cut start stop xs e ∧ x.base < stop ∧ start < x.stop :=
      fun x hx => ⟨mem_cut_of_ne (hmem x hx).1 (hbelow x hx).ne (hmem x hx).2.1, (hmem x hx).2⟩
    rw [List.foldlM_cons, h.cutChecked_eq hle he hbase hstop]
    exact ih (h.cut hle he hbase hstop) hts hrest

/-- The blocks that are looked at in releasing a range reach into it, even if blocks overlap. -/
theorem mem_touching {xs : List Extent} (h : Descending xs) {e : Extent}
    (he : e ∈ touching xs start stop) : e ∈ xs ∧ e.base < stop ∧ start < e.stop := by
  have hdrop := (List.takeWhile_sublist _).subset he
  have hbase : decide (stop ≤ e.base) = false := by
    refine dropWhile_eq_false h (fun a b hab ha => ?_) e hdrop
    simp only [decide_eq_false_iff_not] at ha ⊢
    omega
  have hstop := List.mem_takeWhile_imp he
  exact ⟨(List.dropWhile_sublist _).subset hdrop, by simpa using hbase, by simpa using hstop⟩

theorem descending_touching {xs : List Extent} (h : Descending xs) :
    Descending (touching xs start stop) :=
  (h.sublist (List.dropWhile_sublist _)).sublist (List.takeWhile_sublist _)

end Extents

/-! ## Memory -/

namespace Memory

/-- The byte at an offset of a space, if it exists. -/
def byteChecked (m : Memory) (s : Space) (offset : Nat) : Except Fault (Option UInt8) :=
  match s with
  | .static => return m.fixed[offset]?
  | .dynamic =>
    match m.written[offset]? with
    | some b => return some b
    | none => do
      if ← Extents.coversChecked m.extents offset then return some 0
      else return none

/-- Release the bytes from an address on. -/
def releaseChecked (m : Memory) (a : Address) (size : Nat) : Except Fault Memory :=
  match a.space with
  | .static => .error (.writeToStatic a.offset)
  | .dynamic => do
    checkSpan a size
    let start := a.offset
    let stop ← Checked.add a.offset size
    let touched ← Extents.touchingChecked m.extents start stop
    let heap ← touched.foldlM (Extents.cutChecked start stop) (m.extents, m.inUse)
    return { m with
      written := m.written.filter fun offset _ => offset < start || stop ≤ offset
      extents := heap.1
      inUse := heap.2 }

/-- No check fails in reading a byte. -/
theorem byteChecked_eq (m : Memory) (s : Space) (offset : Nat) :
    m.byteChecked s offset = .ok (m.byte? s offset) := by
  cases s with
  | static => rfl
  | dynamic =>
    simp only [byteChecked, byte?, Extents.coversChecked_eq]
    cases m.written[offset]? with
    | some b => rfl
    | none => cases Extents.covers m.extents offset <;> rfl

/-- The live blocks have different bases, end within the space and hold no more bytes than are in
use. They may overlap. -/
def HeapBounded (m : Memory) : Prop := Extents.Bounded m.extents m.inUse

theorem heapBounded_ofFixed (fixed : Std.ExtTreeMap Nat UInt8) (heapBase : Nat) :
    (ofFixed fixed heapBase).HeapBounded :=
  ⟨.nil, by simp [ofFixed], Nat.le_refl 0⟩

/-- A new block may take the place of one with its base: the bytes in use then count both. -/
theorem HeapBounded.allocate {m m' : Memory} {size : Nat} {a : Address} (h : m.HeapBounded)
    (hm : m.allocate size = .ok (a, m')) : m'.HeapBounded := by
  obtain ⟨-, hspan, -, rfl⟩ := allocate_eq_ok.mp hm
  unfold HeapBounded
  split
  · exact Extents.Bounded.mono h (Nat.le_add_right _ _)
  · refine Extents.Bounded.insert h ?_
    simp only [Extent.stop]
    omega

/-- No check fails in releasing a range, and what is left is bounded again. -/
theorem HeapBounded.cuts {m : Memory} (h : m.HeapBounded) {start stop : Nat} (hle : start ≤ stop) :
    (Extents.touching m.extents start stop).foldlM (Extents.cutChecked start stop)
        (m.extents, m.inUse) =
      .ok ((m.discard start stop).extents, (m.discard start stop).inUse) ∧
    (m.discard start stop).HeapBounded :=
  Extents.Bounded.cuts h hle (Extents.descending_touching h.descending)
    fun _ he => Extents.mem_touching h.descending he

theorem HeapBounded.release {m m' : Memory} {a : Address} {size : Nat} (h : m.HeapBounded)
    (hm : m.release a size = .ok m') : m'.HeapBounded := by
  obtain ⟨-, -, rfl⟩ := release_eq_ok.mp hm
  exact (h.cuts (Nat.le_add_right _ _)).2

theorem HeapBounded.releaseChecked_eq {m : Memory} (h : m.HeapBounded) (a : Address) (size : Nat) :
    m.releaseChecked a size = m.release a size := by
  unfold releaseChecked Memory.release
  cases a.space with
  | static => rfl
  | dynamic =>
    by_cases hspan : a.offset + size ≤ spaceSize
    · have hsum : Checked.add a.offset size = .ok (a.offset + size) :=
        Checked.add_eq (hspan.trans_lt (by decide))
      have hcuts := (h.cuts (Nat.le_add_right a.offset size)).1
      simp only [checkSpan, hspan, if_true, hsum, bind, Except.bind,
        Extents.touchingChecked_eq h.within] at hcuts ⊢
      rw [hcuts]
      rfl
    · simp [checkSpan, hspan, bind, Except.bind]

end Memory

end WordMachine
