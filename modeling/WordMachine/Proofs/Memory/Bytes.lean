import WordMachine.Machine.Memory

/-!
# The bytes of memory

Reads of a space depend on the bytes of that space only. Writing changes exactly the dynamic bytes
that it covers, and nothing at all if it fails.

* `Memory.readBytes_congr`, `Memory.readString_congr` : equal spaces are read alike.
* `Memory.readBytes_eq_ok` : reading takes every byte of a span that stays in its space.
* `Memory.getElem?_overlay` : what stands at an offset after bytes were written.
* `Memory.write_eq_ok`, `Memory.writeBytes_eq_ok` : when writing succeeds, and what it gives.
* `Memory.byte?_writeBytes` : what stands anywhere after bytes were written.
-/

namespace WordMachine

/-! ## Addresses -/

namespace Address

theorem space_eq_dynamic {a : Address} : a.space = .dynamic ↔ a.toNat < spaceSize := by
  unfold space
  split <;> simp [*]

theorem offset_of_dynamic {a : Address} (h : a.space = .dynamic) : a.offset = a.toNat :=
  Nat.mod_eq_of_lt (space_eq_dynamic.mp h)

/-- Numbers below the size of a space are the addresses of the dynamic space. -/
theorem ofNat_dynamic {n : Nat} (h : n < spaceSize) :
    (ofNat n).toNat = n ∧ (ofNat n).space = .dynamic ∧ (ofNat n).offset = n := by
  have hn : (ofNat n).toNat = n := by
    simp only [ofNat, toNat, UInt64.toNat_ofNat']
    exact Nat.mod_eq_of_lt (Nat.lt_trans h (by decide))
  have hspace : (ofNat n).space = .dynamic := space_eq_dynamic.mpr (by rwa [hn])
  exact ⟨hn, hspace, (offset_of_dynamic hspace).trans hn⟩

end Address

namespace Memory

/-! ## Reading -/

section SameSpace

variable {m m' : Memory} {s : Space} (h : ∀ offset, m.byte? s offset = m'.byte? s offset)

include h

theorem readAt_congr (offset : Nat) : m.readAt s offset = m'.readAt s offset := by
  unfold readAt
  rw [h]

theorem collect_congr (offset length : Nat) (done : List UInt8) :
    m.collect s offset length done = m'.collect s offset length done := by
  induction length generalizing offset done with
  | zero => rfl
  | succ length ih =>
    unfold collect
    rw [readAt_congr h]
    split
    · rfl
    · exact ih _ _

theorem collectString_congr (start room offset : Nat) (done : List UInt8) :
    m.collectString s start room offset done = m'.collectString s start room offset done := by
  induction room generalizing offset done with
  | zero => rfl
  | succ room ih =>
    unfold collectString
    rw [readAt_congr h]
    split
    · rfl
    · split
      · rfl
      · exact ih _ _

theorem readBytes_congr {a : Address} (ha : a.space = s) (length : Nat) :
    m.readBytes a length = m'.readBytes a length := by
  unfold readBytes
  rw [ha, funext (collect_congr h a.offset length)]

theorem readString_congr {a : Address} (ha : a.space = s) : m.readString a = m'.readString a := by
  unfold readString
  rw [ha, collectString_congr h]

end SameSpace

/-- What stands at the offsets from a start on, byte by byte. -/
def span (m : Memory) (s : Space) (start length : Nat) : List (Option UInt8) :=
  (List.range length).map fun i => m.byte? s (start + i)

theorem span_succ (m : Memory) (s : Space) (start length : Nat) :
    m.span s start (length + 1) = m.byte? s start :: m.span s (start + 1) length := by
  unfold span
  rw [List.range_succ_eq_map, List.map_cons, List.map_map]
  refine congrArg _ (List.map_congr_left fun i _ => ?_)
  exact congrArg (m.byte? s) (by simp only [Nat.succ_eq_add_one]; omega)

theorem collect_eq_ok {m : Memory} {s : Space} {start length : Nat} {done result : List UInt8} :
    m.collect s start length done = .ok result ↔
      ∃ bytes, bytes.map some = m.span s start length ∧ result = done.reverse ++ bytes := by
  induction length generalizing start done with
  | zero =>
    constructor
    · rintro ⟨⟩
      exact ⟨[], rfl, by simp⟩
    · rintro ⟨bytes, hbytes, rfl⟩
      rw [List.map_eq_nil_iff.mp hbytes, List.append_nil]
      rfl
  | succ length ih =>
    rw [collect, span_succ, readAt]
    cases m.byte? s start with
    | none =>
      constructor
      · rintro ⟨⟩
      · rintro ⟨bytes, hbytes, -⟩
        obtain ⟨_, _, -, ⟨⟩, -⟩ := List.map_eq_cons_iff.mp hbytes
    | some b =>
      dsimp only
      rw [ih]
      constructor
      · rintro ⟨bytes, hbytes, rfl⟩
        exact ⟨b :: bytes, by rw [List.map_cons, hbytes], by simp⟩
      · rintro ⟨bytes, hbytes, rfl⟩
        obtain ⟨_, rest, rfl, ⟨⟩, hrest⟩ := List.map_eq_cons_iff.mp hbytes
        exact ⟨rest, hrest, by simp⟩

theorem readBytes_eq_ok {m : Memory} {a : Address} {length : Nat} {bytes : List UInt8} :
    m.readBytes a length = .ok bytes ↔
      a.offset + length ≤ spaceSize ∧ bytes.map some = m.span a.space a.offset length := by
  unfold readBytes
  by_cases hspan : a.offset + length ≤ spaceSize
  · simp only [checkSpan, hspan, if_true, bind, Except.bind, true_and]
    rw [collect_eq_ok]
    simp
  · simp [checkSpan, hspan, bind, Except.bind]

/-! ## Writing -/

theorem getElem?_insert (bytes : Std.ExtTreeMap Nat UInt8) (offset k : Nat) (b : UInt8) :
    (bytes.insert offset b)[k]? = if offset = k then some b else bytes[k]? := by
  simp only [Std.ExtTreeMap.getElem?_insert, Nat.compare_eq_eq]

theorem getElem?_overlay (bytes : Std.ExtTreeMap Nat UInt8) (start : Nat) (bs : List UInt8)
    (k : Nat) : (overlay bytes start bs)[k]? =
      if start ≤ k ∧ k < start + bs.length then bs[k - start]? else bytes[k]? := by
  induction bs generalizing bytes start with
  | nil =>
    have hnone : ¬ (start ≤ k ∧ k < start + ([] : List UInt8).length) := by simp
    rw [if_neg hnone]
    rfl
  | cons b bs ih =>
    rw [overlay, ih, getElem?_insert, List.length_cons]
    rcases Nat.lt_trichotomy k start with hlt | rfl | hgt
    · simp [show ¬ start ≤ k by omega, show ¬ start + 1 ≤ k by omega, show start ≠ k by omega]
    · simp [show ¬ k + 1 ≤ k by omega]
    · have hindex : k - start = k - (start + 1) + 1 := by omega
      simp only [hindex, List.getElem?_cons_succ, show start ≠ k by omega, if_false,
        show start ≤ k ↔ start + 1 ≤ k by omega,
        show k < start + (bs.length + 1) ↔ k < start + 1 + bs.length by omega]

theorem write_eq_ok {m m' : Memory} {a : Address} {b : UInt8} :
    m.write a b = .ok m' ↔
      a.space = .dynamic ∧ m' = { m with written := m.written.insert a.offset b } := by
  unfold write
  split <;> simp [*, eq_comm]

theorem writeBytes_eq_ok {m m' : Memory} {a : Address} {bytes : List UInt8} :
    m.writeBytes a bytes = .ok m' ↔ a.offset + bytes.length ≤ spaceSize ∧
      ((a.space = .dynamic ∧ m' = { m with written := overlay m.written a.offset bytes }) ∨
        a.space = .static ∧ bytes = [] ∧ m' = m) := by
  unfold writeBytes
  by_cases hspan : a.offset + bytes.length ≤ spaceSize
  · simp only [checkSpan, hspan, if_true, bind, Except.bind, pure, Except.pure, true_and]
    split
    · rename_i hspace
      simp [hspace, eq_comm]
    · rename_i hspace
      cases bytes <;> simp [hspace, eq_comm, throw, throwThe, MonadExceptOf.throw]
  · simp [checkSpan, hspan, bind, Except.bind]

theorem byte?_writeBytes {m m' : Memory} {a : Address} {bytes : List UInt8}
    (h : m.writeBytes a bytes = .ok m') (s : Space) (offset : Nat) :
    m'.byte? s offset =
      if s = .dynamic ∧ a.offset ≤ offset ∧ offset < a.offset + bytes.length then
        bytes[offset - a.offset]?
      else m.byte? s offset := by
  rcases (writeBytes_eq_ok.mp h).2 with ⟨-, rfl⟩ | ⟨-, rfl, rfl⟩
  · cases s with
    | static => rfl
    | dynamic =>
      simp only [byte?, getElem?_overlay, true_and]
      by_cases hin : a.offset ≤ offset ∧ offset < a.offset + bytes.length
      · rw [if_pos hin, if_pos hin, List.getElem?_eq_getElem (show _ < bytes.length by omega)]
      · rw [if_neg hin, if_neg hin]
  · rw [if_neg]
    rintro ⟨-, hle, hlt⟩
    exact Nat.lt_irrefl _ (Nat.lt_of_lt_of_le hlt hle)

end Memory

end WordMachine
