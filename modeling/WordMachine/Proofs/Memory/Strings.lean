import WordMachine.Proofs.Memory.Reading

/-!
# Reading up to a zero

The bytes of a space from an offset on come to a zero, to a gap, or to the end of the space, and
each of the three has its own answer. The loop that looks for the zero has no bound of its own: its
cursor counts up and would wrap around. It is stopped by a check of the span with one byte more,
made before the cursor moves, so it ends within the space in which it began.

* `Memory.Stands`, `Memory.Nonzero` : bytes without a zero from an offset on.
* `Memory.readString_cases` : the three ways to end.
* `Memory.Scans`, `Memory.scans_readString` : the loop, and where it ends.
* `Memory.readString_classified` : what reading a string gives, in all cases.
-/

namespace WordMachine

namespace Address

theorem forward_zero (a : Address) : a.forward 0 = a := by
  simp [forward]

theorem forward_succ (a : Address) (i : Nat) : a.forward (i + 1) = (a.forward i).next := by
  simp [forward, next, UInt64.add_assoc]

end Address

namespace Memory

variable {m : Memory} {a cursor : Address} {s : Space} {start room offset i : Nat}
  {bytes done : List UInt8}

/-! ## What stands from an offset on -/

/-- A byte that exists and does not end a string. -/
def Nonzero (m : Memory) (s : Space) (offset : Nat) : Prop :=
  ∃ b, m.byte? s offset = some b ∧ b ≠ 0

/-- Bytes without a zero that stand from an offset on. -/
structure Stands (m : Memory) (s : Space) (start : Nat) (bytes : List UInt8) : Prop where
  nonzero : 0 ∉ bytes
  here : ∀ i < bytes.length, m.byte? s (start + i) = bytes[i]?

theorem stands_nil (m : Memory) (s : Space) (start : Nat) : m.Stands s start [] := by
  refine ⟨List.not_mem_nil, ?_⟩
  intro i hi
  exact absurd hi (Nat.not_lt_zero i)

theorem stands_cons {b : UInt8} :
    m.Stands s start (b :: bytes) ↔
      b ≠ 0 ∧ m.byte? s start = some b ∧ m.Stands s (start + 1) bytes := by
  have hshift : ∀ i, start + (i + 1) = start + 1 + i := fun i => by omega
  constructor
  · rintro ⟨hnonzero, hhere⟩
    rw [List.mem_cons, not_or] at hnonzero
    refine ⟨fun h => hnonzero.1 h.symm, hhere 0 (Nat.succ_pos _), hnonzero.2, ?_⟩
    intro i hi
    rw [← hshift]
    exact hhere (i + 1) (Nat.succ_lt_succ hi)
  · rintro ⟨hb, hfirst, hrest⟩
    refine ⟨?_, ?_⟩
    · rw [List.mem_cons, not_or]
      exact ⟨fun h => hb h.symm, hrest.nonzero⟩
    · intro i hi
      cases i with
      | zero => exact hfirst
      | succ i =>
        rw [hshift]
        exact hrest.here i (Nat.lt_of_succ_lt_succ hi)

theorem Stands.nonzero_at (h : m.Stands s start bytes) (hi : i < bytes.length) :
    m.Nonzero s (start + i) := by
  refine ⟨bytes[i], ?_, ?_⟩
  · rw [h.here i hi, List.getElem?_eq_getElem hi]
  · intro hzero
    apply h.nonzero
    rw [← hzero]
    exact List.getElem_mem hi

/-- From an offset on stand bytes other than zero, up to a zero or a gap, or as many as one asks
for. -/
theorem exists_stands (m : Memory) (s : Space) (start room : Nat) :
    ∃ bytes, m.Stands s start bytes ∧ bytes.length ≤ room ∧
      (bytes.length < room → ¬ m.Nonzero s (start + bytes.length)) := by
  induction room generalizing start with
  | zero => exact ⟨[], m.stands_nil s start, Nat.le_refl 0, fun h => absurd h (Nat.lt_irrefl 0)⟩
  | succ room ih =>
    by_cases hfirst : m.Nonzero s start
    · obtain ⟨b, hb, hnonzero⟩ := hfirst
      obtain ⟨bytes, hstands, hle, hstop⟩ := ih (start + 1)
      refine ⟨b :: bytes, stands_cons.mpr ⟨hnonzero, hb, hstands⟩, Nat.succ_le_succ hle, ?_⟩
      intro hlt
      have hshift : start + (b :: bytes).length = start + 1 + bytes.length := by
        rw [List.length_cons]
        omega
      rw [hshift]
      exact hstop (Nat.lt_of_succ_lt_succ hlt)
    · exact ⟨[], m.stands_nil s start, Nat.zero_le _, fun _ => hfirst⟩

theorem stands_of_nonzero (h : ∀ j < i, m.Nonzero s (start + j)) :
    ∃ bytes, bytes.length = i ∧ m.Stands s start bytes := by
  obtain ⟨bytes, hstands, hle, hstop⟩ := m.exists_stands s start i
  refine ⟨bytes, ?_, hstands⟩
  by_contra hne
  have hlt : bytes.length < i := by omega
  exact hstop hlt (h _ hlt)

/-! ## Three ways to end -/

theorem collectString_of_nonzero {b : UInt8} (hb : m.byte? s offset = some b) (hnonzero : b ≠ 0) :
    m.collectString s start (room + 1) offset done =
      m.collectString s start room (offset + 1) (b :: done) := by
  rw [collectString, readAt, hb]
  exact if_neg hnonzero

theorem collectString_of_stands (h : m.Stands s offset bytes) :
    m.collectString s start (bytes.length + room) offset done =
      m.collectString s start room (offset + bytes.length) (bytes.reverse ++ done) := by
  induction bytes generalizing offset done with
  | nil => rw [List.length_nil, Nat.zero_add]; rfl
  | cons b bytes ih =>
    obtain ⟨hnonzero, hb, hrest⟩ := stands_cons.mp h
    have hlength : (b :: bytes).length + room = bytes.length + room + 1 := by
      rw [List.length_cons]
      omega
    have hshift : offset + (b :: bytes).length = offset + 1 + bytes.length := by
      rw [List.length_cons]
      omega
    rw [hlength, collectString_of_nonzero hb hnonzero, ih hrest, hshift]
    simp

section Ends

variable (h : m.Stands a.space a.offset bytes)

include h

theorem readString_of_stands (room : Nat) (hle : a.offset + bytes.length + room = spaceSize) :
    m.readString a =
      m.collectString a.space a.offset room (a.offset + bytes.length) bytes.reverse := by
  have hroom : spaceSize - a.offset = bytes.length + room := by omega
  rw [readString, hroom, collectString_of_stands h, List.append_nil]

theorem readString_of_zero (hinside : a.offset + bytes.length < spaceSize)
    (hzero : m.byte? a.space (a.offset + bytes.length) = some 0) :
    m.readString a = .ok bytes := by
  obtain ⟨room, hroom⟩ := Nat.exists_eq_add_of_lt hinside
  rw [readString_of_stands h (room + 1) (by omega), collectString, readAt, hzero]
  simp

theorem readString_of_gap (hinside : a.offset + bytes.length < spaceSize)
    (hgap : m.byte? a.space (a.offset + bytes.length) = none) :
    m.readString a = .error (.unmapped a.space (a.offset + bytes.length)) := by
  obtain ⟨room, hroom⟩ := Nat.exists_eq_add_of_lt hinside
  rw [readString_of_stands h (room + 1) (by omega), collectString, readAt, hgap]

theorem readString_of_end (hend : a.offset + bytes.length = spaceSize) :
    m.readString a = .error (.crossesSpace a.space a.offset (spaceSize - a.offset + 1)) := by
  have hlength : bytes.reverse.length = spaceSize - a.offset := by
    rw [List.length_reverse]
    omega
  rw [readString_of_stands h 0 (by omega), collectString, hlength]

end Ends

/-- The bytes before the end of the string, of what exists, or of the space. -/
theorem readString_cases (m : Memory) (a : Address) :
    ∃ bytes, m.Stands a.space a.offset bytes ∧
      ((a.offset + bytes.length < spaceSize ∧
          m.byte? a.space (a.offset + bytes.length) = some 0 ∧ m.readString a = .ok bytes) ∨
        (a.offset + bytes.length < spaceSize ∧
          m.byte? a.space (a.offset + bytes.length) = none ∧
          m.readString a = .error (.unmapped a.space (a.offset + bytes.length))) ∨
        a.offset + bytes.length = spaceSize ∧
          m.readString a = .error (.crossesSpace a.space a.offset (spaceSize - a.offset + 1))) := by
  have hoffset := a.offset_lt
  obtain ⟨bytes, hstands, hle, hstop⟩ := m.exists_stands a.space a.offset (spaceSize - a.offset)
  refine ⟨bytes, hstands, ?_⟩
  by_cases hinside : a.offset + bytes.length < spaceSize
  · have hnot := hstop (by omega)
    cases hb : m.byte? a.space (a.offset + bytes.length) with
    | none => exact .inr (.inl ⟨hinside, rfl, readString_of_gap hstands hinside hb⟩)
    | some b =>
      have hzero : b = 0 := by
        by_contra hne
        exact hnot ⟨b, hb, hne⟩
      rw [hzero] at hb
      exact .inl ⟨hinside, congrArg some hzero, readString_of_zero hstands hinside hb⟩
  · have hend : a.offset + bytes.length = spaceSize := by omega
    exact .inr (.inr ⟨hend, readString_of_end hstands hend⟩)

theorem readString_eq_ok :
    m.readString a = .ok bytes ↔ m.Stands a.space a.offset bytes ∧
      a.offset + bytes.length < spaceSize ∧
      m.byte? a.space (a.offset + bytes.length) = some 0 := by
  constructor
  · intro h
    obtain ⟨bytes', hstands, ⟨hinside, hzero, hread⟩ | ⟨-, -, hread⟩ | ⟨-, hread⟩⟩ :=
      m.readString_cases a
    · cases hread.symm.trans h
      exact ⟨hstands, hinside, hzero⟩
    · cases hread.symm.trans h
    · cases hread.symm.trans h
  · rintro ⟨hstands, hinside, hzero⟩
    exact readString_of_zero hstands hinside hzero

theorem readString_eq_unmapped :
    m.readString a = .error (.unmapped a.space (a.offset + i)) ↔
      a.offset + i < spaceSize ∧ m.byte? a.space (a.offset + i) = none ∧
        ∀ j < i, m.Nonzero a.space (a.offset + j) := by
  constructor
  · intro h
    obtain ⟨bytes, hstands, ⟨-, -, hread⟩ | ⟨hinside, hgap, hread⟩ | ⟨-, hread⟩⟩ :=
      m.readString_cases a
    · cases hread.symm.trans h
    · have hfault := Except.error.inj (hread.symm.trans h)
      rw [Fault.unmapped.injEq] at hfault
      obtain rfl : bytes.length = i := by omega
      exact ⟨hinside, hgap, fun j hj => hstands.nonzero_at hj⟩
    · cases hread.symm.trans h
  · rintro ⟨hinside, hgap, hbefore⟩
    obtain ⟨bytes, rfl, hstands⟩ := stands_of_nonzero hbefore
    exact readString_of_gap hstands hinside hgap

theorem readString_eq_crosses :
    m.readString a = .error (.crossesSpace a.space a.offset (spaceSize - a.offset + 1)) ↔
      ∀ offset, a.offset ≤ offset → offset < spaceSize → m.Nonzero a.space offset := by
  have hoffset := a.offset_lt
  constructor
  · intro h offset hle hlt
    obtain ⟨bytes, hstands, ⟨-, -, hread⟩ | ⟨-, -, hread⟩ | ⟨hend, -⟩⟩ := m.readString_cases a
    · cases hread.symm.trans h
    · cases hread.symm.trans h
    · have hbyte := hstands.nonzero_at (i := offset - a.offset) (by omega)
      rwa [Nat.add_sub_of_le hle] at hbyte
  · intro hall
    have hrun : ∀ j < spaceSize - a.offset, m.Nonzero a.space (a.offset + j) := by
      intro j hj
      exact hall _ (by omega) (by omega)
    obtain ⟨bytes, hlength, hstands⟩ := stands_of_nonzero hrun
    exact readString_of_end hstands (by omega)

/-! ## The loop -/

/-- The loop behind reading a string, with the number of its rounds. A round reads the byte at the
cursor; if it goes on, it first checks the span of the bytes so far and one more, and then moves the
cursor, which wraps around. -/
inductive Scans (m : Memory) (a : Address) :
    Nat → Address → List UInt8 → Except Fault (List UInt8) → Prop where
  | gap {cursor : Address} {done : List UInt8} {e : Fault} :
    m.read cursor = .error e → Scans m a 1 cursor done (.error e)
  | zero {cursor : Address} {done : List UInt8} :
    m.read cursor = .ok 0 → Scans m a 1 cursor done (.ok done)
  | leaves {cursor : Address} {done : List UInt8} {b : UInt8} {e : Fault} :
    m.read cursor = .ok b → b ≠ 0 → checkSpan a ((done ++ [b]).length + 1) = .error e →
    Scans m a 1 cursor done (.error e)
  | goesOn {rounds : Nat} {cursor : Address} {done : List UInt8} {b : UInt8}
      {result : Except Fault (List UInt8)} :
    m.read cursor = .ok b → b ≠ 0 → checkSpan a ((done ++ [b]).length + 1) = .ok () →
    Scans m a rounds cursor.next (done ++ [b]) result →
    Scans m a (rounds + 1) cursor done result

theorem Scans.unique {rounds rounds' : Nat} {result result' : Except Fault (List UInt8)}
    (h : m.Scans a rounds cursor done result) (h' : m.Scans a rounds' cursor done result') :
    result = result' := by
  induction h generalizing rounds' with
  | gap hread =>
    cases h' <;> simp_all
  | zero hread =>
    cases h' <;> simp_all
  | leaves hread hnonzero hcheck =>
    cases h' <;> simp_all
  | goesOn hread hnonzero hcheck _ ih =>
    cases h' with
    | gap hread' => simp_all
    | zero hread' => simp_all
    | leaves hread' _ hcheck' => simp_all
    | goesOn hread' _ _ hrest =>
      cases hread.symm.trans hread'
      exact ih hrest

/-- With room for a byte, the loop does what collecting the bytes does, one round for each byte of
the room at most. -/
theorem scans_collectString (m : Memory) (done : List UInt8)
    (hroom : a.offset + done.length + room = spaceSize) (hpos : 0 < room) :
    ∃ rounds ≤ room, m.Scans a rounds (a.forward done.length) done
      (m.collectString a.space a.offset room (a.offset + done.length) done.reverse) := by
  induction room generalizing done with
  | zero => exact absurd hpos (Nat.lt_irrefl 0)
  | succ room ih =>
    have hread : m.read (a.forward done.length) = m.readAt a.space (a.offset + done.length) :=
      read_forward (by omega)
    cases hb : m.byte? a.space (a.offset + done.length) with
    | none =>
      rw [readAt, hb] at hread
      refine ⟨1, by omega, ?_⟩
      rw [collectString, readAt, hb]
      exact .gap hread
    | some b =>
      rw [readAt, hb] at hread
      by_cases hzero : b = 0
      · rw [hzero] at hb hread
        refine ⟨1, by omega, ?_⟩
        rw [collectString, readAt, hb]
        simp only [if_true, List.reverse_reverse]
        exact .zero hread
      · have hlength : (done ++ [b]).length = done.length + 1 := List.length_append
        have hreverse : (done ++ [b]).reverse = b :: done.reverse := by simp
        rw [collectString_of_nonzero hb hzero]
        -- The check looks one byte ahead: it passes exactly while there is room behind this byte.
        by_cases hlast : room = 0
        · refine ⟨1, by omega, ?_⟩
          have hcheck : checkSpan a ((done ++ [b]).length + 1) =
              .error (.crossesSpace a.space a.offset ((done ++ [b]).length + 1)) :=
            if_neg (by omega)
          rw [hlast, collectString, ← hreverse, List.length_reverse]
          exact .leaves hread hzero hcheck
        · have hcheck : checkSpan a ((done ++ [b]).length + 1) = .ok () := if_pos (by omega)
          obtain ⟨rounds, hrounds, hrest⟩ := ih (done ++ [b]) (by omega) (by omega)
          rw [hlength, hreverse, Address.forward_succ, ← Nat.add_assoc] at hrest
          exact ⟨rounds + 1, by omega, .goesOn hread hzero hcheck hrest⟩

/-- The loop ends with what reading the string gives, before its cursor leaves the space. -/
theorem scans_readString (m : Memory) (a : Address) :
    ∃ rounds ≤ spaceSize - a.offset, m.Scans a rounds a [] (m.readString a) := by
  have hoffset := a.offset_lt
  have hroom : a.offset + ([] : List UInt8).length + (spaceSize - a.offset) = spaceSize := by
    rw [List.length_nil]
    omega
  have hscans := m.scans_collectString [] hroom (by omega)
  rwa [List.length_nil, Address.forward_zero] at hscans

/-! ## All cases -/

/-- **Reading a string.** The loop that looks for a zero ends in at most one round for each offset
from that of its address to the end of the space, and with nothing but what reading the string
gives. Reading gives bytes exactly if none of them is zero, they stand from the address on, and
behind them, still inside the space, stands a zero. It reports an offset as unmapped exactly if this
is inside the space and has no byte, and all offsets before it have bytes other than zero. It
reports that the string would cross the end of the space exactly if every byte from the address to
the last one of the space exists and is not zero. -/
theorem readString_classified (m : Memory) (a : Address) :
    (∃ rounds ≤ spaceSize - a.offset, m.Scans a rounds a [] (m.readString a)) ∧
    (∀ rounds result, m.Scans a rounds a [] result → result = m.readString a) ∧
    (∀ bytes, m.readString a = .ok bytes ↔
      0 ∉ bytes ∧ (∀ i < bytes.length, m.byte? a.space (a.offset + i) = bytes[i]?) ∧
        a.offset + bytes.length < spaceSize ∧
        m.byte? a.space (a.offset + bytes.length) = some 0) ∧
    (∀ i, m.readString a = .error (.unmapped a.space (a.offset + i)) ↔
      a.offset + i < spaceSize ∧ m.byte? a.space (a.offset + i) = none ∧
        ∀ j < i, ∃ b, m.byte? a.space (a.offset + j) = some b ∧ b ≠ 0) ∧
    (m.readString a = .error (.crossesSpace a.space a.offset (spaceSize - a.offset + 1)) ↔
      ∀ offset, a.offset ≤ offset → offset < spaceSize →
        ∃ b, m.byte? a.space offset = some b ∧ b ≠ 0) := by
  obtain ⟨rounds, hrounds, hscans⟩ := m.scans_readString a
  refine ⟨⟨rounds, hrounds, hscans⟩, ?_, ?_, ?_, readString_eq_crosses⟩
  · intro rounds' result h
    exact h.unique hscans
  · intro bytes
    rw [readString_eq_ok]
    constructor
    · rintro ⟨⟨hnonzero, hhere⟩, hend⟩
      exact ⟨hnonzero, hhere, hend⟩
    · rintro ⟨hnonzero, hhere, hend⟩
      exact ⟨⟨hnonzero, hhere⟩, hend⟩
  · intro i
    exact readString_eq_unmapped

end Memory

end WordMachine
