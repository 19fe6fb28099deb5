import WordMachine.Proofs.Effect
import WordMachine.Proofs.Memory.Reading

/-!
# Writing several bytes

Bytes that fit into the dynamic space are all written: each address of their span then holds its
byte, and nothing else is found changed, neither at another address nor by the heap. Bytes that do
not fit, or that are meant for the static space, leave memory as it was. The check that comes first
is what makes this so: behind it, a write of the bytes one by one is refused at the first of them
or at none.

* `Memory.Overlaid` : memory before and after bytes were written.
* `Memory.overlaid_of_writeBytes`, `Memory.readBytes_of_writeBytes` : what is found afterwards.
* `Memory.putSpan_eq`, `Memory.putValue_eq` : bytes written one by one, in place.
* `Memory.writeBytes_all_or_nothing` : what writing a span does, in all cases.
-/

namespace WordMachine

/-! ## Addresses inside and outside of a span -/

namespace Address

variable {a c : Address} {n : Nat}

theorem forward_one (a : Address) : a.forward 1 = a.next := rfl

theorem eq_of_parts (hspace : a.space = c.space) (hoffset : a.offset = c.offset) : a = c := by
  have ha := a.toNat_lt
  have hc := c.toNat_lt
  have hsame : a.toNat < spaceSize ↔ c.toNat < spaceSize := by
    rw [← space_eq_dynamic, ← space_eq_dynamic, hspace]
  have hnat : a.toNat = c.toNat := by
    simp only [offset, spaceSize] at *
    omega
  exact congrArg Address.mk (UInt64.toNat_inj.mp hnat)

/-- An address is one of a span if it lies in its space, at one of its offsets. -/
theorem eq_forward (hspan : a.offset + n ≤ spaceSize) (hspace : c.space = a.space)
    (hle : a.offset ≤ c.offset) (hlt : c.offset < a.offset + n) :
    c = a.forward (c.offset - a.offset) := by
  have hinside : a.offset + (c.offset - a.offset) < spaceSize := by omega
  apply eq_of_parts
  · rw [space_forward hinside, hspace]
  · rw [offset_forward hinside]
    omega

end Address

namespace Memory

variable {m m' : Memory} {a : Address} {bytes : List UInt8}

/-! ## What is found afterwards -/

/-- Memory before and after bytes were written from an address on: single reads find the bytes at
the addresses of the span, and at all others what they found before. The heap is the same. -/
structure Overlaid (m : Memory) (a : Address) (bytes : List UInt8) (m' : Memory) : Prop where
  here : ∀ i (h : i < bytes.length), m'.read (a.forward i) = .ok bytes[i]
  elsewhere : ∀ c, (∀ i < bytes.length, c ≠ a.forward i) → m'.read c = m.read c
  heap : m' = { m with written := m'.written }

theorem readAt_eq_ok {s : Space} {offset : Nat} {b : UInt8} :
    m.readAt s offset = .ok b ↔ m.byte? s offset = some b := by
  unfold readAt
  cases m.byte? s offset <;> simp

theorem overlaid_of_writeBytes (h : m.writeBytes a bytes = .ok m') : m.Overlaid a bytes m' := by
  have hspan : a.offset + bytes.length ≤ spaceSize := (writeBytes_eq_ok.mp h).1
  refine ⟨?_, ?_, ?_⟩
  · intro i hi
    have hinside : a.offset + i < spaceSize := by omega
    -- Bytes were written, so the span is one of the dynamic space.
    have hspace : a.space = .dynamic := by
      rcases (writeBytes_eq_ok.mp h).2 with ⟨hspace, -⟩ | ⟨-, rfl, -⟩
      · exact hspace
      · exact absurd hi (Nat.not_lt_zero i)
    rw [read_forward hinside, readAt_eq_ok, byte?_writeBytes h, if_pos ⟨hspace, by omega, by omega⟩,
      Nat.add_sub_cancel_left, List.getElem?_eq_getElem hi]
  · intro c hc
    have hbyte : m'.byte? c.space c.offset = m.byte? c.space c.offset := by
      rw [byte?_writeBytes h]
      apply if_neg
      rintro ⟨hspace, hle, hlt⟩
      rcases (writeBytes_eq_ok.mp h).2 with ⟨hdynamic, -⟩ | ⟨-, rfl, -⟩
      · have hsame : c.space = a.space := hspace.trans hdynamic.symm
        exact hc _ (by omega) (Address.eq_forward hspan hsame hle hlt)
      · rw [List.length_nil] at hlt
        omega
    unfold read readAt
    rw [hbyte]
  · rcases (writeBytes_eq_ok.mp h).2 with ⟨-, rfl⟩ | ⟨-, -, rfl⟩
    · rfl
    · rfl

theorem Overlaid.inUse_eq (h : m.Overlaid a bytes m') : m'.inUse = m.inUse := by
  rw [h.heap]

theorem Overlaid.allocate_eq (h : m.Overlaid a bytes m') (size : Nat) :
    (m'.allocate size).map Prod.fst = (m.allocate size).map Prod.fst := by
  rw [h.heap]
  unfold allocate
  by_cases hfull : m.limit < m.inUse + size ∨ spaceSize < m.next + max size 1
  · simp only [if_pos hfull]
  · simp only [if_neg hfull]
    rfl

theorem readBytes_of_writeBytes (h : m.writeBytes a bytes = .ok m') :
    m'.readBytes a bytes.length = .ok bytes := by
  have hspan : a.offset + bytes.length ≤ spaceSize := (writeBytes_eq_ok.mp h).1
  have hoverlaid := overlaid_of_writeBytes h
  refine readBytes_eq_ok.mpr ⟨hspan, List.ext_getElem (by simp [span]) ?_⟩
  intro i hi _
  rw [List.length_map] at hi
  have hread := hoverlaid.here i hi
  rw [read_forward (by omega), readAt_eq_ok] at hread
  simp [span, hread]

/-! ## Refusals -/

theorem writeBytes_of_crosses (h : spaceSize < a.offset + bytes.length) :
    m.writeBytes a bytes = .error (.crossesSpace a.space a.offset bytes.length) := by
  have hcheck : checkSpan a bytes.length = .error (.crossesSpace a.space a.offset bytes.length) :=
    if_neg (Nat.not_le.mpr h)
  rw [writeBytes, hcheck]
  rfl

theorem writeBytes_of_static (hspan : a.offset + bytes.length ≤ spaceSize)
    (hspace : a.space = .static) (hbytes : bytes ≠ []) :
    m.writeBytes a bytes = .error (.writeToStatic a.offset) := by
  have hcheck : checkSpan a bytes.length = .ok () := if_pos hspan
  have hempty : bytes.isEmpty = false := by simpa using hbytes
  rw [writeBytes, hcheck, hspace, hempty]
  rfl

/-! ## One byte after the other -/

theorem putAll_of_dynamic (hspan : a.offset + bytes.length ≤ spaceSize)
    (hspace : a.space = .dynamic) :
    putAll a bytes m = .ok () { m with written := overlay m.written a.offset bytes } := by
  induction bytes generalizing a m with
  | nil => rfl
  | cons b bytes ih =>
    rw [List.length_cons] at hspan
    have hput : put a b m = .ok () { m with written := m.written.insert a.offset b } := by
      simp only [put, write, hspace]
    rw [putAll, Effect.bind_of_ok hput]
    -- The address behind the last byte may already lie in the other space; it is not written to.
    by_cases hinside : a.offset + 1 < spaceSize
    · have hnext := Address.space_forward hinside
      have hoffset := Address.offset_forward hinside
      rw [Address.forward_one] at hnext hoffset
      rw [ih (by omega) (hnext.trans hspace), hoffset]
      rfl
    · have hnil : bytes = [] := List.length_eq_zero_iff.mp (by omega)
      rw [hnil]
      rfl

theorem putAll_of_static (hspace : a.space = .static) (hbytes : bytes ≠ []) :
    putAll a bytes m = .error (.writeToStatic a.offset) m := by
  obtain ⟨b, rest, rfl⟩ := List.exists_cons_of_ne_nil hbytes
  have hput : put a b m = .error (.writeToStatic a.offset) m := by
    simp only [put, write, hspace]
  rw [putAll]
  exact Effect.bind_eq_error.mpr (.inl hput)

/-- Behind the check, bytes that are written one by one are all written, or none is. -/
theorem putSpan_eq (m : Memory) (a : Address) (bytes : List UInt8) :
    putSpan a bytes m = match m.writeBytes a bytes with
      | .ok m' => .ok () m'
      | .error e => .error e m := by
  by_cases hspan : a.offset + bytes.length ≤ spaceSize
  · have hcheck : checkSpan a bytes.length = .ok () := if_pos hspan
    rw [putSpan, hcheck]
    cases hspace : a.space with
    | dynamic =>
      have hwrite : m.writeBytes a bytes =
          .ok { m with written := overlay m.written a.offset bytes } :=
        writeBytes_eq_ok.mpr ⟨hspan, .inl ⟨hspace, rfl⟩⟩
      rw [hwrite]
      exact putAll_of_dynamic hspan hspace
    | static =>
      by_cases hbytes : bytes = []
      · have hwrite : m.writeBytes a bytes = .ok m :=
          writeBytes_eq_ok.mpr ⟨hspan, .inr ⟨hspace, hbytes, rfl⟩⟩
        rw [hwrite, hbytes]
        rfl
      · rw [writeBytes_of_static hspan hspace hbytes]
        exact putAll_of_static hspace hbytes
  · have hcrosses : spaceSize < a.offset + bytes.length := Nat.lt_of_not_le hspan
    have hcheck : checkSpan a bytes.length =
        .error (.crossesSpace a.space a.offset bytes.length) := if_neg hspan
    rw [putSpan, hcheck, writeBytes_of_crosses hcrosses]
    rfl

theorem putValue_eq (m : Memory) (a : Address) (value : UInt64) (width : Nat) :
    putValue a value width m = match m.writeValue a value width with
      | .ok m' => .ok () m'
      | .error e => .error e m := by
  unfold putValue writeValue
  by_cases hwidth : 8 < width
  · rw [if_pos hwidth, if_pos hwidth]
    rfl
  · rw [if_neg hwidth, if_neg hwidth]
    exact putSpan_eq m a _

/-! ## All cases -/

/-- **Writing a span.** Bytes that fit into the dynamic space from their address on are written: the
address that lies `i` further on, which is the one of offset `offset + i`, then holds the byte with
index `i`, every other address of either space reads as before, the bytes in use are the same and
the heap hands out next what it would have handed out. Bytes that do not fit into the space of their
address are refused for crossing, and bytes for static addresses because these are not written to;
the same bytes written one by one behind the check are refused alike, and leave memory itself as it
was. -/
theorem writeBytes_all_or_nothing (m : Memory) (a : Address) (bytes : List UInt8) :
    (a.space = .dynamic → a.offset + bytes.length ≤ spaceSize →
      (∀ i < bytes.length, (a.forward i).space = .dynamic ∧
        (a.forward i).offset = a.offset + i) ∧
      ∃ m', m.writeBytes a bytes = .ok m' ∧ putSpan a bytes m = .ok () m' ∧
        m.Overlaid a bytes m' ∧ m'.inUse = m.inUse ∧
        ∀ size, (m'.allocate size).map Prod.fst = (m.allocate size).map Prod.fst) ∧
    (spaceSize < a.offset + bytes.length →
      let fault := Fault.crossesSpace a.space a.offset bytes.length
      m.writeBytes a bytes = .error fault ∧ putSpan a bytes m = .error fault m) ∧
    (a.space = .static → a.offset + bytes.length ≤ spaceSize → bytes ≠ [] →
      let fault := Fault.writeToStatic a.offset
      m.writeBytes a bytes = .error fault ∧ putSpan a bytes m = .error fault m) := by
  have hput := putSpan_eq m a bytes
  refine ⟨fun hspace hspan => ⟨?_, ?_⟩, fun hcrosses => ?_, fun hspace hspan hbytes => ?_⟩
  · intro i hi
    have hinside : a.offset + i < spaceSize := by omega
    exact ⟨(Address.space_forward hinside).trans hspace, Address.offset_forward hinside⟩
  · have hwrite : m.writeBytes a bytes =
        .ok { m with written := overlay m.written a.offset bytes } :=
      writeBytes_eq_ok.mpr ⟨hspan, .inl ⟨hspace, rfl⟩⟩
    have hoverlaid := overlaid_of_writeBytes hwrite
    rw [hwrite] at hput
    exact ⟨_, hwrite, hput, hoverlaid, hoverlaid.inUse_eq, hoverlaid.allocate_eq⟩
  · intro fault
    have hwrite : m.writeBytes a bytes = .error fault := writeBytes_of_crosses hcrosses
    rw [hwrite] at hput
    exact ⟨hwrite, hput⟩
  · intro fault
    have hwrite : m.writeBytes a bytes = .error fault := writeBytes_of_static hspan hspace hbytes
    rw [hwrite] at hput
    exact ⟨hwrite, hput⟩

/-- A live block of four bytes, the third of which is written, and one static byte. -/
def partlyWritten : Memory :=
  { ofLiteral [0xff] 0x10 with
    written := overlay ∅ 0x12 [7]
    extents := [⟨0x10, 4⟩]
    next := 0x14
    inUse := 4 }

/-- Three bytes over the end of the block; two bytes of which the second would be static; a static
byte. -/
theorem writeBytes_all_or_nothing_overEnd :
    (∃ m', partlyWritten.writeBytes ⟨0x12⟩ [1, 2, 3] = .ok m' ∧ m'.read ⟨0x12⟩ = .ok 1 ∧
      m'.read ⟨0x13⟩ = .ok 2 ∧ m'.read ⟨0x14⟩ = .ok 3 ∧ m'.read ⟨0x11⟩ = partlyWritten.read ⟨0x11⟩ ∧
      m'.inUse = 4) ∧
    putSpan ⟨0x7fffffffffffffff⟩ [1, 2] partlyWritten =
      .error (.crossesSpace .dynamic 0x7fffffffffffffff 2) partlyWritten ∧
    putSpan ⟨0x8000000000000000⟩ [1] partlyWritten = .error (.writeToStatic 0) partlyWritten := by
  obtain ⟨hwritten, -, -⟩ := writeBytes_all_or_nothing partlyWritten ⟨0x12⟩ [1, 2, 3]
  obtain ⟨-, m', hwrite, -, hoverlaid, hinUse, -⟩ := hwritten rfl (by decide)
  obtain ⟨-, hcrosses, -⟩ := writeBytes_all_or_nothing partlyWritten ⟨0x7fffffffffffffff⟩ [1, 2]
  obtain ⟨-, -, hstatic⟩ := writeBytes_all_or_nothing partlyWritten ⟨0x8000000000000000⟩ [1]
  refine ⟨⟨m', hwrite, hoverlaid.here 0 (by decide), hoverlaid.here 1 (by decide),
    hoverlaid.here 2 (by decide), hoverlaid.elsewhere ⟨0x11⟩ (by decide), hinUse⟩, ?_, ?_⟩
  · exact (hcrosses (by decide)).2
  · exact (hstatic rfl (by decide) (by decide)).2

end Memory

end WordMachine
