import Mathlib.Algebra.BigOperators.Fin
import Mathlib.Tactic.Ring
import WordMachine.Proofs.ByteOrder
import WordMachine.Proofs.Memory.Bytes

/-!
# Reading several bytes

The addresses of a span count up and wrap around, while the check that comes first looks at the
offset alone. The two agree: a span that passes the check has all of its addresses in the space of
the first, with offsets that count up, and a span that does not pass has an address in the other
space. So the bytes of a span are those that single reads find at its addresses, and a span with
gaps is refused at the first of them.

* `Address.space_forward`, `Address.offset_forward` : the addresses of a span.
* `Memory.readBytes_of_present`, `Memory.readBytes_of_gap` : spans without and with gaps.
* `Memory.readBytes_classified` : what reading a span gives, in all cases.
-/

namespace WordMachine

/-! ## The addresses of a span -/

namespace Address

/-- The address some bytes further on, wrapping around. -/
def forward (a : Address) (i : Nat) : Address := ⟨a.bits + UInt64.ofNat i⟩

variable {a : Address} {i : Nat}

theorem toNat_forward (a : Address) (i : Nat) :
    (a.forward i).toNat = (a.toNat + i) % (2 * spaceSize) := by
  have hsize : 2 ^ 64 = 2 * spaceSize := rfl
  simp only [forward, toNat, UInt64.toNat_add, UInt64.toNat_ofNat', Nat.add_mod_mod, hsize]

theorem toNat_lt (a : Address) : a.toNat < 2 * spaceSize := a.bits.toNat_lt

/-- Inside a space, going forward does not carry into the bit that selects the space, nor out of
it. -/
theorem space_forward (h : a.offset + i < spaceSize) : (a.forward i).space = a.space := by
  have hlt := a.toNat_lt
  have hforward := a.toNat_forward i
  refine if_congr ?_ rfl rfl
  simp only [offset, spaceSize] at *
  omega

theorem offset_forward (h : a.offset + i < spaceSize) : (a.forward i).offset = a.offset + i := by
  have hlt := a.toNat_lt
  have hforward := a.toNat_forward i
  simp only [offset, spaceSize] at *
  omega

/-- Behind the last offset of a space comes the first of the other one. -/
theorem space_forward_of_end (h : a.offset + i = spaceSize) : (a.forward i).space ≠ a.space := by
  have hlt := a.toNat_lt
  have hforward := a.toNat_forward i
  have hother : (a.forward i).space = .dynamic ↔ ¬ a.space = .dynamic := by
    rw [space_eq_dynamic, space_eq_dynamic]
    simp only [offset, spaceSize] at *
    omega
  intro hsame
  rw [hsame] at hother
  exact iff_not_self hother

theorem offset_lt (a : Address) : a.offset < spaceSize := Nat.mod_lt _ (by decide)

/-- A span is too long for its space if one of its addresses lies in the other one. -/
theorem crosses_iff {n : Nat} :
    spaceSize < a.offset + n ↔ ∃ i < n, (a.forward i).space ≠ a.space := by
  constructor
  · intro h
    have hoffset := a.offset_lt
    exact ⟨spaceSize - a.offset, by omega, space_forward_of_end (by omega)⟩
  · rintro ⟨i, hi, hspace⟩
    by_contra hinside
    exact hspace (space_forward (by omega))

end Address

/-! ## The number in some bytes -/

theorem ofLittleEndian_eq_sum (bytes : List UInt8) :
    ofLittleEndian bytes = ∑ i : Fin bytes.length, (bytes.get i).toNat * 256 ^ i.val := by
  induction bytes with
  | nil => rfl
  | cons b bs ih =>
    rw [ofLittleEndian, ih, Finset.mul_sum]
    refine Eq.trans ?_ (Fin.sum_univ_succ fun i : Fin (bs.length + 1) =>
      ((b :: bs).get i).toNat * 256 ^ i.val).symm
    simp only [List.get_cons_zero, Fin.val_zero, Fin.val_succ, pow_zero, mul_one]
    refine congrArg (b.toNat + ·) (Finset.sum_congr rfl fun i _ => ?_)
    show 256 * ((bs.get i).toNat * 256 ^ i.val) = (bs.get i).toNat * 256 ^ (i.val + 1)
    ring

namespace Memory

variable {m : Memory} {a : Address} {s : Space} {n i : Nat}

theorem readValue_eq_map (m : Memory) (a : Address) (width : Nat) :
    m.readValue a width = (m.readBytes a width).map fun bytes =>
      UInt64.ofNat (ofLittleEndian bytes) := by
  unfold readValue
  simp only [joinBytes_reverse]
  cases m.readBytes a width <;> rfl

/-! ## The bytes of a span -/

theorem read_forward (h : a.offset + i < spaceSize) :
    m.read (a.forward i) = m.readAt a.space (a.offset + i) := by
  rw [read, Address.space_forward h, Address.offset_forward h]

theorem readBytes_of_crosses (h : spaceSize < a.offset + n) :
    m.readBytes a n = .error (.crossesSpace a.space a.offset n) := by
  have hcheck : checkSpan a n = .error (.crossesSpace a.space a.offset n) :=
    if_neg (Nat.not_le.mpr h)
  rw [readBytes, hcheck]
  rfl

theorem readBytes_of_inside (h : a.offset + n ≤ spaceSize) :
    m.readBytes a n = m.collect a.space a.offset n [] := by
  have hcheck : checkSpan a n = .ok () := if_pos h
  rw [readBytes, hcheck]
  rfl

/-- Whether a byte exists at an offset of a space. -/
def Present (m : Memory) (s : Space) (offset : Nat) : Prop := ∃ b, m.byte? s offset = some b

theorem readBytes_of_present (h : a.offset + n ≤ spaceSize)
    (hpresent : ∀ i < n, m.Present a.space (a.offset + i)) :
    ∃ bytes, m.readBytes a n = .ok bytes ∧ bytes.length = n ∧
      ∀ i < n, bytes[i]? = m.byte? a.space (a.offset + i) := by
  have hbyte : ∀ i < n, some ((m.byte? a.space (a.offset + i)).getD 0) =
      m.byte? a.space (a.offset + i) := by
    intro i hi
    obtain ⟨b, hb⟩ := hpresent i hi
    rw [hb]
    rfl
  refine ⟨(List.range n).map fun i => (m.byte? a.space (a.offset + i)).getD 0,
    readBytes_eq_ok.mpr ⟨h, ?_⟩, by simp, ?_⟩
  · rw [List.map_map]
    exact List.map_congr_left fun i hi => hbyte i (List.mem_range.mp hi)
  · intro i hi
    rw [List.getElem?_map, List.getElem?_range hi]
    exact hbyte i hi

/-- Bytes are read one after the other, up to the first that does not exist. -/
theorem collect_of_gap {start : Nat} {done : List UInt8} (hi : i < n)
    (hbefore : ∀ j < i, m.Present s (start + j)) (hgap : m.byte? s (start + i) = none) :
    m.collect s start n done = .error (.unmapped s (start + i)) := by
  induction i generalizing start n done with
  | zero =>
    obtain ⟨n, rfl⟩ := Nat.exists_eq_succ_of_ne_zero (Nat.ne_of_gt hi)
    rw [Nat.add_zero] at hgap ⊢
    rw [collect, readAt, hgap]
  | succ i ih =>
    obtain ⟨n, rfl⟩ := Nat.exists_eq_succ_of_ne_zero (Nat.ne_of_gt (Nat.zero_lt_of_lt hi))
    obtain ⟨b, hb⟩ := hbefore 0 (Nat.succ_pos i)
    have hshift : ∀ j, start + (j + 1) = start + 1 + j := fun j => by omega
    rw [Nat.add_zero] at hb
    rw [collect, readAt, hb]
    dsimp only
    rw [hshift i]
    refine ih (Nat.lt_of_succ_lt_succ hi) (fun j hj => ?_) (by rw [← hshift, hgap])
    rw [← hshift]
    exact hbefore (j + 1) (Nat.succ_lt_succ hj)

theorem readBytes_of_gap (h : a.offset + n ≤ spaceSize) (hi : i < n)
    (hbefore : ∀ j < i, m.Present a.space (a.offset + j))
    (hgap : m.byte? a.space (a.offset + i) = none) :
    m.readBytes a n = .error (.unmapped a.space (a.offset + i)) := by
  rw [readBytes_of_inside h]
  exact collect_of_gap hi hbefore hgap

/-- A span has no gap, or a first one. -/
theorem present_or_gap (m : Memory) (s : Space) (start n : Nat) :
    (∀ i < n, m.Present s (start + i)) ∨
      ∃ i < n, (∀ j < i, m.Present s (start + j)) ∧ m.byte? s (start + i) = none := by
  induction n with
  | zero => exact .inl fun i hi => absurd hi (Nat.not_lt_zero i)
  | succ n ih =>
    rcases ih with hall | ⟨i, hi, hgap⟩
    · cases hlast : m.byte? s (start + n) with
      | none => exact .inr ⟨n, Nat.lt_succ_self n, hall, hlast⟩
      | some b =>
        refine .inl fun i hi => ?_
        rcases Nat.lt_succ_iff_lt_or_eq.mp hi with hlt | rfl
        · exact hall i hlt
        · exact ⟨b, hlast⟩
    · exact .inr ⟨i, Nat.lt_succ_of_lt hi, hgap⟩

theorem readBytes_eq_crosses :
    m.readBytes a n = .error (.crossesSpace a.space a.offset n) ↔ spaceSize < a.offset + n := by
  refine ⟨fun h => ?_, readBytes_of_crosses⟩
  by_contra hnot
  have hinside : a.offset + n ≤ spaceSize := Nat.le_of_not_lt hnot
  rcases m.present_or_gap a.space a.offset n with hpresent | ⟨i, hi, hbefore, hgap⟩
  · obtain ⟨bytes, hbytes, -⟩ := readBytes_of_present hinside hpresent
    cases hbytes.symm.trans h
  · cases (readBytes_of_gap hinside hi hbefore hgap).symm.trans h

/-! ## Values -/

theorem readValue_eq_error {width : Nat} {e : Fault} :
    m.readValue a width = .error e ↔ m.readBytes a width = .error e := by
  rw [readValue_eq_map]
  cases m.readBytes a width <;> simp [Except.map]

/-- Up to eight bytes, no part of the number is lost. -/
theorem readValue_of_readBytes {width : Nat} {bytes : List UInt8} (hwidth : width ≤ 8)
    (h : m.readBytes a width = .ok bytes) :
    ∃ v, m.readValue a width = .ok v ∧
      v.toNat = ∑ i : Fin bytes.length, (bytes.get i).toNat * 256 ^ i.val := by
  have hlength : bytes.length = width := by
    have hspan := congrArg List.length (readBytes_eq_ok.mp h).2
    simpa [span] using hspan
  have hlt : ofLittleEndian bytes < 2 ^ 64 :=
    calc ofLittleEndian bytes < 256 ^ bytes.length := ofLittleEndian_lt bytes
      _ ≤ 256 ^ 8 := Nat.pow_le_pow_right (by decide) (hlength ▸ hwidth)
  refine ⟨UInt64.ofNat (ofLittleEndian bytes), by rw [readValue_eq_map, h]; rfl, ?_⟩
  rw [UInt64.toNat_ofNat_of_lt' hlt, ofLittleEndian_eq_sum]

/-! ## All cases -/

/-- **Reading a span.** A span is refused for crossing exactly if it is longer than what is left of
its space, which is to say that one of its addresses lies in the other space. Otherwise the bytes
of the span are those that single reads find at its addresses, and if there are gaps, the first of
them is reported. The number in up to eight bytes is their sum with the weights of their places,
and is refused for the same reasons. -/
theorem readBytes_classified (m : Memory) (a : Address) (n : Nat) :
    (m.readBytes a n = .error (.crossesSpace a.space a.offset n) ↔ spaceSize < a.offset + n) ∧
    (spaceSize < a.offset + n ↔ ∃ i < n, (a.forward i).space ≠ a.space) ∧
    (a.offset + n ≤ spaceSize →
      (∀ i < n, m.read (a.forward i) = m.readAt a.space (a.offset + i)) ∧
      ((∀ i < n, m.Present a.space (a.offset + i)) →
        ∃ bytes, m.readBytes a n = .ok bytes ∧ bytes.length = n ∧
          ∀ i < n, bytes[i]? = m.byte? a.space (a.offset + i)) ∧
      ∀ i < n, (∀ j < i, m.Present a.space (a.offset + j)) →
        m.byte? a.space (a.offset + i) = none →
        m.readBytes a n = .error (.unmapped a.space (a.offset + i))) ∧
    (n ≤ 8 →
      (∀ e, m.readValue a n = .error e ↔ m.readBytes a n = .error e) ∧
      ∀ bytes, m.readBytes a n = .ok bytes → ∃ v, m.readValue a n = .ok v ∧
        v.toNat = ∑ i : Fin bytes.length, (bytes.get i).toNat * 256 ^ i.val) := by
  refine ⟨readBytes_eq_crosses, Address.crosses_iff, fun h => ⟨?_, ?_, ?_⟩, fun hwidth => ?_⟩
  · intro i hi
    exact read_forward (by omega)
  · exact readBytes_of_present h
  · intro i hi hbefore hgap
    exact readBytes_of_gap h hi hbefore hgap
  · exact ⟨fun e => readValue_eq_error, fun bytes => readValue_of_readBytes hwidth⟩

/-- The last two bytes of the dynamic space are written, and the first static byte exists. -/
def brink : Memory :=
  { ofLiteral [0xff] 0 with
    written := overlay ∅ 0x7ffffffffffffffe [0x34, 0x12] }

/-- Two bytes fit between the address and the end of the space; a third would be static. One address
before, there is a gap. -/
theorem readBytes_classified_brink :
    let a : Address := ⟨0x7ffffffffffffffe⟩
    let before : Address := ⟨0x7ffffffffffffffd⟩
    brink.readBytes a 3 = .error (.crossesSpace .dynamic 0x7ffffffffffffffe 3) ∧
    (∃ bytes, brink.readBytes a 2 = .ok bytes ∧ bytes.length = 2 ∧
      ∀ i < 2, bytes[i]? = brink.byte? .dynamic (0x7ffffffffffffffe + i)) ∧
    (∃ v, brink.readValue a 2 = .ok v ∧ v.toNat = 0x34 * 256 ^ 0 + 0x12 * 256 ^ 1) ∧
    brink.readBytes before 3 = .error (.unmapped .dynamic 0x7ffffffffffffffd) := by
  intro a before
  have hpresent : ∀ i < 2, brink.Present a.space (a.offset + i) := by
    intro i hi
    match i, hi with
    | 0, _ => exact ⟨0x34, rfl⟩
    | 1, _ => exact ⟨0x12, rfl⟩
  have hinside : a.offset + 2 ≤ spaceSize := by decide
  have hread : brink.readBytes a 2 = .ok [0x34, 0x12] := rfl
  obtain ⟨hcross, -, -, -⟩ := readBytes_classified brink a 3
  obtain ⟨-, -, hspan, hvalue⟩ := readBytes_classified brink a 2
  obtain ⟨-, -, hgap, -⟩ := readBytes_classified brink before 3
  refine ⟨hcross.mpr (by decide), (hspan hinside).2.1 hpresent, (hvalue (by decide)).2 _ hread, ?_⟩
  exact (hgap (by decide)).2.2 0 (by decide) (fun j hj => absurd hj (Nat.not_lt_zero j)) rfl

end Memory

end WordMachine
