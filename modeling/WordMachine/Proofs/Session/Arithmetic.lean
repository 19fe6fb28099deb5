import WordMachine.Proofs.Session.Reaches

/-!
# Integer instructions

A register holds a number below `2 ^ 64`. The integer instructions compute with these numbers and
keep the result in their first register: sums, differences and products are taken modulo `2 ^ 64`;
quotients, remainders and complements need no reduction; a shift multiplies or divides by a power of
two, whatever the amount. Nothing else changes but the program counter.

* `Direction.shift_shiftAmount` : shifting by an amount that was cut to 32 bits.
* `Direction.toNat_eval_left`, `Direction.toNat_eval_right` : shifts as products and quotients.
* `Session.Computes` : a turn that puts a number into a register.
* `Session.integer_arithmetic` : what each integer instruction computes.
-/

namespace WordMachine

open Effect

/-! ## Numbers in registers -/

namespace Direction

/-- The amount is cut to 32 bits only where it shifts everything out anyway. -/
theorem shift_shiftAmount (d : Direction) (x : BitVec 64) (y : UInt64) :
    d.shift x (shiftAmount y).toNat = d.shift x y.toNat := by
  unfold shiftAmount
  by_cases hfits : y.toNat < UInt32.size
  · rw [if_pos hfits, UInt64.toNat_toUInt32, Nat.mod_eq_of_lt hfits]
  · have hlarge : ¬ y.toNat < 64 := fun hlt => hfits (Nat.lt_trans hlt (by decide))
    have hmost : ¬ (0xffffffff : UInt32).toNat < 64 := by decide
    unfold shift shift?
    rw [if_neg hfits, if_neg hlarge, if_neg hmost]

/-- Bits that are shifted out on the left are the multiples of `2 ^ 64`. -/
theorem toNat_eval_left (x y : UInt64) :
    (Direction.left.eval x y).toNat = x.toNat * 2 ^ y.toNat % 2 ^ 64 := by
  rw [eval, shift_shiftAmount, shift, shift?]
  by_cases hlt : y.toNat < 64
  · rw [if_pos hlt, Option.getD_some, UInt64.toNat_ofBitVec, BitVec.toNat_shiftLeft,
      Nat.shiftLeft_eq]
    rfl
  · have hdvd : 2 ^ 64 ∣ x.toNat * 2 ^ y.toNat :=
      Nat.dvd_mul_left_of_dvd (Nat.pow_dvd_pow 2 (Nat.le_of_not_lt hlt)) x.toNat
    rw [if_neg hlt, Nat.mod_eq_zero_of_dvd hdvd]
    rfl

theorem toNat_eval_right (x y : UInt64) :
    (Direction.right.eval x y).toNat = x.toNat / 2 ^ y.toNat := by
  rw [eval, shift_shiftAmount, shift, shift?]
  by_cases hlt : y.toNat < 64
  · rw [if_pos hlt, Option.getD_some, UInt64.toNat_ofBitVec, BitVec.toNat_ushiftRight,
      Nat.shiftRight_eq_div_pow]
    rfl
  · have hsmall : x.toNat < 2 ^ y.toNat :=
      Nat.lt_of_lt_of_le x.toNat_lt (Nat.pow_le_pow_right (by decide) (Nat.le_of_not_lt hlt))
    rw [if_neg hlt, Nat.div_eq_of_lt hsmall]
    rfl

end Direction

theorem BinaryOp.eval?_of_ne_zero {x y : UInt64} (hy : y ≠ 0) :
    BinaryOp.div.eval? x y = some (x / y) ∧ BinaryOp.mod.eval? x y = some (x % y) := by
  have hbits : y.toBitVec ≠ 0 := fun h => hy (UInt64.toBitVec_inj.mp h)
  simp only [eval?, result?, if_neg hbits]
  exact ⟨rfl, rfl⟩

theorem toNat_sub_eq (x y : UInt64) :
    ((x - y).toNat : Int) = ((x.toNat : Int) - y.toNat) % 2 ^ 64 := by
  have hy := y.toNat_lt
  rw [UInt64.toNat_sub]
  omega

/-! ## Turns that compute -/

namespace Session

/-- A turn that goes on behind its word and puts a number into a register. Apart from this register
and the program counter the machine is as before. -/
def Computes (host : Host) (code : Array Word) (s : Session) (a : RegisterIndex) (n : Int) :
    Prop :=
  ∃ t value, s.turnWith host code = .running t ∧ (value.toNat : Int) = n ∧
    Machine.Alike { s.machine.setRegister a value with
      counter := s.machine.counter.next } t.machine ∧
    t.machine.counter.toNat = s.machine.counter.toNat + 1 ∧
    t.world = s.world

variable {s : Session} {code : Array Word} {w : Word} {op : Opcode} {value : UInt64} {n : Int}

theorem computes_of_assign (hfetch : fetch code s.machine.counter = .word w)
    (hop : w.opcode? = some op) (hrun : s.machine.operate op w = Opcode.assign w.first value)
    (hn : (value.toNat : Int) = n) (host : Host) : s.Computes host code w.first n := by
  have hassign : s.machine.operate op w s.machine =
      .ok .next (s.machine.setRegister w.first value) := by
    rw [hrun]
    rfl
  have hreach := Machine.reaches_of_run hfetch hop hassign
  obtain ⟨t, ht, halike, hworld⟩ := hreach s (fun _ => host) ⟨_, rfl⟩
  have hcounter : t.machine.counter = s.machine.counter.next := by
    obtain ⟨journal, hm⟩ := halike
    rw [hm]
  refine ⟨t, value, ht, hn, halike, ?_, hworld⟩
  rw [hcounter]
  exact Address.toNat_next (fetch_eq_word.mp hfetch).1

theorem computes_of_eval? {op : BinaryOp} (hfetch : fetch code s.machine.counter = .word w)
    (hop : w.opcode? = some (.binary op))
    (heval : op.eval? (s.machine.register w.first) (s.machine.register w.second) = some value)
    (hn : (value.toNat : Int) = n) (host : Host) : s.Computes host code w.first n := by
  have hrun : s.machine.operate (.binary op) w = Opcode.assign w.first value := by
    simp only [Machine.operate, Opcode.run, heval]
  exact computes_of_assign hfetch hop hrun hn host

/-- Without a result there is a fault at the word, and nothing has changed. -/
theorem turnWith_of_eval?_eq_none {op : BinaryOp}
    (hfetch : fetch code s.machine.counter = .word w) (hop : w.opcode? = some (.binary op))
    (heval : op.eval? (s.machine.register w.first) (s.machine.register w.second) = none)
    (host : Host) :
    ∃ t, s.turnWith host code = .ended (.error (.divisionByZero s.machine.counter)) t ∧
      s.Alike t := by
  have hrun : s.machine.operate (.binary op) w s.machine =
      .error (.divisionByZero s.machine.counter) s.machine := by
    simp only [Machine.operate, Opcode.run, heval]
    rfl
  obtain ⟨t, ht, halike, hworld⟩ := turnWith_of_fault hfetch hop hrun host
  exact ⟨t, ht, halike, hworld⟩

/-- **Integer instructions.** The word at the program counter has the numbers `x` and `y` in its two
operand registers, which may be the same. Adding, subtracting and multiplying put their sum,
difference and product modulo `2 ^ 64` into the first register; dividing puts the quotient, rounded
down, or the remainder there if `y` is not zero, and faults at the word otherwise, with nothing
changed; shifting to the left or right by any amount `y` puts the product modulo `2 ^ 64`, or the
quotient rounded down, of `x` and `2 ^ y` there; and complementing puts `2 ^ 64 - 1 - x` there. -/
theorem integer_arithmetic (hfetch : fetch code s.machine.counter = .word w) (host : Host) :
    let x := (s.machine.register w.first).toNat
    let y := (s.machine.register w.second).toNat
    (w.opcode? = some (.binary .add) → s.Computes host code w.first ((x + y) % 2 ^ 64)) ∧
    (w.opcode? = some (.binary .sub) → s.Computes host code w.first ((x - y) % 2 ^ 64)) ∧
    (w.opcode? = some (.binary .mul) → s.Computes host code w.first (x * y % 2 ^ 64)) ∧
    (w.opcode? = some (.binary .div) → y ≠ 0 → s.Computes host code w.first (x / y)) ∧
    (w.opcode? = some (.binary .mod) → y ≠ 0 → s.Computes host code w.first (x % y)) ∧
    (w.opcode? = some (.binary .div) ∨ w.opcode? = some (.binary .mod) → y = 0 →
      ∃ t, s.turnWith host code = .ended (.error (.divisionByZero s.machine.counter)) t ∧
        s.Alike t) ∧
    (w.opcode? = some (.shift .left) → s.Computes host code w.first (x * 2 ^ y % 2 ^ 64)) ∧
    (w.opcode? = some (.shift .right) → s.Computes host code w.first (x / 2 ^ y)) ∧
    (w.opcode? = some .not → s.Computes host code w.first (2 ^ 64 - 1 - x)) := by
  intro x y
  have hnonzero : y ≠ 0 → s.machine.register w.second ≠ 0 := by
    intro hy hzero
    exact hy (congrArg UInt64.toNat hzero)
  refine ⟨fun hop => ?_, fun hop => ?_, fun hop => ?_, fun hop hy => ?_, fun hop hy => ?_,
    fun hop hy => ?_, fun hop => ?_, fun hop => ?_, fun hop => ?_⟩
  · apply computes_of_eval? hfetch hop rfl
    exact congrArg Nat.cast (UInt64.toNat_add _ _)
  · apply computes_of_eval? hfetch hop rfl
    exact toNat_sub_eq _ _
  · apply computes_of_eval? hfetch hop rfl
    exact congrArg Nat.cast (UInt64.toNat_mul _ _)
  · apply computes_of_eval? hfetch hop (BinaryOp.eval?_of_ne_zero (hnonzero hy)).1
    exact congrArg Nat.cast (UInt64.toNat_div _ _)
  · apply computes_of_eval? hfetch hop (BinaryOp.eval?_of_ne_zero (hnonzero hy)).2
    exact congrArg Nat.cast (UInt64.toNat_mod _ _)
  · have hzero : s.machine.register w.second = 0 := UInt64.toNat_inj.mp hy
    rcases hop with hop | hop
    · apply turnWith_of_eval?_eq_none hfetch hop
      rw [hzero]
      rfl
    · apply turnWith_of_eval?_eq_none hfetch hop
      rw [hzero]
      rfl
  · apply computes_of_assign hfetch hop rfl
    rw [Direction.toNat_eval_left]
    push_cast
    rfl
  · apply computes_of_assign hfetch hop rfl
    rw [Direction.toNat_eval_right]
    push_cast
    rfl
  · apply computes_of_assign hfetch hop rfl
    have hx := (s.machine.register w.first).toNat_lt
    rw [UInt64.toNat_not]
    simp only [UInt64.size]
    omega

/-- A register added to itself, a shift by another register, and a division by a third. -/
def integerCode : Array Word := #[
  Word.ofOperands (.binary .add) 1 1, Word.ofOperands (.shift .right) 2 3,
  Word.ofOperands (.binary .div) 2 0]

/-- `2 ^ 63` in register 1, one in register 2, and `2 ^ 32` in register 3; register 0 is zero. -/
def integerSession (counter : Nat) : Session where
  machine :=
    { Machine.ofFixed ∅ with
      registers := #v[0, 0x8000000000000000, 1, 0x100000000, 0, 0, 0, 0, 0, 0, 0, 0, 0, 0, 0, 0]
      counter := Address.ofNat counter }

theorem integer_arithmetic_wrapping :
    (∃ t, (integerSession 0).turn integerCode = .running t ∧ t.machine.register 1 = 0) ∧
    (∃ t, (integerSession 1).turn integerCode = .running t ∧ t.machine.register 2 = 0) ∧
    ∃ t, (integerSession 2).turn integerCode =
      .ended (.error (.divisionByZero (Address.ofNat 2))) t := by
  have hadd : fetch integerCode (integerSession 0).machine.counter =
      .word (Word.ofOperands (.binary .add) 1 1) := rfl
  have hshift : fetch integerCode (integerSession 1).machine.counter =
      .word (Word.ofOperands (.shift .right) 2 3) := rfl
  have hdiv : fetch integerCode (integerSession 2).machine.counter =
      .word (Word.ofOperands (.binary .div) 2 0) := rfl
  refine ⟨?_, ?_, ?_⟩
  · obtain ⟨t, value, ht, hvalue, ⟨journal, hm⟩, -⟩ :=
      (integer_arithmetic hadd World.answer).1 rfl
    have hzero : value = 0 := UInt64.toNat_inj.mp (Int.ofNat.inj hvalue)
    refine ⟨t, ht, ?_⟩
    rw [hm, ← hzero]
    rfl
  · obtain ⟨-, -, -, -, -, -, -, hright, -⟩ := integer_arithmetic hshift World.answer
    obtain ⟨t, value, ht, hvalue, ⟨journal, hm⟩, -⟩ := hright rfl
    have hamount : ((integerSession 1).machine.register
        (Word.ofOperands (.shift .right) 2 3).second).toNat ≠ 0 := by decide
    -- The power itself is never computed: that it is more than one is enough.
    generalize ((integerSession 1).machine.register
      (Word.ofOperands (.shift .right) 2 3).second).toNat = amount at hvalue hamount
    have hone : ((integerSession 1).machine.register
        (Word.ofOperands (.shift .right) 2 3).first).toNat = 1 := rfl
    have hless : ((1 : Nat) : Int) < 2 ^ amount := by
      exact_mod_cast Nat.one_lt_two_pow hamount
    rw [hone, Int.ediv_eq_zero_of_lt (by decide) hless] at hvalue
    have hzero : value = 0 := UInt64.toNat_inj.mp (Int.ofNat.inj hvalue)
    refine ⟨t, ht, ?_⟩
    rw [hm, ← hzero]
    rfl
  · obtain ⟨-, -, -, -, -, hzero, -⟩ := integer_arithmetic hdiv World.answer
    obtain ⟨t, ht, -⟩ := hzero (.inl rfl) rfl
    exact ⟨t, ht⟩

end Session

end WordMachine
