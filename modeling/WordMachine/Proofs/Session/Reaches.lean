import WordMachine.Proofs.Session.Composition
import WordMachine.Proofs.Session.HostCall

/-!
# Where words lead a machine

A word reads its operands where the program counter stands, is reported, and takes effect. What was
reported before has no part in this, nor has the host unless it is asked. So where some words lead
can be said for machines alone, and words that follow one another lead from machine to machine.

* `Machine.operate` : what the word at the program counter does.
* `Machine.Reaches` : where runs come in some turns, whatever the host.
* `Machine.reaches_of_run`, `Session.turnWith_of_fault` : a word that goes on, and one that faults.
* `Machine.reaches_pop` : a value that was pushed comes into a register.
-/

namespace WordMachine

open Effect

/-! ## Low bytes -/

/-- A mask of low bits takes these from one number and all others from another. -/
theorem toNat_masked (old value : UInt64) {k : Nat} {mask : UInt64}
    (hmask : mask.toNat = 2 ^ k - 1) :
    ((old &&& ~~~mask) ||| (value &&& mask)).toNat =
      old.toNat / 2 ^ k * 2 ^ k + value.toNat % 2 ^ k := by
  have hlow : (value &&& mask).toNat = value.toNat % 2 ^ k := by
    rw [UInt64.toNat_and, hmask, Nat.and_two_pow_sub_one_eq_mod]
  have hnot : (~~~mask).toNat = 2 ^ 64 - (2 ^ k - 1 + 1) := by
    rw [UInt64.toNat_not, hmask, UInt64.size]
    omega
  have hfits : 2 ^ k - 1 < 2 ^ 64 := hmask ▸ mask.toNat_lt
  have hhigh : (old &&& ~~~mask).toNat = (old.toNat / 2 ^ k) <<< k := by
    apply Nat.eq_of_testBit_eq
    intro i
    rw [UInt64.toNat_and, hnot, Nat.testBit_and, Nat.testBit_two_pow_sub_succ hfits,
      Nat.testBit_two_pow_sub_one, Nat.testBit_shiftLeft, Nat.testBit_div_two_pow]
    by_cases hk : i < k
    · simp [hk]
    · have hback : i - k + k = i := Nat.sub_add_cancel (Nat.le_of_not_lt hk)
      by_cases hi : i < 64
      · simp [hi, hk, hback, Nat.le_of_not_lt hk]
      · have hzero : old.toNat.testBit i = false :=
          Nat.testBit_lt_two_pow (Nat.lt_of_lt_of_le old.toNat_lt
            (Nat.pow_le_pow_right (by decide) (Nat.le_of_not_lt hi)))
        simp [hi, hback, hzero]
  rw [UInt64.toNat_or, hhigh, hlow,
    ← Nat.shiftLeft_add_eq_or_of_lt (Nat.mod_lt _ (Nat.two_pow_pos k)), Nat.shiftLeft_eq]

theorem toNat_mergeLow (old value : UInt64) (width : Width) :
    (mergeLow old value width).toNat =
      old.toNat / width.modulus * width.modulus + value.toNat % width.modulus := by
  cases width with
  | byte => exact toNat_masked old value (k := 8) rfl
  | half => exact toNat_masked old value (k := 16) rfl
  | word => exact toNat_masked old value (k := 32) rfl
  | double =>
    have hold := old.toNat_lt
    have hvalue := value.toNat_lt
    rw [mergeLow_double]
    simp only [Width.modulus]
    omega

theorem mergeLow_ofNat_mod (old value : UInt64) (width : Width) :
    mergeLow old (UInt64.ofNat (value.toNat % 256 ^ width.bytes)) width =
      mergeLow old value width := by
  have hlt : value.toNat % 256 ^ width.bytes < 2 ^ 64 :=
    Nat.lt_of_le_of_lt (Nat.mod_le _ _) value.toNat_lt
  apply UInt64.toNat_inj.mp
  rw [toNat_mergeLow, toNat_mergeLow, UInt64.toNat_ofNat_of_lt' hlt, width.modulus_eq, Nat.mod_mod]

/-! ## One turn -/

/-- What an operation does with the operands of a word, where the program counter stands. -/
abbrev Machine.operate (m : Machine) (op : Opcode) (w : Word) : Action Flow :=
  op.run m.counter w.first (m.register w.first) (m.register w.second) w.literal

/-- The report in front of a word changes nothing but reports. -/
theorem Machine.endedAlike_step {m d : Machine} (h : m.Alike d) {w : Word} {op : Opcode}
    (hop : w.opcode? = some op) :
    EndedAlike Machine.Alike Eq (m.operate op w m) (step m.counter w d) := by
  obtain ⟨journal, rfl⟩ := h
  rw [step_eq_run hop]
  exact Opcode.blind_run _ _ _ _ _ op _ _ ⟨_, rfl⟩

namespace Session

variable {s : Session} {code : Array Word} {w : Word} {op : Opcode} {m : Machine}

theorem turnWith_of_next (hfetch : fetch code s.machine.counter = .word w)
    (hstep : step s.machine.counter w (s.announce w).machine = .ok .next m) (host : Host) :
    s.turnWith host code =
      .running ({ s.announce w with machine := m }.moveTo s.machine.counter.next) := by
  have hnotify : s.notify (.step s.machine.counter w) = s.announce w := rfl
  unfold turnWith Session.begin
  rw [hfetch]
  simp only [advance, EStateM.run, hnotify, hstep]

/-- A word that faults ends the run where its operation left the machine. -/
theorem turnWith_of_fault {fault : Fault} (hfetch : fetch code s.machine.counter = .word w)
    (hop : w.opcode? = some op) (hrun : s.machine.operate op w s.machine = .error fault m)
    (host : Host) :
    ∃ t, s.turnWith host code = .ended (.error fault) t ∧ m.Alike t.machine ∧
      t.world = s.world := by
  have hannounced : s.machine.Alike (s.announce w).machine := ⟨_, rfl⟩
  have hended := Machine.endedAlike_step hannounced hop
  rw [hrun] at hended
  generalize hr : step s.machine.counter w (s.announce w).machine = r at hended
  cases hended with
  | @error _ _ d halike =>
    have hnotify : s.notify (.step s.machine.counter w) = s.announce w := rfl
    refine ⟨{ s.announce w with machine := d }, ?_, halike, rfl⟩
    unfold turnWith Session.begin
    rw [hfetch]
    simp only [advance, EStateM.run, hnotify, hr]

end Session

/-! ## Some turns -/

namespace Machine

/-- Runs from machines like one come, in so many turns and with whatever hosts, to machines like
another, in the same world. -/
def Reaches (code : Array Word) (m : Machine) (n : Nat) (m' : Machine) : Prop :=
  ∀ (s : Session) (hosts : Nat → Host), m.Alike s.machine →
    ∃ t, s.course hosts code n = .running t ∧ m'.Alike t.machine ∧ t.world = s.world

variable {code : Array Word} {m m' m'' : Machine} {n k : Nat} {w : Word} {op : Opcode}

theorem reaches_alike (h : m'.Alike m) : m.Reaches code 0 m' :=
  fun s _ halike => ⟨s, rfl, h.trans halike, rfl⟩

theorem Reaches.trans (h : m.Reaches code n m') (h' : m'.Reaches code k m'') :
    m.Reaches code (n + k) m'' := by
  intro s hosts halike
  obtain ⟨t, ht, htm, htw⟩ := h s hosts halike
  obtain ⟨u, hu, hum, huw⟩ := h' t (fun i => hosts (n + i)) htm
  exact ⟨u, (Session.course_add ht k).trans hu, hum, huw.trans htw⟩

/-- A word that goes on behind itself. -/
theorem reaches_of_run (hfetch : fetch code m.counter = .word w) (hop : w.opcode? = some op)
    (hrun : m.operate op w m = .ok .next m') :
    m.Reaches code 1 { m' with counter := m.counter.next } := by
  intro s hosts halike
  have hcounter : s.machine.counter = m.counter := by
    obtain ⟨journal, hs⟩ := halike
    rw [hs]
  -- The word is reported before its step, so the step is taken by a machine that is only alike.
  have hannounced : m.Alike (s.announce w).machine := halike.trans ⟨_, rfl⟩
  have hended := endedAlike_step hannounced hop
  rw [hrun] at hended
  generalize hr : step m.counter w (s.announce w).machine = r at hended
  cases hended with
  | @ok _ _ _ d hflow hd =>
    subst hflow
    rw [← hcounter] at hr hfetch
    have hturn := Session.turnWith_of_next hfetch hr (hosts 0)
    refine ⟨_, hturn, ?_, rfl⟩
    rw [hcounter]
    obtain ⟨journal, rfl⟩ := hd
    exact ⟨_, rfl⟩

/-! ## Popping -/

/-- A value that was pushed in the width of a pop comes into the low bytes of the register. -/
theorem reaches_pop {width : Width} {stack : ByteStack} {value : UInt64}
    (hfetch : fetch code m.counter = .word w) (hop : w.opcode? = some (.pop width))
    (hstack : m.stack = stack.extend (littleEndian width.bytes value.toNat)) :
    m.Reaches code 1
      { m.setRegister w.first (mergeLow (m.register w.first) value width) with
        counter := m.counter.next, stack } := by
  have hpop := ByteStack.pop_littleEndian stack width.bytes value.toNat
  rw [← hstack] at hpop
  have hrun : m.operate (.pop width) w m = .ok .next
      { m.setRegister w.first (mergeLow (m.register w.first) value width) with stack } := by
    simp only [operate, Opcode.run]
    rw [bind_of_ok (Action.pop_of_ok hpop), mergeLow_ofNat_mod]
    rfl
  exact reaches_of_run hfetch hop hrun

end Machine

end WordMachine
