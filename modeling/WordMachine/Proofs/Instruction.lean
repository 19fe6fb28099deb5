import WordMachine.Instruction

/-!
# Words and instructions

Every part of a word can be read back from it, so an instruction that was read from a word is read
again from its own encoding.

* `Instruction.decode?_encode` : encoding an instruction keeps it.
* `Word.decode?_canonical` : clearing the bits that an operation does not use keeps the instruction.
-/

namespace WordMachine

theorem Opcode.code_lt (op : Opcode) : op.code < 41 :=
  (Array.getElem?_eq_some_iff.mp (ofCode?_code op)).1

namespace Word

theorem toNat_ofNat {n : Nat} (h : n < 65536) : (ofNat n).toNat = n := by
  unfold ofNat toNat
  rw [UInt16.toNat_ofNat']
  exact Nat.mod_eq_of_lt h

/-! ## Register operands -/

theorem toNat_ofOperands (op : Opcode) (a b : Nat) :
    (ofOperands op a b).toNat = op.code * 256 + a % 16 * 16 + b % 16 := by
  have hop := op.code_lt
  apply toNat_ofNat
  omega

theorem opcode?_ofOperands (op : Opcode) (a b : Nat) : (ofOperands op a b).opcode? = some op := by
  have hdiv : (op.code * 256 + a % 16 * 16 + b % 16) / 256 = op.code := by omega
  rw [opcode?, toNat_ofOperands, hdiv, Opcode.ofCode?_code]

/-- Of a register number the low four bits count. -/
theorem first_ofOperands_nat (op : Opcode) (a b : Nat) :
    (ofOperands op a b).first = Fin.ofNat 16 a := by
  apply Fin.ext
  simp only [first, Fin.ofNat, toNat_ofOperands]
  omega

theorem first_ofOperands (op : Opcode) (a : RegisterIndex) (b : Nat) :
    (ofOperands op a b).first = a := by
  have ha := a.isLt
  apply Fin.ext
  simp only [first, Fin.ofNat, toNat_ofOperands]
  omega

theorem second_ofOperands (op : Opcode) (a : Nat) (b : RegisterIndex) :
    (ofOperands op a b).second = b := by
  have hb := b.isLt
  apply Fin.ext
  simp only [second, Fin.ofNat, toNat_ofOperands]
  omega

/-! ## Literals -/

theorem toNat_ofLiteral (op : Opcode) (literal : UInt8) :
    (ofLiteral op literal).toNat = op.code * 256 + literal.toNat := by
  have hop := op.code_lt
  have hliteral := literal.toNat_lt
  apply toNat_ofNat
  omega

theorem opcode?_ofLiteral (op : Opcode) (literal : UInt8) :
    (ofLiteral op literal).opcode? = some op := by
  have hliteral := literal.toNat_lt
  have hdiv : (op.code * 256 + literal.toNat) / 256 = op.code := by omega
  rw [opcode?, toNat_ofLiteral, hdiv, Opcode.ofCode?_code]

theorem literal_ofLiteral (op : Opcode) (value : UInt8) : (ofLiteral op value).literal = value := by
  have hvalue := value.toNat_lt
  apply UInt8.toNat_inj.mp
  rw [literal, toNat_ofLiteral, UInt8.toNat_ofNat']
  omega

end Word

/-! ## Decoding -/

namespace Instruction

theorem decode?_eq_some {w : Word} {i : Instruction} :
    decode? w = some i ↔
      w.opcode? = some i.opcode ∧ i.operands = readOperands w i.opcode.shape := by
  unfold decode?
  rw [Option.map_eq_some_iff]
  constructor
  · rintro ⟨op, hop, rfl⟩
    exact ⟨hop, rfl⟩
  · rintro ⟨hop, hoperands⟩
    refine ⟨i.opcode, hop, ?_⟩
    rw [← hoperands]

theorem decode?_encode {w : Word} {i : Instruction} (h : decode? w = some i) :
    decode? i.encode = some i := by
  obtain ⟨-, hoperands⟩ := decode?_eq_some.mp h
  obtain ⟨op, operands⟩ := i
  dsimp only at hoperands
  subst hoperands
  refine decode?_eq_some.mpr ?_
  unfold encode
  cases hshape : op.shape with
  | none => simp [readOperands, Word.opcode?_ofOperands]
  | one => simp [readOperands, Word.opcode?_ofOperands, Word.first_ofOperands]
  | two =>
    simp [readOperands, Word.opcode?_ofOperands, Word.first_ofOperands, Word.second_ofOperands]
  | literal => simp [readOperands, Word.opcode?_ofLiteral, Word.literal_ofLiteral]

end Instruction

theorem Word.decode?_canonical (w : Word) :
    Instruction.decode? w.canonical = Instruction.decode? w := by
  unfold canonical
  split
  · rename_i i hi
    rw [hi, Instruction.decode?_encode hi]
  · rfl

end WordMachine
