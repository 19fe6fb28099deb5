import WordMachine.Proofs.Session.Assembled

/-!
# Patched loads

The value of an immediate load may be filled in when more words have been emitted. A patch writes
over eight words, and two immediate loads in one code never share a word: where one has its pop, the
other would have a push. So a patch of one load commutes with everything that is done to the code
behind it, and with patches of other loads.

* `Assembler.Operation`, `Assembler.performAll?` : what is done to code under construction.
* `Assembler.LoadAt` : an immediate load in code; `Assembler.LoadAt.le_of_lt` : two of them.
* `Assembler.performAll?_elsewhere` : operations and a patch that comes before or after them.
* `Assembler.backpatching` : a patched load is the load of the new value, and loads it.
-/

namespace WordMachine

namespace Assembler

/-! ## Operations -/

/-- What is done to code under construction. -/
inductive Operation where
  | emit (op : Opcode) (first second : Nat)
  | pushLiteral (literal : UInt8)
  | pushValue (value : UInt64)
  | loadImmediate (register : Nat) (value : UInt64)
  | callHost (scratch : Nat) (f : HostFunction)
  | patchImmediate (index : Nat) (value : UInt64)

/-- Code after an operation. There is none after a patch of words that the code does not have. -/
def Operation.perform? (a : Assembler) : Operation → Option Assembler
  | emit op first second => some (a.emit op first second)
  | pushLiteral literal => some (a.pushLiteral literal)
  | pushValue value => some (a.pushValue value)
  | loadImmediate register value => some (a.loadImmediate register value).2
  | callHost scratch f => some (a.callHost scratch f)
  | patchImmediate index value =>
    if a.holdsImmediate index then some (a.patchImmediate index value) else none

/-- Code after operations, one after the other. -/
def performAll? (a : Assembler) (ops : List Operation) : Option Assembler :=
  ops.foldlM Operation.perform? a

/-- The words that an operation appends, unless it is a patch. -/
def Operation.emitted? : Operation → Option (List Word)
  | emit op first second => some [Word.ofOperands op first second]
  | pushLiteral literal => some [Word.ofLiteral .pushLiteral literal]
  | pushValue value => some ((littleEndian 8 value.toNat).map (Word.ofLiteral .pushLiteral))
  | loadImmediate register value => some (immediateWords register value)
  | callHost scratch f =>
    some (immediateWords scratch f.callAddress.bits ++ [Word.ofOperands .call scratch 0])
  | patchImmediate _ _ => none

/-- Code with words behind it. -/
def extend (a : Assembler) (words : List Word) : Assembler := ⟨a.code ++ words.toArray⟩

theorem eq_extend {a b : Assembler} {words : List Word}
    (h : b.code.toList = a.code.toList ++ words) : b = a.extend words := by
  obtain ⟨code⟩ := b
  have hcode : code = a.code ++ words.toArray := by
    apply Array.toList_inj.mp
    simpa using h
  rw [hcode, extend]

theorem perform?_of_emitted {op : Operation} {words : List Word} (h : op.emitted? = some words)
    (a : Assembler) : op.perform? a = some (a.extend words) := by
  cases op with
  | emit | pushLiteral =>
    cases h
    exact congrArg some (eq_extend (Array.toList_push ..))
  | pushValue value =>
    cases h
    exact congrArg some (eq_extend (toList_pushLiterals a _))
  | loadImmediate register value =>
    cases h
    exact congrArg some (eq_extend (toList_loadImmediate a register value))
  | callHost scratch f =>
    cases h
    apply congrArg some
    apply eq_extend
    simp only [callHost, emit, append, Array.toList_push, toList_loadImmediate, List.append_assoc]
  | patchImmediate => cases h

theorem performAll?_cons {a b : Assembler} {op : Operation} (h : op.perform? a = some b)
    (ops : List Operation) : a.performAll? (op :: ops) = b.performAll? ops := by
  rw [performAll?, List.foldlM_cons, h]
  rfl

/-! ## Patches -/

theorem ext_getElem? {a b : Assembler} (h : ∀ k : Nat, a.code[k]? = b.code[k]?) : a = b := by
  obtain ⟨code⟩ := a
  obtain ⟨code'⟩ := b
  exact congrArg mk (Array.ext_getElem? h)

theorem holdsImmediate_iff {a : Assembler} {index : Nat} :
    a.holdsImmediate index = true ↔ index + 8 ≤ a.code.size := by
  unfold holdsImmediate position
  exact decide_eq_true_iff

theorem size_overwrite (code : Array Word) (index : Nat) (bytes : List UInt8) :
    (overwrite code index bytes).size = code.size := by
  induction bytes generalizing code index with
  | nil => rfl
  | cons b bytes ih => rw [overwrite, ih, Array.size_setIfInBounds]

theorem getElem?_overwrite {code : Array Word} {index : Nat} {bytes : List UInt8}
    (h : index + bytes.length ≤ code.size) (k : Nat) :
    (overwrite code index bytes)[k]? =
      if index ≤ k ∧ k < index + bytes.length then
        bytes[k - index]?.map (Word.ofLiteral .pushLiteral)
      else code[k]? := by
  induction bytes generalizing code index with
  | nil =>
    rw [overwrite, if_neg]
    rw [List.length_nil]
    omega
  | cons b bytes ih =>
    rw [List.length_cons] at h ⊢
    rw [overwrite, ih (by rw [Array.size_setIfInBounds]; omega)]
    by_cases hk : k = index
    · subst hk
      rw [if_neg (by omega), if_pos (by omega), Array.getElem?_setIfInBounds_self_of_lt (by omega),
        Nat.sub_self]
      rfl
    · rw [Array.getElem?_setIfInBounds_ne (Ne.symm hk)]
      by_cases hin : index + 1 ≤ k ∧ k < index + 1 + bytes.length
      · have hnext : k - index = k - (index + 1) + 1 := by omega
        rw [if_pos hin, if_pos (by omega), hnext, List.getElem?_cons_succ]
      · rw [if_neg hin, if_neg (by omega)]

section Patching

variable {a : Assembler} {index : Nat}

theorem size_patchImmediate (a : Assembler) (index : Nat) (value : UInt64) :
    (a.patchImmediate index value).code.size = a.code.size := by
  unfold patchImmediate
  rw [size_overwrite]

theorem getElem?_patchImmediate (h : index + 8 ≤ a.code.size) (value : UInt64) (k : Nat) :
    (a.patchImmediate index value).code[k]? =
      if index ≤ k ∧ k < index + 8 then
        (littleEndian 8 value.toNat)[k - index]?.map (Word.ofLiteral .pushLiteral)
      else a.code[k]? := by
  have hlength := length_littleEndian 8 value.toNat
  unfold patchImmediate
  rw [getElem?_overwrite (by rw [hlength]; exact h), hlength]

theorem patchImmediate_extend (h : index + 8 ≤ a.code.size) (words : List Word) (value : UInt64) :
    (a.extend words).patchImmediate index value =
      (a.patchImmediate index value).extend words := by
  have hsize : index + 8 ≤ (a.extend words).code.size := by
    rw [extend, Array.size_append]
    omega
  apply ext_getElem?
  intro k
  rw [getElem?_patchImmediate hsize]
  simp only [extend, Array.getElem?_append, size_patchImmediate, getElem?_patchImmediate h]
  by_cases hk : index ≤ k ∧ k < index + 8
  · have hlt : k < a.code.size := by omega
    rw [if_pos hk, if_pos hlt, if_pos hk]
  · rw [if_neg hk, if_neg hk]

theorem patchImmediate_comm {index' : Nat} (h : index + 8 ≤ a.code.size)
    (h' : index' + 8 ≤ a.code.size) (happart : index + 8 ≤ index' ∨ index' + 8 ≤ index)
    (value value' : UInt64) :
    (a.patchImmediate index value).patchImmediate index' value' =
      (a.patchImmediate index' value').patchImmediate index value := by
  apply ext_getElem?
  intro k
  rw [getElem?_patchImmediate (by rw [size_patchImmediate]; exact h'), getElem?_patchImmediate h,
    getElem?_patchImmediate (by rw [size_patchImmediate]; exact h), getElem?_patchImmediate h']
  by_cases hk : index ≤ k ∧ k < index + 8
  · have hk' : ¬ (index' ≤ k ∧ k < index' + 8) := by omega
    rw [if_neg hk', if_pos hk, if_pos hk]
  · rw [if_neg hk, if_neg hk]

end Patching

/-! ## Loads in code -/

/-- The code holds the immediate load of a register and a value at an index. -/
def LoadAt (a : Assembler) (p register : Nat) (value : UInt64) : Prop :=
  ∀ i, i < immediateLoadLength → a.code[p + i]? = (immediateWords register value)[i]?

/-- The code holds some immediate load at an index. -/
def HoldsLoad (a : Assembler) (p : Nat) : Prop := ∃ register value, a.LoadAt p register value

theorem getElem?_immediateWords (register : Nat) (value : UInt64) (i : Nat) :
    (immediateWords register value)[i]? =
      if i < 8 then (littleEndian 8 value.toNat)[i]?.map (Word.ofLiteral .pushLiteral)
      else [Word.ofOperands (.pop .double) register 0][i - 8]? := by
  have hlength := length_littleEndian 8 value.toNat
  rw [immediateWords, List.getElem?_append, List.length_map, hlength, List.getElem?_map]

section Loads

variable {a b : Assembler} {p q register : Nat} {value : UInt64}

theorem loadAt_loadImmediate (a : Assembler) (register : Nat) (value : UInt64) :
    (a.loadImmediate register value).2.LoadAt a.position register value := by
  intro i hi
  have hposition : a.position = a.code.toList.length := a.code.length_toList.symm
  rw [← Array.getElem?_toList, toList_loadImmediate, hposition,
    List.getElem?_append_right (by omega), Nat.add_sub_cancel_left]

theorem LoadAt.lt_size (h : a.LoadAt p register value) : p + 8 < a.code.size := by
  have hpop := h 8 (by decide)
  rw [getElem?_immediateWords, if_neg (by omega)] at hpop
  exact (Array.getElem?_eq_some_iff.mp hpop).1

theorem LoadAt.congr (h : a.LoadAt p register value)
    (hsame : ∀ k, p ≤ k → k < p + immediateLoadLength → b.code[k]? = a.code[k]?) :
    b.LoadAt p register value := by
  intro i hi
  rw [hsame (p + i) (by omega) (by omega)]
  exact h i hi

/-- The pop of a load is no push of a load further on. -/
theorem LoadAt.le_of_lt {register' : Nat} {value' : UInt64} (h : a.LoadAt p register value)
    (h' : a.LoadAt q register' value') (hlt : p < q) : p + immediateLoadLength ≤ q := by
  unfold immediateLoadLength
  by_contra hover
  have hpop := h 8 (by decide)
  have hpush := h' (p + 8 - q) (by unfold immediateLoadLength; omega)
  have hsame : q + (p + 8 - q) = p + 8 := by omega
  rw [getElem?_immediateWords, if_neg (by omega)] at hpop
  rw [getElem?_immediateWords, if_pos (by omega), hsame, hpop] at hpush
  obtain ⟨b, -, hword⟩ := Option.map_eq_some_iff.mp hpush.symm
  have hopcode := congrArg Word.opcode? hword
  rw [Word.opcode?_ofOperands, Word.opcode?_ofLiteral] at hopcode
  cases hopcode

/-- A patch of a load makes it the load of another value. -/
theorem LoadAt.patched (h : a.LoadAt p register value) (value' : UInt64) :
    (a.patchImmediate p value').LoadAt p register value' := by
  have hsize := h.lt_size
  intro i hi
  rw [getElem?_patchImmediate (by omega), getElem?_immediateWords]
  by_cases hpush : i < 8
  · rw [if_pos (by omega), if_pos hpush, Nat.add_sub_cancel_left]
  · rw [if_neg (by omega), if_neg hpush, h i hi, getElem?_immediateWords, if_neg hpush]

theorem patchImmediate_loadImmediate (a : Assembler) (register : Nat) (value value' : UInt64) :
    (a.loadImmediate register value).2.patchImmediate a.position value' =
      (a.loadImmediate register value').2 := by
  have hsize := (loadAt_loadImmediate a register value).lt_size
  apply ext_getElem?
  intro k
  rw [getElem?_patchImmediate (by omega), eq_extend (toList_loadImmediate a register value),
    eq_extend (toList_loadImmediate a register value')]
  simp only [extend, position, Array.getElem?_append, List.getElem?_toArray,
    getElem?_immediateWords]
  by_cases hbefore : k < a.code.size
  · rw [if_neg (by omega), if_pos hbefore, if_pos hbefore]
  · by_cases hpush : k - a.code.size < 8
    · rw [if_pos (by omega), if_neg hbefore, if_pos hpush]
    · rw [if_neg (by omega), if_neg hbefore, if_neg hpush, if_neg hbefore, if_neg hpush]

end Loads

/-! ## Operations elsewhere -/

/-- An index is that of a load other than the one at `p`: of one that lies before it, or of one that
the code holds. -/
def LoadElsewhere (a : Assembler) (p index : Nat) : Prop :=
  index + immediateLoadLength ≤ p ∨ index ≠ p ∧ a.HoldsLoad index

/-- Every patch among operations is aimed at a load other than the one at `p`, in the code as it is
then. -/
def PatchesElsewhere (a : Assembler) (p : Nat) (ops : List Operation) : Prop :=
  ∀ before index value after b, ops = before ++ .patchImmediate index value :: after →
    a.performAll? before = some b → b.LoadElsewhere p index

section Elsewhere

variable {a : Assembler} {p register : Nat} {value : UInt64}

theorem patchesElsewhere_nil (a : Assembler) (p : Nat) : a.PatchesElsewhere p [] := by
  intro before index value after b hops
  simp at hops

theorem patchesElsewhere_cons {op : Operation} {ops : List Operation} :
    a.PatchesElsewhere p (op :: ops) ↔
      (∀ index value, op = .patchImmediate index value → a.LoadElsewhere p index) ∧
        ∀ b, op.perform? a = some b → b.PatchesElsewhere p ops := by
  constructor
  · intro helse
    constructor
    · intro index value hop
      exact helse [] index value ops a (congrArg (· :: ops) hop) rfl
    · intro b hb before index value after c hops hc
      refine helse (op :: before) index value after c (congrArg (op :: ·) hops) ?_
      rw [performAll?_cons hb]
      exact hc
  · rintro ⟨hfirst, hrest⟩ before index value after c hops hc
    cases before with
    | nil =>
      obtain ⟨hop, -⟩ := List.cons.inj hops
      obtain rfl : a = c := Option.some.inj hc
      exact hfirst index value hop
    | cons op' before =>
      obtain ⟨rfl, hafter⟩ := List.cons.inj hops
      obtain ⟨b, hb, hc⟩ := Option.bind_eq_some_iff.mp hc
      exact hrest b hb before index value after c hafter hc

theorem LoadElsewhere.apart {index : Nat} (h : a.LoadElsewhere p index)
    (hload : a.LoadAt p register value) :
    index + 8 ≤ a.code.size ∧
      (index + immediateLoadLength ≤ p ∨ p + immediateLoadLength ≤ index) := by
  have hsize := hload.lt_size
  unfold immediateLoadLength
  rcases h with hbefore | ⟨hne, register', value', hother⟩
  · unfold immediateLoadLength at hbefore
    exact ⟨by omega, .inl hbefore⟩
  · have hsize' := hother.lt_size
    refine ⟨by omega, ?_⟩
    rcases Nat.lt_or_gt_of_ne hne with hlt | hgt
    · exact .inl (hother.le_of_lt hload hlt)
    · exact .inr (hload.le_of_lt hother hgt)

/-- An operation elsewhere leaves the load at `p` as it is, and goes the same way if that load has
been patched before. -/
theorem perform?_elsewhere {op : Operation} (hload : a.LoadAt p register value)
    (helse : ∀ index value, op = .patchImmediate index value → a.LoadElsewhere p index) :
    ∃ b, op.perform? a = some b ∧ b.LoadAt p register value ∧
      ∀ value', op.perform? (a.patchImmediate p value') = some (b.patchImmediate p value') := by
  have hsize := hload.lt_size
  cases hemitted : op.emitted? with
  | some words =>
    refine ⟨a.extend words, perform?_of_emitted hemitted a, ?_, ?_⟩
    · apply hload.congr
      intro k hle hlt
      unfold immediateLoadLength at hlt
      rw [extend, Array.getElem?_append_left (by omega)]
    · intro value'
      rw [perform?_of_emitted hemitted, patchImmediate_extend (by omega)]
  | none =>
    cases op with
    | patchImmediate index value₁ =>
      obtain ⟨hindex, hapart⟩ := (helse index value₁ rfl).apart hload
      unfold immediateLoadLength at hapart
      refine ⟨a.patchImmediate index value₁, ?_, ?_, ?_⟩
      · exact if_pos (holdsImmediate_iff.mpr hindex)
      · apply hload.congr
        intro k hle hlt
        unfold immediateLoadLength at hlt
        rw [getElem?_patchImmediate hindex, if_neg (by omega)]
      · intro value'
        have hholds : (a.patchImmediate p value').holdsImmediate index = true := by
          rw [holdsImmediate_iff, size_patchImmediate]
          exact hindex
        rw [Operation.perform?, if_pos hholds, patchImmediate_comm (by omega) hindex (by omega)]
    | emit | pushLiteral | pushValue | loadImmediate | callHost => cases hemitted

theorem performAll?_elsewhere {ops : List Operation} (hload : a.LoadAt p register value)
    (helse : a.PatchesElsewhere p ops) :
    ∃ b, a.performAll? ops = some b ∧ b.LoadAt p register value ∧
      ∀ value', (a.patchImmediate p value').performAll? ops = some (b.patchImmediate p value') := by
  induction ops generalizing a with
  | nil => exact ⟨a, rfl, hload, fun value' => rfl⟩
  | cons op ops ih =>
    obtain ⟨hfirst, hrest⟩ := patchesElsewhere_cons.mp helse
    obtain ⟨b, hb, hkept, hpatched⟩ := perform?_elsewhere hload hfirst
    obtain ⟨c, hc, hload', hpatched'⟩ := ih hkept (hrest b hb)
    refine ⟨c, ?_, hload', ?_⟩
    · rw [performAll?_cons hb]
      exact hc
    · intro value'
      rw [performAll?_cons (hpatched value')]
      exact hpatched' value'

end Elsewhere

/-! ## Patching and running -/

theorem LoadAt.holds {a : Assembler} {p register : Nat} {value : UInt64}
    (h : a.LoadAt p register value) (hdynamic : p + immediateLoadLength ≤ spaceSize) :
    Holds a.code p (immediateWords register value) := by
  have hlength := length_immediateWords register value
  refine ⟨?_, by rw [hlength]; exact hdynamic⟩
  rw [List.prefix_iff_getElem?]
  intro i hi
  rw [List.getElem?_drop, Array.getElem?_toList, h i (by omega), List.getElem?_eq_getElem hi]

/-- **Backpatching.** An immediate load is emitted, then other things are done to the code, with
patches only of other loads, and at last the load is patched. No patch runs past the end, and the
code is the one in which the load was emitted with the patched value in the first place; at every
point in between the next word goes to the same place in both. Where the stack has room for eight
bytes, and code that long has addresses, the words of the load set their register, of whose number
the low four bits count, to the patched value. Apart from it and the program counter, which is then
behind them, the machine is as before. -/
theorem backpatching (a : Assembler) (register : Nat) (value value' : UInt64)
    {ops : List Operation}
    (helse : (a.loadImmediate register value).2.PatchesElsewhere
      (a.loadImmediate register value).1 ops) :
    let p := (a.loadImmediate register value).1
    (a.loadImmediate register value').1 = p ∧
    ∃ b,
      (a.loadImmediate register value).2.performAll? (ops ++ [.patchImmediate p value']) = some b ∧
      (a.loadImmediate register value').2.performAll? ops = some b ∧
      (∀ before after, ops = before ++ after → ∃ c c',
        (a.loadImmediate register value).2.performAll? before = some c ∧
        (a.loadImmediate register value').2.performAll? before = some c' ∧
        c'.position = c.position) ∧
      ∀ s : Session, s.machine.counter = Address.ofNat p → p + immediateLoadLength ≤ spaceSize →
        s.machine.stack.depth + 8 ≤ s.machine.stack.limit → ∀ hosts : Nat → Host,
        ∃ t, s.course hosts b.code immediateLoadLength = .running t ∧
          Machine.Alike { s.machine.setRegister (Fin.ofNat 16 register) value' with
            counter := Address.ofNat (p + immediateLoadLength) } t.machine ∧
          t.world = s.world := by
  intro p
  have hload : (a.loadImmediate register value).2.LoadAt p register value :=
    loadAt_loadImmediate a register value
  have hfresh : (a.loadImmediate register value).2.patchImmediate p value' =
      (a.loadImmediate register value').2 := patchImmediate_loadImmediate a register value value'
  obtain ⟨b, hb, hkept, hpatched⟩ := performAll?_elsewhere hload helse
  refine ⟨rfl, b.patchImmediate p value', ?_, ?_, ?_, ?_⟩
  · have hsize := hkept.lt_size
    have hholds : b.holdsImmediate p = true := holdsImmediate_iff.mpr (by omega)
    unfold performAll? at hb ⊢
    rw [List.foldlM_append, hb]
    change (Operation.perform? b _ >>= pure) = _
    rw [Operation.perform?, if_pos hholds]
    rfl
  · rw [← hfresh]
    exact hpatched value'
  · intro before after hops
    have hbefore : (a.loadImmediate register value).2.PatchesElsewhere p before := by
      intro before' index value₁ after' c hsplit hc
      refine helse before' index value₁ (after' ++ after) c ?_ hc
      rw [hops, hsplit, List.append_assoc, List.cons_append]
    obtain ⟨c, hc, -, hpatched'⟩ := performAll?_elsewhere hload hbefore
    refine ⟨c, c.patchImmediate p value', hc, ?_, size_patchImmediate c p value'⟩
    rw [← hfresh]
    exact hpatched' value'
  · intro s hcounter hdynamic hroom hosts
    have hholds := (hkept.patched value').holds hdynamic
    exact Machine.reaches_loaded hholds hcounter hroom s hosts ⟨_, rfl⟩

/-- One immediate load, of nine words. -/
def oneLoad : Assembler := (({} : Assembler).loadImmediate 1 5).2

/-- Words, another load with a patch of its own, a call, and a patch of the load in front. -/
def laterOperations : List Operation :=
  [.emit (.binary .add) 1 2, .loadImmediate 3 7, .patchImmediate 19 0x22, .callHost 4 .exit,
    .patchImmediate 0 6]

theorem patchesElsewhere_laterOperations :
    (oneLoad.loadImmediate 18 0).2.PatchesElsewhere 9 laterOperations := by
  refine patchesElsewhere_cons.mpr ⟨by simp, ?_⟩
  rintro _ ⟨⟩
  refine patchesElsewhere_cons.mpr ⟨by simp, ?_⟩
  rintro _ ⟨⟩
  refine patchesElsewhere_cons.mpr ⟨?_, ?_⟩
  · rintro _ _ ⟨⟩
    exact .inr ⟨by decide, 3, 7, loadAt_loadImmediate _ 3 7⟩
  rintro _ ⟨⟩
  refine patchesElsewhere_cons.mpr ⟨by simp, ?_⟩
  rintro _ ⟨⟩
  refine patchesElsewhere_cons.mpr ⟨?_, fun b _ => patchesElsewhere_nil b 9⟩
  rintro _ _ ⟨⟩
  exact .inl (by decide)

/-- A session at the load behind the first one. -/
def loadingSession : Session := { machine := { Machine.ofFixed ∅ with counter := Address.ofNat 9 } }

theorem backpatching_laterOperations : ∃ b t,
    (oneLoad.loadImmediate 18 0).2.performAll?
      (laterOperations ++ [.patchImmediate 9 0x1122334455667788]) = some b ∧
    (oneLoad.loadImmediate 18 0x1122334455667788).2.performAll? laterOperations = some b ∧
    loadingSession.course (fun _ => World.answer) b.code 9 = .running t ∧
    t.machine.register 2 = 0x1122334455667788 ∧ t.machine.counter = Address.ofNat 18 := by
  obtain ⟨-, b, hpatched, hfresh, -, hruns⟩ :=
    backpatching oneLoad 18 0 0x1122334455667788 patchesElsewhere_laterOperations
  obtain ⟨t, ht, ⟨journal, hm⟩, -⟩ :=
    hruns loadingSession rfl (by decide) (by decide) fun _ => World.answer
  refine ⟨b, t, hpatched, hfresh, ht, ?_, ?_⟩
  · rw [hm]
    rfl
  · rw [hm]
    rfl

end Assembler

end WordMachine
