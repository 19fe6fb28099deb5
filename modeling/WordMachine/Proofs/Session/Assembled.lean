import WordMachine.Assembler
import WordMachine.Proofs.Session.Reaches

/-!
# Running assembled words

A value goes on the stack as eight literal bytes and from there into a register. The words that the
assembler emits for a call push the arguments, load the address of the function into a scratch
register and call through it; none of them looks at what lies below on the stack, and before the
call nothing but this register and the stack has changed.

* `Holds` : code with given words at an index.
* `Machine.reaches_pushed`, `Machine.reaches_loaded` : literal pushes and immediate loads.
* `Session.assembled_call` : the words of a call do what the function does with its arguments.
-/

namespace WordMachine

open Effect

/-! ## Words in code -/

theorem Address.next_ofNat (n : Nat) : (ofNat n).next = ofNat (n + 1) := by
  simp [ofNat, next]

/-- The code holds words from an index on, all of them at addresses of the dynamic space. -/
structure Holds (code : Array Word) (p : Nat) (words : List Word) : Prop where
  here : words <+: code.toList.drop p
  dynamic : p + words.length ≤ spaceSize

section Holding

variable {code : Array Word} {p : Nat} {w : Word} {words words' : List Word}

theorem Holds.fetch (h : Holds code p (w :: words)) :
    fetch code (Address.ofNat p) = .word w := by
  have hlt : p < spaceSize := by
    have hbound := h.dynamic
    rw [List.length_cons] at hbound
    omega
  obtain ⟨hnat, hspace, -⟩ := Address.ofNat_dynamic hlt
  rw [fetch_eq_word, hnat]
  refine ⟨hspace, ?_⟩
  obtain ⟨rest, hrest⟩ := h.here
  have hword : (code.toList.drop p)[0]? = some w := by rw [← hrest]; rfl
  rwa [List.getElem?_drop, Nat.add_zero, Array.getElem?_toList] at hword

theorem Holds.left (h : Holds code p (words ++ words')) : Holds code p words where
  here := (List.prefix_append words words').trans h.here
  dynamic := by
    have hbound := h.dynamic
    rw [List.length_append] at hbound
    omega

theorem Holds.right (h : Holds code p (words ++ words')) :
    Holds code (p + words.length) words' where
  here := by
    obtain ⟨rest, hrest⟩ := h.here
    refine ⟨rest, ?_⟩
    rw [← List.drop_drop, ← hrest, List.append_assoc, List.drop_left]
  dynamic := by
    have hbound := h.dynamic
    rw [List.length_append] at hbound
    omega

theorem Holds.tail (h : Holds code p (w :: words)) : Holds code (p + 1) words :=
  @Holds.right code p [w] words h

end Holding

/-! ## Pushing and loading -/

namespace Machine

variable {code : Array Word} {m : Machine} {p : Nat}

theorem reaches_pushByte {b : UInt8}
    (hfetch : fetch code m.counter = .word (Word.ofLiteral .pushLiteral b))
    (hroom : m.stack.depth < m.stack.limit) :
    m.Reaches code 1 { m with counter := m.counter.next, stack := m.stack.extend [b] } := by
  have hpush : m.stack.pushByte b = .ok (m.stack.extend [b]) :=
    ByteStack.pushByte_eq_ok.mpr ⟨hroom, rfl⟩
  have hop := Word.opcode?_ofLiteral .pushLiteral b
  have hrun : m.operate .pushLiteral (Word.ofLiteral .pushLiteral b) m =
      .ok .next { m with stack := m.stack.extend [b] } := by
    simp only [operate, Opcode.run, Word.literal_ofLiteral]
    rw [bind_of_ok (Action.update_eq_ok.mpr (except_map_eq_ok.mpr ⟨_, hpush, rfl⟩))]
    rfl
  exact reaches_of_run hfetch hop hrun

theorem reaches_pushed {bytes : List UInt8}
    (hcode : Holds code p (bytes.map (Word.ofLiteral .pushLiteral)))
    (hcounter : m.counter = Address.ofNat p)
    (hroom : m.stack.depth + bytes.length ≤ m.stack.limit) :
    m.Reaches code bytes.length
      { m with counter := Address.ofNat (p + bytes.length), stack := m.stack.extend bytes } := by
  induction bytes generalizing p m with
  | nil =>
    refine reaches_alike ⟨m.journal, ?_⟩
    rw [Stack.extend_nil, List.length_nil, Nat.add_zero, ← hcounter]
  | cons b bytes ih =>
    rw [List.length_cons] at hroom
    have hfetch : fetch code m.counter = .word (Word.ofLiteral .pushLiteral b) := by
      rw [hcounter]
      exact hcode.fetch
    have hfirst := reaches_pushByte hfetch (by omega)
    rw [hcounter, Address.next_ofNat] at hfirst
    have hrest := ih (m := { m with counter := Address.ofNat (p + 1), stack := m.stack.extend [b] })
      hcode.tail rfl (by simp only [Stack.extend, List.length_singleton]; omega)
    have hboth := hfirst.trans hrest
    rw [← Stack.extend_append, List.singleton_append, Nat.add_assoc, Nat.add_comm 1] at hboth
    exact hboth

theorem reaches_popped {register : Nat} {stack : ByteStack} {value : UInt64}
    (hfetch : fetch code m.counter = .word (Word.ofOperands (.pop .double) register 0))
    (hstack : m.stack = stack.extend (littleEndian 8 value.toNat)) :
    m.Reaches code 1 { m.setRegister (Fin.ofNat 16 register) value with
      counter := m.counter.next, stack } := by
  have hop := Word.opcode?_ofOperands (.pop .double) register 0
  have hpop := reaches_pop hfetch hop hstack
  rwa [Word.first_ofOperands_nat, mergeLow_double] at hpop

end Machine

/-! ## Emitted words -/

/-- The words of an immediate load. -/
def immediateWords (register : Nat) (value : UInt64) : List Word :=
  (littleEndian 8 value.toNat).map (Word.ofLiteral .pushLiteral) ++
    [Word.ofOperands (.pop .double) register 0]

theorem length_immediateWords (register : Nat) (value : UInt64) :
    (immediateWords register value).length = immediateLoadLength := by
  simp [immediateWords, immediateLoadLength]

/-- An immediate load sets its register and leaves the stack as it was. -/
theorem Machine.reaches_loaded {code : Array Word} {m : Machine} {p register : Nat} {value : UInt64}
    (hcode : Holds code p (immediateWords register value))
    (hcounter : m.counter = Address.ofNat p) (hroom : m.stack.depth + 8 ≤ m.stack.limit) :
    m.Reaches code immediateLoadLength { m.setRegister (Fin.ofNat 16 register) value with
      counter := Address.ofNat (p + immediateLoadLength) } := by
  have hlength : (littleEndian 8 value.toNat).length = 8 := length_littleEndian 8 _
  have hpushed := reaches_pushed hcode.left hcounter (by rw [hlength]; exact hroom)
  have hpop := hcode.right.fetch
  rw [List.length_map, hlength] at hpop
  rw [hlength] at hpushed
  have hloaded := hpushed.trans (reaches_popped hpop rfl)
  rw [Address.next_ofNat] at hloaded
  exact hloaded

namespace Assembler

theorem toList_pushLiterals (a : Assembler) (bytes : List UInt8) :
    (bytes.foldl pushLiteral a).code.toList =
      a.code.toList ++ bytes.map (Word.ofLiteral .pushLiteral) := by
  induction bytes generalizing a with
  | nil => simp
  | cons b bytes ih =>
    rw [List.foldl_cons, ih]
    simp [pushLiteral, append]

theorem toList_pushValues (a : Assembler) (values : List UInt64) :
    (values.foldl pushValue a).code.toList = a.code.toList ++
      (values.flatMap fun value => littleEndian 8 value.toNat).map
        (Word.ofLiteral .pushLiteral) := by
  induction values generalizing a with
  | nil => simp
  | cons value values ih =>
    rw [List.foldl_cons, ih, pushValue, toList_pushLiterals]
    simp

theorem toList_loadImmediate (a : Assembler) (register : Nat) (value : UInt64) :
    (a.loadImmediate register value).2.code.toList =
      a.code.toList ++ immediateWords register value := by
  simp only [loadImmediate, emit, append, Array.toList_push, pushValue, toList_pushLiterals,
    immediateWords, List.append_assoc]

/-- Append a call of a host function with its arguments: they are pushed last first. -/
def callWith (a : Assembler) (scratch : Nat) (f : HostFunction) (arguments : List UInt64) :
    Assembler :=
  (arguments.reverse.foldl pushValue a).callHost scratch f

/-- The words of a call with arguments do not depend on what was emitted before. -/
theorem toList_callWith (a : Assembler) (scratch : Nat) (f : HostFunction)
    (arguments : List UInt64) :
    (a.callWith scratch f arguments).code.toList.drop a.position =
      (argumentBytes arguments).map (Word.ofLiteral .pushLiteral) ++
        (immediateWords scratch f.callAddress.bits ++ [Word.ofOperands .call scratch 0]) := by
  have hposition : a.position = a.code.toList.length := a.code.length_toList.symm
  simp only [callWith, callHost, emit, append, Array.toList_push, toList_loadImmediate,
    toList_pushValues, List.append_assoc]
  rw [hposition, List.drop_left]
  rfl

end Assembler

/-! ## Assembled calls -/

namespace Machine

/-- A machine about to call a host function: the arguments are on the stack, and the scratch
register holds the address of the function. -/
def ready (m : Machine) (scratch : RegisterIndex) (f : HostFunction) (arguments : List UInt64)
    (counter : Address) : Machine :=
  { m.setRegister scratch f.callAddress.bits with
    counter
    stack := m.stack.extend (argumentBytes arguments) }

/-- A machine after a call that went on: the arguments are gone, and the result is on the stack. -/
def served (m : Machine) (scratch : RegisterIndex) (f : HostFunction) (result : Option UInt64)
    (after : HostState) (counter : Address) : Machine :=
  { m.setRegister scratch f.callAddress.bits with
    counter
    stack := ByteStack.withResult m.stack result
    memory := after.memory
    descriptors := after.descriptors }

variable {code : Array Word} {m m' : Machine} {p scratch : Nat} {f : HostFunction}
  {arguments : List UInt64} {counter : Address}

/-- The words of a call with arguments come to the call itself. -/
theorem reaches_ready
    (hcode : Holds code p ((argumentBytes arguments).map (Word.ofLiteral .pushLiteral) ++
      (immediateWords scratch f.callAddress.bits ++ [Word.ofOperands .call scratch 0])))
    (hcounter : m.counter = Address.ofNat p)
    (hroom : m.stack.depth + (8 * arguments.length + 8) ≤ m.stack.limit) :
    let n := 8 * arguments.length + immediateLoadLength
    m.Reaches code n (m.ready (Fin.ofNat 16 scratch) f arguments (Address.ofNat (p + n))) ∧
      fetch code (Address.ofNat (p + n)) = .word (Word.ofOperands .call scratch 0) := by
  intro n
  have hlength := length_argumentBytes arguments
  have hpushed := reaches_pushed hcode.left hcounter (by omega)
  have hafter := hcode.right
  rw [List.length_map, hlength] at hafter
  rw [hlength] at hpushed
  have hloaded := reaches_loaded (m := { m with
      counter := Address.ofNat (p + 8 * arguments.length)
      stack := m.stack.extend (argumentBytes arguments) }) hafter.left rfl
    (by simp only [Stack.extend, hlength]; omega)
  have hcall := hafter.right.fetch
  rw [length_immediateWords, Nat.add_assoc] at hcall
  have hreach := hpushed.trans hloaded
  rw [Nat.add_assoc p] at hreach
  exact ⟨hreach, hcall⟩

section Ready

variable (h : (m.ready (Fin.ofNat 16 scratch) f arguments counter).Alike m')

include h

theorem calls_of_ready : m'.Calls (Word.ofOperands .call scratch 0) f := by
  obtain ⟨journal, rfl⟩ := h
  refine ⟨Word.opcode?_ofOperands _ _ _, ?_⟩
  rw [Word.first_ofOperands_nat]
  simp [ready, register, setRegister]

theorem counter_of_ready : m'.counter = counter := by
  obtain ⟨journal, rfl⟩ := h
  rfl

theorem stack_of_ready : m'.stack = m.stack.extend (argumentBytes arguments) := by
  obtain ⟨journal, rfl⟩ := h
  rfl

end Ready

end Machine

namespace Session

section Ready

variable {s t : Session} {scratch : RegisterIndex} {f : HostFunction} {arguments : List UInt64}
  {counter : Address} (h : (s.machine.ready scratch f arguments counter).Alike t.machine)

include h

/-- Before a call, host functions find what they found before its words. -/
theorem hostState_of_ready (hworld : t.world = s.world) : t.hostState = s.hostState := by
  obtain ⟨m, observer, world⟩ := t
  obtain ⟨journal, rfl⟩ := h
  cases hworld
  rfl

theorem alike_served (result : Option UInt64) (after : HostState) (target : Address) :
    (s.machine.served scratch f result after target).Alike
      (((t.withStack s.machine.stack).returned result after).moveTo target).machine := by
  obtain ⟨m, observer, world⟩ := t
  obtain ⟨journal, rfl⟩ := h
  exact ⟨_, rfl⟩

theorem alike_withStack :
    (s.machine.served scratch f none s.hostState counter).Alike
      (t.withStack s.machine.stack).machine := by
  obtain ⟨m, observer, world⟩ := t
  obtain ⟨journal, rfl⟩ := h
  exact ⟨_, rfl⟩

end Ready

/-- The words that the assembler emits for a call of a host function with its arguments, the last
argument pushed first, run from any session with room for the arguments and the address. They come
to the call with the address of the function in the scratch register, of whose number the low four
bits count; apart from this register, the program counter and the arguments on the stack the machine
is as before. The next turn then does what a call of the function does, and the function finds the
first argument first. If the call goes on, it followed the rule of its function: the program counter
is behind the words, and the stack is the one before with the result on it, if the function returns
one. Every call that the rule allows goes on. A call to exit ends the run with the low 32 bits of
its argument as a signed status and the stack as it was before. -/
theorem assembled_call (a : Assembler) (scratch : Nat) (f : HostFunction)
    {arguments : List UInt64} (hlength : arguments.length = f.arity) {code : Array Word} {p : Nat}
    (hcode : Holds code p ((a.callWith scratch f arguments).code.toList.drop a.position))
    {s : Session} (hcounter : s.machine.counter = Address.ofNat p)
    (hroom : s.machine.stack.depth + (8 * f.arity + 8) ≤ s.machine.stack.limit)
    (hosts : Nat → Host) :
    let n := 8 * f.arity + immediateLoadLength
    ∃ t, s.course hosts code n = .running t ∧
      fetch code t.machine.counter = .word (Word.ofOperands .call scratch 0) ∧
      (s.machine.ready (Fin.ofNat 16 scratch) f arguments (Address.ofNat (p + n))).Alike t.machine ∧
      t.world = s.world ∧
      (Stage.ofCall (Address.ofNat (p + n + 1)) (t.perform (hosts n) f.begin)).Alike
        (s.course hosts code (n + 1)) ∧
      f.begin t.machine = f.serve arguments { t.machine with stack := s.machine.stack } ∧
      (∀ u, s.course hosts code (n + 1) = .running u →
        ∃ result after, f.Completes (hosts n) s.hostState arguments result after ∧
          result.isSome = f.returns ∧
          (s.machine.served (Fin.ofNat 16 scratch) f result after (Address.ofNat (p + n + 1))).Alike
            u.machine ∧
          u.world = after.world) ∧
      (∀ result after, f.Completes (hosts n) s.hostState arguments result after →
        ∃ u, s.course hosts code (n + 1) = .running u) ∧
      ∀ status, f = .exit → arguments = [status] →
        ∃ u, s.course hosts code (n + 1) = .ended (.ok (.exit (exitStatus status))) u ∧
          (s.machine.served (Fin.ofNat 16 scratch) f none s.hostState (Address.ofNat (p + n))).Alike
            u.machine ∧
          u.world = s.world := by
  intro n
  rw [Assembler.toList_callWith] at hcode
  rw [← hlength] at hroom
  have hready := Machine.reaches_ready hcode hcounter hroom
  rw [hlength] at hready
  obtain ⟨hreach, hfetch⟩ := hready
  obtain ⟨t, ht, halike, hworld⟩ := hreach s hosts ⟨_, rfl⟩
  have hturn : s.course hosts code (n + 1) = t.turnWith (hosts n) code := course_succ_of_running ht
  have hcalls := Machine.calls_of_ready halike
  have hstack := Machine.stack_of_ready halike
  have hat : t.machine.counter = Address.ofNat (p + n) := Machine.counter_of_ready halike
  have hstate := hostState_of_ready halike hworld
  rw [← Machine.counter_of_ready halike] at hfetch
  rw [hturn]
  refine ⟨t, ht, hfetch, halike, hworld, ?_, ?_, fun u hu => ?_, fun result after h => ?_,
    fun status hf harguments => ?_⟩
  · rw [← Address.next_ofNat, ← hat]
    exact alike_turn_of_calls hfetch hcalls (hosts n)
  · have hbegin := f.begin_eq_serve hlength t.machine s.machine.stack
    rw [← hstack] at hbegin
    exact hbegin
  · obtain ⟨result, after, hcompletes, hu'⟩ := completes_of_turn hfetch hcalls hlength hstack hu
    rw [hstate] at hcompletes
    rw [hat, Address.next_ofNat] at hu'
    refine ⟨result, after, hcompletes, hcompletes.isSome, ?_, hu'.world_eq⟩
    exact (alike_served halike result after _).trans hu'.machine
  · rw [← hstate] at h
    exact turn_of_completes hfetch hcalls hlength hstack (by omega) h
  · obtain ⟨u, hu, hu'⟩ := turn_exit hfetch hcalls hstack hf harguments
    exact ⟨u, hu, (alike_withStack halike).trans hu'.machine, hu'.world_eq.trans hworld⟩

/-- One word, and room for more behind it. -/
def someWord : Assembler := ({} : Assembler).pushLiteral 7

/-- A call of malloc for five bytes behind one word, through register 18, which is register 2. -/
def mallocCode : Array Word := (someWord.callWith 18 .malloc [5]).code

/-- A session at the first word of the call. -/
def mallocSession : Session := { machine := { Machine.ofFixed ∅ with counter := Address.ofNat 1 } }

theorem assembled_call_malloc : ∃ t u,
    mallocSession.course (fun _ => World.answer) mallocCode 17 = .running t ∧
    t.machine.register 2 = HostFunction.malloc.callAddress.bits ∧
    (Stage.ofCall (Address.ofNat 19) (t.callHost .malloc)).Alike (.running u) ∧
    mallocSession.course (fun _ => World.answer) mallocCode 18 = .running u ∧
    u.machine.counter = Address.ofNat 19 ∧ u.machine.stack.depth = 8 := by
  have hcode : Holds mallocCode 1
      ((someWord.callWith 18 .malloc [5]).code.toList.drop someWord.position) :=
    ⟨List.prefix_rfl, by decide⟩
  obtain ⟨t, ht, -, hready, -, hcall, -, hgoes, hcompletes, -⟩ :=
    assembled_call someWord 18 .malloc rfl hcode (s := mallocSession) rfl (by decide)
      fun _ => World.answer
  obtain ⟨u, hu⟩ := hcompletes _ _ (.malloc rfl)
  obtain ⟨result, after, -, hresult, hserved, -⟩ := hgoes u hu
  obtain ⟨value, rfl⟩ := Option.isSome_iff_exists.mp hresult
  rw [hu, ← callHost_eq_perform] at hcall
  refine ⟨t, u, ht, ?_, hcall, hu, ?_, ?_⟩
  · obtain ⟨journal, hm⟩ := hready
    rw [hm]
    rfl
  · obtain ⟨journal, hm⟩ := hserved
    rw [hm]
    rfl
  · obtain ⟨journal, hm⟩ := hserved
    rw [hm]
    rfl

end Session

end WordMachine
