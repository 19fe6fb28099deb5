import WordMachine.Proofs.Machine.Invariant

/-!
# Where a word leads

Four operations jump: a goto, a branch whose condition holds, a call of a dynamic address, and a
return. All others go on behind themselves, and so do calls of the host. The pending calls change
with calls of dynamic addresses and with returns only, and a fault changes neither them nor the
program counter.

* `Machine.target?`, `Machine.pending` : where a word jumps to, and the calls pending after it.
* `leads_step` : every word leads there.
-/

namespace WordMachine

/-! ## Fetching -/

theorem fetch_eq_outside {code : Array Word} {a : Address} :
    fetch code a = .outside ↔ a.space = .static ∨ code.size < a.toNat := by
  unfold fetch
  cases a.space with
  | static => simp
  | dynamic =>
    rcases Nat.lt_trichotomy a.toNat code.size with hlt | heq | hgt
    · simp [hlt, hlt.le]
    · simp [heq]
    · simp [hgt, hgt.ne', hgt.le]

theorem fetch_eq_finished {code : Array Word} {a : Address} :
    fetch code a = .finished ↔ a.space = .dynamic ∧ a.toNat = code.size := by
  unfold fetch
  cases a.space with
  | static => simp
  | dynamic =>
    rcases Nat.lt_trichotomy a.toNat code.size with hlt | heq | hgt
    · simp [hlt, hlt.ne]
    · simp [heq]
    · simp [hgt.ne', hgt.le]

theorem fetch_eq_word {code : Array Word} {a : Address} {w : Word} :
    fetch code a = .word w ↔ a.space = .dynamic ∧ code[a.toNat]? = some w := by
  unfold fetch
  cases a.space with
  | static => simp
  | dynamic =>
    cases code[a.toNat]? with
    | none => by_cases hsize : a.toNat = code.size <;> simp [hsize]
    | some v => simp

theorem lt_size_of_fetch {code : Array Word} {a : Address} {w : Word}
    (h : fetch code a = .word w) : a.toNat < code.size := by
  obtain ⟨-, hword⟩ := fetch_eq_word.mp h
  exact (Array.getElem?_eq_some_iff.mp hword).1

/-- Behind a dynamic address, the next one does not wrap around. -/
theorem Address.toNat_next {a : Address} (h : a.space = .dynamic) :
    a.next.toNat = a.toNat + 1 := by
  have hlt := Address.space_eq_dynamic.mp h
  have hone : (1 : UInt64).toNat = 1 := rfl
  simp only [next, toNat, spaceSize] at *
  rw [UInt64.toNat_add]
  omega

/-- In code that fits into the dynamic space, what stands behind a word is a word or the end of the
code. -/
theorem fetch_next_ne_outside {code : Array Word} (hcode : code.size < spaceSize) {a : Address}
    {w : Word} (h : fetch code a = .word w) : fetch code a.next ≠ .outside := by
  have hlt := lt_size_of_fetch h
  have hnext := Address.toNat_next (fetch_eq_word.mp h).1
  intro houtside
  rcases fetch_eq_outside.mp houtside with hstatic | hgt
  · have hdynamic : a.next.space = .dynamic := Address.space_eq_dynamic.mpr (by omega)
    rw [hdynamic] at hstatic
    cases hstatic
  · omega

/-! ## Jumps and pending calls -/

/-- Where an operation jumps to, if it does. `x` and `y` are the values of its operands. -/
def Opcode.target? (x y : UInt64) (calls : CallStack) : Opcode → Option Address
  | goto => some ⟨x⟩
  | branch c => if c.holds x then some ⟨y⟩ else none
  | call => if Address.space ⟨x⟩ = .dynamic then some ⟨x⟩ else none
  | ret => calls.items.head?.map Address.next
  | _ => none

/-- The calls pending after an operation at an address. -/
def Opcode.pending (address : Address) (x : UInt64) (calls : CallStack) : Opcode → CallStack
  | call => if Address.space ⟨x⟩ = .dynamic then calls.extend [address] else calls
  | ret => calls.drop 1
  | _ => calls

/-- An operation that does not jump leaves the pending calls. -/
theorem Opcode.pending_of_target?_eq_none {x y : UInt64} {calls : CallStack} {op : Opcode}
    (h : op.target? x y calls = none) (address : Address) : op.pending address x calls = calls := by
  cases op with
  | call =>
    have hspace : Address.space ⟨x⟩ ≠ .dynamic := by simpa [target?] using h
    exact if_neg hspace
  | ret =>
    -- A return does not jump only if there is no pending call to drop.
    have hitems : calls.items = [] := by simpa [target?] using h
    have hdepth : calls.depth = 0 := by rw [calls.depth_eq, hitems, List.length_nil]
    cases calls
    simp_all [pending, Stack.drop]
  | _ => rfl

/-- Where the word at the program counter jumps to, if it does. -/
def Machine.target? (m : Machine) (w : Word) : Option Address :=
  w.opcode?.bind (Opcode.target? (m.register w.first) (m.register w.second) m.calls)

/-- The calls pending after the word at the program counter. -/
def Machine.pending (m : Machine) (w : Word) : CallStack :=
  (w.opcode?.map (Opcode.pending m.counter (m.register w.first) m.calls)).getD m.calls

theorem Machine.pending_of_target?_eq_none {m : Machine} {w : Word} (h : m.target? w = none) :
    m.pending w = m.calls := by
  unfold target? at h
  unfold pending
  cases hop : w.opcode? with
  | none => rfl
  | some op =>
    rw [hop] at h
    exact Opcode.pending_of_target?_eq_none h m.counter

/-- A machine with given pending calls and a given program counter. -/
def Machine.Stands (calls : CallStack) (counter : Address) (m : Machine) : Prop :=
  m.calls = calls ∧ m.counter = counter

theorem Machine.steady_stands (calls : CallStack) (counter : Address) :
    Machine.Steady (Machine.Stands calls counter) := by
  constructor <;> intros <;> assumption

/-- A flow that jumps to a target, or to none, and a machine with the program counter still where it
was. -/
structure Machine.Led (target? : Option Address) (calls : CallStack) (counter : Address)
    (flow : Flow) (m : Machine) : Prop where
  jump_iff : ∀ a, flow = .jump a ↔ target? = some a
  stands : m.Stands calls counter

theorem Machine.Led.target?_eq_none {target? : Option Address} {calls : CallStack}
    {counter : Address} {flow : Flow} {m : Machine} (h : m.Led target? calls counter flow)
    (hflow : ∀ a, flow ≠ .jump a) : target? = none := by
  refine Option.eq_none_iff_forall_ne_some.mpr fun a ha => ?_
  exact hflow a ((h.jump_iff a).mpr ha)

open Effect WordMachine.Action

/-- A computation leads to a target and to pending calls. A fault is one of a word, and leaves the
pending calls and the program counter. -/
abbrev Action.Leads (calls : CallStack) (counter : Address) (x : Action Flow)
    (target? : Option Address) (calls' : CallStack) : Prop :=
  Triple (Machine.Stands calls counter) x (Machine.Led target? calls' counter)
    fun e m => m.Stands calls counter ∧ e.OfWord

variable {calls : CallStack} {counter : Address}

theorem Action.leads_pure {flow : Flow} (h : ∀ a, flow ≠ .jump a) :
    Leads calls counter (pure flow) none calls := by
  refine triple_pure fun m hm => ⟨fun a => ?_, hm⟩
  simp [h a]

theorem Action.leads_jump (a : Address) : Leads calls counter (pure (.jump a)) (some a) calls := by
  refine triple_pure fun m hm => ⟨fun b => ?_, hm⟩
  simp

namespace Opcode

theorem leads_assign (a : RegisterIndex) (value : UInt64) :
    Leads calls counter (assign a value) none calls := by
  have hmodify : Sound (Machine.Stands calls counter)
      (modify fun m : Machine => m.setRegister a value) := triple_modify fun _ hm => hm
  refine triple_bind hmodify fun _ => leads_pure ?_
  rintro _ ⟨⟩

theorem leads_callHost (address : Address) (number : Nat) :
    Leads calls counter (callHost address number) none calls := by
  have hsteady := Machine.steady_stands calls counter
  unfold callHost
  split
  · exact triple_throw fun _ hm => ⟨hm, trivial⟩
  · refine triple_bind (sound_note hsteady _) fun _ => ?_
    refine triple_bind (HostFunction.sound_begin hsteady _) fun progress => ?_
    cases progress <;> exact leads_pure (by rintro _ ⟨⟩)

theorem leads_call (address target : Address) :
    Leads calls counter
      (update (fun m => return { m with calls := ← m.calls.push address }) >>= fun _ =>
        pure (.jump target)) (some target) (calls.extend [address]) := by
  have hpush : Triple (Machine.Stands calls counter)
      (update fun m => return { m with calls := ← m.calls.push address })
      (fun _ => Machine.Stands (calls.extend [address]) counter)
      fun e m => m.Stands calls counter ∧ e.OfWord := by
    constructor
    · intro m m' _ hm h
      obtain ⟨calls', hcalls, rfl⟩ := except_map_eq_ok.mp (update_eq_ok.mp h)
      obtain ⟨-, rfl⟩ := CallStack.push_eq_ok.mp hcalls
      obtain ⟨rfl, hcounter⟩ := hm
      exact ⟨rfl, hcounter⟩
    · intro m m' e hm h
      obtain ⟨hfault, rfl⟩ := update_eq_error.mp h
      rw [CallStack.push_error (except_map_eq_error.mp hfault)]
      exact ⟨hm, trivial⟩
  refine triple_bind hpush fun _ => triple_pure fun m hm => ⟨fun b => ?_, hm⟩
  simp

theorem leads_ret (address : Address) (a : RegisterIndex) (x y : UInt64) (literal : UInt8) :
    Leads calls counter (run address a x y literal ret) (target? x y calls ret)
      (calls.drop 1) := by
  constructor
  · intro m m' flow hm h
    obtain ⟨rfl, hcounter⟩ := hm
    simp only [run] at h
    split at h
    · rename_i caller rest hpop
      obtain ⟨hhead, rfl⟩ := CallStack.pop_eq_ok.mp hpop
      cases h
      refine ⟨fun b => ?_, rfl, hcounter⟩
      simp [target?, hhead]
    · cases h
  · intro m m' e hm h
    simp only [run] at h
    split at h
    · cases h
    · rename_i hpop
      cases h
      rw [CallStack.pop_error hpop]
      exact ⟨hm, trivial⟩

theorem leads_run (address : Address) (a : RegisterIndex) (x y : UInt64) (literal : UInt8)
    (op : Opcode) :
    Leads calls counter (op.run address a x y literal) (op.target? x y calls)
      (op.pending address x calls) := by
  have hsteady := Machine.steady_stands calls counter
  have hnext : Leads calls counter (pure .next) none calls := leads_pure (by rintro _ ⟨⟩)
  cases op with
  | nop => exact hnext
  | mov => exact leads_assign a y
  | binary op =>
    simp only [run]
    split
    · exact leads_assign a _
    · exact triple_throw fun _ hm => ⟨hm, trivial⟩
  | not => exact leads_assign a _
  | double op => exact leads_assign a _
  | pushRegister w => exact triple_bind (sound_push hsteady x w.bytes_le) fun _ => hnext
  | pushLiteral => exact triple_bind (sound_pushByte hsteady literal) fun _ => hnext
  | pop w => exact triple_bind (sound_pop hsteady w.bytes) fun _ => leads_assign a _
  | store w => exact triple_bind (sound_writeValue hsteady ⟨x⟩ y w.bytes_le) fun _ => hnext
  | load w =>
    refine triple_bind (sound_look fun m e h => ?_) fun _ => leads_assign a _
    exact (Memory.readBytes_error (except_map_eq_error.mp h)).ofWord
  | shift d => exact leads_assign a _
  | branch c =>
    simp only [run, target?]
    split
    · exact leads_jump ⟨y⟩
    · exact hnext
  | goto => exact leads_jump ⟨x⟩
  | call =>
    simp only [run, target?, pending]
    cases hspace : Address.space ⟨x⟩ with
    | static => exact leads_callHost address _
    | dynamic => exact leads_call address ⟨x⟩
  | ret => exact leads_ret address a x y literal

end Opcode

/-- Where the word at the program counter leads, whatever was reported before. -/
theorem leads_step (m : Machine) (w : Word) :
    Triple (m.Popped 0) (step m.counter w) (Machine.Led (m.target? w) (m.pending w) m.counter)
      fun e d => d.Stands m.calls m.counter ∧ e.OfWord := by
  have hstands : ∀ d, m.Popped 0 d → d.Stands m.calls m.counter :=
    fun d hd => ⟨hd.calls, hd.counter⟩
  unfold Machine.target? Machine.pending
  cases hop : w.opcode? with
  | none =>
    unfold step
    rw [hop]
    exact triple_throw fun d hd => ⟨hstands d hd, trivial⟩
  | some op => exact triple_step hop ((Opcode.leads_run _ _ _ _ _ op).of_pre hstands)

end WordMachine
