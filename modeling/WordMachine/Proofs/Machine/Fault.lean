import WordMachine.Machine.Step
import WordMachine.Proofs.Machine.Action

/-!
# Where a word faults

A fault comes before every lasting change. A word that calls no host function faults in place. A
host function faults while it takes and checks its arguments, or when the host refuses: whatever it
changes comes last, and its result fits on the calculation stack, because an argument left room.

* `Machine.Faulted` : a machine after a fault of a host function.
* `Machine.Calls` : which host function a word calls.
* `triple_step_of_calls`, `triple_step_of_not_calls` : the faults of a word.
* `Request.triple_finish` : the faults after the answer of the host.
-/

namespace WordMachine

open Effect

/-- A fault that is not an overflow of the calculation stack. -/
def Fault.NotOverflow (e : Fault) : Prop := ∀ limit, e ≠ .stackOverflow limit

/-- A fault of an access to memory. -/
def Fault.OfMemory : Fault → Prop
  | unmapped _ _ | crossesSpace _ _ _ | heapExhausted _ _ | writeToStatic _ => True
  | _ => False

theorem Fault.OfMemory.notOverflow {e : Fault} (h : e.OfMemory) : e.NotOverflow := by
  rintro limit rfl
  exact h

/-! ## Memory -/

namespace Memory

variable {m : Memory} {e : Fault}

theorem readAt_error {s : Space} {offset : Nat} (h : m.readAt s offset = .error e) :
    e.OfMemory := by
  unfold readAt at h
  split at h
  · cases h
  · cases h
    trivial

theorem checkSpan_error {a : Address} {length : Nat} (h : checkSpan a length = .error e) :
    e.OfMemory := by
  unfold checkSpan at h
  split at h
  · cases h
  · cases h
    trivial

theorem collect_error {s : Space} {offset length : Nat} {done : List UInt8}
    (h : m.collect s offset length done = .error e) : e.OfMemory := by
  induction length generalizing offset done with
  | zero => cases h
  | succ length ih =>
    unfold collect at h
    split at h
    · rename_i hread
      cases h
      exact readAt_error hread
    · exact ih h

theorem collectString_error {s : Space} {start room offset : Nat} {done : List UInt8}
    (h : m.collectString s start room offset done = .error e) : e.OfMemory := by
  induction room generalizing offset done with
  | zero =>
    cases h
    trivial
  | succ room ih =>
    unfold collectString at h
    split at h
    · rename_i hread
      cases h
      exact readAt_error hread
    · split at h
      · cases h
      · exact ih h

theorem readString_error {a : Address} (h : m.readString a = .error e) : e.OfMemory :=
  collectString_error h

theorem readBytes_error {a : Address} {length : Nat} (h : m.readBytes a length = .error e) :
    e.OfMemory := by
  rcases except_bind_eq_error.mp h with hspan | ⟨-, -, hcollect⟩
  · exact checkSpan_error hspan
  · exact collect_error hcollect

theorem writeBytes_error {a : Address} {bytes : List UInt8} (h : m.writeBytes a bytes = .error e) :
    e.OfMemory := by
  rcases except_bind_eq_error.mp h with hspan | ⟨-, -, hwrite⟩
  · exact checkSpan_error hspan
  · split at hwrite
    · cases hwrite
    · split at hwrite
      · cases hwrite
      · cases hwrite
        trivial

theorem allocate_error {size : Nat} (h : m.allocate size = .error e) : e.OfMemory := by
  unfold allocate at h
  split at h
  · cases h
    trivial
  · cases h

theorem release_error {a : Address} {size : Nat} (h : m.release a size = .error e) :
    e.OfMemory := by
  unfold release at h
  split at h
  · cases h
    trivial
  · rcases except_bind_eq_error.mp h with hspan | ⟨-, -, hrelease⟩
    · exact checkSpan_error hspan
    · cases hrelease

end Memory

/-! ## Actions -/

/-- A machine after a fault of a host function: at most `k` whole arguments were taken off the
calculation stack, which did not overflow, and nothing else has changed. -/
structure Machine.Faulted (m : Machine) (k : Nat) (e : Fault) (m' : Machine) : Prop where
  popped : ∃ j ≤ k, m.Popped (8 * j) m'
  notOverflow : e.NotOverflow

/-- There is room for a result on the calculation stack. -/
def Machine.HasRoom (m : Machine) : Prop := m.stack.depth + 8 ≤ m.stack.limit

variable {m : Machine} {k : Nat}

theorem Machine.Popped.hasRoom {d : Machine} (h : m.Popped (8 * k) d) (hm : m.StackFits)
    (hk : 0 < k) : d.HasRoom := by
  have hroom := h.room hm
  unfold HasRoom
  omega

namespace Action

variable {α : Type} {P : Machine → Prop}

/-- A fault of an update leaves everything as it was. -/
theorem inPlace_update (f : Machine → Except Fault Machine) :
    Triple P (update f) (fun _ _ => True) (fun _ => P) where
  ok _ _ := trivial
  error hd h := (update_eq_error.mp h).2 ▸ hd

theorem inPlace_look (f : Machine → Except Fault α) :
    Triple P (look f) (fun _ _ => True) (fun _ => P) where
  ok _ _ := trivial
  error hd h := (look_eq_error.mp h).2 ▸ hd

theorem inPlace_pop (width : Nat) : Triple P (pop width) (fun _ _ => True) (fun _ => P) where
  ok _ _ := trivial
  error hd h := (pop_eq_error.mp h).2.2 ▸ hd

theorem triple_note {n : Nat} {E : Fault → Machine → Prop} (notice : Notice) :
    Triple (m.Popped n) (note notice) (fun _ => m.Popped n) E :=
  triple_modify fun d hd => hd.trans (Machine.popped_note d notice)

theorem triple_look {f : Machine → Except Fault α}
    (hf : ∀ d e, f d = .error e → e.NotOverflow) :
    Triple (m.Popped (8 * k)) (look f) (fun _ => m.Popped (8 * k)) (m.Faulted k) where
  ok hd h := (look_eq_ok.mp h).2 ▸ hd
  error hd h := by
    obtain ⟨he, rfl⟩ := look_eq_error.mp h
    exact ⟨⟨k, Nat.le_refl k, hd⟩, hf _ _ he⟩

theorem triple_update {f : Machine → Except Fault Machine} {Q : Unit → Machine → Prop}
    (hQ : ∀ d d', m.Popped (8 * k) d → f d = .ok d' → Q () d')
    (hf : ∀ d e, f d = .error e → e.NotOverflow) :
    Triple (m.Popped (8 * k)) (update f) Q (m.Faulted k) where
  ok hd h := hQ _ _ hd (update_eq_ok.mp h)
  error hd h := by
    obtain ⟨he, rfl⟩ := update_eq_error.mp h
    exact ⟨⟨k, Nat.le_refl k, hd⟩, hf _ _ he⟩

/-- Taking an argument, or faulting because the stack holds too few bytes. -/
theorem triple_popArgument (j : Nat) (hj : j ≤ k) :
    Triple (m.Popped (8 * j)) popArgument (fun _ => m.Popped (8 * (j + 1))) (m.Faulted k) where
  ok hd h := by
    obtain ⟨hle, -, rfl⟩ := pop_eq_ok.mp h
    exact hd.trans (Machine.popped_drop hle)
  error hd h := by
    obtain ⟨-, rfl, rfl⟩ := pop_eq_error.mp h
    exact ⟨⟨j, hj, hd⟩, by rintro limit ⟨⟩⟩

/-- Reserving a block keeps the room that an argument left. -/
theorem triple_allocate (hm : m.StackFits) (hk : 0 < k) (size : Nat) :
    Triple (m.Popped (8 * k)) (allocate size) (fun _ => Machine.HasRoom) (m.Faulted k) where
  ok hd h := by
    obtain ⟨memory, -, rfl⟩ := allocate_eq_ok h
    exact hd.hasRoom hm hk
  error hd h := by
    obtain ⟨he, rfl⟩ := allocate_eq_error h
    exact ⟨⟨k, Nat.le_refl k, hd⟩, (Memory.allocate_error he).notOverflow⟩

/-- Writing bytes keeps the room that an argument left. -/
theorem triple_writeBytes (hm : m.StackFits) (hk : 0 < k) (a : Address) (bytes : List UInt8) :
    Triple (m.Popped (8 * k)) (writeBytes a bytes) (fun _ => Machine.HasRoom) (m.Faulted k) := by
  rw [writeBytes_eq]
  refine triple_update (fun d d' hd h => ?_) fun d e h => ?_
  · obtain ⟨memory, -, rfl⟩ := except_map_eq_ok.mp h
    exact hd.hasRoom hm hk
  · exact (Memory.writeBytes_error (except_map_eq_error.mp h)).notOverflow

theorem triple_release (a : Address) (size : Nat) :
    Triple (m.Popped (8 * k)) (release a size) (fun _ _ => True) (m.Faulted k) := by
  refine triple_bind (triple_update (Q := fun _ _ => True) (fun _ _ _ _ => trivial) ?_) fun _ => ?_
  · intro d e h
    exact (Memory.release_error (except_map_eq_error.mp h)).notOverflow
  · exact triple_modify fun _ _ => trivial

/-- With room for it, a result is pushed without a fault. -/
theorem triple_pushResult {E : Fault → Machine → Prop} (value : UInt64) :
    Triple Machine.HasRoom (pushResult value) (fun _ _ => True) E where
  ok _ _ := trivial
  error {d} _ _ hd h := by
    have hok : push value 8 d = .ok () _ := push_eq_ok.mpr ⟨hd, Nat.le_refl 8, rfl⟩
    unfold pushResult at h
    rw [hok] at h
    cases h

end Action

open WordMachine.Action

/-! ## Host functions -/

/-- A machine whose host function asks for something. All its arguments were taken off the
calculation stack, and nothing else has changed, unless a file is closed. -/
def Machine.Asked (m : Machine) (k : Nat) (request : Request) (m' : Machine) : Prop :=
  m.Popped (8 * k) m' ∨ ∃ descriptor, request = .closeFile descriptor

/-- A machine after the part of a host function before the answer of the host. -/
def Machine.Begun (m : Machine) (k : Nat) (progress : Progress) (m' : Machine) : Prop :=
  ∀ request, progress = .ask request → m.Asked k request m'

theorem triple_refuse {α : Type} {e : Fault} {Q : α → Machine → Prop} (he : e.NotOverflow) :
    Triple (m.Popped (8 * k)) (throw e : Action α) Q (m.Faulted k) :=
  triple_throw fun _ hd => ⟨⟨k, Nat.le_refl k, hd⟩, he⟩

namespace HostFunction

theorem triple_requireOpen (descriptor : Nat) :
    Triple (m.Popped (8 * k)) (requireOpen descriptor) (fun _ => m.Popped (8 * k)) (m.Faulted k) :=
  triple_look fun d e h => by
    split at h
    · cases h
    · cases h
      rintro limit ⟨⟩

theorem triple_ask (request : Request) :
    Triple (m.Popped (8 * k)) (pure (.ask request) : Action Progress) (m.Begun k) (m.Faulted k) :=
  triple_pure fun _ hd _ _ => .inl hd

/-- The end of reading and writing: a descriptor of a file must be open, then the host is asked. -/
theorem triple_request (p : Prop) [Decidable p] (descriptor : Nat) (request : Request) :
    Triple (m.Popped (8 * k))
      (if p then requireOpen descriptor >>= fun _ => pure (.ask request)
        else pure (.ask request) : Action Progress) (m.Begun k) (m.Faulted k) :=
  triple_ite (triple_bind (triple_requireOpen descriptor) fun _ => triple_ask request)
    (triple_ask request)

theorem triple_beginRead (descriptor : Nat) (buffer : Address) (length : Nat) :
    Triple (m.Popped (8 * k)) (beginRead descriptor buffer length) (m.Begun k) (m.Faulted k) :=
  triple_ite
    (triple_bind (triple_refuse (by rintro limit ⟨⟩)) fun _ => triple_request _ descriptor _)
    (triple_request _ descriptor _)

theorem triple_beginWrite (descriptor : Nat) (buffer : Address) (length : Nat) :
    Triple (m.Popped (8 * k)) (beginWrite descriptor buffer length) (m.Begun k) (m.Faulted k) := by
  refine triple_bind (triple_look fun _ _ h => (Memory.readBytes_error h).notOverflow) ?_
  intro bytes
  refine triple_bind (triple_note _) fun _ => triple_ite ?_ (triple_request _ descriptor _)
  exact triple_bind (triple_refuse (by rintro limit ⟨⟩)) fun _ => triple_request _ descriptor _

theorem triple_begin (hm : m.StackFits) (f : HostFunction) :
    Triple (m.Popped 0) f.begin (m.Begun f.arity) (m.Faulted f.arity) := by
  -- The assertion between two actions counts the arguments taken so far.
  cases f with
  | read =>
    refine triple_bind (triple_popArgument 0 (by decide)) fun descriptor => ?_
    refine triple_bind (triple_popArgument 1 (by decide)) fun buffer => ?_
    refine triple_bind (triple_popArgument 2 (by decide)) fun length => ?_
    exact triple_beginRead _ _ _
  | write =>
    refine triple_bind (triple_popArgument 0 (by decide)) fun descriptor => ?_
    refine triple_bind (triple_popArgument 1 (by decide)) fun buffer => ?_
    refine triple_bind (triple_popArgument 2 (by decide)) fun length => ?_
    exact triple_beginWrite _ _ _
  | openFile =>
    refine triple_bind (triple_popArgument 0 (by decide)) fun name => ?_
    refine triple_bind (triple_look fun _ _ h => (Memory.readString_error h).notOverflow) ?_
    intro bytes
    exact triple_bind (triple_get fun _ hd => hd) fun d => triple_ask _
  | closeFile =>
    refine triple_bind (triple_popArgument 0 (by decide)) fun descriptor => ?_
    refine triple_bind (triple_note _) fun _ => ?_
    refine triple_bind (triple_requireOpen _) fun _ => ?_
    -- From here on the file is gone, but nothing is left that could fault.
    refine triple_bind (triple_modify (Q := fun _ _ => True) fun _ _ => trivial) fun _ => ?_
    exact triple_pure fun _ _ r hr => .inr ⟨descriptor.toNat, (Progress.ask.inj hr).symm⟩
  | exit =>
    refine triple_bind (triple_popArgument 0 (by decide)) fun status => ?_
    refine triple_bind (triple_note _) fun _ => ?_
    exact triple_pure fun _ _ r hr => by cases hr
  | malloc =>
    refine triple_bind (triple_popArgument 0 (by decide)) fun size => ?_
    refine triple_bind (triple_allocate hm Nat.one_pos _) fun address => ?_
    refine triple_bind (triple_pushResult _) fun _ => ?_
    exact triple_pure fun _ _ r hr => by cases hr
  | free =>
    refine triple_bind (triple_popArgument 0 (by decide)) fun address => ?_
    refine triple_bind (triple_popArgument 1 (by decide)) fun size => ?_
    refine triple_bind (triple_release _ _) fun _ => ?_
    exact triple_pure fun _ _ r hr => by cases hr

end HostFunction

/-- The faults after the answer of the host. -/
theorem Request.triple_finish (hm : m.StackFits) (hk : 0 < k) (request : Request) (reply : Reply) :
    Triple (m.Asked k request) (request.finish reply) (fun _ _ => True) (m.Faulted k) := by
  have hpopped : (∀ n, request ≠ .closeFile n) → ∀ d, m.Asked k request d → m.Popped (8 * k) d :=
    fun hr d hd => hd.resolve_right fun ⟨n, hn⟩ => hr n hn
  cases request with
  | readLine descriptor buffer limit =>
    refine Triple.of_pre ?_ (hpopped (by rintro n ⟨⟩))
    cases reply with
    | error reason => exact triple_refuse (by rintro limit ⟨⟩)
    | ok line =>
      refine triple_bind (triple_writeBytes hm hk buffer line) fun _ => ?_
      exact triple_bind (triple_modify fun _ hd => hd) fun _ => triple_pushResult _
  | write descriptor bytes =>
    refine Triple.of_pre ?_ (hpopped (by rintro n ⟨⟩))
    cases reply with
    | error reason => exact triple_refuse (by rintro limit ⟨⟩)
    | ok line => exact triple_pure fun _ _ => trivial
  | openFile descriptor path =>
    refine Triple.of_pre ?_ fun d hd => (hpopped (by rintro n ⟨⟩) d hd).hasRoom hm hk
    cases reply with
    | error reason => exact triple_bind (triple_modify fun _ hd => hd) fun _ => triple_pushResult _
    | ok line =>
      refine triple_bind (triple_modify (Q := fun _ => Machine.HasRoom) fun _ hd => hd) fun _ => ?_
      exact triple_bind (triple_modify fun _ hd => hd) fun _ => triple_pushResult _
  | closeFile descriptor => exact triple_pure fun _ _ => trivial

/-! ## Words -/

/-- A word calls a host function: it is a call, and its register holds the address of the
function. -/
def Machine.Calls (m : Machine) (w : Word) (f : HostFunction) : Prop :=
  w.opcode? = some .call ∧ m.register w.first = f.callAddress.bits

instance (m : Machine) (w : Word) (f : HostFunction) : Decidable (m.Calls w f) :=
  inferInstanceAs (Decidable (_ ∧ _))

namespace HostFunction

theorem number_of_ofNumber? {n : Nat} {f : HostFunction} (h : ofNumber? n = some f) :
    f.number = n := by
  simpa using List.find?_some h

theorem arity_pos (f : HostFunction) : 0 < f.arity := by
  cases f <;> decide

theorem arity_le_three (f : HostFunction) : f.arity ≤ 3 := by
  cases f <;> decide

theorem number_lt (f : HostFunction) : f.number < spaceSize := by
  cases f <;> decide

theorem callAddress_spec (f : HostFunction) :
    f.callAddress.space = .static ∧ ofNumber? f.callAddress.offset = some f := by
  cases f <;> decide

/-- A static address is the one of the function whose number is its offset. -/
theorem eq_callAddress {a : Address} {f : HostFunction} (hspace : a.space = .static)
    (hf : ofNumber? a.offset = some f) : a = f.callAddress := by
  have hnumber := number_of_ofNumber? hf
  have hstatic : spaceSize ≤ a.bits.toNat := by
    unfold Address.space at hspace
    split at hspace
    · cases hspace
    · rename_i h
      exact Nat.not_lt.mp h
  have hlt := a.bits.toNat_lt
  have hbits : a.bits.toNat = f.number % spaceSize + spaceSize := by
    rw [Nat.mod_eq_of_lt f.number_lt, hnumber]
    unfold Address.offset Address.toNat
    simp only [spaceSize] at hstatic ⊢
    omega
  have haddress : f.callAddress = ⟨UInt64.ofNat (f.number % spaceSize + spaceSize)⟩ := rfl
  rw [haddress, ← hbits, UInt64.ofNat_toNat]

end HostFunction

namespace Opcode

theorem triple_assign {P : Machine → Prop} {E : Fault → Machine → Prop} (a : RegisterIndex)
    (value : UInt64) : Triple P (assign a value) (fun flow _ => ∀ r, flow ≠ .ask r) E :=
  triple_bind (triple_modify (Q := fun _ _ => True) fun _ _ => trivial) fun _ =>
    triple_pure fun _ _ => by rintro r ⟨⟩

/-- An operation that calls no host function faults in place and does not ask the host. -/
theorem triple_run {P : Machine → Prop} (address : Address) (a : RegisterIndex) (x y : UInt64)
    (literal : UInt8) (op : Opcode)
    (hop : op = .call → ∀ f : HostFunction, x ≠ f.callAddress.bits) :
    Triple P (op.run address a x y literal) (fun flow _ => ∀ r, flow ≠ .ask r) (fun _ => P) := by
  have hnext : Triple (fun _ => True) (pure .next : Action Flow)
      (fun flow _ => ∀ r, flow ≠ .ask r) (fun _ => P) := triple_pure fun _ _ => by rintro r ⟨⟩
  cases op with
  | nop => exact triple_pure fun _ _ => by rintro r ⟨⟩
  | mov => exact triple_assign a y
  | binary op =>
    simp only [run]
    split
    · exact triple_assign a _
    · exact triple_throw fun _ hd => hd
  | not => exact triple_assign a _
  | double op => exact triple_assign a _
  | pushRegister w => exact triple_bind (inPlace_update _) fun _ => hnext
  | pushLiteral => exact triple_bind (inPlace_update _) fun _ => hnext
  | pop w => exact triple_bind (inPlace_pop w.bytes) fun _ => triple_assign a _
  | store w =>
    refine triple_bind ?_ fun _ => hnext
    rw [writeValue_eq]
    exact inPlace_update _
  | load w => exact triple_bind (inPlace_look _) fun _ => triple_assign a _
  | shift d => exact triple_assign a _
  | branch c =>
    refine triple_pure fun _ _ => ?_
    split <;> rintro r ⟨⟩
  | goto => exact triple_pure fun _ _ => by rintro r ⟨⟩
  | call =>
    simp only [run]
    split
    · rename_i hspace
      unfold callHost
      split
      · exact triple_throw fun _ hd => hd
      · rename_i f hf
        exact absurd (congrArg Address.bits (HostFunction.eq_callAddress hspace hf)) (hop rfl f)
    · exact triple_bind (inPlace_update _) fun _ => triple_pure fun _ _ => by rintro r ⟨⟩
  | ret =>
    constructor
    · intro d d' flow _ h
      simp only [run] at h
      split at h
      · cases h
        rintro r ⟨⟩
      · cases h
    · intro d d' e hd h
      simp only [run] at h
      split at h
      · cases h
      · cases h
        exact hd

theorem run_call_of_static {target : Address} (h : target.space = .static) (address : Address)
    (a : RegisterIndex) (y : UInt64) (literal : UInt8) :
    run address a target.bits y literal .call = callHost address target.offset := by
  cases target
  simp only [run]
  rw [h]

theorem triple_callHost (hm : m.StackFits) {number : Nat} {f : HostFunction}
    (hf : HostFunction.ofNumber? number = some f) (address : Address) :
    Triple (m.Popped 0) (callHost address number)
      (fun flow d => ∀ r, flow = .ask r → m.Asked f.arity r d) (m.Faulted f.arity) := by
  unfold callHost
  rw [hf]
  refine triple_bind (triple_note _) fun _ => triple_bind (f.triple_begin hm) fun progress => ?_
  cases progress with
  | done => exact triple_pure fun _ _ => by rintro r ⟨⟩
  | exit status => exact triple_pure fun _ _ => by rintro r ⟨⟩
  | ask request =>
    refine triple_pure fun d hd r hr => ?_
    cases hr
    exact hd request rfl

end Opcode

/-- The common start of every word: its operands are read, and it is reported. -/
theorem triple_step {address : Address} {w : Word} {op : Opcode} {Q : Flow → Machine → Prop}
    {E : Fault → Machine → Prop} (hw : w.opcode? = some op)
    (hrun : Triple (m.Popped 0)
      (op.run address w.first (m.register w.first) (m.register w.second) w.literal) Q E) :
    Triple (m.Popped 0) (step address w) Q E := by
  unfold step
  rw [hw]
  refine triple_bind (Q := fun d s => d.registers = m.registers ∧ m.Popped 0 s)
    (triple_get fun d hd => ⟨hd.registers, hd⟩) fun d => triple_and fun hregisters => ?_
  have hregister : d.register = m.register := by
    funext i
    simp only [Machine.register, hregisters]
  rw [hregister]
  exact triple_bind (triple_note _) fun _ => hrun

/-- A word that calls no host function faults in place and does not ask the host. -/
theorem triple_step_of_not_calls {w : Word} (hw : ∀ f, ¬ m.Calls w f) (address : Address) :
    Triple (m.Popped 0) (step address w) (fun flow _ => ∀ r, flow ≠ .ask r)
      (fun _ => m.Popped 0) := by
  cases hop : w.opcode? with
  | none =>
    unfold step
    rw [hop]
    exact triple_throw fun _ hd => hd
  | some op =>
    exact triple_step hop (Opcode.triple_run _ _ _ _ _ _ fun hcall f hf => hw f ⟨hcall ▸ hop, hf⟩)

/-- A word that calls a host function faults with at most the arguments taken. -/
theorem triple_step_of_calls (hm : m.StackFits) {w : Word} {f : HostFunction} (hw : m.Calls w f)
    (address : Address) :
    Triple (m.Popped 0) (step address w) (fun flow d => ∀ r, flow = .ask r → m.Asked f.arity r d)
      (m.Faulted f.arity) := by
  obtain ⟨hop, hx⟩ := hw
  obtain ⟨hspace, hnumber⟩ := f.callAddress_spec
  refine triple_step hop ?_
  rw [hx, Opcode.run_call_of_static hspace]
  exact Opcode.triple_callHost hm hnumber address

end WordMachine
