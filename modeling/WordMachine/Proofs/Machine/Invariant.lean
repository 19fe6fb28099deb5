import WordMachine.Proofs.Machine.Fault
import WordMachine.Proofs.Memory.Heap

/-!
# Invariants of a machine

A word works on a machine by a few kinds of changes: it sets registers, moves bytes on the
calculation stack, moves the program counter, calls and returns, writes, reserves and releases
memory, and opens and closes descriptors. A property that none of these changes breaks is kept by
every word, and by every answer of the host, whether the word faults or not. No fault is a misuse:
widths are at most eight bytes. None is about the program counter: that fault comes before a word.

* `Machine.Steady`, `Machine.Stable` : properties that no single change breaks.
* `Action.Sound` : a property is kept, and every fault is one of a word.
* `sound_step`, `Request.sound_finish` : words and answers of the host are sound.
* `Machine.stable_stackFits` : the calculation stack stays within its limit.
-/

namespace WordMachine

/-- A property of machines that no change made by a host function breaks. -/
structure Machine.Steady (I : Machine → Prop) : Prop where
  journal {m : Machine} (journal : List Entry) : I m → I { m with journal }
  descriptors {m : Machine} (descriptors : Descriptors) : I m → I { m with descriptors }
  drop {m : Machine} (n : Nat) : I m → I { m with stack := m.stack.drop n }
  extend {m : Machine} (bytes : List UInt8) : I m →
    m.stack.depth + bytes.length ≤ m.stack.limit → I { m with stack := m.stack.extend bytes }
  written {m : Machine} (written : Std.ExtTreeMap Nat UInt8) : I m →
    I { m with memory := { m.memory with written } }
  allocate {m : Machine} {size : Nat} {a : Address} {memory : Memory} : I m →
    m.memory.allocate size = .ok (a, memory) → I { m with memory }
  release {m : Machine} {a : Address} {size : Nat} {memory : Memory} : I m →
    m.memory.release a size = .ok memory → I { m with memory }

/-- A property of machines that no change made by a word breaks. -/
structure Machine.Stable (I : Machine → Prop) : Prop extends Machine.Steady I where
  counter {m : Machine} (counter : Address) : I m → I { m with counter }
  registers {m : Machine} (registers : Vector UInt64 16) : I m → I { m with registers }
  call {m : Machine} (a : Address) : I m → m.calls.depth < m.calls.limit →
    I { m with calls := m.calls.extend [a] }
  ret {m : Machine} : I m → I { m with calls := m.calls.drop 1 }

/-- A fault that a word may have. The other two are a program counter with no word to execute, and
a misuse. -/
def Fault.OfWord : Fault → Prop
  | counterOutOfRange _ _ | misuse => False
  | _ => True

open Effect

variable {I : Machine → Prop}

theorem Fault.OfMemory.ofWord {e : Fault} (h : e.OfMemory) : e.OfWord := by
  cases e <;> trivial

/-! ## Actions -/

namespace Action

variable {α : Type}

/-- A computation keeps a property of machines, whether it faults or not, and every fault is one of
a word. -/
abbrev Sound (I : Machine → Prop) (x : Action α) : Prop :=
  Triple I x (fun _ => I) fun e m => I m ∧ e.OfWord

theorem Sound.keeps {x : Action α} (h : Sound I x) : Keeps I x where
  ok hm hx := Triple.ok h hm hx
  error hm hx := (Triple.error h hm hx).1

theorem sound_pure (a : α) : Sound I (pure a : Action α) := triple_pure fun _ h => h

theorem sound_throw {e : Fault} (he : e.OfWord) : Sound I (throw e : Action α) :=
  triple_throw fun _ h => ⟨h, he⟩

theorem sound_note (hI : Machine.Steady I) (n : Notice) : Sound I (note n) :=
  triple_modify fun _ h => hI.journal _ h

theorem sound_update {f : Machine → Except Fault Machine}
    (hf : ∀ m m', I m → f m = .ok m' → I m') (he : ∀ m e, f m = .error e → e.OfWord) :
    Sound I (update f) where
  ok hm h := hf _ _ hm (update_eq_ok.mp h)
  error hm h := by
    obtain ⟨hfault, rfl⟩ := update_eq_error.mp h
    exact ⟨hm, he _ _ hfault⟩

theorem sound_look {f : Machine → Except Fault α} (he : ∀ m e, f m = .error e → e.OfWord) :
    Sound I (look f) where
  ok hm h := (look_eq_ok.mp h).2 ▸ hm
  error hm h := by
    obtain ⟨hfault, rfl⟩ := look_eq_error.mp h
    exact ⟨hm, he _ _ hfault⟩

theorem sound_pop (hI : Machine.Steady I) (width : Nat) : Sound I (pop width) where
  ok hm h := by
    obtain ⟨-, -, rfl⟩ := pop_eq_ok.mp h
    exact hI.drop width hm
  error hm h := by
    obtain ⟨-, rfl, rfl⟩ := pop_eq_error.mp h
    exact ⟨hm, trivial⟩

theorem sound_push (hI : Machine.Steady I) (value : UInt64) {width : Nat} (hwidth : width ≤ 8) :
    Sound I (push value width) := by
  refine sound_update (fun m m' hm h => ?_) fun m e h => ?_
  · obtain ⟨t, ht, rfl⟩ := except_map_eq_ok.mp h
    obtain ⟨hroom, -, rfl⟩ := ByteStack.push_eq_ok.mp ht
    exact hI.extend _ hm (by rwa [length_littleEndian])
  · rw [ByteStack.push_error hwidth (except_map_eq_error.mp h)]
    trivial

theorem sound_pushByte (hI : Machine.Steady I) (b : UInt8) :
    Sound I (update fun m => return { m with stack := ← m.stack.pushByte b }) := by
  refine sound_update (fun m m' hm h => ?_) fun m e h => ?_
  · obtain ⟨t, ht, rfl⟩ := except_map_eq_ok.mp h
    obtain ⟨hroom, rfl⟩ := ByteStack.pushByte_eq_ok.mp ht
    exact hI.extend [b] hm hroom
  · rw [ByteStack.pushByte_error (except_map_eq_error.mp h)]
    trivial

theorem sound_call (hI : Machine.Stable I) (a : Address) :
    Sound I (update fun m => return { m with calls := ← m.calls.push a }) := by
  refine sound_update (fun m m' hm h => ?_) fun m e h => ?_
  · obtain ⟨calls, hcalls, rfl⟩ := except_map_eq_ok.mp h
    obtain ⟨hdepth, rfl⟩ := CallStack.push_eq_ok.mp hcalls
    exact hI.call a hm hdepth
  · rw [CallStack.push_error (except_map_eq_error.mp h)]
    trivial

theorem sound_writeBytes (hI : Machine.Steady I) (a : Address) (bytes : List UInt8) :
    Sound I (writeBytes a bytes) := by
  rw [writeBytes_eq]
  refine sound_update (fun m m' hm h => ?_) fun m e h => ?_
  · obtain ⟨memory, hmemory, rfl⟩ := except_map_eq_ok.mp h
    obtain ⟨written, rfl⟩ := Memory.writeBytes_ok hmemory
    exact hI.written written hm
  · exact (Memory.writeBytes_error (except_map_eq_error.mp h)).ofWord

theorem sound_writeValue (hI : Machine.Steady I) (a : Address) (value : UInt64) {width : Nat}
    (hwidth : width ≤ 8) :
    Sound I (writeValue a value width) := by
  rw [writeValue_eq]
  refine sound_update (fun m m' hm h => ?_) fun m e h => ?_
  · obtain ⟨memory, hmemory, rfl⟩ := except_map_eq_ok.mp h
    obtain ⟨written, rfl⟩ := Memory.writeValue_ok hmemory
    exact hI.written written hm
  · have hwrite := except_map_eq_error.mp h
    rw [Memory.writeValue, if_neg (Nat.not_lt.mpr hwidth)] at hwrite
    exact (Memory.writeBytes_error hwrite).ofWord

theorem sound_allocate (hI : Machine.Steady I) (size : Nat) : Sound I (allocate size) where
  ok hm h := by
    obtain ⟨memory, hmemory, rfl⟩ := allocate_eq_ok h
    exact hI.journal _ (hI.allocate hm hmemory)
  error hm h := by
    obtain ⟨hfault, rfl⟩ := allocate_eq_error h
    exact ⟨hm, (Memory.allocate_error hfault).ofWord⟩

theorem sound_release (hI : Machine.Steady I) (a : Address) (size : Nat) :
    Sound I (release a size) := by
  refine triple_bind (sound_update (fun m m' hm h => ?_) fun m e h => ?_) fun _ => sound_note hI _
  · obtain ⟨memory, hmemory, rfl⟩ := except_map_eq_ok.mp h
    exact hI.release hm hmemory
  · exact (Memory.release_error (except_map_eq_error.mp h)).ofWord

end Action

open WordMachine.Action

/-! ## Host functions -/

namespace HostFunction

theorem sound_requireOpen (descriptor : Nat) : Sound I (requireOpen descriptor) := by
  refine sound_look fun m e h => ?_
  split at h
  · cases h
  · cases h
    exact trivial

/-- The end of reading and writing: a descriptor of a file must be open, then the host is asked. -/
theorem sound_request (p : Prop) [Decidable p] (descriptor : Nat) (request : Request) :
    Sound I (if p then requireOpen descriptor >>= fun _ => pure (.ask request)
      else pure (.ask request) : Action Progress) :=
  triple_ite (triple_bind (sound_requireOpen _) fun _ => sound_pure _) (sound_pure _)

theorem sound_beginRead (descriptor : Nat) (buffer : Address) (length : Nat) :
    Sound I (beginRead descriptor buffer length) :=
  triple_ite (triple_bind (sound_throw trivial) fun _ => sound_request _ _ _)
    (sound_request _ _ _)

theorem sound_beginWrite (hI : Machine.Steady I) (descriptor : Nat) (buffer : Address)
    (length : Nat) : Sound I (beginWrite descriptor buffer length) := by
  refine triple_bind (sound_look fun _ _ h => (Memory.readBytes_error h).ofWord) fun bytes => ?_
  refine triple_bind (sound_note hI _) fun _ => triple_ite ?_ (sound_request _ _ _)
  exact triple_bind (sound_throw trivial) fun _ => sound_request _ _ _

theorem sound_begin (hI : Machine.Steady I) (f : HostFunction) : Sound I f.begin := by
  cases f with
  | read =>
    refine triple_bind (sound_pop hI 8) fun descriptor => ?_
    refine triple_bind (sound_pop hI 8) fun buffer => ?_
    refine triple_bind (sound_pop hI 8) fun length => ?_
    exact sound_beginRead _ _ _
  | write =>
    refine triple_bind (sound_pop hI 8) fun descriptor => ?_
    refine triple_bind (sound_pop hI 8) fun buffer => ?_
    refine triple_bind (sound_pop hI 8) fun length => ?_
    exact sound_beginWrite hI _ _ _
  | openFile =>
    refine triple_bind (sound_pop hI 8) fun name => ?_
    refine triple_bind (sound_look fun _ _ h => (Memory.readString_error h).ofWord) ?_
    intro bytes
    exact triple_bind (triple_get fun _ h => h) fun m => sound_pure _
  | closeFile =>
    refine triple_bind (sound_pop hI 8) fun descriptor => ?_
    refine triple_bind (sound_note hI _) fun _ => ?_
    refine triple_bind (sound_requireOpen _) fun _ => ?_
    exact triple_bind (triple_modify fun _ h => hI.descriptors _ h) fun _ => sound_pure _
  | exit =>
    refine triple_bind (sound_pop hI 8) fun status => ?_
    exact triple_bind (sound_note hI _) fun _ => sound_pure _
  | malloc =>
    refine triple_bind (sound_pop hI 8) fun size => ?_
    refine triple_bind (sound_allocate hI _) fun address => ?_
    exact triple_bind (sound_push hI _ le_rfl) fun _ => sound_pure _
  | free =>
    refine triple_bind (sound_pop hI 8) fun address => ?_
    refine triple_bind (sound_pop hI 8) fun size => ?_
    exact triple_bind (sound_release hI _ _) fun _ => sound_pure _

end HostFunction

theorem Request.sound_finish (hI : Machine.Steady I) (request : Request) (reply : Reply) :
    Sound I (request.finish reply) := by
  cases request with
  | readLine descriptor buffer limit =>
    cases reply with
    | error reason => exact sound_throw trivial
    | ok line =>
      exact triple_bind (sound_writeBytes hI buffer line) fun _ =>
        triple_bind (sound_note hI _) fun _ => sound_push hI _ le_rfl
  | write descriptor bytes =>
    cases reply with
    | error reason => exact sound_throw trivial
    | ok line => exact sound_pure _
  | openFile descriptor path =>
    cases reply with
    | error reason => exact triple_bind (sound_note hI _) fun _ => sound_push hI _ le_rfl
    | ok line =>
      exact triple_bind (triple_modify fun _ h => hI.descriptors _ h) fun _ =>
        triple_bind (sound_note hI _) fun _ => sound_push hI _ le_rfl
  | closeFile descriptor => exact sound_pure _

/-! ## Words -/

theorem Width.bytes_le (w : Width) : w.bytes ≤ 8 := by
  cases w <;> decide

theorem mergeLow_double (old value : UInt64) : mergeLow old value .double = value := rfl

namespace Opcode

theorem sound_assign (hI : ∀ {m : Machine} registers, I m → I { m with registers })
    (a : RegisterIndex) (value : UInt64) : Sound I (assign a value) :=
  triple_bind (triple_modify fun _ h => hI _ h) fun _ => sound_pure _

theorem sound_callHost (hI : Machine.Steady I) (address : Address) (number : Nat) :
    Sound I (callHost address number) := by
  unfold callHost
  split
  · exact sound_throw trivial
  · refine triple_bind (sound_note hI _) fun _ => triple_bind (HostFunction.sound_begin hI _) ?_
    intro progress
    cases progress <;> exact sound_pure _

theorem sound_ret (hI : Machine.Stable I) (address : Address) (a : RegisterIndex) (x y : UInt64)
    (literal : UInt8) : Sound I (run address a x y literal ret) where
  ok hm h := by
    simp only [run] at h
    split at h
    · rename_i caller calls hpop
      obtain ⟨-, rfl⟩ := CallStack.pop_eq_ok.mp hpop
      cases h
      exact hI.ret hm
    · cases h
  error hm h := by
    simp only [run] at h
    split at h
    · cases h
    · rename_i hpop
      cases h
      rw [CallStack.pop_error hpop]
      exact ⟨hm, trivial⟩

theorem sound_run (hI : Machine.Stable I) (address : Address) (a : RegisterIndex) (x y : UInt64)
    (literal : UInt8) (op : Opcode) : Sound I (op.run address a x y literal) := by
  cases op with
  | nop => exact sound_pure _
  | mov => exact sound_assign hI.registers a y
  | binary op =>
    simp only [run]
    split
    · exact sound_assign hI.registers a _
    · exact sound_throw trivial
  | not => exact sound_assign hI.registers a _
  | double op => exact sound_assign hI.registers a _
  | pushRegister w => exact triple_bind (sound_push hI.toSteady x w.bytes_le) fun _ => sound_pure _
  | pushLiteral => exact triple_bind (sound_pushByte hI.toSteady literal) fun _ => sound_pure _
  | pop w =>
    exact triple_bind (sound_pop hI.toSteady w.bytes) fun _ => sound_assign hI.registers a _
  | store w =>
    exact triple_bind (sound_writeValue hI.toSteady ⟨x⟩ y w.bytes_le) fun _ => sound_pure _
  | load w =>
    refine triple_bind (sound_look fun m e h => ?_) fun _ => sound_assign hI.registers a _
    exact (Memory.readBytes_error (except_map_eq_error.mp h)).ofWord
  | shift d => exact sound_assign hI.registers a _
  | branch c => exact sound_pure _
  | goto => exact sound_pure _
  | call =>
    simp only [run]
    split
    · exact sound_callHost hI.toSteady address _
    · exact triple_bind (sound_call hI address) fun _ => sound_pure _
  | ret => exact sound_ret hI address a x y literal

end Opcode

theorem sound_step (hI : Machine.Stable I) (address : Address) (w : Word) :
    Sound I (step address w) := by
  unfold step
  split
  · exact sound_throw trivial
  · exact triple_bind (triple_get fun _ h => h) fun _ =>
      triple_bind (sound_note hI.toSteady _) fun _ => Opcode.sound_run hI _ _ _ _ _ _

/-! ## Stable properties -/

theorem Machine.stable_true : Machine.Stable fun _ => True := by
  constructor
  · constructor <;> intros <;> trivial
  all_goals
    intros
    trivial

/-- Pushing checks the limit, popping makes room, and no other change touches the stack. -/
theorem Machine.stable_stackFits : Machine.Stable Machine.StackFits where
  journal _ h := h
  counter _ h := h
  registers _ h := h
  descriptors _ h := h
  drop n h := (Nat.sub_le _ n).trans h
  extend _ _ hroom := (Nat.add_comm _ _).trans_le hroom
  call _ h _ := h
  ret h := h
  written _ h := h
  allocate h _ := h
  release h _ := h

end WordMachine
