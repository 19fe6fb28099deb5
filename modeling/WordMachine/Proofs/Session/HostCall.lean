import WordMachine.Proofs.ByteOrder
import WordMachine.Proofs.Session.Alike
import WordMachine.Proofs.Session.Calls

/-!
# Calls of host functions

Arguments are pushed last first, so the first one is on top and is popped first. A function that
finds its arguments takes them off the stack and then works as if they had been handed to it, on the
stack below them.

* `HostFunction.serve`, `HostFunction.begin_eq_serve` : a function with its arguments handed over.
* `HostFunction.Completes` : what a call that succeeds does, one rule for each function.
* `Session.perform` : a call and the answer of the host.
* `Session.alike_turn_of_calls` : a word that calls a function does what a call of it does.
-/

namespace WordMachine

open Effect

/-! ## Arguments on the stack -/

namespace Stack

variable {α : Type}

theorem extend_nil (s : Stack α) : s.extend [] = s := eq_of_items rfl rfl

theorem extend_append (s : Stack α) (xs ys : List α) :
    s.extend (xs ++ ys) = (s.extend xs).extend ys :=
  eq_of_items (by simp [extend]) rfl

theorem drop_extend (s : Stack α) (xs : List α) : (s.extend xs).drop xs.length = s := by
  refine eq_of_items ?_ rfl
  simp only [drop, extend]
  rw [← List.length_reverse, List.drop_left]

end Stack

/-- The low bytes of a number are popped as they were pushed, whatever lies below them. -/
theorem ByteStack.pop_littleEndian (s : ByteStack) (width n : Nat) :
    ByteStack.pop (s.extend (littleEndian width n)) width =
      .ok (UInt64.ofNat (n % 256 ^ width), s) := by
  have hlength : (littleEndian width n).length = width := length_littleEndian width n
  refine ByteStack.pop_eq_ok.mpr ⟨?_, ?_, ?_⟩
  · simp only [Stack.extend, hlength]
    omega
  · have htake : (s.extend (littleEndian width n)).items.take width =
        (littleEndian width n).reverse := by
      simp only [Stack.extend]
      rw [List.take_left']
      rw [List.length_reverse, hlength]
    rw [htake, List.reverse_reverse, ofLittleEndian_littleEndian]
  · have hdrop := Stack.drop_extend s (littleEndian width n)
    rw [hlength] at hdrop
    exact hdrop.symm

/-- A value that was pushed whole is popped whole. -/
theorem ByteStack.pop_extend (s : ByteStack) (value : UInt64) :
    ByteStack.pop (s.extend (littleEndian 8 value.toNat)) 8 = .ok (value, s) := by
  have hvalue : value.toNat < 256 ^ 8 := value.toNat_lt
  rw [pop_littleEndian, Nat.mod_eq_of_lt hvalue, UInt64.ofNat_toNat]

/-- The bytes of arguments in the order in which they are pushed: the last argument first. -/
def argumentBytes (arguments : List UInt64) : List UInt8 :=
  arguments.reverse.flatMap fun value => littleEndian 8 value.toNat

theorem argumentBytes_cons (value : UInt64) (arguments : List UInt64) :
    argumentBytes (value :: arguments) =
      argumentBytes arguments ++ littleEndian 8 value.toNat := by
  simp [argumentBytes]

theorem length_argumentBytes (arguments : List UInt64) :
    (argumentBytes arguments).length = 8 * arguments.length := by
  induction arguments with
  | nil => rfl
  | cons value arguments ih =>
    rw [argumentBytes_cons, List.length_append, ih, length_littleEndian, List.length_cons]
    omega

theorem Action.pop_of_ok {m : Machine} {width : Nat} {value : UInt64} {stack : ByteStack}
    (h : m.stack.pop width = .ok (value, stack)) :
    Action.pop width m = .ok value { m with stack } := by
  unfold pop
  rw [h]

theorem Action.popArgument_extend (m : Machine) (stack : ByteStack) (value : UInt64)
    (arguments : List UInt64) :
    Action.popArgument { m with stack := stack.extend (argumentBytes (value :: arguments)) } =
      .ok value { m with stack := stack.extend (argumentBytes arguments) } := by
  rw [argumentBytes_cons, Stack.extend_append]
  exact pop_of_ok (ByteStack.pop_extend _ value)

/-! ## Functions with their arguments handed over -/

namespace HostFunction

/-- The part of a call behind popping the arguments. -/
def serve : HostFunction → List UInt64 → Action Progress
  | read, [descriptor, buffer, length] => beginRead descriptor.toNat ⟨buffer⟩ length.toNat
  | write, [descriptor, buffer, length] => beginWrite descriptor.toNat ⟨buffer⟩ length.toNat
  | openFile, [name] => beginOpen ⟨name⟩
  | closeFile, [descriptor] => beginClose descriptor.toNat
  | exit, [status] => do
    Action.note (.exiting status.toNat)
    return .exit (exitStatus status)
  | malloc, [size] => do
    let address ← Action.allocate size.toNat
    Action.pushResult address.bits
    return .done
  | free, [address, size] => do
    Action.release ⟨address⟩ size.toNat
    return .done
  | _, _ => throw .misuse

theorem begin_eq_serve (f : HostFunction) {arguments : List UInt64}
    (hlength : arguments.length = f.arity) (m : Machine) (stack : ByteStack) :
    f.begin { m with stack := stack.extend (argumentBytes arguments) } =
      f.serve arguments { m with stack } := by
  have hnil : stack.extend (argumentBytes []) = stack := stack.extend_nil
  cases f with
  | read | write =>
    obtain ⟨descriptor, buffer, length, rfl⟩ := List.length_eq_three.mp hlength
    rw [HostFunction.begin, bind_of_ok (Action.popArgument_extend m stack _ _),
      bind_of_ok (Action.popArgument_extend m stack _ _),
      bind_of_ok (Action.popArgument_extend m stack _ _), hnil]
    rfl
  | free =>
    obtain ⟨address, size, rfl⟩ := List.length_eq_two.mp hlength
    rw [HostFunction.begin, bind_of_ok (Action.popArgument_extend m stack _ _),
      bind_of_ok (Action.popArgument_extend m stack _ _), hnil]
    rfl
  | openFile | closeFile | exit | malloc =>
    obtain ⟨value, rfl⟩ := List.length_eq_one_iff.mp hlength
    rw [HostFunction.begin, bind_of_ok (Action.popArgument_extend m stack _ _), hnil]
    rfl

end HostFunction

/-! ## What a function does before the answer -/

namespace Action

variable {α β : Type} {m m' : Machine} {b : β}

theorem note_bind (n : Notice) (x : Action β) (m : Machine) :
    (note n >>= fun _ => x) m = x (m.note n) := rfl

theorem look_bind_eq_ok {f : Machine → Except Fault α} {g : α → Action β} :
    (look f >>= g) m = .ok b m' ↔ ∃ a, f m = .ok a ∧ g a m = .ok b m' := by
  rw [bind_eq_ok]
  constructor
  · rintro ⟨a, _, hlook, hg⟩
    obtain ⟨hf, rfl⟩ := look_eq_ok.mp hlook
    exact ⟨a, hf, hg⟩
  · rintro ⟨a, hf, hg⟩
    exact ⟨a, m, look_eq_ok.mpr ⟨hf, rfl⟩, hg⟩

theorem pushResult_eq_ok {value : UInt64} {u : Unit} :
    pushResult value m = .ok u m' ↔ m.stack.depth + 8 ≤ m.stack.limit ∧
      m' = { m with stack := m.stack.extend (littleEndian 8 value.toNat) } := by
  have hpush := @push_eq_ok value 8 m m'
  rw [and_iff_right (le_refl 8)] at hpush
  exact hpush

theorem writeBytes_bind_eq_ok {a : Address} {bytes : List UInt8} {x : Action β} :
    (writeBytes a bytes >>= fun _ => x) m = .ok b m' ↔
      ∃ memory, m.memory.writeBytes a bytes = .ok memory ∧ x { m with memory } = .ok b m' := by
  rw [writeBytes_eq, bind_eq_ok]
  constructor
  · rintro ⟨_, m₁, hwrite, hx⟩
    obtain ⟨memory, hmemory, rfl⟩ := except_map_eq_ok.mp (update_eq_ok.mp hwrite)
    exact ⟨memory, hmemory, hx⟩
  · rintro ⟨memory, hmemory, hx⟩
    exact ⟨⟨⟩, _, update_eq_ok.mpr (except_map_eq_ok.mpr ⟨memory, hmemory, rfl⟩), hx⟩

theorem allocate_bind_eq_ok {size : Nat} {g : Address → Action β} :
    (allocate size >>= g) m = .ok b m' ↔
      ∃ a memory, m.memory.allocate size = .ok (a, memory) ∧
        g a ({ m with memory }.note (.allocated size a)) = .ok b m' := by
  rw [bind_eq_ok]
  constructor
  · rintro ⟨a, m₁, hallocate, hg⟩
    obtain ⟨memory, hmemory, rfl⟩ := allocate_eq_ok hallocate
    exact ⟨a, memory, hmemory, hg⟩
  · rintro ⟨a, memory, hmemory, hg⟩
    refine ⟨a, _, ?_, hg⟩
    unfold allocate
    rw [hmemory]

theorem release_bind_eq_ok {a : Address} {size : Nat} {x : Action β} :
    (release a size >>= fun _ => x) m = .ok b m' ↔
      ∃ memory, m.memory.release a size = .ok memory ∧
        x ({ m with memory }.note (.released a size)) = .ok b m' := by
  rw [bind_eq_ok]
  constructor
  · rintro ⟨_, m₁, hrelease, hx⟩
    obtain ⟨_, m₂, hupdate, hnote⟩ := bind_eq_ok.mp hrelease
    obtain ⟨memory, hmemory, rfl⟩ := except_map_eq_ok.mp (update_eq_ok.mp hupdate)
    cases hnote
    exact ⟨memory, hmemory, hx⟩
  · rintro ⟨memory, hmemory, hx⟩
    refine ⟨⟨⟩, _, bind_eq_ok.mpr ⟨⟨⟩, _, ?_, rfl⟩, hx⟩
    exact update_eq_ok.mpr (except_map_eq_ok.mpr ⟨memory, hmemory, rfl⟩)

end Action

namespace HostFunction

variable {descriptor length : Nat} {buffer name : Address} {progress : Progress} {m m' : Machine}

theorem requireOpen_bind_eq_ok {x : Action Progress} :
    (requireOpen descriptor >>= fun _ => x) m = .ok progress m' ↔
      m.descriptors.isOpen descriptor = true ∧ x m = .ok progress m' := by
  unfold requireOpen
  rw [Action.look_bind_eq_ok]
  by_cases hopen : m.descriptors.isOpen descriptor = true
  · simp [hopen]
  · simp [hopen]

/-- The end of reading and writing: a descriptor of a file must be open, then the host is asked. -/
theorem request_eq_ok {p : Prop} [Decidable p] {request : Request} :
    (if p then requireOpen descriptor >>= fun _ => pure (.ask request)
      else pure (.ask request) : Action Progress) m = .ok progress m' ↔
      (p → m.descriptors.isOpen descriptor = true) ∧ progress = .ask request ∧ m' = m := by
  by_cases hp : p
  · rw [if_pos hp, requireOpen_bind_eq_ok, pure_eq_ok, imp_iff_right hp]
  · rw [if_neg hp, pure_eq_ok, and_iff_right fun h => absurd h hp]

theorem beginRead_eq_ok : beginRead descriptor buffer length m = .ok progress m' ↔
    ¬ (descriptor = 1 ∨ descriptor = 2) ∧
      (descriptor ≠ 0 → m.descriptors.isOpen descriptor = true) ∧
      progress = .ask (.readLine descriptor buffer length) ∧ m' = m := by
  unfold beginRead
  rw [refused_eq_ok, request_eq_ok]

theorem beginWrite_eq_ok : beginWrite descriptor buffer length m = .ok progress m' ↔
    ∃ bytes, m.memory.readBytes buffer length = .ok bytes ∧ descriptor ≠ 0 ∧
      (2 < descriptor → m.descriptors.isOpen descriptor = true) ∧
      progress = .ask (.write descriptor bytes) ∧
      m' = m.note (.writing descriptor buffer length) := by
  unfold beginWrite
  rw [Action.look_bind_eq_ok]
  refine exists_congr fun bytes => and_congr_right fun _ => ?_
  rw [Action.note_bind, refused_eq_ok, request_eq_ok]
  rfl

theorem beginOpen_eq_ok : beginOpen name m = .ok progress m' ↔
    ∃ bytes, m.memory.readString name = .ok bytes ∧
      progress = .ask (.openFile m.descriptors.next (Text.Utf8.decodeLossy bytes)) ∧ m' = m := by
  unfold beginOpen
  rw [Action.look_bind_eq_ok]
  exact exists_congr fun bytes => and_congr_right fun _ => pure_eq_ok

theorem beginClose_eq_ok : beginClose descriptor m = .ok progress m' ↔
    m.descriptors.isOpen descriptor = true ∧ progress = .ask (.closeFile descriptor) ∧
      m' = { m.note (.closing descriptor) with
        descriptors := m.descriptors.forget descriptor } := by
  unfold beginClose
  rw [Action.note_bind, requireOpen_bind_eq_ok]
  exact and_congr_right fun _ => pure_eq_ok

theorem serve_malloc_eq_ok {size : UInt64} : serve malloc [size] m = .ok progress m' ↔
    ∃ a memory, m.memory.allocate size.toNat = .ok (a, memory) ∧
      m.stack.depth + 8 ≤ m.stack.limit ∧ progress = .done ∧
      m' = { { m with memory }.note (.allocated size.toNat a) with
        stack := m.stack.extend (littleEndian 8 a.bits.toNat) } := by
  unfold serve
  rw [Action.allocate_bind_eq_ok]
  refine exists_congr fun a => exists_congr fun memory => and_congr_right fun _ => ?_
  rw [bind_eq_ok]
  constructor
  · rintro ⟨_, _, hpush, hdone⟩
    obtain ⟨hroom, rfl⟩ := Action.pushResult_eq_ok.mp hpush
    exact ⟨hroom, pure_eq_ok.mp hdone⟩
  · rintro ⟨hroom, hdone⟩
    exact ⟨⟨⟩, _, Action.pushResult_eq_ok.mpr ⟨hroom, rfl⟩, pure_eq_ok.mpr hdone⟩

theorem serve_free_eq_ok {address size : UInt64} :
    serve free [address, size] m = .ok progress m' ↔
      ∃ memory, m.memory.release ⟨address⟩ size.toNat = .ok memory ∧ progress = .done ∧
        m' = { m with memory }.note (.released ⟨address⟩ size.toNat) := by
  unfold serve
  rw [Action.release_bind_eq_ok]
  exact exists_congr fun memory => and_congr_right fun _ => pure_eq_ok

end HostFunction

/-! ## What a request does with the answer -/

namespace Request

variable {descriptor limit : Nat} {buffer : Address} {bytes : List UInt8} {path : String}
  {reply : Reply} {m m' : Machine} {u : Unit}

theorem finish_readLine_eq_ok : finish reply (.readLine descriptor buffer limit) m = .ok u m' ↔
    ∃ line memory, reply = .ok line ∧ m.memory.writeBytes buffer line = .ok memory ∧
      m.stack.depth + 8 ≤ m.stack.limit ∧
      m' = { { m with memory }.note (.lineRead descriptor buffer limit line.length) with
        stack := m.stack.extend (littleEndian 8 (UInt64.ofNat line.length).toNat) } := by
  unfold finish
  cases reply with
  | error reason =>
    constructor
    · rintro ⟨⟩
    · rintro ⟨_, _, ⟨⟩, -⟩
  | ok line =>
    dsimp only
    rw [Action.writeBytes_bind_eq_ok]
    constructor
    · rintro ⟨memory, hmemory, hpush⟩
      obtain ⟨hroom, rfl⟩ := Action.pushResult_eq_ok.mp hpush
      exact ⟨line, memory, rfl, hmemory, hroom, rfl⟩
    · rintro ⟨_, memory, ⟨⟩, hmemory, hroom, rfl⟩
      exact ⟨memory, hmemory, Action.pushResult_eq_ok.mpr ⟨hroom, rfl⟩⟩

theorem finish_write_eq_ok : finish reply (.write descriptor bytes) m = .ok u m' ↔
    (∃ line, reply = .ok line) ∧ m' = m := by
  unfold finish
  cases reply with
  | error reason =>
    constructor
    · rintro ⟨⟩
    · rintro ⟨⟨_, ⟨⟩⟩, -⟩
  | ok line =>
    constructor
    · rintro ⟨⟩
      exact ⟨⟨line, rfl⟩, rfl⟩
    · rintro ⟨-, rfl⟩
      rfl

theorem finish_openFile_eq_ok : finish reply (.openFile descriptor path) m = .ok u m' ↔
    m.stack.depth + 8 ≤ m.stack.limit ∧
      ((∃ line, reply = .ok line ∧
          m' = { { m with descriptors := m.descriptors.register }.note
              (.opened path descriptor) with
            stack := m.stack.extend (littleEndian 8 (UInt64.ofNat descriptor).toNat) }) ∨
        ∃ reason, reply = .error reason ∧
          m' = { m.note (.openFailed path reason) with
            stack := m.stack.extend (littleEndian 8 openFailedResult.toNat) }) := by
  cases reply with
  | error reason =>
    constructor
    · intro h
      obtain ⟨hroom, hm⟩ := Action.pushResult_eq_ok.mp h
      exact ⟨hroom, .inr ⟨reason, rfl, hm⟩⟩
    · rintro ⟨hroom, ⟨_, ⟨⟩, -⟩ | ⟨_, ⟨⟩, hm⟩⟩
      exact Action.pushResult_eq_ok.mpr ⟨hroom, hm⟩
  | ok line =>
    constructor
    · intro h
      obtain ⟨hroom, hm⟩ := Action.pushResult_eq_ok.mp h
      exact ⟨hroom, .inl ⟨line, rfl, hm⟩⟩
    · rintro ⟨hroom, ⟨_, ⟨⟩, hm⟩ | ⟨_, ⟨⟩, -⟩⟩
      exact Action.pushResult_eq_ok.mpr ⟨hroom, hm⟩

end Request

/-! ## Calls that succeed -/

/-- What a host function works on, apart from the stack. -/
structure HostState where
  memory : Memory
  descriptors : Descriptors
  world : World

/-- Whether a host function that goes on leaves a result on the stack. -/
def HostFunction.returns : HostFunction → Bool
  | read | openFile | malloc => true
  | write | closeFile | exit | free => false

/-- A call with its arguments that succeeds and goes on: its result, if it has one, and what it
leaves behind. -/
inductive HostFunction.Completes (host : Host) (before : HostState) :
    HostFunction → List UInt64 → Option UInt64 → HostState → Prop where
  | read {descriptor buffer length : UInt64} {line : List UInt8} {memory : Memory} {world : World} :
    ¬ (descriptor.toNat = 1 ∨ descriptor.toNat = 2) →
    (descriptor.toNat ≠ 0 → before.descriptors.isOpen descriptor.toNat = true) →
    host before.world (.readLine descriptor.toNat ⟨buffer⟩ length.toNat) = (.ok line, world) →
    before.memory.writeBytes ⟨buffer⟩ line = .ok memory →
    Completes host before .read [descriptor, buffer, length] (some (UInt64.ofNat line.length))
      { before with memory, world }
  | write {descriptor buffer length : UInt64} {bytes line : List UInt8} {world : World} :
    before.memory.readBytes ⟨buffer⟩ length.toNat = .ok bytes →
    descriptor.toNat ≠ 0 →
    (2 < descriptor.toNat → before.descriptors.isOpen descriptor.toNat = true) →
    host before.world (.write descriptor.toNat bytes) = (.ok line, world) →
    Completes host before .write [descriptor, buffer, length] none { before with world }
  | opened {name : UInt64} {bytes line : List UInt8} {world : World} :
    before.memory.readString ⟨name⟩ = .ok bytes →
    host before.world (.openFile before.descriptors.next (Text.Utf8.decodeLossy bytes)) =
      (.ok line, world) →
    Completes host before .openFile [name] (some (UInt64.ofNat before.descriptors.next))
      { before with descriptors := before.descriptors.register, world }
  | openFailed {name : UInt64} {bytes : List UInt8} {reason : String} {world : World} :
    before.memory.readString ⟨name⟩ = .ok bytes →
    host before.world (.openFile before.descriptors.next (Text.Utf8.decodeLossy bytes)) =
      (.error reason, world) →
    Completes host before .openFile [name] (some openFailedResult) { before with world }
  | closeFile {descriptor : UInt64} {reply : Reply} {world : World} :
    before.descriptors.isOpen descriptor.toNat = true →
    host before.world (.closeFile descriptor.toNat) = (reply, world) →
    Completes host before .closeFile [descriptor] none
      { before with descriptors := before.descriptors.forget descriptor.toNat, world }
  | malloc {size : UInt64} {a : Address} {memory : Memory} :
    before.memory.allocate size.toNat = .ok (a, memory) →
    Completes host before .malloc [size] (some a.bits) { before with memory }
  | free {address size : UInt64} {memory : Memory} :
    before.memory.release ⟨address⟩ size.toNat = .ok memory →
    Completes host before .free [address, size] none { before with memory }

theorem HostFunction.Completes.isSome {host : Host} {before after : HostState} {f : HostFunction}
    {arguments : List UInt64} {result : Option UInt64}
    (h : f.Completes host before arguments result after) : result.isSome = f.returns := by
  cases h <;> rfl

/-- A stack with the result of a call on it, if there is one. -/
def ByteStack.withResult (stack : ByteStack) : Option UInt64 → ByteStack
  | none => stack
  | some value => stack.extend (littleEndian 8 value.toNat)

namespace Session

/-- What host functions called in a session work on. -/
def hostState (s : Session) : HostState := ⟨s.machine.memory, s.machine.descriptors, s.world⟩

/-- A session after a call that left a result and a state behind. -/
def returned (s : Session) (result : Option UInt64) (after : HostState) : Session :=
  { s with
    machine := { s.machine with
      memory := after.memory
      descriptors := after.descriptors
      stack := ByteStack.withResult s.machine.stack result }
    world := after.world }

/-- Work on the machine that may ask the host: how it ends, with the exit status if it ends the
program, and the session afterwards. -/
def perform (s : Session) (host : Host) (x : Action Progress) :
    Except Fault (Option Int) × Session :=
  match x s.machine with
  | .error fault machine => (.error fault, { s with machine })
  | .ok .done machine => (.ok none, { s with machine })
  | .ok (.exit status) machine => (.ok (some status), { s with machine })
  | .ok (.ask request) machine =>
    match request.finish (host s.world request).1 machine with
    | .error fault machine => (.error fault, { s with machine, world := (host s.world request).2 })
    | .ok () machine => (.ok none, { s with machine, world := (host s.world request).2 })

theorem callHost_eq_perform (s : Session) (f : HostFunction) :
    s.callHost f = s.perform World.answer f.begin := rfl

variable {s u : Session} {host : Host} {x : Action Progress}

theorem perform_eq_ok_none : s.perform host x = (.ok none, u) ↔
    (∃ m, x s.machine = .ok .done m ∧ u = { s with machine := m }) ∨
    ∃ request m m', x s.machine = .ok (.ask request) m ∧
      request.finish (host s.world request).1 m = .ok () m' ∧
      u = { s with machine := m', world := (host s.world request).2 } := by
  constructor
  · intro h
    unfold perform at h
    split at h
    · cases h
    · rename_i m hm
      cases h
      exact .inl ⟨m, hm, rfl⟩
    · cases h
    · rename_i request m hm
      split at h
      · cases h
      · rename_i m' hfinish
        cases h
        exact .inr ⟨request, m, m', hm, hfinish, rfl⟩
  · rintro (⟨m, hm, rfl⟩ | ⟨request, m, m', hm, hfinish, rfl⟩)
    · unfold perform
      rw [hm]
    · unfold perform
      rw [hm]
      dsimp only
      rw [hfinish]

/-- A call that succeeds and goes on does what the rule of its function says. -/
theorem completes_of_perform {f : HostFunction} {arguments : List UInt64}
    (hlength : arguments.length = f.arity)
    (h : s.perform host (f.serve arguments) = (.ok none, u)) :
    ∃ result after, f.Completes host s.hostState arguments result after ∧
      (s.returned result after).Alike u := by
  cases f with
  | read =>
    obtain ⟨descriptor, buffer, length, rfl⟩ := List.length_eq_three.mp hlength
    rcases perform_eq_ok_none.mp h with ⟨_, hserve, -⟩ | ⟨_, _, m', hserve, hfinish, rfl⟩
    · obtain ⟨-, -, ⟨⟩, -⟩ := HostFunction.beginRead_eq_ok.mp hserve
    · obtain ⟨hstandard, hopen, ⟨⟩, rfl⟩ := HostFunction.beginRead_eq_ok.mp hserve
      obtain ⟨line, memory, hline, hmemory, -, rfl⟩ := Request.finish_readLine_eq_ok.mp hfinish
      exact ⟨_, _, .read hstandard hopen (Prod.ext hline rfl) hmemory, ⟨_, rfl⟩, rfl⟩
  | write =>
    obtain ⟨descriptor, buffer, length, rfl⟩ := List.length_eq_three.mp hlength
    rcases perform_eq_ok_none.mp h with ⟨_, hserve, -⟩ | ⟨_, _, m', hserve, hfinish, rfl⟩
    · obtain ⟨_, -, -, -, ⟨⟩, -⟩ := HostFunction.beginWrite_eq_ok.mp hserve
    · obtain ⟨bytes, hbytes, hzero, hopen, ⟨⟩, rfl⟩ := HostFunction.beginWrite_eq_ok.mp hserve
      obtain ⟨⟨line, hline⟩, rfl⟩ := Request.finish_write_eq_ok.mp hfinish
      exact ⟨_, _, .write hbytes hzero hopen (Prod.ext hline rfl), ⟨_, rfl⟩, rfl⟩
  | openFile =>
    obtain ⟨name, rfl⟩ := List.length_eq_one_iff.mp hlength
    rcases perform_eq_ok_none.mp h with ⟨_, hserve, -⟩ | ⟨_, _, m', hserve, hfinish, rfl⟩
    · obtain ⟨_, -, ⟨⟩, -⟩ := HostFunction.beginOpen_eq_ok.mp hserve
    · obtain ⟨bytes, hname, ⟨⟩, rfl⟩ := HostFunction.beginOpen_eq_ok.mp hserve
      obtain ⟨-, ⟨line, hreply, rfl⟩ | ⟨reason, hreply, rfl⟩⟩ :=
        Request.finish_openFile_eq_ok.mp hfinish
      · exact ⟨_, _, .opened hname (Prod.ext hreply rfl), ⟨_, rfl⟩, rfl⟩
      · exact ⟨_, _, .openFailed hname (Prod.ext hreply rfl), ⟨_, rfl⟩, rfl⟩
  | closeFile =>
    obtain ⟨descriptor, rfl⟩ := List.length_eq_one_iff.mp hlength
    rcases perform_eq_ok_none.mp h with ⟨_, hserve, -⟩ | ⟨_, _, m', hserve, hfinish, rfl⟩
    · obtain ⟨-, ⟨⟩, -⟩ := HostFunction.beginClose_eq_ok.mp hserve
    · obtain ⟨hopen, ⟨⟩, rfl⟩ := HostFunction.beginClose_eq_ok.mp hserve
      obtain ⟨-, rfl⟩ := pure_eq_ok.mp hfinish
      exact ⟨_, _, .closeFile hopen rfl, ⟨_, rfl⟩, rfl⟩
  | exit =>
    obtain ⟨status, rfl⟩ := List.length_eq_one_iff.mp hlength
    rcases perform_eq_ok_none.mp h with ⟨m, hserve, -⟩ | ⟨request, m, m', hserve, -⟩
    · cases hserve
    · cases hserve
  | malloc =>
    obtain ⟨size, rfl⟩ := List.length_eq_one_iff.mp hlength
    rcases perform_eq_ok_none.mp h with ⟨m, hserve, rfl⟩ | ⟨_, _, _, hserve, -⟩
    · obtain ⟨a, memory, hmemory, -, -, rfl⟩ := HostFunction.serve_malloc_eq_ok.mp hserve
      exact ⟨_, _, .malloc hmemory, ⟨_, rfl⟩, rfl⟩
    · obtain ⟨_, _, -, -, ⟨⟩, -⟩ := HostFunction.serve_malloc_eq_ok.mp hserve
  | free =>
    obtain ⟨address, size, rfl⟩ := List.length_eq_two.mp hlength
    rcases perform_eq_ok_none.mp h with ⟨m, hserve, rfl⟩ | ⟨_, _, _, hserve, -⟩
    · obtain ⟨memory, hmemory, -, rfl⟩ := HostFunction.serve_free_eq_ok.mp hserve
      exact ⟨_, _, .free hmemory, ⟨_, rfl⟩, rfl⟩
    · obtain ⟨_, -, ⟨⟩, -⟩ := HostFunction.serve_free_eq_ok.mp hserve

/-- Where the stack has room for a result, a call that its rule allows succeeds and goes on. -/
theorem perform_of_completes {f : HostFunction} {arguments : List UInt64} {result : Option UInt64}
    {after : HostState} (h : f.Completes host s.hostState arguments result after)
    (hroom : s.machine.stack.depth + 8 ≤ s.machine.stack.limit) :
    ∃ u, s.perform host (f.serve arguments) = (.ok none, u) ∧
      (s.returned result after).Alike u := by
  simp only [perform_eq_ok_none]
  cases h with
  | read hstandard hopen hanswer hmemory =>
    refine ⟨_, .inr ⟨_, _, _, HostFunction.beginRead_eq_ok.mpr ⟨hstandard, hopen, rfl, rfl⟩,
      Request.finish_readLine_eq_ok.mpr ⟨_, _, congrArg Prod.fst hanswer, hmemory, hroom, rfl⟩,
      rfl⟩, ?_⟩
    exact ⟨⟨_, rfl⟩, congrArg Prod.snd hanswer⟩
  | write hbytes hzero hopen hanswer =>
    refine ⟨_, .inr ⟨_, _, _, HostFunction.beginWrite_eq_ok.mpr ⟨_, hbytes, hzero, hopen, rfl, rfl⟩,
      Request.finish_write_eq_ok.mpr ⟨⟨_, congrArg Prod.fst hanswer⟩, rfl⟩, rfl⟩, ?_⟩
    exact ⟨⟨_, rfl⟩, congrArg Prod.snd hanswer⟩
  | opened hname hanswer =>
    refine ⟨_, .inr ⟨_, _, _, HostFunction.beginOpen_eq_ok.mpr ⟨_, hname, rfl, rfl⟩,
      Request.finish_openFile_eq_ok.mpr
        ⟨hroom, .inl ⟨_, congrArg Prod.fst hanswer, rfl⟩⟩, rfl⟩, ?_⟩
    exact ⟨⟨_, rfl⟩, congrArg Prod.snd hanswer⟩
  | openFailed hname hanswer =>
    refine ⟨_, .inr ⟨_, _, _, HostFunction.beginOpen_eq_ok.mpr ⟨_, hname, rfl, rfl⟩,
      Request.finish_openFile_eq_ok.mpr
        ⟨hroom, .inr ⟨_, congrArg Prod.fst hanswer, rfl⟩⟩, rfl⟩, ?_⟩
    exact ⟨⟨_, rfl⟩, congrArg Prod.snd hanswer⟩
  | closeFile hopen hanswer =>
    refine ⟨_, .inr ⟨_, _, _, HostFunction.beginClose_eq_ok.mpr ⟨hopen, rfl, rfl⟩, rfl, rfl⟩, ?_⟩
    exact ⟨⟨_, rfl⟩, congrArg Prod.snd hanswer⟩
  | malloc hmemory =>
    refine ⟨_, .inl ⟨_, HostFunction.serve_malloc_eq_ok.mpr ⟨_, _, hmemory, hroom, rfl, rfl⟩,
      rfl⟩, ?_⟩
    exact ⟨⟨_, rfl⟩, rfl⟩
  | free hmemory =>
    refine ⟨_, .inl ⟨_, HostFunction.serve_free_eq_ok.mpr ⟨_, hmemory, rfl, rfl⟩, rfl⟩, ?_⟩
    exact ⟨⟨_, rfl⟩, rfl⟩

end Session

/-! ## Words that call -/

/-- How a run goes on after a host function, before the answer. -/
def Progress.flow : Progress → Flow
  | done => .next
  | exit status => .exit status
  | ask request => .ask request

/-- The common start of every word: its operands are read, and it is reported. -/
theorem step_eq_run {w : Word} {op : Opcode} (h : w.opcode? = some op) (address : Address)
    (m : Machine) :
    step address w m =
      op.run address w.first (m.register w.first) (m.register w.second) w.literal
        (m.note (.executingStep address op w.first (m.register w.first) w.second
          (m.register w.second))) := by
  unfold step
  rw [h]
  rfl

theorem Opcode.callHost_eq {number : Nat} {f : HostFunction}
    (h : HostFunction.ofNumber? number = some f) (address : Address) (m : Machine) :
    callHost address number m =
      (f.begin >>= fun progress => pure progress.flow : Action Flow)
        (m.note (.calling address f)) := by
  unfold callHost
  rw [h]
  refine congrFun (congrArg (f.begin >>= ·) (funext fun progress => ?_)) _
  cases progress <;> rfl

theorem step_of_calls {m : Machine} {w : Word} {f : HostFunction} (h : m.Calls w f)
    (address : Address) :
    ∃ m', m.Alike m' ∧
      step address w m = (f.begin >>= fun progress => pure progress.flow : Action Flow) m' := by
  obtain ⟨hop, hregister⟩ := h
  obtain ⟨hspace, hnumber⟩ := f.callAddress_spec
  rw [step_eq_run hop, hregister, Opcode.run_call_of_static hspace, Opcode.callHost_eq hnumber]
  exact ⟨_, ⟨_, rfl⟩, rfl⟩

/-- Where a run stands after a word that called a host function, if it goes on at an address. -/
def Stage.ofCall (next : Address) : Except Fault (Option Int) × Session → Stage
  | (.error fault, s) => .ended (.error fault) s
  | (.ok (some status), s) => .ended (.ok (.exit status)) (s.note (.exited status))
  | (.ok none, s) => .running (s.moveTo next)

namespace Session

/-- Work that does not look at reports does the same in alike sessions. -/
theorem alike_perform {s t : Session} (h : s.Alike t) {x : Action Progress} (hx : Action.Blind x)
    (host : Host) (next : Address) :
    (Stage.ofCall next (s.perform host x)).Alike (Stage.ofCall next (t.perform host x)) := by
  have hsame : ∀ {m m' : Machine} (world : World), m.Alike m' →
      Alike { s with machine := m, world } { t with machine := m', world } :=
    fun _ hm => ⟨hm, rfl⟩
  have hbegin := hx _ _ h.machine
  unfold perform
  rw [h.world_eq]
  generalize x s.machine = r at hbegin ⊢
  generalize x t.machine = r' at hbegin ⊢
  cases hbegin with
  | error hm => exact .ended (hsame _ hm)
  | @ok progress _ m m' hprogress hm =>
    subst hprogress
    cases progress with
    | done => exact .running ((hsame _ hm).moveTo next)
    | exit status => exact .ended ((hsame _ hm).note _ _)
    | ask request =>
      have hfinish := request.blind_finish (host s.world request).1 _ _ hm
      dsimp only
      generalize request.finish (host s.world request).1 m = q at hfinish ⊢
      generalize request.finish (host s.world request).1 m' = q' at hfinish ⊢
      cases hfinish with
      | error hm' => exact .ended (hsame _ hm')
      | ok _ hm' => exact .running ((hsame _ hm').moveTo next)

/-- A turn with a word that calls a host function is a call of it, once the word is reported. -/
theorem turnWith_of_calls {s : Session} {code : Array Word} {w : Word} {f : HostFunction}
    (hfetch : fetch code s.machine.counter = .word w) (hcalls : s.machine.Calls w f)
    (host : Host) :
    ∃ t, s.Alike t ∧
      s.turnWith host code = Stage.ofCall s.machine.counter.next (t.perform host f.begin) := by
  have hannounced : (s.announce w).machine.Calls w f := hcalls
  obtain ⟨d, hd, hstep⟩ := step_of_calls hannounced s.machine.counter
  have halike : s.machine.Alike d := Machine.Alike.trans ⟨_, rfl⟩ hd
  have hcounter : d.counter = s.machine.counter := by
    obtain ⟨journal, rfl⟩ := halike
    rfl
  refine ⟨{ s.announce w with machine := d }, ⟨halike, rfl⟩, ?_⟩
  have hadvance : s.begin code = s.advance w := by
    unfold Session.begin
    rw [hfetch]
  have hnotify : s.notify (.step s.machine.counter w) = s.announce w := rfl
  unfold turnWith perform
  rw [hadvance]
  unfold advance EStateM.run
  dsimp only
  rw [hnotify, hstep]
  simp only [bind, EStateM.bind]
  cases hm : f.begin d with
  | error fault m => rfl
  | ok progress m =>
    -- A function leaves the program counter where it was, so both go on behind the word.
    have hm' : m.counter = s.machine.counter :=
      ((f.sound_begin (Machine.steady_stands d.calls s.machine.counter)).ok
        ⟨rfl, hcounter⟩ hm).2
    cases progress with
    | done | exit => rfl
    | ask request =>
      dsimp only [Progress.flow, pure, EStateM.pure]
      unfold resume EStateM.run
      dsimp only
      rw [hm']
      cases request.finish (host (s.announce w).world request).1 m with
      | error fault m' => rfl
      | ok _ m' => rfl

/-- A turn with a word that calls a host function does what a call of it does. -/
theorem alike_turn_of_calls {s : Session} {code : Array Word} {w : Word} {f : HostFunction}
    (hfetch : fetch code s.machine.counter = .word w) (hcalls : s.machine.Calls w f)
    (host : Host) :
    (Stage.ofCall s.machine.counter.next (s.perform host f.begin)).Alike
      (s.turnWith host code) := by
  obtain ⟨t, halike, hturn⟩ := turnWith_of_calls hfetch hcalls host
  rw [hturn]
  exact alike_perform halike f.blind_begin host _

/-! ## Calls with their arguments on the stack -/

/-- A session with another calculation stack. -/
def withStack (s : Session) (stack : ByteStack) : Session :=
  { s with machine := { s.machine with stack } }

section Arguments

variable {s u : Session} {code : Array Word} {w : Word} {f : HostFunction}
  {arguments : List UInt64} {stack : ByteStack} {host : Host}

/-- A function with its arguments on the stack works as if they had been handed to it. -/
theorem perform_begin (hlength : arguments.length = f.arity)
    (hstack : s.machine.stack = stack.extend (argumentBytes arguments)) :
    s.perform host f.begin = (s.withStack stack).perform host (f.serve arguments) := by
  have hbegin := f.begin_eq_serve hlength s.machine stack
  rw [← hstack] at hbegin
  unfold perform
  rw [show f.begin s.machine = f.serve arguments (s.withStack stack).machine from hbegin]
  rfl

variable (hfetch : fetch code s.machine.counter = .word w) (hcalls : s.machine.Calls w f)
  (hlength : arguments.length = f.arity)
  (hstack : s.machine.stack = stack.extend (argumentBytes arguments))

include hfetch hcalls hlength hstack

theorem alike_turn_of_arguments (host : Host) :
    (Stage.ofCall s.machine.counter.next
      ((s.withStack stack).perform host (f.serve arguments))).Alike (s.turnWith host code) := by
  rw [← perform_begin hlength hstack]
  exact alike_turn_of_calls hfetch hcalls host

theorem completes_of_turn (h : s.turnWith host code = .running u) :
    ∃ result after, f.Completes host s.hostState arguments result after ∧
      Alike (((s.withStack stack).returned result after).moveTo s.machine.counter.next) u := by
  have hturn := alike_turn_of_arguments hfetch hcalls hlength hstack host
  rw [h] at hturn
  generalize hp : (s.withStack stack).perform host (f.serve arguments) = outcome at hturn
  obtain ⟨fault | none | status, v⟩ := outcome
  · cases hturn
  · cases hturn with
    | running halike =>
      obtain ⟨result, after, hcompletes, hv⟩ := completes_of_perform hlength hp
      exact ⟨result, after, hcompletes, (hv.moveTo _).trans halike⟩
  · cases hturn

/-- With room for a result, a call that the rule of its function allows goes on. -/
theorem turn_of_completes {result : Option UInt64} {after : HostState}
    (hroom : stack.depth + 8 ≤ stack.limit)
    (h : f.Completes host s.hostState arguments result after) :
    ∃ u, s.turnWith host code = .running u := by
  have hcompletes : f.Completes host (s.withStack stack).hostState arguments result after := h
  obtain ⟨v, hp, -⟩ := perform_of_completes hcompletes hroom
  have hturn := alike_turn_of_arguments hfetch hcalls hlength hstack host
  rw [hp] at hturn
  generalize s.turnWith host code = stage at hturn
  cases hturn
  exact ⟨_, rfl⟩

omit hlength in
/-- A call to exit ends the run, with nothing but its argument taken. -/
theorem turn_exit {status : UInt64} (hf : f = .exit) (harguments : arguments = [status]) :
    ∃ u, s.turnWith host code = .ended (.ok (.exit (exitStatus status))) u ∧
      (s.withStack stack).Alike u := by
  subst hf harguments
  have hturn := alike_turn_of_arguments hfetch hcalls rfl hstack host
  have hp : (s.withStack stack).perform host (HostFunction.exit.serve [status]) =
      (.ok (some (exitStatus status)),
        (s.withStack stack).note (.exiting status.toNat)) := rfl
  rw [hp] at hturn
  generalize s.turnWith host code = stage at hturn
  cases hturn with
  | ended halike =>
    have hnoted : (s.withStack stack).Alike
        (((s.withStack stack).note (.exiting status.toNat)).note
          (.exited (exitStatus status))) := ⟨⟨_, rfl⟩, rfl⟩
    exact ⟨_, rfl, hnoted.trans halike⟩

end Arguments

end Session

end WordMachine
