import WordMachine.Proofs.Memory.Bytes
import WordMachine.Proofs.Session.FileCalls
import WordMachine.Proofs.World.Lines

/-!
# The input of a program

Each call to read takes a line off the input, stores it in its buffer and returns its length. Calls
share nothing but the input, so whatever happens to the stack and the memory between them, the lines
that they store, one behind the other, are the front of the input, and what is behind them is left.

* `InputCall` : a call to read from the input.
* `Session.Delivers` : a call that stored a line.
* `Session.delivers` : a call delivers the next line.
* `Session.read_partitions_input` : so do any calls, one after the other.
-/

namespace WordMachine

/-- A call to read from the input: the buffer, the most bytes that are wanted, and the stack below
the arguments and the memory that it is handed. -/
structure InputCall where
  buffer : UInt64
  length : UInt64
  stack : ByteStack
  memory : Memory
  fits : stack.depth + 24 ≤ stack.limit

namespace InputCall

def arguments (c : InputCall) : List UInt64 := [0, c.buffer, c.length]

def call (c : InputCall) : HostCall where
  function := .read
  stack := c.stack.extend (argumentBytes c.arguments)
  memory := c.memory
  host := World.answer
  fits := by
    have hfits := c.fits
    have hbytes : (argumentBytes c.arguments).length = 24 := length_argumentBytes _
    show (argumentBytes c.arguments).length + c.stack.depth ≤ c.stack.limit
    omega

/-- The buffer is dynamic and has room for what can come: not more than is wanted, and not more than
the input holds. -/
def HasRoom (c : InputCall) (input : Input) : Prop :=
  Address.space ⟨c.buffer⟩ = .dynamic ∧
    Address.offset ⟨c.buffer⟩ + min c.length.toNat input.bytes.length ≤ spaceSize

theorem HasRoom.of_append {c : InputCall} {consumed rest : Input}
    (h : c.HasRoom (consumed ++ rest)) : c.HasRoom rest := by
  refine ⟨h.1, le_trans ?_ h.2⟩
  rw [Input.bytes_append, List.length_append]
  omega

end InputCall

namespace Session

/-- A call to read that stored a line. -/
structure Delivers (s : Session) (c : InputCall) (text : List UInt8) (u : Session) : Prop where
  /-- The call succeeds. -/
  made : s.make c.call = (.ok none, u)
  /-- What it took off the input are the bytes of the line, and what is left is as it was. -/
  consumed : ∃ consumed : Input, s.world.input = consumed ++ u.world.input ∧ consumed.bytes = text
  isLine : Input.IsLine c.length.toNat text u.world.input
  /-- It returns the length of the line. -/
  count : ∃ count, u.machine.stack = ByteStack.withResult c.stack (some count) ∧
    count.toNat = text.length
  stored (i : Nat) : i < text.length →
    u.machine.memory.byte? .dynamic (Address.offset ⟨c.buffer⟩ + i) = text[i]?
  /-- The rest of the memory is as it was, and so is the heap. -/
  kept (space : Space) (offset : Nat) : ¬ (space = .dynamic ∧
      Address.offset ⟨c.buffer⟩ ≤ offset ∧ offset < Address.offset ⟨c.buffer⟩ + text.length) →
    u.machine.memory.byte? space offset = c.memory.byte? space offset
  heap : ∃ written, u.machine.memory = { c.memory with written }

theorem make_call (s : Session) (c : InputCall) :
    s.make c.call = ((s.handed c.call).withStack c.stack).perform World.answer
      (HostFunction.beginRead 0 ⟨c.buffer⟩ c.length.toNat) :=
  perform_begin (show c.arguments.length = HostFunction.read.arity from rfl) rfl

/-- The call asks for a line of the input before it touches anything. -/
theorem beginRead_input (s : Session) (c : InputCall) :
    HostFunction.beginRead 0 ⟨c.buffer⟩ c.length.toNat
        ((s.handed c.call).withStack c.stack).machine =
      .ok (.ask (.readLine 0 ⟨c.buffer⟩ c.length.toNat))
        ((s.handed c.call).withStack c.stack).machine :=
  HostFunction.beginRead_eq_ok.mpr ⟨by decide, fun h => absurd rfl h, rfl, rfl⟩

theorem answer_input {w : World} {reply : Reply} {rest : Input} {length : Nat}
    (h : w.input.readLine length = (reply, rest)) (buffer : Address) :
    w.answer (.readLine 0 buffer length) = (reply, { w with input := rest }) := by
  rw [World.answer, World.readLine, if_pos rfl, h]

/-! ## One call -/

section Call

variable {s : Session} {c : InputCall} {rest : Input}

theorem make_of_line {line : List UInt8} {memory : Memory}
    (hread : s.world.input.readLine c.length.toNat = (.ok line, rest))
    (hwrite : c.memory.writeBytes ⟨c.buffer⟩ line = .ok memory) :
    ∃ u, s.make c.call = (.ok none, u) ∧ u.world.input = rest ∧ u.machine.memory = memory ∧
      u.machine.stack = ByteStack.withResult c.stack (some (UInt64.ofNat line.length)) := by
  have hanswer := answer_input hread ⟨c.buffer⟩
  have hroom : c.stack.depth + 8 ≤ c.stack.limit := by
    have := c.fits
    omega
  rw [make_call, perform_of_ask World.answer (beginRead_input s c)
    (Request.finish_readLine_eq_ok.mpr
      ⟨line, memory, congrArg Prod.fst hanswer, hwrite, hroom, rfl⟩)]
  exact ⟨_, rfl, congrArg (·.2.input) hanswer, rfl, rfl⟩

theorem make_of_failure {reason : String}
    (hread : s.world.input.readLine c.length.toNat = (.error reason, rest)) :
    ∃ u, s.make c.call = (.error (.host reason), u) ∧ u.machine.memory = c.memory := by
  have hanswer := answer_input hread ⟨c.buffer⟩
  have hfinish : ∀ m, Request.finish (World.answer s.world
      (.readLine 0 ⟨c.buffer⟩ c.length.toNat)).1 (.readLine 0 ⟨c.buffer⟩ c.length.toNat) m =
      .error (.host reason) m := by
    intro m
    rw [hanswer]
    rfl
  rw [make_call, perform_of_refusal World.answer (beginRead_input s c) (hfinish _)]
  exact ⟨_, rfl, rfl⟩

theorem delivers (hreliable : s.world.input.Reliable) (hroom : c.HasRoom s.world.input) :
    ∃ line u, s.Delivers c line u ∧ u.world.input.Reliable := by
  obtain ⟨consumed, rest, hread, hinput, hrest, hline⟩ := hreliable.readLine c.length.toNat
  obtain ⟨hdynamic, hspan⟩ := hroom
  have hlimit := hline.length_le
  have hbytes : s.world.input.bytes.length = consumed.bytes.length + rest.bytes.length := by
    rw [hinput, Input.bytes_append, List.length_append]
  have hinside : Address.offset ⟨c.buffer⟩ + consumed.bytes.length ≤ spaceSize := by omega
  have hwrite : c.memory.writeBytes ⟨c.buffer⟩ consumed.bytes = .ok _ :=
    Memory.writeBytes_eq_ok.mpr ⟨hinside, .inl ⟨hdynamic, rfl⟩⟩
  have hcount : consumed.bytes.length < 2 ^ 64 := hlimit.trans_lt c.length.toNat_lt
  obtain ⟨u, hmake, rfl, hmemory, hstack⟩ := make_of_line hread hwrite
  rw [← hmemory] at hwrite
  refine ⟨consumed.bytes, u, ?_, hrest⟩
  refine ⟨hmake, ⟨consumed, hinput, rfl⟩, hline,
    ⟨_, hstack, UInt64.toNat_ofNat_of_lt' hcount⟩, ?_, ?_, ⟨_, hmemory⟩⟩
  · intro i hi
    rw [Memory.byte?_writeBytes hwrite, if_pos ⟨rfl, by omega, by omega⟩, Nat.add_sub_cancel_left]
  · intro space offset houtside
    rw [Memory.byte?_writeBytes hwrite, if_neg houtside]

end Call

/-! ## Any calls -/

/-- Calls to read, one after the other, and the lines that they stored. -/
inductive DeliversAll : Session → List InputCall → List (List UInt8) → Session → Prop where
  | nil (s : Session) : DeliversAll s [] [] s
  | cons {s t u : Session} {c : InputCall} {calls : List InputCall} {line : List UInt8}
    {lines : List (List UInt8)} : s.Delivers c line t → DeliversAll t calls lines u →
    DeliversAll s (c :: calls) (line :: lines) u

theorem DeliversAll.consumed {s u : Session} {calls : List InputCall} {lines : List (List UInt8)}
    (h : s.DeliversAll calls lines u) :
    ∃ consumed : Input, s.world.input = consumed ++ u.world.input ∧
      consumed.bytes = lines.flatten := by
  induction h with
  | nil s => exact ⟨[], rfl, rfl⟩
  | cons hfirst _ ih =>
    obtain ⟨front, hinput, rfl⟩ := hfirst.consumed
    obtain ⟨behind, hinput', hbytes⟩ := ih
    refine ⟨front ++ behind, ?_, ?_⟩
    · rw [hinput, hinput', List.append_assoc]
    · rw [Input.bytes_append, hbytes, List.flatten_cons]

theorem deliversAll {s : Session} (hreliable : s.world.input.Reliable) {calls : List InputCall}
    (hroom : ∀ c ∈ calls, c.HasRoom s.world.input) : ∃ lines u, s.DeliversAll calls lines u := by
  induction calls generalizing s with
  | nil => exact ⟨[], s, .nil s⟩
  | cons c calls ih =>
    obtain ⟨line, t, hfirst, hrest⟩ := delivers hreliable (hroom c List.mem_cons_self)
    obtain ⟨consumed, hinput, -⟩ := hfirst.consumed
    rw [hinput] at hroom
    obtain ⟨lines, u, hothers⟩ := ih hrest fun c' hc' =>
      (hroom c' (List.mem_cons_of_mem _ hc')).of_append
    exact ⟨line :: lines, u, .cons hfirst hothers⟩

/-- **Reading partitions the input.** If no read of the input fails, any calls to read succeed one
after the other, and what they store, put together, is the front of the bytes of the input, with the
rest of the input left as it was. A read that fails before a line is complete fails the call, which
then leaves the memory alone. -/
theorem read_partitions_input :
    (∀ (s : Session) (calls : List InputCall), s.world.input.Reliable →
      (∀ c ∈ calls, c.HasRoom s.world.input) →
      ∃ lines u, s.DeliversAll calls lines u ∧
        s.world.input.bytes = lines.flatten ++ u.world.input.bytes ∧
        u.world.input <:+ s.world.input) ∧
    ∀ (s : Session) (c : InputCall) (consumed rest : Input) (reason : String),
      s.world.input = consumed ++ .failure reason :: rest → consumed.Reliable →
      consumed.bytes.length < c.length.toNat → newline ∉ consumed.bytes →
      ∃ u, s.make c.call = (.error (.host reason), u) ∧ u.machine.memory = c.memory := by
  constructor
  · intro s calls hreliable hroom
    obtain ⟨lines, u, hall⟩ := deliversAll hreliable hroom
    obtain ⟨consumed, hinput, hbytes⟩ := hall.consumed
    refine ⟨lines, u, hall, ?_, ⟨consumed, hinput.symm⟩⟩
    rw [hinput, Input.bytes_append, hbytes]
  · intro s c consumed rest reason hinput hreliable hlimit hnewline
    apply make_of_failure
    rw [hinput]
    exact Input.readLine_of_failure hreliable hlimit hnewline reason rest

/-- A call for at most `length` bytes, to the start of the dynamic space. -/
def callForBytes (length : UInt64) : InputCall where
  buffer := (Address.ofOffset .dynamic 0).bits
  length := length
  stack := Stack.empty 24
  memory := .ofLiteral [] 0
  fits := by decide

/-- A line and the start of another, with interrupted reads between the bytes. -/
def interruptedInput : Input :=
  [.interrupt, .byte 0x61, .interrupt, .byte newline, .byte 0x62, .interrupt]

def sessionReading (input : Input) : Session where
  machine := .ofLiteral []
  world := { input }

theorem read_partitions_input_interrupted :
    (∃ lines u, (sessionReading interruptedInput).DeliversAll
        [callForBytes 8, callForBytes 0, callForBytes 1] lines u ∧
      [0x61, newline, 0x62] = lines.flatten ++ u.world.input.bytes ∧
      u.world.input <:+ interruptedInput) ∧
    ∃ u, (sessionReading [.byte 0x62, .interrupt, .failure "gone"]).make (callForBytes 8).call =
      (.error (.host "gone"), u) ∧ u.machine.memory = .ofLiteral [] 0 := by
  have hspan : Address.offset (.ofOffset .dynamic 0) + interruptedInput.bytes.length ≤ spaceSize := by
    decide
  have hroom : ∀ length, (callForBytes length).HasRoom interruptedInput := fun length =>
    ⟨rfl, (Nat.add_le_add_left (Nat.min_le_right _ _) _).trans hspan⟩
  constructor
  · apply read_partitions_input.1
    · intro reason
      simp [sessionReading, interruptedInput]
    · intro c hc
      simp only [List.mem_cons, List.not_mem_nil, or_false] at hc
      rcases hc with rfl | rfl | rfl <;> exact hroom _
  · apply read_partitions_input.2 (sessionReading [.byte 0x62, .interrupt, .failure "gone"])
      (callForBytes 8) [.byte 0x62, .interrupt] [] "gone" rfl
    · intro reason
      simp
    · decide
    · decide

end Session

end WordMachine
