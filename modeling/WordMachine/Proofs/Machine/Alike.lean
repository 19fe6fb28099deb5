import WordMachine.Proofs.Effect
import WordMachine.Proofs.Instruction
import WordMachine.Machine.Step

/-!
# Machines that differ in their reports only

No computation of a machine looks at what was reported before. So two machines that differ in their
reports only stay so, whatever they execute, and their computations give the same results and the
same faults. Nor does a word look at the bits that its instruction does not show.

* `Machine.Alike` : machines that differ in their reports only.
* `Action.Blind` : computations that do not look at reports.
* `Word.Equivalent` : words with the same effect.
* `Word.equivalent_refl`, `Word.equivalent_canonical` : a word has the effect of its instruction.
-/

namespace WordMachine

open Effect

/-- Two machines that differ in what was reported only. -/
def Machine.Alike (m m' : Machine) : Prop := ∃ journal, m' = { m with journal }

theorem Machine.Alike.trans {m m' m'' : Machine} (h : m.Alike m') (h' : m'.Alike m'') :
    m.Alike m'' := by
  obtain ⟨journal, rfl⟩ := h
  obtain ⟨journal', rfl⟩ := h'
  exact ⟨journal', rfl⟩

theorem Machine.Alike.withJournal {m m' : Machine} (h : m.Alike m')
    (journal journal' : List Entry) :
    Machine.Alike { m with journal } { m' with journal := journal' } := by
  obtain ⟨_, rfl⟩ := h
  exact ⟨journal', rfl⟩

theorem Machine.Alike.withCounter {m m' : Machine} (h : m.Alike m') (counter : Address) :
    Machine.Alike { m with counter } { m' with counter } := by
  obtain ⟨journal, rfl⟩ := h
  exact ⟨journal, rfl⟩

namespace Action

variable {α β : Type}

/-- A computation gives the same result, or the same fault, whatever was reported before. -/
abbrev Blind (x : Action α) : Prop := Matches Machine.Alike Eq x x

theorem blind_pure (a : α) : Blind (pure a) := matches_pure rfl

theorem matches_note (n n' : Notice) : Matches Machine.Alike Eq (note n) (note n') := by
  refine matches_modify ?_
  rintro m _ ⟨journal, rfl⟩
  exact ⟨_, rfl⟩

theorem blind_modify {f : Machine → Machine}
    (hf : ∀ m journal, f { m with journal } = { f m with journal }) :
    Blind (modify f : Action PUnit) := by
  refine matches_modify ?_
  rintro m _ ⟨journal, rfl⟩
  exact ⟨journal, hf m journal⟩

/-- An update of a part of the machine. -/
theorem blind_update {f : Machine → Except Fault β} {g : Machine → β → Machine}
    (hf : ∀ m journal, f { m with journal } = f m)
    (hg : ∀ m b journal, g { m with journal } b = { g m b with journal }) :
    Blind (update fun m => f m >>= fun b => pure (g m b)) := by
  rintro m _ ⟨journal, rfl⟩
  have halike : m.Alike { m with journal } := ⟨journal, rfl⟩
  unfold update
  dsimp only
  rw [hf m journal]
  cases f m with
  | error e => exact .error halike
  | ok b =>
    have halike' : (g m b).Alike (g { m with journal } b) := ⟨journal, hg m b journal⟩
    exact .ok rfl halike'

theorem blind_look {f : Machine → Except Fault α} (hf : ∀ m journal, f { m with journal } = f m) :
    Blind (look f) := by
  rintro m _ ⟨journal, rfl⟩
  have halike : m.Alike { m with journal } := ⟨journal, rfl⟩
  unfold look
  rw [hf m journal]
  cases f m with
  | error e => exact .error halike
  | ok a => exact .ok rfl halike

theorem blind_pop (width : Nat) : Blind (pop width) := by
  rintro m _ ⟨journal, rfl⟩
  unfold pop
  dsimp only
  cases m.stack.pop width with
  | error e => exact .error ⟨journal, rfl⟩
  | ok p => exact .ok rfl ⟨journal, rfl⟩

theorem blind_push (value : UInt64) (width : Nat) : Blind (push value width) :=
  blind_update (fun _ _ => rfl) fun _ _ _ => rfl

theorem blind_onMemory (x : EStateM Fault Memory Unit) : Blind (onMemory x) := by
  rintro m _ ⟨journal, rfl⟩
  unfold onMemory
  dsimp only
  cases x m.memory with
  | error e memory => exact .error ⟨journal, rfl⟩
  | ok _ memory => exact .ok rfl ⟨journal, rfl⟩

theorem blind_allocate (size : Nat) : Blind (allocate size) := by
  rintro m _ ⟨journal, rfl⟩
  unfold allocate
  dsimp only
  cases m.memory.allocate size with
  | error e => exact .error ⟨journal, rfl⟩
  | ok p => exact .ok rfl ⟨_, rfl⟩

theorem blind_release (a : Address) (size : Nat) : Blind (release a size) :=
  matches_seq (blind_update (fun _ _ => rfl) fun _ _ _ => rfl) fun _ => matches_note _ _

end Action

open WordMachine.Action

/-! ## Host functions -/

namespace HostFunction

theorem blind_requireOpen (descriptor : Nat) : Blind (requireOpen descriptor) :=
  blind_look fun _ _ => rfl

/-- The end of reading and writing: a descriptor of a file must be open, then the host is asked. -/
theorem blind_request (p : Prop) [Decidable p] (descriptor : Nat) (request : Request) :
    Blind (if p then requireOpen descriptor >>= fun _ => pure (.ask request)
      else pure (.ask request) : Action Progress) :=
  matches_ite (matches_seq (blind_requireOpen descriptor) fun _ => blind_pure _) (blind_pure _)

theorem blind_beginRead (descriptor : Nat) (buffer : Address) (length : Nat) :
    Blind (beginRead descriptor buffer length) :=
  matches_ite (matches_seq (matches_throw _) fun _ => blind_request _ _ _) (blind_request _ _ _)

theorem blind_beginWrite (descriptor : Nat) (buffer : Address) (length : Nat) :
    Blind (beginWrite descriptor buffer length) := by
  refine matches_seq (blind_look fun _ _ => rfl) fun bytes => ?_
  refine matches_seq (matches_note _ _) fun _ => ?_
  exact matches_ite (matches_seq (matches_throw _) fun _ => blind_request _ _ _)
    (blind_request _ _ _)

theorem blind_begin (f : HostFunction) : Blind f.begin := by
  cases f with
  | read =>
    refine matches_seq (blind_pop 8) fun descriptor => ?_
    refine matches_seq (blind_pop 8) fun buffer => ?_
    refine matches_seq (blind_pop 8) fun length => ?_
    exact blind_beginRead _ _ _
  | write =>
    refine matches_seq (blind_pop 8) fun descriptor => ?_
    refine matches_seq (blind_pop 8) fun buffer => ?_
    refine matches_seq (blind_pop 8) fun length => ?_
    exact blind_beginWrite _ _ _
  | openFile =>
    refine matches_seq (blind_pop 8) fun name => ?_
    refine matches_seq (blind_look fun _ _ => rfl) fun bytes => ?_
    -- The machine is read for its next descriptor only.
    refine matches_bind matches_get ?_
    rintro m _ ⟨journal, rfl⟩
    exact blind_pure _
  | closeFile =>
    refine matches_seq (blind_pop 8) fun descriptor => ?_
    refine matches_seq (matches_note _ _) fun _ => ?_
    refine matches_seq (blind_requireOpen _) fun _ => ?_
    exact matches_seq (blind_modify fun _ _ => rfl) fun _ => blind_pure _
  | exit =>
    refine matches_seq (blind_pop 8) fun status => ?_
    exact matches_seq (matches_note _ _) fun _ => blind_pure _
  | malloc =>
    refine matches_seq (blind_pop 8) fun size => ?_
    refine matches_seq (blind_allocate _) fun address => ?_
    exact matches_seq (blind_push _ 8) fun _ => blind_pure _
  | free =>
    refine matches_seq (blind_pop 8) fun address => ?_
    refine matches_seq (blind_pop 8) fun size => ?_
    exact matches_seq (blind_release _ _) fun _ => blind_pure _

end HostFunction

theorem Request.blind_finish (request : Request) (reply : Reply) :
    Blind (request.finish reply) := by
  cases request with
  | readLine descriptor buffer limit =>
    cases reply with
    | error reason => exact matches_throw _
    | ok line =>
      refine matches_seq (blind_onMemory _) fun _ => ?_
      exact matches_seq (matches_note _ _) fun _ => blind_push _ 8
  | write descriptor bytes =>
    cases reply with
    | error reason => exact matches_throw _
    | ok line => exact blind_pure _
  | openFile descriptor path =>
    cases reply with
    | error reason => exact matches_seq (matches_note _ _) fun _ => blind_push _ 8
    | ok line =>
      refine matches_seq (blind_modify fun _ _ => rfl) fun _ => ?_
      exact matches_seq (matches_note _ _) fun _ => blind_push _ 8
  | closeFile descriptor => exact blind_pure _

/-! ## Words -/

namespace Opcode

theorem blind_assign (a : RegisterIndex) (value : UInt64) : Blind (assign a value) :=
  matches_seq (blind_modify fun _ _ => rfl) fun _ => blind_pure _

theorem blind_callHost (address : Address) (number : Nat) : Blind (callHost address number) := by
  unfold callHost
  split
  · exact matches_throw _
  · refine matches_seq (matches_note _ _) fun _ => ?_
    refine matches_seq (HostFunction.blind_begin _) fun progress => ?_
    cases progress <;> exact blind_pure _

theorem blind_ret (address : Address) (a : RegisterIndex) (x y : UInt64) (literal : UInt8) :
    Blind (run address a x y literal ret) := by
  rintro m _ ⟨journal, rfl⟩
  simp only [run]
  cases m.calls.pop address with
  | error e => exact .error ⟨journal, rfl⟩
  | ok p => exact .ok rfl ⟨journal, rfl⟩

theorem blind_run (address : Address) (a : RegisterIndex) (x y : UInt64) (literal : UInt8)
    (op : Opcode) : Blind (op.run address a x y literal) := by
  cases op with
  | nop => exact blind_pure _
  | mov => exact blind_assign a y
  | binary op =>
    simp only [run]
    split
    · exact blind_assign a _
    · exact matches_throw _
  | not => exact blind_assign a _
  | double op => exact blind_assign a _
  | pushRegister w => exact matches_seq (blind_push x w.bytes) fun _ => blind_pure _
  | pushLiteral =>
    exact matches_seq (blind_update (fun _ _ => rfl) fun _ _ _ => rfl) fun _ => blind_pure _
  | pop w => exact matches_seq (blind_pop w.bytes) fun _ => blind_assign a _
  | store w => exact matches_seq (blind_onMemory _) fun _ => blind_pure _
  | load w => exact matches_seq (blind_look fun _ _ => rfl) fun _ => blind_assign a _
  | shift d => exact blind_assign a _
  | branch c => exact blind_pure _
  | goto => exact blind_pure _
  | call =>
    simp only [run]
    split
    · exact blind_callHost address _
    · exact matches_seq (blind_update (fun _ _ => rfl) fun _ _ _ => rfl) fun _ => blind_pure _
  | ret => exact blind_ret address a x y literal

/-- An operation uses the operands that its shape shows, and no others. -/
theorem run_eq_of_operands {op : Opcode} {w w' : Word}
    (h : Instruction.readOperands w op.shape = Instruction.readOperands w' op.shape)
    (address : Address) (m : Machine) :
    op.run address w.first (m.register w.first) (m.register w.second) w.literal =
      op.run address w'.first (m.register w'.first) (m.register w'.second) w'.literal := by
  cases op with
  | nop | ret => rfl
  | pushLiteral =>
    have hliteral : w.literal = w'.literal := Operands.literal.inj h
    simp only [run, hliteral]
  | not | pushRegister | pop | goto | call =>
    have hfirst : w.first = w'.first := Operands.one.inj h
    simp only [run, hfirst]
  | mov | binary | double | store | load | shift | branch =>
    obtain ⟨hfirst, hsecond⟩ := Operands.two.inj h
    simp only [run, hfirst, hsecond]

end Opcode

/-- Two words that have the same effect at every address, apart from what is reported. -/
def Word.Equivalent (w w' : Word) : Prop :=
  ∀ address, Matches Machine.Alike Eq (step address w) (step address w')

/-- Words of one instruction are equivalent. -/
theorem Word.equivalent_of_decode? {w w' : Word} {i : Instruction}
    (h : Instruction.decode? w = some i) (h' : Instruction.decode? w' = some i) :
    w.Equivalent w' := by
  obtain ⟨hop, hoperands⟩ := Instruction.decode?_eq_some.mp h
  obtain ⟨hop', hoperands'⟩ := Instruction.decode?_eq_some.mp h'
  intro address
  unfold step
  rw [hop, hop']
  refine matches_bind matches_get ?_
  rintro m _ ⟨journal, rfl⟩
  refine matches_seq (matches_note _ _) fun _ => ?_
  rw [show ({ m with journal } : Machine).register = m.register from rfl,
    ← Opcode.run_eq_of_operands (hoperands.symm.trans hoperands')]
  exact Opcode.blind_run _ _ _ _ _ _

theorem Word.equivalent_refl (w : Word) : w.Equivalent w := by
  cases hdecode : Instruction.decode? w with
  | some i => exact equivalent_of_decode? hdecode hdecode
  | none =>
    have hop : w.opcode? = none := Option.map_eq_none_iff.mp hdecode
    intro address
    unfold step
    rw [hop]
    exact matches_throw _

/-- A word has the effect of what its instruction shows. -/
theorem Word.equivalent_canonical (w : Word) : w.Equivalent w.canonical := by
  cases hdecode : Instruction.decode? w with
  | some i => exact equivalent_of_decode? hdecode (w.decode?_canonical.trans hdecode)
  | none =>
    have hcanonical : w.canonical = w := by rw [canonical, hdecode]
    rw [hcanonical]
    exact equivalent_refl w

end WordMachine
