import WordMachine.Proofs.Machine.Fault
import WordMachine.Proofs.Session.Reachable

/-!
# Faults change nothing

A turn that faults leaves a reachable machine as it was. Only a host function that was called may
have taken arguments off the calculation stack. Bytes are stored one by one, into the memory itself;
that none is stored if one of them cannot be is `Memory.putSpan_eq`, on which `Action.writeBytes_eq`
and `Action.writeValue_eq` rest.

* `Session.turnWith_eq_error` : the ways in which a turn faults.
* `Session.turnWith_fault_atomic` : what a fault leaves.
-/

namespace WordMachine

namespace Session

variable {s s' : Session} {host : World → Request → Reply × World} {code : Array Word}
  {fault : Fault}

theorem popped_notify (s : Session) (n : Notification) :
    s.machine.Popped 0 (s.notify n).machine := Machine.popped_journal _ _

/-! ## The ways in which a turn faults -/

theorem advance_eq_error {w : Word} (h : s.advance w = .ended (.error fault) s') :
    step s.machine.counter w (s.notify (.step s.machine.counter w)).machine =
      .error fault s'.machine := by
  unfold advance at h
  dsimp only at h
  split at h
  · rename_i hstep
    cases h
    exact hstep
  all_goals cases h

theorem advance_eq_waiting {w : Word} {request : Request} (h : s.advance w = .waiting request s') :
    step s.machine.counter w (s.notify (.step s.machine.counter w)).machine =
      .ok (.ask request) s'.machine := by
  unfold advance at h
  dsimp only at h
  split at h
  case h_5 hstep =>
    cases h
    exact hstep
  all_goals cases h

theorem resume_eq_error {request : Request} {reply : Reply}
    (h : s.resume request reply = .ended (.error fault) s') :
    request.finish reply s.machine = .error fault s'.machine := by
  unfold resume at h
  split at h
  · rename_i hfinish
    cases h
    exact hfinish
  · cases h

/-- A turn faults because there is no word to execute, because the word faults, or because it
cannot be finished with the answer of the host. -/
theorem turnWith_eq_error (h : s.turnWith host code = .ended (.error fault) s') :
    (fetch code s.machine.counter = .outside ∧ s' = s ∧
        fault = .counterOutOfRange s.machine.counter code.size) ∨
      ∃ w d, fetch code s.machine.counter = .word w ∧ s.machine.Popped 0 d ∧
        (step s.machine.counter w d = .error fault s'.machine ∨
          ∃ request reply d', step s.machine.counter w d = .ok (.ask request) d' ∧
            request.finish reply d' = .error fault s'.machine) := by
  unfold turnWith at h
  split at h
  · rename_i request t hbegin
    unfold Session.begin at hbegin
    split at hbegin
    · cases hbegin
    · cases hbegin
    · rename_i w hw
      have hfinish : request.finish (host t.world request).1 t.machine = .error fault s'.machine :=
        resume_eq_error (s := { t with world := (host t.world request).2 }) h
      exact .inr ⟨w, _, hw, popped_notify s _,
        .inr ⟨request, _, _, advance_eq_waiting hbegin, hfinish⟩⟩
  · unfold Session.begin at h
    split at h
    · rename_i hw
      cases h
      exact .inl ⟨hw, rfl, rfl⟩
    · cases h
    · rename_i w hw
      exact .inr ⟨w, _, hw, popped_notify s _, .inl (advance_eq_error h)⟩

/-! ## What a fault leaves -/

/-- A turn that calls no host function faults in place. -/
theorem popped_of_not_calls
    (hw : ∀ w f, fetch code s.machine.counter = .word w → ¬ s.machine.Calls w f)
    (h : s.turnWith host code = .ended (.error fault) s') :
    s.machine.Popped 0 s'.machine := by
  rcases turnWith_eq_error h with ⟨-, rfl, -⟩ | ⟨w, d, hfetch, hd, hstep⟩
  · exact Machine.popped_refl _
  have hword := triple_step_of_not_calls (fun f => hw w f hfetch) s.machine.counter
  rcases hstep with hstep | ⟨request, reply, d', hstep, -⟩
  · exact hword.error hd hstep
  · exact absurd rfl (hword.ok hd hstep request)

/-- A turn that calls a host function faults with at most its arguments taken. -/
theorem faulted_of_calls (hs : s.machine.StackFits) {w : Word} {f : HostFunction}
    (hfetch : fetch code s.machine.counter = .word w) (hw : s.machine.Calls w f)
    (h : s.turnWith host code = .ended (.error fault) s') :
    s.machine.Faulted f.arity fault s'.machine := by
  have hword := triple_step_of_calls hs hw s.machine.counter
  rcases turnWith_eq_error h with ⟨houtside, -⟩ | ⟨v, d, hv, hd, hstep⟩
  · rw [hfetch] at houtside
    cases houtside
  obtain rfl : w = v := Fetched.word.inj (hfetch.symm.trans hv)
  rcases hstep with hstep | ⟨request, reply, d', hstep, hfinish⟩
  · exact hword.error hd hstep
  · have hasked := hword.ok hd hstep request rfl
    exact (request.triple_finish hs f.arity_pos reply).error hasked hfinish

/-- A turn of a reachable session that faults, whatever the host answers, leaves the registers, the
pending returns, the program counter, the memory and the open files as they were. The calculation
stack is as it was too, unless the word calls a host function. Then up to three whole arguments are
gone from its top, and the fault is not that it overflowed. -/
theorem turnWith_fault_atomic (hs : s.Reachable)
    (h : s.turnWith host code = .ended (.error fault) s') :
    s'.machine.registers = s.machine.registers ∧ s'.machine.calls = s.machine.calls ∧
    s'.machine.counter = s.machine.counter ∧ s'.machine.memory = s.machine.memory ∧
    s'.machine.descriptors = s.machine.descriptors ∧
    ((∀ w f, fetch code s.machine.counter = .word w → ¬ s.machine.Calls w f) →
      s'.machine.stack = s.machine.stack) ∧
    (∀ w f, fetch code s.machine.counter = .word w → s.machine.Calls w f →
      (∃ k, k ≤ 3 ∧ k ≤ f.arity ∧ 8 * k ≤ s.machine.stack.depth ∧
        s'.machine.stack = s.machine.stack.drop (8 * k)) ∧
      ∀ limit, fault ≠ .stackOverflow limit) := by
  have hcalls := fun w f hfetch hw =>
    @faulted_of_calls s s' host code fault hs.stackFits w f hfetch hw h
  have hpopped : ∃ n, s.machine.Popped n s'.machine := by
    by_cases hw : ∃ w f, fetch code s.machine.counter = .word w ∧ s.machine.Calls w f
    · obtain ⟨w, f, hfetch, hw⟩ := hw
      obtain ⟨k, -, hk⟩ := (hcalls w f hfetch hw).popped
      exact ⟨8 * k, hk⟩
    · exact ⟨0, popped_of_not_calls (fun w f hfetch hf => hw ⟨w, f, hfetch, hf⟩) h⟩
  obtain ⟨n, hn⟩ := hpopped
  refine ⟨hn.registers, hn.calls, hn.counter, hn.memory, hn.descriptors, fun hw => ?_,
    fun w f hfetch hw => ?_⟩
  · rw [(popped_of_not_calls hw h).stack, Stack.drop_zero]
  · obtain ⟨⟨k, hk, hstack⟩, hfault⟩ := hcalls w f hfetch hw
    exact ⟨⟨k, hk.trans f.arity_le_three, hk, hstack.enough, hstack.stack⟩, hfault⟩

/-- Pushes an argument from a register. -/
def strayPush : Word := .ofOperands (.pushRegister .double) 1 0

/-- Calls the address in another register. -/
def strayCall : Word := .ofOperands .call 0 0

/-- A program that pushes three arguments and calls a host function with them. -/
def strayWrite : Array Word := #[strayPush, strayPush, strayPush, strayCall]

/-- A machine on which `strayWrite` writes a buffer that does not exist. -/
def strayMachine : Machine :=
  let m := (Machine.ofFixed ∅).setRegister strayCall.first HostFunction.write.callAddress.bits
  m.setRegister strayPush.first 1

/-- A session after some turns of `strayWrite`. -/
def afterTurns : Nat → Session
  | 0 => { machine := strayMachine : Session }.start strayWrite ⟨0⟩
  | n + 1 => ((afterTurns n).turnWith World.answer strayWrite).session

theorem reachable_afterTurns (n : Nat) : (afterTurns n).Reachable := by
  induction n with
  | zero => exact .start _ _ (.setRegister _ 1 (.setRegister _ _ (.fresh ∅ .silent {})))
  | succ n ih => exact .turn _ _ ih

theorem turnWith_fault_atomic_strayWrite :
    (afterTurns 3).Reachable ∧ (afterTurns 3).machine.stack.depth = 24 ∧
    ∃ s', (afterTurns 3).turnWith World.answer strayWrite =
        .ended (.error (.unmapped .dynamic 1)) s' ∧
      s'.machine.counter = ⟨3⟩ ∧ s'.machine.memory = (afterTurns 3).machine.memory ∧
      ∃ k ≤ 3, s'.machine.stack = (afterTurns 3).machine.stack.drop (8 * k) := by
  have hfault : (afterTurns 3).turnWith World.answer strayWrite =
      .ended (.error (.unmapped .dynamic 1))
        ((afterTurns 3).turnWith World.answer strayWrite).session := rfl
  obtain ⟨-, -, hcounter, hmemory, -, -, hcalls⟩ :=
    turnWith_fault_atomic (reachable_afterTurns 3) hfault
  obtain ⟨⟨k, hk, -, -, hstack⟩, -⟩ := hcalls strayCall .write rfl ⟨rfl, rfl⟩
  exact ⟨reachable_afterTurns 3, rfl, _, hfault, hcounter, hmemory, k, hk, hstack⟩

end Session

end WordMachine
