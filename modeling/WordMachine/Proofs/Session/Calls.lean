import WordMachine.Proofs.Session.Course

/-!
# Calls and returns

While a call is pending, it and the calls below it stay where they are, however deep the calls above
it go, whatever jumps out of them, and whatever the host is asked. The return that brings the run
back to the depth of the call goes on behind the call.

A run that starts without pending calls only ever returns to words behind calls. So it leaves the
code by a jump: neither going on nor returning leads out of it.

* `Machine.Above` : a machine with a call pending, over the calls that were pending before.
* `Session.call_return` : what stands on the call stack from a call to its return.
* `Session.counter_provenance` : where a program counter outside of the code comes from.
-/

namespace WordMachine

theorem Stack.eq_of_items {α : Type} {s t : Stack α} (hitems : s.items = t.items)
    (hlimit : s.limit = t.limit) : s = t := by
  have hdepth : s.depth = t.depth := by rw [s.depth_eq, t.depth_eq, hitems]
  cases s
  cases t
  simp_all

namespace Machine

/-- The word at the program counter calls an address of a given space. -/
def CallsInto (code : Array Word) (space : Space) (m : Machine) : Prop :=
  ∃ w, fetch code m.counter = .word w ∧ w.opcode? = some .call ∧
    Address.space ⟨m.register w.first⟩ = space

/-- A machine with a call from an address pending, over given pending calls. -/
structure Above (a : Address) (calls : CallStack) (m : Machine) : Prop where
  suffix : (a :: calls.items) <:+ m.calls.items
  limit_eq : m.calls.limit = calls.limit

theorem Above.depth_lt {a : Address} {calls : CallStack} {m : Machine} (h : m.Above a calls) :
    calls.depth < m.calls.depth := by
  have hlength := h.suffix.length_le
  rw [List.length_cons] at hlength
  rw [calls.depth_eq, m.calls.depth_eq]
  omega

/-- One word leaves a pending call where it is, or returns from it. -/
theorem Above.word {a : Address} {calls : CallStack} {m : Machine} (h : m.Above a calls)
    (w : Word) :
    (a :: calls.items) <:+ (m.pending w).items ∧ (m.pending w).limit = calls.limit ∨
      m.pending w = calls ∧ m.target? w = some a.next := by
  unfold pending target?
  cases hop : w.opcode? with
  | none => exact .inl ⟨h.suffix, h.limit_eq⟩
  | some op =>
    simp only [Option.map_some, Option.getD_some, Option.bind_some]
    cases op with
    | call =>
      left
      simp only [Opcode.pending]
      split
      · exact ⟨h.suffix.trans (List.suffix_cons _ _), h.limit_eq⟩
      · exact ⟨h.suffix, h.limit_eq⟩
    | ret =>
      cases hitems : m.calls.items with
      | nil =>
        have hnil := h.suffix
        rw [hitems] at hnil
        exact absurd hnil.length_le (by simp)
      | cons caller rest =>
        -- The newest call is the pending one, or that one lies below it.
        have hsuffix := h.suffix
        rw [hitems] at hsuffix
        rcases List.suffix_cons_iff.mp hsuffix with heq | hbelow
        · obtain ⟨rfl, hrest⟩ := List.cons.inj heq
          right
          refine ⟨Stack.eq_of_items ?_ h.limit_eq, ?_⟩
          · simp [Opcode.pending, Stack.drop, hitems, hrest]
          · simp [Opcode.target?, hitems]
        · left
          refine ⟨?_, h.limit_eq⟩
          simpa [Opcode.pending, Stack.drop, hitems] using hbelow
    | _ => exact .inl ⟨h.suffix, h.limit_eq⟩

/-- Every pending call stands at a word that is a call. -/
def CallsFromCode (code : Array Word) (m : Machine) : Prop :=
  ∀ a ∈ m.calls.items, ∃ w, fetch code a = .word w ∧ w.opcode? = some .call

/-- A word that jumps to an address in one of its registers: a goto, a branch whose condition holds,
or a call of a dynamic address. -/
inductive JumpsBy (m : Machine) (w : Word) : Address → Prop where
  | goto : w.opcode? = some .goto → JumpsBy m w ⟨m.register w.first⟩
  | branch {c : Condition} : w.opcode? = some (.branch c) → c.holds (m.register w.first) = true →
    JumpsBy m w ⟨m.register w.second⟩
  | call : w.opcode? = some .call → Address.space ⟨m.register w.first⟩ = .dynamic →
    JumpsBy m w ⟨m.register w.first⟩

/-- What jumps and is not a return jumps to an address in one of its registers. -/
theorem jumpsBy_of_target? {m : Machine} {w : Word} {a : Address}
    (h : m.target? w = some a) :
    m.JumpsBy w a ∨ ∃ caller ∈ m.calls.items, a = caller.next := by
  unfold target? at h
  cases hop : w.opcode? with
  | none =>
    rw [hop] at h
    cases h
  | some op =>
    rw [hop, Option.bind_some] at h
    cases op with
    | goto =>
      cases h
      exact .inl (.goto hop)
    | branch c =>
      simp only [Opcode.target?] at h
      split at h
      · rename_i hc
        cases h
        exact .inl (.branch hop hc)
      · cases h
    | call =>
      simp only [Opcode.target?] at h
      split at h
      · rename_i hspace
        cases h
        exact .inl (.call hop hspace)
      · cases h
    | ret =>
      obtain ⟨caller, hcaller, rfl⟩ := Option.map_eq_some_iff.mp h
      exact .inr ⟨caller, List.mem_of_mem_head? hcaller, rfl⟩
    | _ => cases h

end Machine

namespace Session

variable {s t u : Session} {hosts : Nat → Host} {host : Host} {code : Array Word}

/-! ## From a call to its return -/

/-- One turn leaves a pending call where it is, or returns from it. -/
theorem above_turnWith {a : Address} {calls : CallStack} (h : s.machine.Above a calls) :
    (s.turnWith host code).session.machine.Above a calls ∨
      (s.turnWith host code).session.machine.Stands calls a.next := by
  cases hturn : s.turnWith host code with
  | running t =>
    obtain ⟨w, -, hcalls, hcounter⟩ := turnWith_running hturn
    rcases h.word w with ⟨hsuffix, hlimit⟩ | ⟨hpending, htarget⟩
    · left
      exact ⟨hcalls ▸ hsuffix, hcalls ▸ hlimit⟩
    · right
      refine ⟨hcalls.trans hpending, hcounter.trans ?_⟩
      rw [htarget]
      rfl
  | ended ending t =>
    obtain ⟨⟨hcalls, -⟩, -⟩ := turnWith_ended hturn
    left
    exact ⟨hcalls ▸ h.suffix, hcalls ▸ h.limit_eq⟩
  | waiting request t => exact absurd hturn (turnWith_ne_waiting host code request)

/-- A call of a dynamic address that succeeds is pending. -/
theorem above_of_callsInto (hcall : s.machine.CallsInto code .dynamic)
    (h : s.turnWith host code = .running t) :
    t.machine.Above s.machine.counter s.machine.calls := by
  obtain ⟨w, hfetch, hop, hspace⟩ := hcall
  obtain ⟨v, hv, hcalls, -⟩ := turnWith_running h
  obtain rfl : w = v := Fetched.word.inj (hfetch.symm.trans hv)
  have hpending : s.machine.pending w = s.machine.calls.extend [s.machine.counter] := by
    simp [Machine.pending, hop, Opcode.pending, hspace]
  rw [hpending] at hcalls
  refine ⟨?_, ?_⟩
  · rw [hcalls]
    exact List.suffix_refl _
  · rw [hcalls]
    rfl

/-- A call of a static address, known to the host or not, leaves the pending calls. -/
theorem calls_of_callsInto_static (hcall : s.machine.CallsInto code .static) :
    (s.turnWith host code).session.machine.calls = s.machine.calls := by
  obtain ⟨w, hfetch, hop, hspace⟩ := hcall
  cases hturn : s.turnWith host code with
  | running t =>
    obtain ⟨v, hv, hcalls, -⟩ := turnWith_running hturn
    obtain rfl : w = v := Fetched.word.inj (hfetch.symm.trans hv)
    refine hcalls.trans ?_
    simp [Machine.pending, hop, Opcode.pending, hspace]
  | ended ending t => exact (turnWith_ended hturn).1.1
  | waiting request t => exact absurd hturn (turnWith_ne_waiting host code request)

/-- From a call on, up to the first state at its depth, the call stays pending; in that state it has
returned. -/
theorem above_course {a : Address} {calls : CallStack} {i : Nat}
    (h : (s.course hosts code i).session.machine.Above a calls) {j : Nat} (hij : i ≤ j)
    (hfirst : ∀ k, i ≤ k → k < j →
      (s.course hosts code k).session.machine.calls.depth ≠ calls.depth) :
    (s.course hosts code j).session.machine.Above a calls ∨
      (s.course hosts code j).session.machine.Stands calls a.next := by
  induction j, hij using Nat.le_induction with
  | base => exact .inl h
  | succ j hij ih =>
    have habove : (s.course hosts code j).session.machine.Above a calls := by
      refine (ih fun k hik hkj => hfirst k hik (by omega)).resolve_right fun hstands => ?_
      exact hfirst j hij (Nat.lt_succ_self j) (by rw [hstands.1])
    cases hj : s.course hosts code j with
    | running t =>
      rw [hj] at habove
      rw [course_succ_of_running hj]
      exact above_turnWith habove
    | ended ending t =>
      rw [hj] at habove
      rw [course_succ_of_ended hj]
      exact .inl habove
    | waiting request t => exact absurd hj (course_ne_waiting request)

/-- In every run, whatever the hosts answer: after a call of a dynamic address that succeeds, the
call and the calls below it are the bottom of the call stack in every later state, up to the first
one at the depth of the call. In that state the call stack is what it was before the call, and the
program counter is behind the call. A call of a static address never changes the call stack. -/
theorem call_return (hosts : Nat → Host) (code : Array Word) (s : Session) (entry : Address) :
    let run := (s.start code entry).course hosts code
    (∀ i j t u, run i = .running t → t.machine.CallsInto code .dynamic →
      run (i + 1) = .running u → i < j →
      (∀ k, i < k → k < j → (run k).session.machine.calls.depth ≠ t.machine.calls.depth) →
      ((run j).session.machine.calls.depth ≠ t.machine.calls.depth →
        (t.machine.counter :: t.machine.calls.items) <:+ (run j).session.machine.calls.items) ∧
      ((run j).session.machine.calls.depth = t.machine.calls.depth →
        (run j).session.machine.calls = t.machine.calls ∧
        (run j).session.machine.counter = t.machine.counter.next)) ∧
    ∀ i t, run i = .running t → t.machine.CallsInto code .static →
      (run (i + 1)).session.machine.calls = t.machine.calls := by
  intro run
  refine ⟨?_, ?_⟩
  · intro i j t u hi hcall hsucc hij hfirst
    have hturn : t.turnWith (hosts i) code = .running u :=
      (course_succ_of_running hi).symm.trans hsucc
    have hcalled : (run (i + 1)).session.machine.Above t.machine.counter t.machine.calls := by
      rw [hsucc]
      exact above_of_callsInto hcall hturn
    have hstate := above_course hcalled hij fun k hik hkj => hfirst k hik hkj
    refine ⟨fun hdepth => ?_, fun hdepth => ?_⟩
    · rcases hstate with habove | hstands
      · exact habove.suffix
      · exact absurd (congrArg Stack.depth hstands.1) hdepth
    · rcases hstate with habove | hstands
      · exact absurd hdepth habove.depth_lt.ne'
      · exact hstands
  · intro i t hi hcall
    have hsucc : run (i + 1) = t.turnWith (hosts i) code := course_succ_of_running hi
    rw [hsucc]
    exact calls_of_callsInto_static hcall

def callOuter : Word := .ofOperands .call 1 0

def callInner : Word := .ofOperands .call 2 0

/-- Calls a host function that does not exist. -/
def callUnknown : Word := .ofOperands .call 3 0

def goBack : Word := .ofOperands .ret 0 0

/-- Calls a subroutine that calls another one, and then an unknown host function. -/
def nested : Array Word := #[callOuter, callUnknown, callInner, goBack, goBack]

/-- A session whose registers hold the targets of `nested`. -/
def nestedSession : Session :=
  let m := (Machine.ofFixed ∅).setRegister callOuter.first 2
  let m := m.setRegister callInner.first 4
  { machine := m.setRegister callUnknown.first 0x8000000000000007 }

/-- Where `nested` stands after some turns. -/
def nestedRun : Nat → Stage :=
  (nestedSession.start nested ⟨0⟩).course (fun _ => World.answer) nested

theorem call_return_nested :
    (nestedRun 1).session.machine.calls.depth = 1 ∧ (nestedRun 2).session.machine.calls.depth = 2 ∧
    (nestedRun 3).session.machine.calls.depth = 1 ∧
    [⟨0⟩] <:+ (nestedRun 2).session.machine.calls.items ∧
    (nestedRun 4).session.machine.calls = (nestedRun 0).session.machine.calls ∧
    (nestedRun 4).session.machine.counter = ⟨1⟩ ∧
    (nestedRun 5).session.machine.calls = (nestedRun 4).session.machine.calls := by
  obtain ⟨hreturn, hhost⟩ := call_return (fun _ => World.answer) nested nestedSession ⟨0⟩
  have hcall : (nestedRun 0).session.machine.CallsInto nested .dynamic := ⟨_, rfl, rfl, rfl⟩
  have hdepth : ∀ k, 0 < k → k < 4 → (nestedRun k).session.machine.calls.depth ≠ 0 := by
    intro k hpos hlt
    obtain rfl | rfl | rfl : k = 1 ∨ k = 2 ∨ k = 3 := by omega
    all_goals exact Nat.succ_ne_zero _
  obtain ⟨hpending, -⟩ := hreturn 0 2 _ _ rfl hcall rfl (by decide) fun k hpos hlt =>
    hdepth k hpos (by omega)
  obtain ⟨-, hback⟩ := hreturn 0 4 _ _ rfl hcall rfl (by decide) hdepth
  obtain ⟨hcalls, hcounter⟩ := hback rfl
  exact ⟨rfl, rfl, rfl, hpending (Nat.succ_ne_zero _), hcalls, hcounter,
    hhost 4 _ rfl ⟨_, rfl, rfl, rfl⟩⟩

/-! ## Where a program counter outside of the code comes from -/

/-- One turn pends calls from the code only. -/
theorem callsFromCode_turnWith (host : Host) (s : Session) (h : s.machine.CallsFromCode code) :
    (s.turnWith host code).session.machine.CallsFromCode code := by
  cases hturn : s.turnWith host code with
  | running t =>
    obtain ⟨w, hfetch, hcalls, -⟩ := turnWith_running hturn
    intro a ha
    have hmem : a ∈ (s.machine.pending w).items := hcalls ▸ ha
    unfold Machine.pending at hmem
    cases hop : w.opcode? with
    | none =>
      rw [hop] at hmem
      exact h a hmem
    | some op =>
      rw [hop, Option.map_some, Option.getD_some] at hmem
      cases op with
      | call =>
        simp only [Opcode.pending] at hmem
        split at hmem
        · -- The newest call stands at the program counter, where the word was fetched.
          rcases List.mem_cons.mp hmem with rfl | hmem
          · exact ⟨w, hfetch, hop⟩
          · exact h a hmem
        · exact h a hmem
      | ret => exact h a (List.mem_of_mem_drop hmem)
      | _ => exact h a hmem
  | ended ending t =>
    obtain ⟨⟨hcalls, -⟩, -⟩ := turnWith_ended hturn
    intro a ha
    exact h a (hcalls ▸ ha)
  | waiting request t => exact absurd hturn (turnWith_ne_waiting host code request)

/-- A turn that leads outside of the code jumps there. -/
theorem jumpsBy_of_outside (hcode : code.size < spaceSize) (hcalls : s.machine.CallsFromCode code)
    (h : s.turnWith host code = .running t) (houtside : fetch code t.machine.counter = .outside) :
    ∃ w, fetch code s.machine.counter = .word w ∧ s.machine.JumpsBy w t.machine.counter := by
  obtain ⟨w, hfetch, -, hcounter⟩ := turnWith_running h
  cases htarget : s.machine.target? w with
  | none =>
    rw [htarget, Option.getD_none] at hcounter
    rw [hcounter] at houtside
    exact absurd houtside (fetch_next_ne_outside hcode hfetch)
  | some a =>
    rw [htarget, Option.getD_some] at hcounter
    rw [hcounter] at houtside ⊢
    rcases Machine.jumpsBy_of_target? htarget with hjump | ⟨caller, hcaller, rfl⟩
    · exact ⟨w, hfetch, hjump⟩
    · obtain ⟨v, hv, -⟩ := hcalls caller hcaller
      exact absurd houtside (fetch_next_ne_outside hcode hv)

/-- Only a turn that finds no word at the program counter reports it out of range. -/
theorem outside_of_turnWith {a : Address} {size : Nat}
    (h : s.turnWith host code = .ended (.error (.counterOutOfRange a size)) t) :
    fetch code s.machine.counter = .outside ∧ a = s.machine.counter ∧ size = code.size := by
  obtain ⟨-, hending⟩ := turnWith_ended h
  cases hfetch : fetch code s.machine.counter with
  | outside =>
    rw [hfetch] at hending
    cases hending
    exact ⟨rfl, rfl, rfl⟩
  | finished | word =>
    rw [hfetch] at hending
    cases hending

/-- In every run of code that fits into the dynamic space, from a state without pending calls: every
pending call is the index of a word that is a call. If the run ends because the program counter is
out of range, then the address reported is static or beyond the end of the code, and it is the
entry, or it was just jumped to by a goto, by a branch whose condition held, or by a call of a
dynamic address, out of the register that holds the target.

Code that does not fit has at least 2 ^ 63 words of two bytes, which is all that 64 bits can address.
There the last dynamic address would fall through to a static one. -/
theorem counter_provenance (hosts : Nat → Host) {code : Array Word} (hcode : code.size < spaceSize)
    {s : Session} (hcalls : s.machine.calls.items = []) (entry : Address) :
    let run := (s.start code entry).course hosts code
    (∀ n, ∀ a ∈ (run n).session.machine.calls.items,
      a.toNat < code.size ∧ ∃ w, code[a.toNat]? = some w ∧ w.opcode? = some .call) ∧
    ∀ n a size t, run n = .ended (.error (.counterOutOfRange a size)) t →
      (a.space = .static ∨ code.size < a.toNat) ∧ size = code.size ∧
      (a = entry ∧ run 1 = run n ∨
        ∃ k u v w, run k = .running u ∧ run (k + 1) = .running v ∧ run (k + 2) = run n ∧
          fetch code u.machine.counter = .word w ∧ u.machine.JumpsBy w a) := by
  intro run
  have hstart : (s.start code entry).machine.CallsFromCode code := by
    intro a ha
    have hnil : a ∈ ([] : List Address) := hcalls ▸ ha
    cases hnil
  have hframes : ∀ n, (run n).session.machine.CallsFromCode code :=
    course_invariant callsFromCode_turnWith hstart
  refine ⟨fun n a ha => ?_, fun n a size t hn => ?_⟩
  · obtain ⟨w, hfetch, hop⟩ := hframes n a ha
    exact ⟨lt_size_of_fetch hfetch, w, (fetch_eq_word.mp hfetch).2, hop⟩
  · obtain ⟨k, -, v, hk, hturn⟩ := exists_last_turn hn
    have hlast : run (k + 1) = run n :=
      (course_succ_of_running hk).trans (hturn.trans hn.symm)
    obtain ⟨houtside, rfl, rfl⟩ := outside_of_turnWith hturn
    refine ⟨fetch_eq_outside.mp houtside, rfl, ?_⟩
    cases k with
    | zero =>
      cases hk
      exact .inl ⟨rfl, hlast⟩
    | succ k =>
      obtain ⟨u, hu, huv⟩ := exists_turn_before hk
      have hcallsu := hframes k
      rw [show run k = .running u from hu] at hcallsu
      obtain ⟨w, hfetch, hjump⟩ := jumpsBy_of_outside hcode hcallsu huv houtside
      exact .inr ⟨k, u, v, w, hu, hk, hlast, hfetch, hjump⟩

def goAstray : Word := .ofOperands .goto 2 0

/-- Calls a subroutine that jumps out of the code. -/
def straying : Array Word := #[callOuter, goAstray]

/-- A session whose registers hold the targets of `straying`. -/
def strayingSession : Session :=
  let m := (Machine.ofFixed ∅).setRegister callOuter.first 1
  { machine := m.setRegister goAstray.first 9 }

/-- Where `straying` stands after some turns. -/
def strayingRun : Nat → Stage :=
  (strayingSession.start straying ⟨0⟩).course (fun _ => World.answer) straying

theorem counter_provenance_straying :
    straying.size < spaceSize ∧ strayingSession.machine.calls.items = [] ∧
    (strayingRun 3).session.machine.calls.items = [⟨0⟩] ∧
    (∃ w, straying[0]? = some w ∧ w.opcode? = some .call) ∧
    ∃ (t u : Session) (w : Word), strayingRun 3 = .ended (.error (.counterOutOfRange ⟨9⟩ 2)) t ∧
      fetch straying u.machine.counter = .word w ∧ u.machine.JumpsBy w ⟨9⟩ := by
  have hsize : straying.size < spaceSize := by decide
  have hcalls : strayingSession.machine.calls.items = [] := rfl
  have hitems : (strayingRun 3).session.machine.calls.items = [⟨0⟩] := rfl
  obtain ⟨hframes, hcounter⟩ := counter_provenance (fun _ => World.answer) hsize hcalls ⟨0⟩
  obtain ⟨-, w, hw, hop⟩ := hframes 3 ⟨0⟩ (hitems ▸ List.mem_cons_self)
  obtain ⟨-, -, hentry | ⟨k, u, v, w', -, -, -, hfetch, hjump⟩⟩ := hcounter 3 ⟨9⟩ 2 _ rfl
  · exact absurd hentry.1 (by decide)
  · exact ⟨hsize, hcalls, hitems, ⟨w, hw, hop⟩, _, u, w', rfl, hfetch, hjump⟩

end Session

end WordMachine
