import WordMachine.Proofs.Machine.Control
import WordMachine.Proofs.Session.Atomicity

/-!
# The course of a run

A turn has seven ways to go: there is no word at the program counter, the code is at its end, the
word goes on or jumps, faults, exits, or asks the host, which answers or refuses. A run takes turn
after turn, each with a host of its own, until it ends; there it stays.

* `Session.Turned`, `Session.turned` : the ways in which a turn goes.
* `Session.turnWith_running`, `Session.turnWith_ended` : the pending calls and the program counter
  after a turn.
* `Session.course` : where a run stands after some turns.
* `Session.run_eq_result?` : a bounded run ends where its course does.
-/

namespace WordMachine

/-- How a host answers a request, and the world afterwards. -/
abbrev Host := World → Request → Reply × World

/-- An ending that a word makes: not the end of the code, nor a program counter outside of it. -/
def Ending.OfWord : Ending → Prop
  | .ok .endOfCode => False
  | .ok (.exit _) => True
  | .error fault => fault.OfWord

/-- The result of a run that has ended. -/
def Stage.result? : Stage → Option (Ending × Session)
  | ended ending s => some (ending, s)
  | running _ | waiting _ _ => none

namespace Session

variable {s t : Session} {host : Host} {code : Array Word}

/-! ## One turn -/

/-- Tell the observer of the word at the program counter. -/
def announce (s : Session) (w : Word) : Session := s.notify (.step s.machine.counter w)

/-- The ways in which a turn goes. -/
inductive Turned (host : Host) (code : Array Word) (s : Session) : Stage → Prop where
  | outside : fetch code s.machine.counter = .outside →
    Turned host code s (.ended (.error (.counterOutOfRange s.machine.counter code.size)) s)
  | finished : fetch code s.machine.counter = .finished →
    Turned host code s (.ended (.ok .endOfCode) (s.note .endOfCode))
  | moved {w : Word} {flow : Flow} {target : Address} {m : Machine} :
    fetch code s.machine.counter = .word w →
    step s.machine.counter w (s.announce w).machine = .ok flow m →
    flow = .jump target ∨ flow = .next ∧ target = s.machine.counter.next →
    Turned host code s (.running ({ s.announce w with machine := m }.moveTo target))
  | faulted {w : Word} {fault : Fault} {m : Machine} :
    fetch code s.machine.counter = .word w →
    step s.machine.counter w (s.announce w).machine = .error fault m →
    Turned host code s (.ended (.error fault) { s.announce w with machine := m })
  | exited {w : Word} {status : Int} {m : Machine} :
    fetch code s.machine.counter = .word w →
    step s.machine.counter w (s.announce w).machine = .ok (.exit status) m →
    Turned host code s
      (.ended (.ok (.exit status)) ({ s.announce w with machine := m }.note (.exited status)))
  | answered {w : Word} {request : Request} {m m' : Machine} :
    fetch code s.machine.counter = .word w →
    step s.machine.counter w (s.announce w).machine = .ok (.ask request) m →
    request.finish (host s.world request).1 m = .ok () m' →
    Turned host code s
      (.running ({ s.announce w with machine := m', world := (host s.world request).2 }.moveTo
        m.counter.next))
  | refused {w : Word} {request : Request} {fault : Fault} {m m' : Machine} :
    fetch code s.machine.counter = .word w →
    step s.machine.counter w (s.announce w).machine = .ok (.ask request) m →
    request.finish (host s.world request).1 m = .error fault m' →
    Turned host code s
      (.ended (.error fault)
        { s.announce w with machine := m', world := (host s.world request).2 })

theorem resume_cases (s : Session) (request : Request) (reply : Reply) :
    (∃ m, request.finish reply s.machine = .ok () m ∧
      s.resume request reply = .running ({ s with machine := m }.moveTo s.machine.counter.next)) ∨
    ∃ fault m, request.finish reply s.machine = .error fault m ∧
      s.resume request reply = .ended (.error fault) { s with machine := m } := by
  unfold resume EStateM.run
  cases request.finish reply s.machine with
  | ok _ m => exact .inl ⟨m, rfl, rfl⟩
  | error fault m => exact .inr ⟨fault, m, rfl, rfl⟩

theorem turned (host : Host) (code : Array Word) (s : Session) :
    Turned host code s (s.turnWith host code) := by
  unfold turnWith Session.begin
  cases hfetch : fetch code s.machine.counter with
  | outside => exact .outside hfetch
  | finished => exact .finished hfetch
  | word w =>
    have hannounce : s.notify (.step s.machine.counter w) = s.announce w := rfl
    simp only [advance, EStateM.run, hannounce]
    cases hstep : step s.machine.counter w (s.announce w).machine with
    | error fault m => exact .faulted hfetch hstep
    | ok flow m =>
      cases flow with
      | next => exact .moved hfetch hstep (.inr ⟨rfl, rfl⟩)
      | jump target => exact .moved hfetch hstep (.inl rfl)
      | exit status => exact .exited hfetch hstep
      | ask request =>
        dsimp only
        -- Announcing the word leaves the world that answers.
        have hworld : (s.announce w).world = s.world := rfl
        rw [hworld]
        rcases resume_cases { s.announce w with machine := m, world := (host s.world request).2 }
          request (host s.world request).1 with
          ⟨m', hfinish, hresume⟩ | ⟨fault, m', hfinish, hresume⟩
        · rw [hresume]
          exact .answered hfetch hstep hfinish
        · rw [hresume]
          exact .refused hfetch hstep hfinish

theorem popped_announce (s : Session) (w : Word) : s.machine.Popped 0 (s.announce w).machine :=
  popped_notify s _

section Announced

variable {w : Word} {flow : Flow} {m : Machine}

theorem led_announced (hstep : step s.machine.counter w (s.announce w).machine = .ok flow m) :
    Machine.Led (s.machine.target? w) (s.machine.pending w) s.machine.counter flow m :=
  (leads_step s.machine w).ok (popped_announce s w) hstep

/-- A word that does not jump leaves the pending calls and the program counter. -/
theorem stands_announced (hstep : step s.machine.counter w (s.announce w).machine = .ok flow m)
    (hflow : ∀ target, flow ≠ .jump target) : m.Stands s.machine.calls s.machine.counter := by
  have hled := led_announced hstep
  have hpending := Machine.pending_of_target?_eq_none (hled.target?_eq_none hflow)
  exact ⟨hled.stands.1.trans hpending, hled.stands.2⟩

end Announced

/-- After a turn that goes on, the pending calls and the program counter are those where the word
leads. -/
theorem turnWith_running (h : s.turnWith host code = .running t) :
    ∃ w, fetch code s.machine.counter = .word w ∧
      t.machine.Stands (s.machine.pending w)
        ((s.machine.target? w).getD s.machine.counter.next) := by
  have hturned := turned host code s
  rw [h] at hturned
  cases hturned with
  | @moved w flow target m hfetch hstep htarget =>
    have hled := led_announced hstep
    refine ⟨w, hfetch, hled.stands.1, ?_⟩
    rcases htarget with rfl | ⟨rfl, rfl⟩
    · rw [(hled.jump_iff target).mp rfl]
      rfl
    · rw [hled.target?_eq_none (by rintro _ ⟨⟩)]
      rfl
  | @answered w request m m' hfetch hstep hfinish =>
    have hled := led_announced hstep
    have hstands := (request.sound_finish (Machine.steady_stands _ _) _).ok hled.stands hfinish
    refine ⟨w, hfetch, hstands.1, ?_⟩
    rw [hled.target?_eq_none (by rintro _ ⟨⟩), ← hled.stands.2]
    rfl

/-- A turn that ends the run leaves the pending calls and the program counter. How it ends depends
on what stands there. -/
theorem turnWith_ended {ending : Ending} (h : s.turnWith host code = .ended ending t) :
    t.machine.Stands s.machine.calls s.machine.counter ∧
      match fetch code s.machine.counter with
      | .outside => ending = .error (.counterOutOfRange s.machine.counter code.size)
      | .finished => ending = .ok .endOfCode
      | .word _ => ending.OfWord := by
  have hturned := turned host code s
  rw [h] at hturned
  cases hturned with
  | outside hfetch =>
    rw [hfetch]
    exact ⟨⟨rfl, rfl⟩, rfl⟩
  | finished hfetch =>
    rw [hfetch]
    exact ⟨⟨rfl, rfl⟩, rfl⟩
  | @faulted w fault m hfetch hstep =>
    rw [hfetch]
    exact (leads_step s.machine w).error (popped_announce s w) hstep
  | exited hfetch hstep =>
    have hstands := stands_announced hstep (by rintro _ ⟨⟩)
    rw [hfetch]
    exact ⟨hstands, trivial⟩
  | @refused w request fault m m' hfetch hstep hfinish =>
    have hstands := stands_announced hstep (by rintro _ ⟨⟩)
    rw [hfetch]
    exact (request.sound_finish (Machine.steady_stands _ _) _).error hstands hfinish

theorem turnWith_ne_waiting (host : Host) (code : Array Word) (request : Request) :
    s.turnWith host code ≠ .waiting request t := by
  intro h
  have hturned := turned host code s
  rw [h] at hturned
  cases hturned

/-! ## Turn after turn -/

/-- Where a run stands after some turns, of which each has its own host. A run that has ended stays
where it is. -/
def course (hosts : Nat → Host) (code : Array Word) (s : Session) : Nat → Stage
  | 0 => .running s
  | n + 1 =>
    match course hosts code s n with
    | .running t => t.turnWith (hosts n) code
    | stage => stage

variable {hosts : Nat → Host} {n : Nat}

theorem course_succ_of_running (h : s.course hosts code n = .running t) :
    s.course hosts code (n + 1) = t.turnWith (hosts n) code := by
  rw [course, h]

theorem course_succ_of_ended {ending : Ending} (h : s.course hosts code n = .ended ending t) :
    s.course hosts code (n + 1) = .ended ending t := by
  rw [course, h]

/-- The first turn of a run, and then the course from there. -/
theorem course_succ (hosts : Nat → Host) (code : Array Word) (s : Session) (n : Nat) :
    s.course hosts code (n + 1) =
      match s.turnWith (hosts 0) code with
      | .running t => t.course (fun k => hosts (k + 1)) code n
      | stage => stage := by
  induction n with
  | zero =>
    rw [course, course]
    dsimp only
    cases s.turnWith (hosts 0) code <;> rfl
  | succ n ih =>
    rw [course, ih]
    cases s.turnWith (hosts 0) code <;> rfl

/-- A run of at most so many turns gives what its course has come to after so many. -/
theorem run_eq_result? (code : Array Word) (bound : Nat) (s : Session) :
    run code bound s = (s.course (fun _ => World.answer) code bound).result? := by
  induction bound generalizing s with
  | zero => rfl
  | succ bound ih =>
    rw [course_succ]
    unfold run turn
    cases s.turnWith World.answer code with
    | running t => exact ih t
    | ended | waiting => rfl

theorem execute_eq_some {bound : Nat} {entry : Address} {ending : Ending} :
    s.execute code entry bound = some (ending, t) ↔
      (s.start code entry).course (fun _ => World.answer) code bound = .ended ending t := by
  unfold execute
  rw [run_eq_result?]
  cases (s.start code entry).course (fun _ => World.answer) code bound with
  | running | waiting | ended => simp [Stage.result?]

theorem course_ne_waiting (request : Request) : s.course hosts code n ≠ .waiting request t := by
  induction n with
  | zero => rintro ⟨⟩
  | succ n ih =>
    intro h
    rw [course] at h
    split at h
    · exact turnWith_ne_waiting _ _ _ h
    · exact ih h

/-- What every turn keeps holds all along a run. -/
theorem course_invariant {I : Machine → Prop}
    (hturn : ∀ (host : Host) (t : Session), I t.machine → I (t.turnWith host code).session.machine)
    (hs : I s.machine) (n : Nat) : I (s.course hosts code n).session.machine := by
  induction n with
  | zero => exact hs
  | succ n ih =>
    rw [course]
    split
    · rename_i t ht
      rw [ht] at ih
      exact hturn (hosts n) t ih
    · exact ih

/-- A run that has ended did so in one of its turns. -/
theorem exists_last_turn {ending : Ending} (h : s.course hosts code n = .ended ending t) :
    ∃ k < n, ∃ u, s.course hosts code k = .running u ∧
      u.turnWith (hosts k) code = .ended ending t := by
  induction n with
  | zero => cases h
  | succ n ih =>
    rw [course] at h
    split at h
    · rename_i u hu
      exact ⟨n, Nat.lt_succ_self n, u, hu, h⟩
    · obtain ⟨k, hk, hturn⟩ := ih h
      exact ⟨k, by omega, hturn⟩

/-- While a run goes on, it went on in every turn before. -/
theorem exists_turn_before (h : s.course hosts code (n + 1) = .running t) :
    ∃ u, s.course hosts code n = .running u ∧ u.turnWith (hosts n) code = .running t := by
  cases hn : s.course hosts code n with
  | running u => exact ⟨u, rfl, (course_succ_of_running hn).symm.trans h⟩
  | ended ending u =>
    rw [course_succ_of_ended hn] at h
    cases h
  | waiting request u => exact absurd hn (course_ne_waiting request)

end Session

end WordMachine
