import WordMachine.Proofs.Machine.Alike
import WordMachine.Proofs.Session.Course

/-!
# Runs that differ in their observers only

Two sessions are alike if they have the same world, and machines that differ in their reports only;
their observers may be any. Code with words of the same effect takes alike sessions to alike
sessions, turn by turn, and ends both runs alike.

* `Session.Alike`, `Stage.Alike` : sessions, and where runs stand.
* `EquivalentCode` : code with words of the same effect.
* `Session.alike_course`, `Session.alike_run` : the course and the end of alike runs.
-/

namespace WordMachine

/-! ## Code -/

/-- Code of the same size, with words of the same effect. -/
structure EquivalentCode (code code' : Array Word) : Prop where
  size_eq : code'.size = code.size
  word {i : Nat} {w w' : Word} : code[i]? = some w → code'[i]? = some w' → w.Equivalent w'

theorem equivalentCode_refl (code : Array Word) : EquivalentCode code code where
  size_eq := rfl
  word {i w w'} h h' := by
    obtain rfl : w = w' := Option.some.inj (h.symm.trans h')
    exact w.equivalent_refl

/-- Two fetches that find words of the same effect, or no word in the same way. -/
inductive Fetched.Alike : Fetched → Fetched → Prop where
  | word {w w' : Word} : w.Equivalent w' → Fetched.Alike (.word w) (.word w')
  | finished : Fetched.Alike .finished .finished
  | outside : Fetched.Alike .outside .outside

theorem EquivalentCode.fetch {code code' : Array Word} (h : EquivalentCode code code')
    (a : Address) : (fetch code a).Alike (WordMachine.fetch code' a) := by
  unfold WordMachine.fetch
  cases a.space with
  | static => exact .outside
  | dynamic =>
    dsimp only
    by_cases hlt : a.toNat < code.size
    · have hlt' : a.toNat < code'.size := by rwa [h.size_eq]
      have hword := Array.getElem?_eq_getElem hlt
      have hword' := Array.getElem?_eq_getElem hlt'
      rw [hword, hword']
      exact .word (h.word hword hword')
    · have hnone : code[a.toNat]? = none := Array.getElem?_eq_none (by omega)
      have hnone' : code'[a.toNat]? = none := Array.getElem?_eq_none (by rw [h.size_eq]; omega)
      rw [hnone, hnone', h.size_eq]
      dsimp only
      split
      · exact .finished
      · exact .outside

/-! ## Sessions -/

/-- Two sessions with one world, and machines that differ in their reports only. -/
structure Session.Alike (s t : Session) : Prop where
  machine : s.machine.Alike t.machine
  world_eq : t.world = s.world

/-- Two runs that both go on, or ended in the same way, in alike sessions. -/
inductive Stage.Alike : Stage → Stage → Prop where
  | running {s t : Session} : s.Alike t → Stage.Alike (.running s) (.running t)
  | ended {ending : Ending} {s t : Session} : s.Alike t →
    Stage.Alike (.ended ending s) (.ended ending t)
  | waiting {request : Request} {s t : Session} : s.Alike t →
    Stage.Alike (.waiting request s) (.waiting request t)

namespace Session

variable {s t u : Session} {code code' : Array Word} {w w' : Word}

theorem Alike.trans (h : s.Alike t) (h' : t.Alike u) : s.Alike u :=
  ⟨h.machine.trans h'.machine, h'.world_eq.trans h.world_eq⟩

theorem Alike.counter_eq (h : s.Alike t) : t.machine.counter = s.machine.counter := by
  obtain ⟨journal, hm⟩ := h.machine
  rw [hm]

/-- What observers are told does not matter. -/
theorem Alike.notify (h : s.Alike t) (n n' : Notification) : (s.notify n).Alike (t.notify n') :=
  ⟨h.machine.withJournal _ _, h.world_eq⟩

theorem Alike.note (h : s.Alike t) (n n' : Notice) : (s.note n).Alike (t.note n') :=
  ⟨h.machine.withJournal _ _, h.world_eq⟩

theorem Alike.withMachine (h : s.Alike t) {m m' : Machine} (hm : m.Alike m') :
    Alike { s with machine := m } { t with machine := m' } :=
  ⟨hm, h.world_eq⟩

theorem Alike.moveTo (h : s.Alike t) (a : Address) : (s.moveTo a).Alike (t.moveTo a) := by
  have hmoved := h.withMachine (h.machine.withCounter a)
  exact hmoved.notify (.jump a) (.jump a)

theorem alike_advance (hw : w.Equivalent w') (h : s.Alike t) :
    (s.advance w).Alike (t.advance w') := by
  have hnotified := h.notify (.step s.machine.counter w) (.step s.machine.counter w')
  have hstep := hw s.machine.counter _ _ hnotified.machine
  unfold advance EStateM.run
  rw [h.counter_eq]
  dsimp only
  generalize step s.machine.counter w _ = r at hstep ⊢
  generalize step s.machine.counter w' _ = r' at hstep ⊢
  cases hstep with
  | error hm => exact .ended (hnotified.withMachine hm)
  | @ok flow _ m m' hflow hm =>
    subst hflow
    cases flow with
    | next => exact .running ((hnotified.withMachine hm).moveTo _)
    | jump target => exact .running ((hnotified.withMachine hm).moveTo target)
    | exit status => exact .ended ((hnotified.withMachine hm).note _ _)
    | ask request => exact .waiting (hnotified.withMachine hm)

theorem alike_resume (h : s.Alike t) (request : Request) (reply : Reply) :
    (s.resume request reply).Alike (t.resume request reply) := by
  have hfinish := request.blind_finish reply _ _ h.machine
  unfold resume EStateM.run
  rw [h.counter_eq]
  generalize request.finish reply s.machine = r at hfinish ⊢
  generalize request.finish reply t.machine = r' at hfinish ⊢
  cases hfinish with
  | error hm => exact .ended (h.withMachine hm)
  | ok _ hm => exact .running ((h.withMachine hm).moveTo _)

theorem alike_begin (hcode : EquivalentCode code code') (h : s.Alike t) :
    (s.begin code).Alike (t.begin code') := by
  have hfetch := hcode.fetch s.machine.counter
  unfold Session.begin
  rw [h.counter_eq, hcode.size_eq]
  generalize fetch code s.machine.counter = f at hfetch ⊢
  generalize fetch code' s.machine.counter = f' at hfetch ⊢
  cases hfetch with
  | word hw => exact alike_advance hw h
  | finished => exact .ended (h.note _ _)
  | outside => exact .ended h

theorem alike_turnWith (hcode : EquivalentCode code code') (h : s.Alike t) (host : Host) :
    (s.turnWith host code).Alike (t.turnWith host code') := by
  have hbegin := alike_begin hcode h
  unfold turnWith
  generalize s.begin code = stage at hbegin ⊢
  generalize t.begin code' = stage' at hbegin ⊢
  cases hbegin with
  | running halike => exact .running halike
  | ended halike => exact .ended halike
  | @waiting request u v halike =>
    -- The world that answers is the same.
    dsimp only
    rw [halike.world_eq]
    apply alike_resume
    exact ⟨halike.machine, rfl⟩

theorem alike_course (hcode : EquivalentCode code code') (h : s.Alike t) (hosts : Nat → Host)
    (n : Nat) : (s.course hosts code n).Alike (t.course hosts code' n) := by
  induction n with
  | zero => exact .running h
  | succ n ih =>
    unfold course
    generalize s.course hosts code n = stage at ih ⊢
    generalize t.course hosts code' n = stage' at ih ⊢
    cases ih with
    | running halike => exact alike_turnWith hcode halike (hosts n)
    | ended halike => exact .ended halike
    | waiting halike => exact .waiting halike

theorem alike_start (s : Session) (observer : Observer) (code code' : Array Word)
    (entry : Address) :
    (s.start code entry).Alike ({ s with observer }.start code' entry) :=
  ⟨⟨_, rfl⟩, rfl⟩

/-- The ends of two bounded runs are alike: both have the same ending, in alike sessions, or both
have not ended yet. -/
theorem alike_run (hcode : EquivalentCode code code') (h : s.Alike t) (bound : Nat) :
    Option.Rel (fun p q => p.1 = q.1 ∧ p.2.Alike q.2) (run code bound s) (run code' bound t) := by
  have hcourse := alike_course hcode h (fun _ => World.answer) bound
  rw [run_eq_result?, run_eq_result?]
  generalize s.course (fun _ => World.answer) code bound = stage at hcourse ⊢
  generalize t.course (fun _ => World.answer) code' bound = stage' at hcourse ⊢
  cases hcourse with
  | running | waiting => exact .none
  | ended halike => exact .some ⟨rfl, halike⟩

end Session

end WordMachine
