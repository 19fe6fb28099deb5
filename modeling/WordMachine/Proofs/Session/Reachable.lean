import WordMachine.Proofs.Machine.Invariant
import WordMachine.Session

/-!
# Reachable sessions

A session is reachable if it can be built from a fresh machine by setting it up, by starting runs
and by single turns, whatever the host answers and whatever happens to the world in between. A run
that ended, with a fault or without, may be followed by others.

* `Session.Reachable` : the reachable sessions.
* `Session.keeps_turnWith` : a turn keeps stable properties of the machine.
* `Session.Reachable.invariant` : stable properties hold of every reachable machine.
* `Session.Reachable.stackFits` : the calculation stack is always within its limit.
-/

namespace WordMachine

/-- The session at a stage. -/
def Stage.session : Stage → Session
  | running s | ended _ s | waiting _ s => s

namespace Session

/-- Sessions built from a fresh machine by setting it up and taking turns. -/
inductive Reachable : Session → Prop where
  | fresh (fixed : Std.ExtTreeMap Nat UInt8) (observer : Observer) (world : World) :
    Reachable { machine := .ofFixed fixed, observer, world }
  | withLimits {s : Session} (limits : Limits) : Reachable s →
    Reachable { s with machine := s.machine.withLimits limits }
  | withInput {s : Session} (input : Input) : Reachable s → Reachable (s.withInput input)
  | withObserver {s : Session} (observer : Observer) : Reachable s → Reachable { s with observer }
  /-- The world also changes by itself. -/
  | withWorld {s : Session} (world : World) : Reachable s → Reachable { s with world }
  | setRegister {s : Session} (i : RegisterIndex) (value : UInt64) : Reachable s →
    Reachable { s with machine := s.machine.setRegister i value }
  | start {s : Session} (code : Array Word) (entry : Address) : Reachable s →
    Reachable (s.start code entry)
  | turn {s : Session} (host : World → Request → Reply × World) (code : Array Word) : Reachable s →
    Reachable (s.turnWith host code).session

variable {I : Machine → Prop} {s : Session}

/-! ## What a turn keeps -/

theorem keeps_notify (hI : Machine.Stable I) (n : Notification) (hs : I s.machine) :
    I (s.notify n).machine := hI.journal _ hs

theorem keeps_moveTo (hI : Machine.Stable I) (a : Address) (hs : I s.machine) :
    I (s.moveTo a).machine := keeps_notify hI _ (hI.counter a hs)

theorem keeps_advance (hI : Machine.Stable I) (w : Word) (hs : I s.machine) :
    I (s.advance w).session.machine := by
  have hstep := (sound_step hI s.machine.counter w).keeps
  have hnotified : I (s.notify (.step s.machine.counter w)).machine := keeps_notify hI _ hs
  unfold advance
  dsimp only
  split
  · rename_i h
    exact hstep.error hnotified h
  · rename_i h
    exact keeps_moveTo hI _ (hstep.ok hnotified h)
  · rename_i h
    exact keeps_moveTo hI _ (hstep.ok hnotified h)
  · rename_i h
    exact hI.journal _ (hstep.ok hnotified h)
  · rename_i h
    exact hstep.ok hnotified h

theorem keeps_resume (hI : Machine.Stable I) (request : Request) (reply : Reply)
    (hs : I s.machine) : I (s.resume request reply).session.machine := by
  have hfinish := (request.sound_finish hI.toSteady reply).keeps
  unfold resume
  split
  · rename_i h
    exact hfinish.error hs h
  · rename_i h
    exact keeps_moveTo hI _ (hfinish.ok hs h)

theorem keeps_begin (hI : Machine.Stable I) (code : Array Word) (hs : I s.machine) :
    I (s.begin code).session.machine := by
  unfold Session.begin
  split
  · exact hs
  · exact hI.journal _ hs
  · exact keeps_advance hI _ hs

theorem keeps_turnWith (hI : Machine.Stable I) (host : World → Request → Reply × World)
    (code : Array Word) (hs : I s.machine) : I (s.turnWith host code).session.machine := by
  have hbegin := keeps_begin hI code hs
  unfold turnWith
  split
  · rename_i request s' h
    rw [h] at hbegin
    exact keeps_resume hI request _ hbegin
  · exact hbegin

/-! ## What holds of every reachable machine -/

/-- A stable property that fresh machines have, and that new limits do not break, holds of every
reachable machine. -/
theorem Reachable.invariant (hI : Machine.Stable I) (hfresh : ∀ fixed, I (.ofFixed fixed))
    (hlimits : ∀ m limits, I m → I (m.withLimits limits)) (hs : s.Reachable) : I s.machine := by
  induction hs with
  | fresh fixed observer world => exact hfresh fixed
  | withLimits limits _ ih => exact hlimits _ limits ih
  | withInput input _ ih => exact hI.descriptors _ ih
  | withObserver observer _ ih => exact ih
  | withWorld world _ ih => exact ih
  | setRegister i value _ ih => exact hI.registers _ ih
  | start code entry _ ih => exact hI.journal _ (hI.counter entry ih)
  | turn host code _ ih => exact keeps_turnWith hI host code ih

theorem Reachable.stackFits (hs : s.Reachable) : s.machine.StackFits :=
  hs.invariant Machine.stable_stackFits (fun _ => Nat.zero_le _) fun _ _ _ => Nat.zero_le _

end Session

end WordMachine
