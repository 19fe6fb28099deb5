import WordMachine.Proofs.Machine.Checked
import WordMachine.Proofs.Session.Atomicity

/-!
# Turns in checked arithmetic

A turn is taken a second time, with every partial operation left partial. In every reachable session
both ways agree: no index is out of range, no sum overflows and no difference is negative, even if
the heap base was moved below live blocks between two runs.

* `Session.turnChecked`, `Session.executeChecked` : turns and runs with checks.
* `Session.Reachable.heapBounded` : the invariant of reachable heaps.
* `Session.Reachable.no_misuse` : no check fails, in a turn or in a run.
-/

namespace WordMachine

namespace Session

/-! ## Turns and runs with checks

Turns and runs as they are, over `fetchChecked` and `stepChecked`. -/

def advanceChecked (s : Session) (w : Word) : Stage :=
  let a := s.machine.counter
  let s := s.notify (.step a w)
  match (stepChecked a w).run s.machine with
  | .error fault machine => .ended (.error fault) { s with machine }
  | .ok .next machine => .running ({ s with machine }.moveTo a.next)
  | .ok (.jump target) machine => .running ({ s with machine }.moveTo target)
  | .ok (.exit status) machine =>
    .ended (.ok (.exit status)) ({ s with machine }.note (.exited status))
  | .ok (.ask request) machine => .waiting request { s with machine }

def beginChecked (s : Session) (code : Array Word) : Stage :=
  match fetchChecked code s.machine.counter with
  | .error fault => .ended (.error fault) s
  | .ok .outside => .ended (.error (.counterOutOfRange s.machine.counter code.size)) s
  | .ok .finished => .ended (.ok .endOfCode) (s.note .endOfCode)
  | .ok (.word w) => s.advanceChecked w

def turnChecked (host : World → Request → Reply × World) (s : Session) (code : Array Word) :
    Stage :=
  match s.beginChecked code with
  | .waiting request s =>
    let (reply, world) := host s.world request
    { s with world }.resume request reply
  | stage => stage

def runChecked (code : Array Word) : (bound : Nat) → Session → Option (Ending × Session)
  | 0, _ => none
  | bound + 1, s =>
    match s.turnChecked World.answer code with
    | .running s => runChecked code bound s
    | .ended ending s => some (ending, s)
    | .waiting _ _ => none

def executeChecked (s : Session) (code : Array Word) (entry : Address) (bound : Nat) :
    Option (Ending × Session) :=
  runChecked code bound (s.start code entry)

/-! ## No check fails -/

variable {s : Session}

theorem advanceChecked_eq (hs : s.machine.HeapBounded) (w : Word) :
    s.advanceChecked w = s.advance w := by
  have hnotified : (s.notify (.step s.machine.counter w)).machine.HeapBounded :=
    keeps_notify Machine.stable_heapBounded _ hs
  have hstep := agrees_stepChecked s.machine.counter w _ hnotified
  unfold advanceChecked advance EStateM.run
  dsimp only
  rewrite [hstep]
  rfl

theorem turnChecked_eq (hs : s.machine.HeapBounded) (host : World → Request → Reply × World)
    (code : Array Word) : s.turnChecked host code = s.turnWith host code := by
  have hbegin : s.beginChecked code = s.begin code := by
    unfold beginChecked Session.begin
    rw [fetchChecked_eq]
    cases fetch code s.machine.counter with
    | outside | finished => rfl
    | word w => exact advanceChecked_eq hs w
  unfold turnChecked turnWith
  rewrite [hbegin]
  rfl

theorem runChecked_eq (hs : s.machine.HeapBounded) (code : Array Word) (bound : Nat) :
    runChecked code bound s = run code bound s := by
  induction bound generalizing s with
  | zero => rfl
  | succ bound ih =>
    have hturn := keeps_turnWith Machine.stable_heapBounded World.answer code hs
    unfold runChecked run turn
    rw [turnChecked_eq hs]
    cases hstage : s.turnWith World.answer code with
    | running t =>
      -- The heap is bounded again after the turn.
      rw [hstage] at hturn
      exact ih hturn
    | ended | waiting => rfl

/-- Neither a word nor the answer of the host is a misuse. -/
theorem turnWith_ne_misuse (host : World → Request → Reply × World) (code : Array Word)
    (s' : Session) : s.turnWith host code ≠ .ended (.error .misuse) s' := by
  intro h
  rcases turnWith_eq_error h with ⟨-, -, hfault⟩ | ⟨w, d, -, -, hstep⟩
  · cases hfault
  rcases hstep with hstep | ⟨request, reply, d', -, hfinish⟩
  · exact ((sound_step Machine.stable_true _ w).error trivial hstep).2
  · exact ((request.sound_finish Machine.stable_true.toSteady reply).error trivial hfinish).2

theorem run_ne_misuse (code : Array Word) (bound : Nat) (s' : Session) :
    run code bound s ≠ some (.error .misuse, s') := by
  induction bound generalizing s with
  | zero => exact (Option.some_ne_none _).symm
  | succ bound ih =>
    unfold run
    split
    · exact ih
    · rename_i ending t ht
      intro h
      cases h
      exact turnWith_ne_misuse _ _ _ ht
    · exact (Option.some_ne_none _).symm

/-- New limits move the heap base, and leave the live blocks and the bytes in use as they are. -/
theorem Reachable.heapBounded (hs : s.Reachable) : s.machine.HeapBounded :=
  hs.invariant Machine.stable_heapBounded (fun fixed => Memory.heapBounded_ofFixed fixed _)
    fun _ _ h => h

/-- In every reachable session, whatever the code, the entry and the host: a turn, a run and every
read of a byte end with checks as they do without, and neither a turn nor a run ends in a misuse. -/
theorem Reachable.no_misuse (hs : s.Reachable) (host : World → Request → Reply × World)
    (code : Array Word) :
    s.turnChecked host code = s.turnWith host code ∧
    (∀ s', s.turnWith host code ≠ .ended (.error .misuse) s') ∧
    (∀ entry bound, s.executeChecked code entry bound = s.execute code entry bound ∧
      ∀ s', s.execute code entry bound ≠ some (.error .misuse, s')) ∧
    ∀ space offset, s.machine.memory.byteChecked space offset =
      .ok (s.machine.memory.byte? space offset) := by
  refine ⟨turnChecked_eq hs.heapBounded host code, turnWith_ne_misuse host code, ?_,
    s.machine.memory.byteChecked_eq⟩
  intro entry bound
  exact ⟨runChecked_eq (hs.start code entry).heapBounded code bound, run_ne_misuse code bound⟩

/-- Pushes the first argument of a call. -/
def pushFirst : Word := .ofOperands (.pushRegister .double) 1 0

/-- Pushes the second argument of a call. -/
def pushSecond : Word := .ofOperands (.pushRegister .double) 2 0

/-- Calls the address in a third register. -/
def callTarget : Word := .ofOperands .call 0 0

/-- A program that calls a host function with two arguments. -/
def calling : Array Word := #[pushFirst, pushSecond, callTarget]

/-- A session whose next turn calls a host function with two arguments. -/
def beforeCall (s : Session) (f : HostFunction) (x y : UInt64) : Session :=
  let s := { s with machine := s.machine.setRegister callTarget.first f.callAddress.bits }
  let s := { s with machine := s.machine.setRegister pushFirst.first x }
  let s := { s with machine := s.machine.setRegister pushSecond.first y }
  let s := s.start calling ⟨0⟩
  let s := (s.turnWith World.answer calling).session
  (s.turnWith World.answer calling).session

def afterCall (s : Session) (f : HostFunction) (x y : UInt64) : Session :=
  ((s.beforeCall f x y).turnWith World.answer calling).session

theorem Reachable.beforeCall (hs : s.Reachable) (f : HostFunction) (x y : UInt64) :
    (s.beforeCall f x y).Reachable :=
  .turn _ _ (.turn _ _ (.start _ _ (.setRegister _ _ (.setRegister _ _ (.setRegister _ _ hs)))))

theorem Reachable.afterCall (hs : s.Reachable) (f : HostFunction) (x y : UInt64) :
    (s.afterCall f x y).Reachable := .turn _ _ (hs.beforeCall f x y)

/-- A session that allocated 16 bytes at offset 0. -/
def oneBlock : Session :=
  afterCall { machine := (Machine.ofFixed ∅).withLimits { heapBase := 0 } } .malloc 0 16

/-- A session whose heap base was moved into a live block before it allocated another. -/
def twoBlocks : Session :=
  afterCall { oneBlock with machine := oneBlock.machine.withLimits { heapBase := 8 } } .malloc 0 16

theorem reachable_twoBlocks : twoBlocks.Reachable :=
  .afterCall (.withLimits _ (.afterCall (.withLimits _ (.fresh ∅ .silent {})) _ _ _)) _ _ _

theorem no_misuse_twoBlocks :
    (twoBlocks.beforeCall .free 16 4).Reachable ∧
    twoBlocks.machine.memory.extents = [⟨8, 16⟩, ⟨0, 16⟩] ∧
    ∃ s', (twoBlocks.beforeCall .free 16 4).turnChecked World.answer calling = .running s' ∧
      s'.machine.memory.extents = [⟨20, 4⟩, ⟨0, 4⟩] ∧ s'.machine.memory.inUse = 8 := by
  have hreachable := reachable_twoBlocks.beforeCall .free 16 4
  have hturn := (hreachable.no_misuse World.answer calling).1
  exact ⟨hreachable, rfl, _, hturn.trans rfl, rfl, rfl⟩

end Session

end WordMachine
