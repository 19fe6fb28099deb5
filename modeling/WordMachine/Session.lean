import WordMachine.Machine.Step
import WordMachine.Observer
import WordMachine.World.Basic

/-!
# Running code

A session is a machine, its observer and its world. One turn executes one word: the observer is
told of it, the word takes effect, the world answers if it is asked, and the observer is told of the
move of the program counter. A run ends at the end of the code, at an exit, or at a fault.

* `Session.turn` : one word. `Session.turnWith` leaves open how the host answers.
* `Session.run` : turns up to a bound.
* `Session.execute` : a run from an entry address.
-/

namespace WordMachine

/-- How a run ended without a fault. -/
inductive Termination where
  /-- The program counter reached the end of the code. -/
  | endOfCode
  /-- The program ended itself. -/
  | exit (status : Int)
  deriving DecidableEq, Repr

/-- The exit status of a run. -/
def Termination.status : Termination → Int
  | endOfCode => 0
  | exit status => status

/-- How a run ended. -/
abbrev Ending := Except Fault Termination

/-- A machine with everything around it. -/
structure Session where
  machine : Machine
  observer : Observer := .silent
  world : World := {}

/-- Where a turn stands: it is over, the run is over, or the host has to answer. -/
inductive Stage where
  | running (s : Session)
  | ended (ending : Ending) (s : Session)
  | waiting (request : Request) (s : Session)

namespace Session

/-- Tell the observer something, and keep what it reports. -/
def notify (s : Session) (n : Notification) : Session :=
  let (observer, entries) := s.observer.notify n
  { s with
    observer
    machine := { s.machine with journal := entries.reverse ++ s.machine.journal } }

/-- Report something. -/
def note (s : Session) (n : Notice) : Session := { s with machine := s.machine.note n }

/-- Move the program counter and tell the observer. -/
def moveTo (s : Session) (a : Address) : Session :=
  { s with machine := { s.machine with counter := a } }.notify (.jump a)

/-- Execute the word at the program counter, up to the answer of the host. -/
def advance (s : Session) (w : Word) : Stage :=
  let a := s.machine.counter
  let s := s.notify (.step a w)
  match (step a w).run s.machine with
  | .error fault machine => .ended (.error fault) { s with machine }
  | .ok .next machine => .running ({ s with machine }.moveTo a.next)
  | .ok (.jump target) machine => .running ({ s with machine }.moveTo target)
  | .ok (.exit status) machine =>
    .ended (.ok (.exit status)) ({ s with machine }.note (.exited status))
  | .ok (.ask request) machine => .waiting request { s with machine }

/-- Finish a word with the answer of the host. -/
def resume (s : Session) (request : Request) (reply : Reply) : Stage :=
  match (request.finish reply).run s.machine with
  | .error fault machine => .ended (.error fault) { s with machine }
  | .ok () machine => .running ({ s with machine }.moveTo s.machine.counter.next)

/-- One turn, up to the answer of the host. -/
def begin (s : Session) (code : Array Word) : Stage :=
  match fetch code s.machine.counter with
  | .outside => .ended (.error (.counterOutOfRange s.machine.counter code.size)) s
  | .finished => .ended (.ok .endOfCode) (s.note .endOfCode)
  | .word w => s.advance w

/-- One turn, with a host that answers in a given way. -/
def turnWith (host : World → Request → Reply × World) (s : Session) (code : Array Word) : Stage :=
  match s.begin code with
  | .waiting request s =>
    let (reply, world) := host s.world request
    { s with world }.resume request reply
  | stage => stage

/-- One turn. -/
def turn (s : Session) (code : Array Word) : Stage := s.turnWith World.answer code

/-- Turns until the run ends, or `none` if it does not end within the bound. -/
def run (code : Array Word) : (bound : Nat) → Session → Option (Ending × Session)
  | 0, _ => none
  | bound + 1, s =>
    match s.turn code with
    | .running s => run code bound s
    | .ended ending s => some (ending, s)
    | .waiting _ _ => none

/-- The session at the start of a run. -/
def start (s : Session) (code : Array Word) (entry : Address) : Session :=
  { s with machine := { s.machine with counter := entry }.note (.executing code.size entry) }

/-- A run of code from an entry address, of at most `bound` turns. -/
def execute (s : Session) (code : Array Word) (entry : Address) (bound : Nat) :
    Option (Ending × Session) :=
  run code bound (s.start code entry)

/-- Call a host function directly: the arguments are on the stack. -/
def callHost (s : Session) (f : HostFunction) : Except Fault (Option Int) × Session :=
  match f.begin.run s.machine with
  | .error fault machine => (.error fault, { s with machine })
  | .ok .done machine => (.ok none, { s with machine })
  | .ok (.exit status) machine => (.ok (some status), { s with machine })
  | .ok (.ask request) machine =>
    let (reply, world) := s.world.answer request
    match (request.finish reply).run machine with
    | .error fault machine => (.error fault, { s with machine, world })
    | .ok () machine => (.ok none, { s with machine, world })

/-- The streams of the world replaced: the input is new, and no file is open. -/
def withInput (s : Session) (input : Input) : Session :=
  { s with
    machine := { s.machine with descriptors := {} }
    world := { s.world with input, handles := [] } }

/-- Everything reported so far, oldest first. -/
def journal (s : Session) : List Entry := s.machine.journal.reverse

end Session

end WordMachine
