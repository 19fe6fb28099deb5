import WordMachine.DebugInfo
import WordMachine.Event
import WordMachine.Log.Notice
import WordMachine.World.Sink

/-!
# Observers

An observer is told of every word before it is executed and of every move of the program counter.
It may record events, write them, or report them to the log; it has no say in the run.

* `Observer.notify` : the observer after a notification, and what it reports.
* `Event.emit` : writing the line of an event.
-/

namespace WordMachine

/-- What a run tells its observer. -/
inductive Notification where
  | step (address : Address) (word : Word)
  | jump (address : Address)
  deriving DecidableEq, Repr

/-- The event of a notification. -/
def Notification.event : Notification → Event
  | step a w => .ofStep a w
  | jump a => .ofJump a

/-- Write an event and then a newline. -/
def Event.emit (e : Event) (format : EventFormat) (sink : Sink) : Except String Unit × Sink :=
  match sink.writeAll (Text.Utf8.encode (e.text format)) with
  | (.error reason, sink) => (.error reason, sink)
  | (.ok (), sink) => sink.writeAll [0x0a]

/-- The kinds of observers. -/
inductive Observer where
  /-- Ignores everything. -/
  | silent
  /-- Keeps the events of words, and of moves if `jumps`, newest first. -/
  | recorder (jumps : Bool) (events : List Event)
  /-- Writes the events of words to a sink, until writing fails once. -/
  | writer (format : EventFormat) (sink : Sink) (stopped : Bool)
  /-- Shows the events of words beside the log. -/
  | console (format : EventFormat)
  /-- Reports the instruction of every word to the log. -/
  | disassembly
  /-- Reports the source line of every word to the log. -/
  | sourceLines (info : DebugInfo)

namespace Observer

/-- A word written to a sink. The first failure is reported, and nothing is written after it. -/
def writeStep (format : EventFormat) (sink : Sink) (a : Address) (w : Word) :
    Observer × List Entry :=
  match (Event.ofStep a w).emit format sink with
  | (.ok (), sink) => (.writer format sink false, [])
  | (.error reason, sink) => (.writer format sink true, [.notice (.eventsStopped reason)])

/-- The report of a word's source line. -/
def sourceNotice (info : DebugInfo) (a : Address) (w : Word) : Notice :=
  match info.locate a with
  | .ok (path, line) => .sourceLine path line a w
  | .error e => .noSourceLine a w e.message

/-- The observer after a notification, and what it reports. -/
def notify (o : Observer) (n : Notification) : Observer × List Entry :=
  match o, n with
  | recorder jumps events, .step _ _ => (recorder jumps (n.event :: events), [])
  | recorder true events, .jump _ => (recorder true (n.event :: events), [])
  | writer format sink false, .step a w => writeStep format sink a w
  | console format, .step _ _ => (o, [.line (n.event.text format)])
  | disassembly, .step a w => (o, [.notice (.observedStep a w)])
  | sourceLines info, .step a w => (o, [.notice (sourceNotice info a w)])
  | _, _ => (o, [])

end Observer

end WordMachine
