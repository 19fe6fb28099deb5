import WordMachine.Instruction
import WordMachine.Address
import WordMachine.Json.Writer

/-!
# Execution events

What a run reports to its observer: a word about to be executed, or a move of the program counter.
An event is written as one line, in words or as JSON.

* `Event.ofStep`, `Event.ofJump` : the events of a run.
* `Event.text` : the line of an event, without the newline.
-/

namespace WordMachine

/-- One event. -/
inductive Event where
  /-- A word is about to be executed. -/
  | step (address : UInt64) (word : UInt16) (instruction : Option String)
  /-- The program counter moved. -/
  | jump (address : UInt64)
  deriving DecidableEq, Repr

/-- How events are written. -/
inductive EventFormat where
  | pretty | json
  deriving DecidableEq, Repr

namespace Event

/-- The event of a word about to be executed. -/
def ofStep (a : Address) (w : Word) : Event :=
  .step a.bits w.bits ((Instruction.decode? w).map Instruction.render)

/-- The event of a move of the program counter. -/
def ofJump (a : Address) : Event := .jump a.bits

/-- An event in words. -/
def pretty : Event → String
  | step address word instruction =>
    "[step] @" ++ toString address.toNat ++ " " ++ Text.hexPadded 4 word.toNat ++ " " ++
      instruction.getD "??"
  | jump address => "[pc]   @" ++ toString address.toNat

/-- An event as JSON. An instruction that is not known is left out. -/
def json : Event → String
  | step address word instruction =>
    Json.compactObject
      ([("event", Json.quote "step"), ("address", toString address.toNat),
        ("word", toString word.toNat)] ++
        instruction.toList.map fun text => ("instruction", Json.quote text))
  | jump address =>
    Json.compactObject [("event", Json.quote "jump"), ("address", toString address.toNat)]

/-- The line of an event, without the newline. -/
def text (e : Event) : EventFormat → String
  | .pretty => e.pretty
  | .json => e.json

end Event

end WordMachine
