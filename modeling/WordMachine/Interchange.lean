import WordMachine.Event
import WordMachine.Json.Reader
import WordMachine.Session
import WordMachine.Settings.Basic

/-!
# Structured data

The values of the machine that are exchanged as JSON: registers, words, the names of operations,
host functions and spaces, and the records and variants made of them. Each has a text and a reader
of values.

* `Settings.json`, `Settings.ofJson?` : settings.
* `Event.ofJson?` : execution events.
* `Termination.json`, `Termination.ofJson?` : the ends of runs.
-/

namespace WordMachine

open Json

/-! ## Numbers and names -/

/-- A register from a bare integer. -/
def registerOfJson? (v : Value) : Option UInt64 := (v.natural? 64).map UInt64.ofNat

/-- A word from a bare integer. -/
def Word.ofJson? (v : Value) : Option Word := (v.natural? 16).map Word.ofNat

/-- An operation from its name. -/
def Opcode.ofJson? (v : Value) : Option Opcode := v.unit?.bind Opcode.ofName?

/-- A host function from its name. -/
def HostFunction.ofJson? (v : Value) : Option HostFunction := v.unit?.bind HostFunction.ofName?

/-- The name of a space in structured data. -/
def Space.title : Space → String
  | .dynamic => "Dynamic"
  | .static => "Static"

/-- A space from its name. -/
def Space.ofJson? (v : Value) : Option Space :=
  v.unit?.bind fun name => [Space.dynamic, Space.static].find? fun s => s.title == name

/-! ## Limits and settings -/

namespace Limits

/-- The names of the limits in structured data. -/
def fieldNames : List String :=
  ["max_stack_bytes", "max_call_depth", "heap_base", "max_heap_bytes"]

/-- Limits as JSON. -/
def json (l : Limits) : String :=
  compactObject (fieldNames.zip
    ([l.maxStackBytes, l.maxCallDepth, l.heapBase, l.maxHeapBytes].map toString))

/-- Limits from a record in which none is missing. -/
def ofJson? (v : Value) : Option Limits := do
  match ← v.record? fieldNames with
  | [some stack, some calls, some base, some heap] =>
    return {
      maxStackBytes := ← stack.natural? 64
      maxCallDepth := ← calls.natural? 64
      heapBase := ← base.natural? 64
      maxHeapBytes := ← heap.natural? 64 }
  | _ => none

end Limits

namespace Settings

/-- The names of the settings in structured data. -/
def fieldNames : List String := ["entry_label", "limits", "log_filter"]

/-- Settings as JSON. -/
def json (s : Settings) : String :=
  compactObject (fieldNames.zip [quote s.entryLabel, s.limits.json, quote s.logFilter])

/-- Settings from a record in which none is missing. -/
def ofJson? (v : Value) : Option Settings := do
  match ← v.record? fieldNames with
  | [some label, some limits, some filter] =>
    return {
      entryLabel := ← label.text?
      limits := ← Limits.ofJson? limits
      logFilter := ← filter.text? }
  | _ => none

end Settings

/-! ## Events -/

namespace Event

/-- The field that names the kind of an event. -/
def kindField : String := "event"

/-- The most levels of a value that is kept whole before its kind is known. -/
def maxDepth : Nat := 127

/-- The instruction of a step: missing, null or a text. -/
def instruction? : Option Value → Option (Option String)
  | none => some none
  | some .null => some none
  | some v => v.text?.map some

/-- An event from its kind and a record of the rest. -/
def ofRecord? (kind : String) (v : Value) : Option Event :=
  if kind = "step" then do
    match ← v.record? ["address", "word", "instruction"] with
    | [some address, some word, instruction] =>
      return .step (UInt64.ofNat (← address.natural? 64)) (UInt16.ofNat (← word.natural? 16))
        (← instruction? instruction)
    | _ => none
  else if kind = "jump" then do
    match ← v.record? ["address"] with
    | [some address] => return .jump (UInt64.ofNat (← address.natural? 64))
    | _ => none
  else none

/-- An event from an object with its kind among its fields, or from an array with its kind in
front. -/
def ofJson? (v : Value) : Option Event :=
  if !v.isText maxDepth then none
  else match v with
    | .array (kind :: rest) => do ofRecord? (← kind.text?) (.array rest)
    | .object fields =>
      match fields.partition fun f => f.1 == some kindField with
      | ([(_, kind)], rest) => do ofRecord? (← kind.text?) (.object rest)
      | _ => none
    | _ => none

end Event

/-! ## Ends of runs -/

namespace Termination

/-- The end of a run as JSON. -/
def json : Termination → String
  | endOfCode => quote "EndOfCode"
  | exit status => compactObject [("Exit", toString status)]

/-- The end of a run from a variant. -/
def ofJson? (v : Value) : Option Termination :=
  match v.variant? with
  | some ("EndOfCode", none) => some endOfCode
  | some ("EndOfCode", some .null) => some endOfCode
  | some ("Exit", some status) => (status.integer? (-0x80000000) 0x7fffffff).map exit
  | _ => none

end Termination

end WordMachine
