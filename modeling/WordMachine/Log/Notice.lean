import WordMachine.ByteOrder
import WordMachine.HostFunction
import WordMachine.Instruction
import WordMachine.Text.Quoted
import WordMachine.Text.Utf8

/-!
# Log notices

What the parts of the program report while they work, as data. Each notice has a level, the name
of the part it comes from, and a text.

* `Notice.level`, `Notice.origin`, `Notice.message` : the three parts of a log record.
-/

namespace WordMachine

/-- How severe a notice is, most severe first. -/
inductive Level where
  | error | warn | info | debug | trace
  deriving DecidableEq, Repr

namespace Level

/-- The rank of a level; severe levels come first. -/
def rank : Level → Nat
  | error => 1
  | warn => 2
  | info => 3
  | debug => 4
  | trace => 5

/-- The name of a level in log records. -/
def name : Level → String
  | error => "ERROR"
  | warn => "WARN"
  | info => "INFO"
  | debug => "DEBUG"
  | trace => "TRACE"

end Level

/-- One report. -/
inductive Notice where
  | byteOrder (order : ByteOrder)
  | formatVersion (version : Nat)
  | literalSize (bytes : Nat)
  | labelCount (count : Nat)
  | sectionSize (name : List UInt8) (bytes : Nat)
  | trailingBytes (count : Nat)
  | executing (words : Nat) (entry : Address)
  | endOfCode
  | exited (status : Int)
  | executingStep (address : Address) (opcode : Opcode) (a : RegisterIndex) (x : UInt64)
      (b : RegisterIndex) (y : UInt64)
  | calling (address : Address) (function : HostFunction)
  | allocated (size : Nat) (address : Address)
  | released (address : Address) (size : Nat)
  | lineRead (descriptor : Nat) (buffer : Address) (length count : Nat)
  | writing (descriptor : Nat) (buffer : Address) (length : Nat)
  | opened (path : String) (descriptor : Nat)
  | openFailed (path reason : String)
  | closing (descriptor : Nat)
  | exiting (status : Nat)
  | observedStep (address : Address) (word : Word)
  | eventsStopped (reason : String)
  | sourceLine (path : String) (line : Nat) (address : Address) (word : Word)
  | noSourceLine (address : Address) (word : Word) (reason : String)
  | settingIgnored (key raw : String) (default : Nat)
  | newerInstructionSet (path : String) (version supported : Nat)
  | entryPoint (label : String) (address : Address)
  | noDebugInfo (reason : String)
  deriving DecidableEq, Repr

namespace Notice

/-- The level of a notice. -/
def level : Notice → Level
  | trailingBytes _ | openFailed _ _ | eventsStopped _ | settingIgnored _ _ _
  | newerInstructionSet _ _ _ => .warn
  | sourceLine _ _ _ _ | noSourceLine _ _ _ => .info
  | byteOrder _ | formatVersion _ | literalSize _ | labelCount _ | sectionSize _ _
  | executing _ _ | endOfCode | exited _ | entryPoint _ _ | noDebugInfo _ => .debug
  | executingStep _ _ _ _ _ _ | calling _ _ | allocated _ _ | released _ _ | lineRead _ _ _ _
  | writing _ _ _ | opened _ _ | closing _ | exiting _ | observedStep _ _ => .trace

/-- The part of the program a notice comes from, as log filters name it. -/
def origin : Notice → String
  | byteOrder _ | formatVersion _ | literalSize _ | labelCount _ | sectionSize _ _
  | trailingBytes _ => "nyulan::objectfile::decode"
  | executing _ _ | endOfCode | exited _ | executingStep _ _ _ _ _ _ | calling _ _ =>
    "nyulan::vm::vm"
  | allocated _ _ | released _ _ => "nyulan::vm::memory"
  | lineRead _ _ _ _ | writing _ _ _ | opened _ _ | openFailed _ _ | closing _ | exiting _ =>
    "nyulan::vm::execution"
  | observedStep _ _ | eventsStopped _ => "nyulan::events"
  | sourceLine _ _ _ _ | noSourceLine _ _ _ => "nyulan::debuginfo"
  | settingIgnored _ _ _ => "nyulan::config"
  | newerInstructionSet _ _ _ | entryPoint _ _ | noDebugInfo _ => "nyulan"

/-- The text of a notice. -/
def message : Notice → String
  | byteOrder order => "byte order: " ++ order.title
  | formatVersion n => "format version: " ++ toString n
  | literalSize n => "literal data: " ++ toString n ++ " bytes"
  | labelCount n => "global labels: " ++ toString n
  | sectionSize name n =>
    "section \"" ++ Text.Utf8.decodeLossy name ++ "\" with " ++ toString n ++ " bytes"
  | trailingBytes n => "ignoring " ++ toString n ++ " trailing bytes after object file"
  | executing n entry => "executing " ++ toString n ++ " words from " ++ entry.render
  | endOfCode => "reached end of code"
  | exited status => "program exited with status " ++ toString status
  | executingStep address op a x b y =>
    address.render ++ " " ++ op.mnemonic ++ " r" ++ toString a.val ++ "=" ++ Text.hex x.toNat ++
      " r" ++ toString b.val ++ "=" ++ Text.hex y.toNat
  | calling address f => address.render ++ " calling built-in " ++ f.mnemonic
  | allocated size address => "malloc(" ++ toString size ++ ") = " ++ address.render
  | released address size => "free(" ++ address.render ++ ", " ++ toString size ++ ")"
  | lineRead d buffer length count =>
    "read(" ++ toString d ++ ", " ++ buffer.render ++ ", " ++ toString length ++ ") = " ++
      toString count
  | writing d buffer length =>
    "write(" ++ toString d ++ ", " ++ buffer.render ++ ", " ++ toString length ++ ")"
  | opened path d => "open(" ++ Text.quote path ++ ") = " ++ toString d
  | openFailed path reason => "couldn't open " ++ Text.quote path ++ ": " ++ reason
  | closing d => "close(" ++ toString d ++ ")"
  | exiting status => "exit(" ++ toString status ++ ")"
  | observedStep address w =>
    match Instruction.decode? w with
    | some i => address.render ++ " " ++ i.render
    | none => address.render ++ " ?? opcode " ++ Text.byteMarked w.opcodeByte
  | eventsStopped reason => "stopped writing execution events: " ++ reason
  | sourceLine path line address w =>
    "@" ++ path ++ " line: " ++ toString line ++ " (" ++ address.render ++ " " ++ w.render ++ ")"
  | noSourceLine address w reason => address.render ++ " " ++ w.render ++ ": " ++ reason
  | settingIgnored key raw default =>
    "ignoring invalid " ++ key ++ "=" ++ Text.quote raw ++ ", using " ++ toString default
  | newerInstructionSet path version supported =>
    path ++ " targets instruction set version " ++ toString version ++ ", this VM implements " ++
      toString supported
  | entryPoint label address => "entry point " ++ label ++ " = " ++ address.render
  | noDebugInfo reason => "no source lines available: " ++ reason

end Notice

/-- What is reported in order: notices, and lines that are shown whatever the log level. -/
inductive Entry where
  | notice (notice : Notice)
  | line (text : String)
  deriving DecidableEq, Repr

end WordMachine
