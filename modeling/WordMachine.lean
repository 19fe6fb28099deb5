import WordMachine.Address
import WordMachine.Assembler
import WordMachine.Bits
import WordMachine.ByteOrder
import WordMachine.Command.Arguments
import WordMachine.Command.Basic
import WordMachine.Command.Run
import WordMachine.DebugInfo
import WordMachine.Double
import WordMachine.Event
import WordMachine.HostFunction
import WordMachine.Instruction
import WordMachine.Interchange
import WordMachine.Json.Reader
import WordMachine.Json.Value
import WordMachine.Json.Writer
import WordMachine.Log.Console
import WordMachine.Log.Filter
import WordMachine.Log.Notice
import WordMachine.Machine.Basic
import WordMachine.Machine.Descriptors
import WordMachine.Machine.Fault
import WordMachine.Machine.HostCall
import WordMachine.Machine.Limits
import WordMachine.Machine.Memory
import WordMachine.Machine.Stack
import WordMachine.Machine.Step
import WordMachine.Main
import WordMachine.ObjectFile.Basic
import WordMachine.ObjectFile.Error
import WordMachine.ObjectFile.Listing
import WordMachine.ObjectFile.Load
import WordMachine.ObjectFile.Reader
import WordMachine.ObjectFile.Summary
import WordMachine.ObjectFile.Writer
import WordMachine.Observer
import WordMachine.Opcode
import WordMachine.Pattern.Basic
import WordMachine.Pattern.CharSet
import WordMachine.Pattern.Error
import WordMachine.Pattern.Expr
import WordMachine.Pattern.Meaning
import WordMachine.Pattern.Parse
import WordMachine.Pattern.Reader
import WordMachine.Pattern.Size
import WordMachine.Proofs.ByteOrder
import WordMachine.Proofs.Effect
import WordMachine.Proofs.Machine.Action
import WordMachine.Proofs.Machine.Fault
import WordMachine.Proofs.Machine.Invariant
import WordMachine.Proofs.Memory.Bytes
import WordMachine.Proofs.Memory.Extents
import WordMachine.Proofs.Memory.Heap
import WordMachine.Proofs.ObjectFile.Form
import WordMachine.Proofs.ObjectFile.Parts
import WordMachine.Proofs.ObjectFile.RoundTrip
import WordMachine.Proofs.Session.Atomicity
import WordMachine.Proofs.Session.Reachable
import WordMachine.Session
import WordMachine.Settings.Basic
import WordMachine.Settings.Number
import WordMachine.Text.Blank
import WordMachine.Text.Digits
import WordMachine.Text.Letter
import WordMachine.Text.Numeral
import WordMachine.Text.Quoted
import WordMachine.Text.Unprintable
import WordMachine.Text.Utf8
import WordMachine.Word
import WordMachine.World.Basic
import WordMachine.World.Disk
import WordMachine.World.Input
import WordMachine.World.Sink
import WordMachine.Proofs.Memory.Allocation
import WordMachine.Proofs.Memory.Checked
import WordMachine.Proofs.Session.Limits
import WordMachine.Proofs.Machine.Checked
import WordMachine.Proofs.Session.Checked
import WordMachine.Proofs.Machine.Control
import WordMachine.Proofs.Session.Course
import WordMachine.Proofs.Session.Calls
import WordMachine.Proofs.Instruction
import WordMachine.Proofs.Machine.Alike
import WordMachine.Proofs.Session.Alike
import WordMachine.Proofs.Session.Notifications
import WordMachine.Proofs.Session.Canonical
import WordMachine.Proofs.ObjectFile.Truncation
import WordMachine.Proofs.Memory.Coverage
import WordMachine.Proofs.Memory.Fragmentation
import WordMachine.Proofs.Session.Composition
import WordMachine.Proofs.Session.HostCall
import WordMachine.Proofs.Session.Assembled
import WordMachine.Proofs.Memory.Release
import WordMachine.Proofs.DebugInfo
import WordMachine.Proofs.Session.Arguments
import WordMachine.Proofs.Session.FileCalls
import WordMachine.Proofs.Session.Descriptors
import WordMachine.Proofs.World.Streams
import WordMachine.Proofs.Session.Output
import WordMachine.Proofs.Memory.Reading
import WordMachine.Proofs.ObjectFile.Representable
import WordMachine.Proofs.ObjectFile.Classification
import WordMachine.Proofs.World.Lines
import WordMachine.Proofs.Session.Input
import WordMachine.Proofs.Memory.Writing
import WordMachine.Proofs.Memory.Strings
import WordMachine.Proofs.Session.Reaches
import WordMachine.Proofs.Session.Transfer
import WordMachine.Proofs.Session.Arithmetic
import WordMachine.Proofs.Machine.Widths
import WordMachine.Proofs.Settings
import WordMachine.Proofs.Session.Patched
import WordMachine.Proofs.Event
import WordMachine.Proofs.Observer
import WordMachine.Proofs.ObjectFile.Checked
