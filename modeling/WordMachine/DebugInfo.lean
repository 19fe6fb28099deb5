import WordMachine.Bits
import WordMachine.ObjectFile.Basic

/-!
# Debug information

Two optional sections lead from a code address to a source line. The line section begins with the
widths in bits of a file index and of a line number, and then has one packed record for each code
word, in the byte order of the object file. The file section holds paths, each followed by a zero
byte; what stands behind the last zero byte is dropped.

* `LineTable.lookup` : the record of an address, found in checked arithmetic.
* `sourceFiles` : the paths of a file section.
* `DebugInfo.load`, `DebugInfo.locate` : both together.
-/

namespace WordMachine

/-- The name of the section with the line records. -/
def lineSection : String := "debug.addr2line"

/-- The name of the section with the source paths. -/
def fileSection : String := "debug.sourcefiles"

/-- The two fields of a line record. -/
inductive RecordField where
  | fileIndex
  | line
  deriving DecidableEq, Repr

/-- The name of a record field in messages. -/
def RecordField.name : RecordField → String
  | fileIndex => "file index"
  | line => "line"

/-- Why debug information cannot be read or says nothing about an address. -/
inductive DebugInfoError where
  | wrongSection (expected : String) (found : List UInt8)
  | unsupportedWidth (field : RecordField) (bits : UInt8)
  | truncated (name : String)
  | addressOutOfRange (address : Address)
  | fileIndexOutOfRange (index : Nat)
  | lookup (error : LookupError)
  deriving DecidableEq, Repr

/-- The text of a debug information error. -/
def DebugInfoError.message : DebugInfoError → String
  | wrongSection expected found =>
    "expected section \"" ++ expected ++ "\", got \"" ++ Text.Utf8.decodeLossy found ++ "\""
  | unsupportedWidth field bits =>
    "unsupported " ++ field.name ++ " width of " ++ toString bits.toNat ++ " bits"
  | truncated name => "section \"" ++ name ++ "\" is truncated"
  | addressOutOfRange a => "no line information for address " ++ toString a.toNat
  | fileIndexOutOfRange i => "source file index " ++ toString i ++ " out of range"
  | lookup e => e.message

/-- The bytes of a record field. -/
def fieldBytes (field : RecordField) (bits : UInt8) : Except DebugInfoError Nat :=
  if bits = 8 ∨ bits = 16 ∨ bits = 32 ∨ bits = 64 then .ok (bits.toNat / 8)
  else .error (.unsupportedWidth field bits)

/-- Packed line records. -/
structure LineTable where
  order : ByteOrder
  fileWidth : Nat
  lineWidth : Nat
  records : List UInt8
  deriving DecidableEq, Repr

/-- The place of a code word in its source. -/
structure SourceLocation where
  fileIndex : Nat
  line : Nat
  deriving DecidableEq, Repr

namespace LineTable

/-- The line records of a section. -/
def ofSection (s : Section) (order : ByteOrder) : Except DebugInfoError LineTable :=
  if s.name ≠ Text.Utf8.encode lineSection then .error (.wrongSection lineSection s.name)
  else match s.data with
    | fileBits :: lineBits :: records => do
      let fileWidth ← fieldBytes .fileIndex fileBits
      let lineWidth ← fieldBytes .line lineBits
      return { order, fileWidth, lineWidth, records }
    | _ => .error (.truncated lineSection)

/-- The line records of an object file. -/
def ofObject (o : ObjectFile) : Except DebugInfoError LineTable :=
  match o.findSection (Text.Utf8.encode lineSection) with
  | .ok s => ofSection s o.order
  | .error e => .error (.lookup e)

/-- The bytes of one record. -/
def recordWidth (t : LineTable) : Nat := t.fileWidth + t.lineWidth

/-- How many code words have a record. -/
def size (t : LineTable) : Nat := t.records.length / t.recordWidth

/-- The bytes of the record of an address. The numbers of its first byte and of the byte behind its
last have to fit in 64 bits. -/
def record? (t : LineTable) (a : Address) : Option (List UInt8) := do
  let start ← fitting? (a.toNat * t.recordWidth)
  let stop ← fitting? (start + t.recordWidth)
  if stop ≤ t.records.length then some ((t.records.drop start).take t.recordWidth) else none

/-- The record of an address. -/
def lookup (t : LineTable) (a : Address) : Except DebugInfoError SourceLocation :=
  match t.record? a with
  | none => .error (.addressOutOfRange a)
  | some record => .ok {
      fileIndex := t.order.decode (record.take t.fileWidth)
      line := t.order.decode (record.drop t.fileWidth) }

end LineTable

/-- The parts of a byte string that end in a zero byte, without it. -/
def zeroTerminated (bytes : List UInt8) : List (List UInt8) :=
  (bytes.foldl (fun (parts : List (List UInt8) × List UInt8) b =>
    if b = 0 then (parts.2.reverse :: parts.1, []) else (parts.1, b :: parts.2)) ([], [])).1.reverse

/-- The paths of a file section. -/
def sourceFiles (s : Section) : Except DebugInfoError (List String) :=
  if s.name ≠ Text.Utf8.encode fileSection then .error (.wrongSection fileSection s.name)
  else .ok ((zeroTerminated s.data).map Text.Utf8.decodeLossy)

/-- Line records and source paths of an object file. -/
structure DebugInfo where
  lines : LineTable
  files : List String
  deriving DecidableEq, Repr

namespace DebugInfo

/-- The debug information of an object file. -/
def load (o : ObjectFile) : Except DebugInfoError DebugInfo := do
  let lines ← LineTable.ofObject o
  match o.findSection (Text.Utf8.encode fileSection) with
  | .ok s => return { lines, files := ← sourceFiles s }
  | .error e => throw (.lookup e)

/-- The source path and line of an address. -/
def locate (d : DebugInfo) (a : Address) : Except DebugInfoError (String × Nat) := do
  let place ← d.lines.lookup a
  match d.files[place.fileIndex]? with
  | some path => return (path, place.line)
  | none => throw (.fileIndexOutOfRange place.fileIndex)

end DebugInfo

end WordMachine
