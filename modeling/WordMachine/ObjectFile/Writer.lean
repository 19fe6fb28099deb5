import WordMachine.ObjectFile.Basic
import WordMachine.ObjectFile.Error

/-!
# Writing object files

The image of an object file: the magic, the byte-order marker and the version; then the literal
data and the labels, each behind a 16-bit count; the instruction set version from version 2 on; the
code behind a 64-bit count; and from version 3 on the sections behind a 64-bit count. A name is
followed by a zero byte. An image is written field by field, and the first field that cannot be
written ends the writing.

* `Writer` : writing behind the bytes already written.
* `ObjectFile.encode` : the image, or the first reason why there is none.
-/

namespace WordMachine

namespace ObjectFile

/-- The bytes every image begins with. -/
def magic : List UInt8 := [0x4e, 0x59, 0x55]

/-- The most items that a 16-bit count tells. -/
def maxCount : Nat := 65535

end ObjectFile

/-- Writing behind the bytes already written. -/
abbrev Writer := EStateM EncodeError (Array UInt8)

namespace Writer

/-- Append bytes. -/
def bytes (bs : List UInt8) : Writer Unit := modify fun written => written ++ bs.toArray

/-- Append a number of `width` bytes. -/
def number (order : ByteOrder) (width n : Nat) : Writer Unit := bytes (order.encode width n)

/-- A 16-bit count, if it fits. -/
def count (order : ByteOrder) (n : Nat) (field : CountedField) : Writer Unit :=
  if ObjectFile.maxCount < n then throw (.tooMany field n) else number order 2 n

/-- A name and its zero byte, if it holds none itself. -/
def name (name : List UInt8) : Writer Unit :=
  if name.contains 0 then throw (.zeroInName name)
  else do
    bytes name
    bytes [0]

/-- The magic, the byte-order marker and the version, if the version is known and allows the
sections that there are. -/
def header (o : ObjectFile) : Writer Unit :=
  if currentVersion < o.version then throw (.unsupportedVersion o.version)
  else if o.version < 3 ∧ o.sections ≠ [] then throw (.sectionsUnsupported o.version)
  else do
    bytes ObjectFile.magic
    number o.order 2 ByteOrder.marker
    number o.order 8 o.version.toNat

/-- The literal data. -/
def literal (order : ByteOrder) (data : List UInt8) : Writer Unit := do
  count order data.length .literalData
  bytes data

/-- A label. -/
def label (order : ByteOrder) (l : Label) : Writer Unit := do
  name l.name
  number order 8 l.address.toNat

/-- The labels. -/
def labels (order : ByteOrder) (ls : List Label) : Writer Unit := do
  count order ls.length .globalLabel
  ls.forM (label order)

/-- The instruction set version, which there is from version 2 on. -/
def instructionSet (order : ByteOrder) (version n : UInt64) : Writer Unit :=
  if 2 ≤ version then number order 8 n.toNat else pure ()

/-- A word of code. -/
def word (order : ByteOrder) (w : Word) : Writer Unit := number order 2 w.toNat

/-- The code. -/
def code (order : ByteOrder) (ws : List Word) : Writer Unit := do
  number order 8 ws.length
  ws.forM (word order)

/-- A section. -/
def sectionEntry (order : ByteOrder) (s : Section) : Writer Unit := do
  name s.name
  number order 8 s.data.length
  bytes s.data

/-- The sections, which there are from version 3 on. -/
def sections (order : ByteOrder) (version : UInt64) (ss : List Section) : Writer Unit :=
  if 3 ≤ version then do
    number order 8 ss.length
    ss.forM (sectionEntry order)
  else pure ()

/-- A whole image. -/
def objectFile (o : ObjectFile) : Writer Unit := do
  header o
  literal o.order o.literal
  labels o.order o.labels
  instructionSet o.order o.version o.instructionSet
  code o.order o.code
  sections o.order o.version o.sections

end Writer

/-- The image of an object file, or the first reason why there is none. -/
def ObjectFile.encode (o : ObjectFile) : Except EncodeError (List UInt8) :=
  match (Writer.objectFile o).run #[] with
  | .ok () written => .ok written.toList
  | .error e _ => .error e

end WordMachine
