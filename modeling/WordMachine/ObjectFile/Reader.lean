import WordMachine.Log.Notice
import WordMachine.ObjectFile.Writer

/-!
# Reading object files

An image is read field by field from the front. A field that the image cannot fill ends the
reading, with the offset of the field, or for names and code with the length of the image. Bytes
behind the last field are ignored. Offsets and lengths are numbers of any size here; reading with
numbers of 64 bits gives the same, see `ObjectFile.readChecked_eq`.

* `Reader` : reading from a cursor.
* `ObjectFile.read` : the object file of an image, with what there is to report.
* `ObjectFile.decode` : the object file of an image.
-/

namespace WordMachine

/-- Where reading stands. -/
structure Cursor where
  /-- The bytes not yet read. -/
  rest : List UInt8
  /-- The number of bytes read. -/
  offset : Nat := 0
  /-- What was reported, newest first. -/
  notices : List Notice := []

/-- The number of bytes of the whole image. -/
def Cursor.total (c : Cursor) : Nat := c.offset + c.rest.length

/-- Reading from a cursor. -/
abbrev Reader := EStateM FormatError Cursor

namespace Reader

/-- Report something. -/
def note (n : Notice) : Reader Unit := modify fun c => { c with notices := n :: c.notices }

/-- The next `n` bytes. -/
def bytes (n : Nat) (field : Field) : Reader (List UInt8) := fun c =>
  let taken := c.rest.take n
  if taken.length < n then .error (.unexpectedEnd field c.offset) c
  else .ok taken { c with rest := c.rest.drop n, offset := c.offset + n }

/-- The next number of `width` bytes. -/
def number (order : ByteOrder) (width : Nat) (field : Field) : Reader Nat := do
  return order.decode (← bytes width field)

/-- The bytes up to the next zero, which is passed over. -/
def name (field : Field) : Reader (List UInt8) := fun c =>
  let found := c.rest.takeWhile (· ≠ 0)
  match c.rest.dropWhile (· ≠ 0) with
  | [] => .error (.unexpectedEnd field c.total) c
  | _ :: rest => .ok found { c with rest, offset := c.offset + found.length + 1 }

/-- `n` items, behind those already read (newest first). -/
def collect {α : Type} (item : Reader α) : Nat → List α → Reader (List α)
  | 0, done => return done.reverse
  | n + 1, done => do
    let a ← item
    collect item n (a :: done)

/-- `n` items. -/
def many {α : Type} (n : Nat) (item : Reader α) : Reader (List α) := collect item n []

/-- Fails unless at least `n` bytes are left. -/
def require (n : Nat) (field : Field) : Reader Unit := fun c =>
  if c.rest.length < n then .error (.unexpectedEnd field c.total) c else .ok () c

/-- The magic. -/
def magic : Reader Unit := do
  let found ← bytes 3 .magic
  if found ≠ ObjectFile.magic then throw (.badMagic found)

/-- The byte-order marker. -/
def byteOrder : Reader ByteOrder := do
  let found ← bytes 2 .byteOrderMarker
  match ByteOrder.ofMarker? found with
  | some order =>
    note (.byteOrder order)
    return order
  | none => throw (.badMarker found)

/-- The format version. -/
def version (order : ByteOrder) : Reader UInt64 := do
  let n ← number order 8 .formatVersion
  note (.formatVersion n)
  let v := UInt64.ofNat n
  if currentVersion < v then throw (.unsupportedVersion v currentVersion)
  return v

/-- The literal data. -/
def literal (order : ByteOrder) : Reader (List UInt8) := do
  let size ← number order 2 .literalSize
  let data ← bytes size .literalData
  note (.literalSize data.length)
  return data

/-- A label. -/
def label (order : ByteOrder) : Reader Label := do
  let name ← name .labelName
  let address ← number order 8 .labelAddress
  return { name, address := Address.ofNat address }

/-- The labels. -/
def labels (order : ByteOrder) : Reader (List Label) := do
  let count ← number order 2 .labelCount
  note (.labelCount count)
  many count (label order)

/-- The instruction set version, which is 1 before version 2. -/
def instructionSet (order : ByteOrder) (version : UInt64) : Reader UInt64 :=
  if 2 ≤ version then do return UInt64.ofNat (← number order 8 .instructionSet) else return 1

/-- A word of code. -/
def word (order : ByteOrder) : Reader Word := do
  return Word.ofNat (← number order 2 .code)

/-- The code. Its length is checked before the first word is read. -/
def code (order : ByteOrder) : Reader (List Word) := do
  let count ← number order 8 .codeLength
  require (count * 2) .code
  many count (word order)

/-- A section. -/
def sectionEntry (order : ByteOrder) : Reader Section := do
  let name ← name .sectionName
  let size ← number order 8 .sectionSize
  note (.sectionSize name size)
  let data ← bytes size .sectionData
  return { name, data }

/-- The sections, which there are from version 3 on. -/
def sections (order : ByteOrder) (version : UInt64) : Reader (List Section) :=
  if 3 ≤ version then do
    let count ← number order 8 .sectionCount
    many count (sectionEntry order)
  else return []

/-- Report the bytes that are left. -/
def trailing : Reader Unit := do
  let c ← get
  if !c.rest.isEmpty then note (.trailingBytes c.rest.length)

/-- A whole image. -/
def objectFile : Reader ObjectFile := do
  magic
  let order ← byteOrder
  let version ← version order
  let literal ← literal order
  let labels ← labels order
  let instructionSet ← instructionSet order version
  let code ← code order
  let sections ← sections order version
  trailing
  return { order, version, literal, labels, instructionSet, code, sections }

end Reader

namespace ObjectFile

/-- The object file of an image, and what there is to report about it, oldest first. -/
def read (bytes : List UInt8) : Except FormatError ObjectFile × List Notice :=
  match Reader.objectFile.run { rest := bytes } with
  | .ok o c => (.ok o, c.notices.reverse)
  | .error e c => (.error e, c.notices.reverse)

/-- The object file of an image. -/
def decode (bytes : List UInt8) : Except FormatError ObjectFile := (read bytes).1

end ObjectFile

end WordMachine
