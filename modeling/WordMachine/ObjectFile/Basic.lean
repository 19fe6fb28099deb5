import WordMachine.Address
import WordMachine.ByteOrder
import WordMachine.Text.Utf8
import WordMachine.Word

/-!
# Object files

The parts of an object file: read-only data, labels, code, and optional named sections. Names are
plain bytes.

* `ObjectFile.findLabel`, `ObjectFile.findSection` : the first entry with a name.
* `ObjectFile.entryPoint` : where a program starts by convention.
-/

namespace WordMachine

/-- A name bound to a code address. -/
structure Label where
  name : List UInt8
  address : Address
  deriving DecidableEq, Repr, Inhabited

/-- A named payload. -/
structure Section where
  name : List UInt8
  data : List UInt8
  deriving DecidableEq, Repr, Inhabited

/-- An object file. -/
structure ObjectFile where
  /-- The order of the bytes of its numbers. -/
  order : ByteOrder := .little
  /-- The version of the format. -/
  version : UInt64 := 3
  /-- The read-only data. -/
  literal : List UInt8 := []
  labels : List Label := []
  /-- The version of the instruction set that the code is written for. -/
  instructionSet : UInt64 := 1
  code : List Word := []
  sections : List Section := []
  deriving DecidableEq, Repr, Inhabited

/-- The newest version of the format. -/
def currentVersion : UInt64 := 3

/-- The version of the instruction set of this machine. -/
def currentInstructionSet : UInt64 := 1

/-- The label where a program starts by convention. -/
def entryLabel : String := "_start"

/-- A name that is not in an object file. -/
inductive LookupError where
  | labelNotFound (name : List UInt8)
  | sectionNotFound (name : List UInt8)
  deriving DecidableEq, Repr

/-- The text of a failed lookup. -/
def LookupError.message : LookupError → String
  | labelNotFound name => "label \"" ++ Text.Utf8.decodeLossy name ++ "\" not found"
  | sectionNotFound name => "section \"" ++ Text.Utf8.decodeLossy name ++ "\" not found"

/-- The text of a label's name. -/
def Label.title (l : Label) : String := Text.Utf8.decodeLossy l.name

/-- The text of a section's name. -/
def Section.title (s : Section) : String := Text.Utf8.decodeLossy s.name

namespace ObjectFile

/-- The first label with a name. -/
def findLabel (o : ObjectFile) (name : List UInt8) : Except LookupError Label :=
  match o.labels.find? fun l => l.name == name with
  | some l => .ok l
  | none => .error (.labelNotFound name)

/-- The first section with a name. -/
def findSection (o : ObjectFile) (name : List UInt8) : Except LookupError Section :=
  match o.sections.find? fun s => s.name == name with
  | some s => .ok s
  | none => .error (.sectionNotFound name)

/-- The address of the conventional entry label. -/
def entryPoint (o : ObjectFile) : Except LookupError Address :=
  (o.findLabel (Text.Utf8.encode entryLabel)).map (·.address)

end ObjectFile

end WordMachine
