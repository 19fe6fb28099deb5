import WordMachine.Json.Writer
import WordMachine.ObjectFile.Basic

/-!
# Summaries of object files

An object file as indented JSON. Names are shown as text, bytes and words as numbers.

* `ObjectFile.summary` : the text.
-/

namespace WordMachine

namespace ObjectFile

open Json

/-- A number. -/
def summaryNumber (n : Nat) : Block := .ofText (toString n)

/-- A list of bytes. -/
def summaryBytes (bytes : List UInt8) : Block :=
  .array (bytes.map fun b => summaryNumber b.toNat)

/-- The summary of a label. -/
def summaryLabel (l : Label) : Block :=
  .object [("name", .ofText (quote l.title)), ("address", summaryNumber l.address.toNat)]

/-- The summary of a section. -/
def summarySection (s : Section) : Block :=
  .object [("name", .ofText (quote s.title)), ("data", summaryBytes s.data)]

/-- The summary of an object file. -/
def summary (o : ObjectFile) : String :=
  Block.object [
    ("endian", .ofText (quote o.order.name)),
    ("version", summaryNumber o.version.toNat),
    ("literal_data", summaryBytes o.literal),
    ("labels", .array (o.labels.map summaryLabel)),
    ("instruction_set_version", summaryNumber o.instructionSet.toNat),
    ("code", .array (o.code.map fun w => summaryNumber w.toNat)),
    ("sections", .array (o.sections.map summarySection))] 0

end ObjectFile

end WordMachine
