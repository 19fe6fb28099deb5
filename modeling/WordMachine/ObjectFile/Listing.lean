import WordMachine.Instruction
import WordMachine.ObjectFile.Basic
import WordMachine.Text.Quoted

/-!
# Listing object files

An object file as text: a line for each part, with the code disassembled.

* `ObjectFile.listing` : the text.
-/

namespace WordMachine

namespace ObjectFile

/-- The line of a label. -/
def labelLine (l : Label) : String :=
  "    \"" ++ l.title ++ "\" => @" ++ toString l.address.toNat ++ " ,"

/-- The line of a word. The index takes `width` columns. -/
def codeLine (width : Nat) (w : Word) (index : Nat) : String :=
  Text.padRight width ("@" ++ toString index) ++ "  " ++
    match Instruction.decode? w with
    | some i => i.render
    | none => "?? opcode " ++ Text.byteMarked w.opcodeByte ++ " (" ++ w.render ++ ")"

/-- The line of a section. -/
def sectionLine (s : Section) : String :=
  "section \"" ++ s.title ++ "\" datasize:" ++ toString s.data.length

/-- The text of the entry point. -/
def entryText (o : ObjectFile) : String :=
  match o.entryPoint with
  | .ok a => "@" ++ toString a.toNat
  | .error _ => "none"

/-- The lines of a listing. Code indices are padded to the width of the last one. -/
def listingLines (o : ObjectFile) : List String :=
  let width := (toString (o.code.length - 1)).length + 1
  ["nyulan objectfile v" ++ toString o.version.toNat ++ " (" ++ o.order.render ++ ")",
    "static data size:" ++ toString o.literal.length,
    "static data:\"" ++ Text.escapeAscii o.literal ++ "\"",
    "global labels:\x7b"] ++
  o.labels.map labelLine ++
  ["\x7d",
    "instruction set version:" ++ toString o.instructionSet.toNat,
    "entry point:" ++ o.entryText] ++
  o.code.zipIdx.map (fun (w, i) => codeLine width w i) ++
  o.sections.map sectionLine

/-- The listing of an object file. Every line ends in a newline. -/
def listing (o : ObjectFile) : String :=
  String.join (o.listingLines.map (· ++ "\n"))

end ObjectFile

end WordMachine
