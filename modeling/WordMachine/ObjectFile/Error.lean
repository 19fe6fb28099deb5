import WordMachine.Text.Digits
import WordMachine.Text.Quoted
import WordMachine.Text.Utf8

/-!
# Failures of reading and writing object files

* `FormatError.message` : why an image is not an object file.
* `EncodeError.message` : why an object file has no image.
-/

namespace WordMachine

/-- The fields of an image, in the order in which they are read. -/
inductive Field where
  | magic
  | byteOrderMarker
  | formatVersion
  | literalSize
  | literalData
  | labelCount
  | labelName
  | labelAddress
  | instructionSet
  | codeLength
  | code
  | sectionCount
  | sectionName
  | sectionSize
  | sectionData
  deriving DecidableEq, Repr

/-- The name of a field in messages. -/
def Field.name : Field → String
  | magic => "magic"
  | byteOrderMarker => "byte-order marker"
  | formatVersion => "format version"
  | literalSize => "literal data size"
  | literalData => "literal data"
  | labelCount => "global label count"
  | labelName => "label name"
  | labelAddress => "label address"
  | instructionSet => "instruction set version"
  | codeLength => "code length"
  | code => "code"
  | sectionCount => "optional section count"
  | sectionName => "section name"
  | sectionSize => "section size"
  | sectionData => "section data"

/-- Why an image is not an object file. -/
inductive FormatError where
  | badMagic (found : List UInt8)
  | badMarker (found : List UInt8)
  | unsupportedVersion (found supported : UInt64)
  /-- The image ends inside a field. -/
  | unexpectedEnd (field : Field) (offset : Nat)
  /-- The image could not be read at all. -/
  | unreadable (path reason : String)
  deriving DecidableEq, Repr

/-- The text of a format error. -/
def FormatError.message : FormatError → String
  | badMagic found => "not a nyulan object file: bad magic " ++ Text.bytesHex found
  | badMarker found => "malformed byte-order marker " ++ Text.bytesHex found
  | unsupportedVersion found supported =>
    "object file version " ++ toString found.toNat ++ " is newer than supported version " ++
      toString supported.toNat
  | unexpectedEnd field offset =>
    "unexpected end of file while reading " ++ field.name ++ " at offset " ++ toString offset
  | unreadable path reason => "couldn't read object file " ++ path ++ ": " ++ reason

/-- The lists whose lengths are written in sixteen bits. -/
inductive CountedField where
  | literalData
  | globalLabel
  deriving DecidableEq, Repr

/-- The name of a counted list in messages. -/
def CountedField.name : CountedField → String
  | literalData => "literal data"
  | globalLabel => "global label"

/-- Why an object file has no image. -/
inductive EncodeError where
  | unsupportedVersion (version : UInt64)
  | sectionsUnsupported (version : UInt64)
  | tooMany (field : CountedField) (count : Nat)
  /-- A name holds the byte that ends names. -/
  | zeroInName (name : List UInt8)
  deriving DecidableEq, Repr

/-- The text of an encode error. -/
def EncodeError.message : EncodeError → String
  | unsupportedVersion v => "cannot encode object file version " ++ toString v.toNat
  | sectionsUnsupported v =>
    "object file version " ++ toString v.toNat ++ " cannot carry optional sections"
  | tooMany field count =>
    field.name ++ " count " ++ toString count ++ " exceeds the 16-bit limit"
  | zeroInName name =>
    "name " ++ Text.quote (Text.Utf8.decodeLossy name) ++ " contains a NUL byte"

end WordMachine
