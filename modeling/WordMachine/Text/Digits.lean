/-!
# Numbers as text

Hexadecimal spellings used in addresses, words and messages. Digits are lower case.

* `hex` : the shortest spelling; zero is one digit.
* `hexPadded` : the same with zeros in front up to a least width.
* `bytesHex` : the bracketed list of two-digit bytes shown for a malformed header.
-/

namespace WordMachine.Text

/-- The shortest lower-case hexadecimal spelling of a number. -/
def hex (n : Nat) : String :=
  String.ofList (Nat.toDigits 16 n)

/-- Zeros in front of a text that is shorter than `width`. -/
def zeroPad (width : Nat) (digits : List Char) : List Char :=
  List.replicate (width - digits.length) '0' ++ digits

/-- Hexadecimal with at least `width` digits. -/
def hexPadded (width n : Nat) : String :=
  String.ofList (zeroPad width (Nat.toDigits 16 n))

/-- Hexadecimal with the `0x` mark. -/
def hexMarked (n : Nat) : String :=
  "0x" ++ hex n

/-- One byte with the `0x` mark and two digits. -/
def byteMarked (b : UInt8) : String :=
  "0x" ++ hexPadded 2 b.toNat

/-- Bytes as a bracketed, comma separated list of two-digit numbers. -/
def bytesHex (bytes : List UInt8) : String :=
  "[" ++ String.intercalate ", " (bytes.map fun b => hexPadded 2 b.toNat) ++ "]"

/-- Spaces behind a text that is shorter than `width`. -/
def padRight (width : Nat) (text : String) : String :=
  text ++ String.ofList (List.replicate (width - text.length) ' ')

end WordMachine.Text
