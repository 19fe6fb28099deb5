import WordMachine.Text.Digits
import WordMachine.Text.Unprintable

/-!
# Quoted text in messages

Two ways of showing text so that it stays on one line.

* `quote` : a text in double quotes; the short escapes, and a braced code point for every other
  character that has no shape of its own.
* `escapeAscii` : bytes as visible ASCII, with two hexadecimal digits for every other byte.
-/

namespace WordMachine.Text

/-- A character inside double quotes. The single quote stands for itself. -/
def quoteChar (c : Char) : String :=
  if c = '\x00' then "\\0"
  else if c = '\t' then "\\t"
  else if c = '\r' then "\\r"
  else if c = '\n' then "\\n"
  else if c = '\\' then "\\\\"
  else if c = '"' then "\\\""
  else if Unprintable.isUnprintable c then "\\u\x7b" ++ hex c.toNat ++ "\x7d"
  else c.toString

/-- A text in double quotes. -/
def quote (text : String) : String :=
  "\"" ++ String.join (text.toList.map quoteChar) ++ "\""

/-- A byte as visible ASCII. -/
def escapeByte (b : UInt8) : String :=
  if b = 0x09 then "\\t"
  else if b = 0x0d then "\\r"
  else if b = 0x0a then "\\n"
  else if b = 0x27 then "\\'"
  else if b = 0x22 then "\\\""
  else if b = 0x5c then "\\\\"
  else if 0x20 ≤ b ∧ b ≤ 0x7e then (Char.ofNat b.toNat).toString
  else "\\x" ++ hexPadded 2 b.toNat

/-- Bytes as visible ASCII. -/
def escapeAscii (bytes : List UInt8) : String :=
  String.join (bytes.map escapeByte)

end WordMachine.Text
