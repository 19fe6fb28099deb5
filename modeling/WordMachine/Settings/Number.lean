import WordMachine.Text.Blank
import WordMachine.Text.Numeral

/-!
# Numbers in settings

A number is written in decimal, or in hexadecimal behind `0x` or `0X`. White space around it and
underscores anywhere in it do not count, and one plus sign may stand before the digits.

* `Settings.number?` : the number a text spells, if it is below `2 ^ 64`.
-/

namespace WordMachine.Settings

/-- The characters of a number: the text without white space around it and without underscores. -/
def digitText (raw : String) : List Char := (Text.trim raw.toList).filter (· ≠ '_')

/-- A text without one plus sign in front. -/
def dropPlus : List Char → List Char
  | '+' :: cs => cs
  | cs => cs

/-- The number that digits spell, of whatever size. -/
def unbounded? : List Char → Option Nat
  | '0' :: 'x' :: cs => Text.numeral? 16 (dropPlus cs)
  | '0' :: 'X' :: cs => Text.numeral? 16 (dropPlus cs)
  | cs => Text.numeral? 10 (dropPlus cs)

/-- The number a text spells, if it is below `2 ^ 64`. -/
def number? (raw : String) : Option Nat :=
  (unbounded? (digitText raw)).filter (· < 0x10000000000000000)

end WordMachine.Settings
