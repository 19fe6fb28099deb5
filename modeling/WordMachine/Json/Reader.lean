import WordMachine.Json.Value
import WordMachine.Text.Numeral

/-!
# Reading JSON

* `Json.parse?` : the value a text spells, with nothing but blanks around it.
-/

namespace WordMachine.Json

/-- A text without the blanks in front. -/
def skipBlanks (cs : List Char) : List Char :=
  cs.dropWhile fun c => c = ' ' ∨ c = '\n' ∨ c = '\t' ∨ c = '\r'

/-! ## Numbers -/

/-- Whether a character is a decimal digit. -/
def isDigit (c : Char) : Bool := '0' ≤ c && c ≤ '9'

/-- The digits in front of a text, and the rest of it. -/
def spanDigits (cs : List Char) : List Char × List Char :=
  (cs.takeWhile isDigit, cs.dropWhile isDigit)

/-- The digits before the point; a zero stands alone. -/
def wholePart? : List Char → Option (List Char × List Char)
  | '0' :: cs => if (cs.head?.any isDigit) then none else some (['0'], cs)
  | cs =>
    match spanDigits cs with
    | ([], _) => none
    | part => some part

/-- The digits behind a point, of which there is at least one; none without a point. -/
def fraction? : List Char → Option (List Char × List Char)
  | '.' :: cs =>
    match spanDigits cs with
    | ([], _) => none
    | part => some part
  | cs => some ([], cs)

/-- A text without a sign in front, and whether it was a minus. -/
def sign : List Char → Bool × List Char
  | '-' :: cs => (true, cs)
  | '+' :: cs => (false, cs)
  | cs => (false, cs)

/-- The digits of an exponent behind its mark and its sign. -/
def exponentDigits? (cs : List Char) : Option (Int × List Char) :=
  let (negative, cs) := sign cs
  let (digits, rest) := spanDigits cs
  (Text.numeral? 10 digits).map fun n => (if negative then -n else n, rest)

/-- An exponent; `none` inside if there is none. -/
def exponent? : List Char → Option (Option Int × List Char)
  | 'e' :: cs => (exponentDigits? cs).map fun e => (some e.1, e.2)
  | 'E' :: cs => (exponentDigits? cs).map fun e => (some e.1, e.2)
  | cs => some (none, cs)

/-- A number without its sign. -/
def magnitude? (negative : Bool) (cs : List Char) : Option (Number × List Char) := do
  let (whole, cs) ← wholePart? cs
  let (fraction, cs) ← fraction? cs
  let (exponent, cs) ← exponent? cs
  let whole ← whole.mapM (Text.digit? 10)
  let fraction ← fraction.mapM (Text.digit? 10)
  return ({ negative, whole, fraction, exponent }, cs)

/-- A number. -/
def number? : List Char → Option (Number × List Char)
  | '-' :: cs => magnitude? true cs
  | cs => magnitude? false cs

/-! ## Strings -/

/-- The character of an escape of one letter. -/
def escape? : Char → Option Nat
  | '"' => some 0x22
  | '\\' => some 0x5c
  | '/' => some 0x2f
  | 'b' => some 0x08
  | 'f' => some 0x0c
  | 'n' => some 0x0a
  | 'r' => some 0x0d
  | 't' => some 0x09
  | _ => none

/-- The numbers of the characters up to the closing quote, behind those already read (newest
first). A surrogate half, which only an escape can make, is a number of its own. -/
def stringUnits? : List Char → List Nat → Option (List Nat × List Char)
  | [], _ => none
  | '"' :: cs, done => some (done.reverse, cs)
  | '\\' :: 'u' :: a :: b :: c :: d :: cs, done =>
    match Text.numeral? 16 [a, b, c, d] with
    | some n => stringUnits? cs (n :: done)
    | none => none
  | '\\' :: c :: cs, done =>
    match escape? c with
    | some n => stringUnits? cs (n :: done)
    | none => none
  | c :: cs, done => if c.toNat < 0x20 ∨ c = '\\' then none else stringUnits? cs (c.toNat :: done)

/-- Whether a number is the first half of a surrogate pair. -/
def isHigh (n : Nat) : Bool := 0xd800 ≤ n && n ≤ 0xdbff

/-- Whether a number is the second half of a surrogate pair. -/
def isLow (n : Nat) : Bool := 0xdc00 ≤ n && n ≤ 0xdfff

/-- The characters of numbers, with surrogate pairs joined; `none` if a half stands alone. -/
def joinUnits? : List Nat → Option (List Char)
  | [] => some []
  | [n] => if isHigh n || isLow n then none else some [Char.ofNat n]
  | n :: m :: rest =>
    if isHigh n then
      if isLow m then
        (joinUnits? rest).map (Char.ofNat (0x10000 + (n - 0xd800) * 0x400 + (m - 0xdc00)) :: ·)
      else none
    else if isLow n then none
    else (joinUnits? (m :: rest)).map (Char.ofNat n :: ·)

/-- A string behind its opening quote. The text is `none` if the string has no text. -/
def string? (cs : List Char) : Option (Option String × List Char) :=
  (stringUnits? cs []).map fun part => ((joinUnits? part.1).map String.ofList, part.2)

/-! ## Values -/

mutual

/-- A value, and the rest of the text. -/
def value? : (fuel : Nat) → List Char → Option (Value × List Char)
  | 0, _ => none
  | fuel + 1, cs =>
    match skipBlanks cs with
    | 'n' :: 'u' :: 'l' :: 'l' :: cs => some (.null, cs)
    | 't' :: 'r' :: 'u' :: 'e' :: cs => some (.bool true, cs)
    | 'f' :: 'a' :: 'l' :: 's' :: 'e' :: cs => some (.bool false, cs)
    | '"' :: cs => (string? cs).map fun part => (.string part.1, part.2)
    | '[' :: cs =>
      match skipBlanks cs with
      | ']' :: cs => some (.array [], cs)
      | cs => items? fuel cs []
    | '\x7b' :: cs =>
      match skipBlanks cs with
      | '\x7d' :: cs => some (.object [], cs)
      | cs => fields? fuel cs []
    | cs => (number? cs).map fun part => (.number part.1, part.2)

/-- The items of an array from the next one on, behind those already read (newest first). -/
def items? : (fuel : Nat) → List Char → List Value → Option (Value × List Char)
  | 0, _, _ => none
  | fuel + 1, cs, done =>
    match value? fuel cs with
    | none => none
    | some (v, cs) =>
      match skipBlanks cs with
      | ',' :: cs => items? fuel cs (v :: done)
      | ']' :: cs => some (.array (v :: done).reverse, cs)
      | _ => none

/-- The fields of an object from the next one on, behind those already read (newest first). -/
def fields? : (fuel : Nat) → List Char → List (Option String × Value) →
    Option (Value × List Char)
  | 0, _, _ => none
  | fuel + 1, cs, done =>
    match skipBlanks cs with
    | '"' :: cs =>
      match string? cs with
      | none => none
      | some (name, cs) =>
        match skipBlanks cs with
        | ':' :: cs =>
          match value? fuel cs with
          | none => none
          | some (v, cs) =>
            match skipBlanks cs with
            | ',' :: cs => fields? fuel cs ((name, v) :: done)
            | '\x7d' :: cs => some (.object ((name, v) :: done).reverse, cs)
            | _ => none
        | _ => none
    | _ => none

end

/-- The value a text spells. Every second step of the reader takes at least one character, so the
length of the text bounds the steps. -/
def parse? (text : String) : Option Value :=
  let cs := text.toList
  match value? (2 * cs.length + 2) cs with
  | some (v, rest) => if (skipBlanks rest).isEmpty then some v else none
  | none => none

end WordMachine.Json
