import WordMachine.Double

/-!
# JSON values

A value as it was written. A number keeps the form of its literal, because `1` and `1.0` are not
the same to a reader of integers, and a string that has no characters of its own, because of half a
surrogate pair, is kept as `none`.

* `Number.integer?` : the integer a literal is written as.
* `Value.isText` : whether every part of a value can be held as text and numbers.
* `Value.record?`, `Value.variant?` : the two shapes of structured data.
-/

namespace WordMachine.Json

/-- A number literal. -/
structure Number where
  negative : Bool
  /-- The digits before the point. -/
  whole : List Nat
  /-- The digits behind the point. -/
  fraction : List Nat
  exponent : Option Int
  deriving DecidableEq, Repr

namespace Number

/-- Whether there is neither a point nor an exponent. -/
def plain (n : Number) : Bool := n.fraction.isEmpty && n.exponent.isNone

/-- The integer a literal is written as. Minus zero is not an integer. -/
def integer? (n : Number) : Option Int :=
  let magnitude : Nat := n.whole.foldl (fun v d => 10 * v + d) 0
  if !n.plain then none
  else if !n.negative then some magnitude
  else if magnitude = 0 then none
  else some (-magnitude)

/-- The greatest significand. -/
def maxSignificand : Nat := 0xffffffffffffffff

/-- A significand with as many further digits as it has room for, and how many digits are left
out. -/
def appendDigits : (significand : Nat) → List Nat → Nat × Nat
  | significand, [] => (significand, 0)
  | significand, d :: ds =>
    let next := 10 * significand + d
    if next ≤ maxSignificand then appendDigits next ds else (significand, ds.length + 1)

/-- The greatest power of ten that is a double. -/
def maxScale : Int := 308

/-- Whether a double can hold the value, which is the significand as a double times a power of ten
as a double. Digits that the significand has no room for count as zeros. -/
def isFinite (n : Number) : Bool :=
  let (significand, left) := appendDigits 0 n.whole
  let (significand, leftBehind) := appendDigits significand n.fraction
  let scale : Int := n.exponent.getD 0 + left + leftBehind - n.fraction.length
  significand = 0 || scale < 0 || (scale ≤ maxScale &&
    Double.nearest significand * Double.nearest (Nat.pow 10 scale.toNat) < Double.overflow)

end Number

/-- A value. -/
inductive Value where
  | null
  | bool (b : Bool)
  | number (n : Number)
  | string (text : Option String)
  | array (items : List Value)
  | object (fields : List (Option String × Value))

namespace Value

/-- Whether all strings of a value are texts, all its numbers are finite, and it has at most
`depth` levels. -/
def isText : (depth : Nat) → Value → Bool
  | _, .null => true
  | _, .bool _ => true
  | _, .number n => n.isFinite
  | _, .string text => text.isSome
  | 0, .array _ => false
  | 0, .object _ => false
  | depth + 1, .array items => items.all (isText depth)
  | depth + 1, .object fields => fields.all fun f => f.1.isSome && isText depth f.2

/-- The text of a string. -/
def text? : Value → Option String
  | .string text => text
  | _ => none

/-- The integer of a value, if it lies between two bounds. -/
def integer? (low high : Int) : Value → Option Int
  | .number n => n.integer?.filter fun i => low ≤ i ∧ i ≤ high
  | _ => none

/-- The natural number of a value, if it has at most so many bits. -/
def natural? (bits : Nat) (v : Value) : Option Nat :=
  (v.integer? 0 ((1 <<< bits : Nat) - 1)).map Int.toNat

/-- The value of the one field with a name: `none` if the name is repeated. -/
def field? (fields : List (String × Value)) (name : String) : Option (Option Value) :=
  match fields.filter fun f => f.1 == name with
  | [] => some none
  | [f] => some (some f.2)
  | _ => none

/-- The fields of an object, if all their names are texts. -/
def named? (fields : List (Option String × Value)) : Option (List (String × Value)) :=
  fields.mapM fun f => f.1.map fun name => (name, f.2)

/-- The values of the fields of a record, in order. A record is an object, in which other fields do
not count, or an array of exactly its fields. -/
def record? (names : List String) : Value → Option (List (Option Value))
  | .array items => if items.length = names.length then some (items.map some) else none
  | .object fields => (named? fields).bind fun fields => names.mapM (field? fields)
  | _ => none

/-- The name of a variant and what it carries. A variant is its name alone, or an object with its
name as the only field. -/
def variant? : Value → Option (String × Option Value)
  | .string name => name.map fun name => (name, none)
  | .object [(name, v)] => name.map fun name => (name, some v)
  | _ => none

/-- The name of a variant that carries nothing. -/
def unit? (v : Value) : Option String :=
  match v.variant? with
  | some (name, none) => some name
  | some (name, some .null) => some name
  | _ => none

end Value

end WordMachine.Json
