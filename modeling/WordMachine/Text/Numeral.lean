/-!
# Numerals

Digits of a base up to sixteen, and the numbers that lists of them spell.

* `digit?` : the value of a digit.
* `numeral?` : the value of one or more digits, most significant first.
-/

namespace WordMachine.Text

/-- The value of a digit of a base; letters count from ten on, in either case. -/
def digit? (base : Nat) (c : Char) : Option Nat :=
  let value? :=
    if '0' ≤ c ∧ c ≤ '9' then some (c.toNat - '0'.toNat)
    else if 'a' ≤ c ∧ c ≤ 'f' then some (c.toNat - 'a'.toNat + 10)
    else if 'A' ≤ c ∧ c ≤ 'F' then some (c.toNat - 'A'.toNat + 10)
    else none
  value?.filter (· < base)

/-- The number spelled by digits behind those already read. -/
def numeralFrom? (base : Nat) : (n : Nat) → List Char → Option Nat
  | n, [] => some n
  | n, c :: cs =>
    match digit? base c with
    | some d => numeralFrom? base (n * base + d) cs
    | none => none

/-- The number spelled by one or more digits. -/
def numeral? (base : Nat) : List Char → Option Nat
  | [] => none
  | c :: cs => numeralFrom? base 0 (c :: cs)

end WordMachine.Text
