/-!
# Bytes as text

Names in an object file are plain bytes. They are shown as UTF-8, and every longest run of bytes
that starts a character but cannot finish it is shown as one replacement character.

* `decodeLossy` : the text of any byte string.
* `encode` : the UTF-8 bytes of a text.
-/

namespace WordMachine.Text.Utf8

/-- The bytes still owed by a character whose first bytes have been read: how many, the bounds of
the next one, and the value so far. -/
structure Pending where
  owed : Nat
  low : Nat
  high : Nat
  value : Nat

/-- The replacement character. -/
def replacement : Char := '\ufffd'

/-- What a leading byte above `0x7f` opens, if it opens anything. The bounds on the second byte
exclude overlong forms, surrogates and values above `0x10ffff`. -/
def opening (b : Nat) : Option Pending :=
  if 0xc2 ≤ b ∧ b ≤ 0xdf then some ⟨1, 0x80, 0xbf, b - 0xc0⟩
  else if b = 0xe0 then some ⟨2, 0xa0, 0xbf, 0⟩
  else if b = 0xed then some ⟨2, 0x80, 0x9f, 0xd⟩
  else if 0xe1 ≤ b ∧ b ≤ 0xef then some ⟨2, 0x80, 0xbf, b - 0xe0⟩
  else if b = 0xf0 then some ⟨3, 0x90, 0xbf, 0⟩
  else if 0xf1 ≤ b ∧ b ≤ 0xf3 then some ⟨3, 0x80, 0xbf, b - 0xf0⟩
  else if b = 0xf4 then some ⟨3, 0x80, 0x8f, 4⟩
  else none

/-- A decoder between two bytes: the characters found so far and the one begun. -/
structure Decoder where
  done : Array Char := #[]
  pending : Option Pending := none

/-- A byte where a character begins. -/
def Decoder.start (d : Decoder) (b : Nat) : Decoder :=
  if b < 0x80 then { d with done := d.done.push (Char.ofNat b), pending := none }
  else match opening b with
    | some p => { d with pending := some p }
    | none => { d with done := d.done.push replacement, pending := none }

/-- One more byte. A byte that cannot continue the character begun ends it and begins anew. -/
def Decoder.feed (d : Decoder) (byte : UInt8) : Decoder :=
  let b := byte.toNat
  match d.pending with
  | none => d.start b
  | some p =>
    if p.low ≤ b ∧ b ≤ p.high then
      let value := p.value * 64 + (b - 0x80)
      if p.owed ≤ 1 then { d with done := d.done.push (Char.ofNat value), pending := none }
      else { d with pending := some ⟨p.owed - 1, 0x80, 0xbf, value⟩ }
    else { d with done := d.done.push replacement, pending := none }.start b

/-- The characters at the end of input; an unfinished one is replaced. -/
def Decoder.finish (d : Decoder) : List Char :=
  match d.pending with
  | none => d.done.toList
  | some _ => (d.done.push replacement).toList

/-- The text of a byte string, with a replacement character for each part that is not UTF-8. -/
def decodeLossy (bytes : List UInt8) : String :=
  String.ofList (bytes.foldl Decoder.feed {}).finish

/-- The UTF-8 bytes of a text. -/
def encode (text : String) : List UInt8 :=
  text.toList.flatMap String.utf8EncodeChar

end WordMachine.Text.Utf8
