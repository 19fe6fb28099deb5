import WordMachine.Pattern.Basic

/-!
# How large patterns are

A pattern is measured by the automaton that would read a text with it byte by byte: how many bytes
its states and their arrows take. One automaton reads forwards and remembers groups, the other reads
backwards and does not. Characters beyond ASCII take several states each, by the ranges of their
encoded bytes. Forwards, equal ends of encodings share their states; backwards, equal fronts do.

* `CharSet.encodings` : the encoded forms of a set, as sequences of ranges of bytes.
* `Pattern.size` : the bytes of an automaton.
* `Pattern.isTooLarge` : whether they are too many.
-/

namespace WordMachine

/-- Ranges of the bytes of encoded characters, the first byte first. -/
abbrev Encoding := List (Nat × Nat)

/-- The bytes of a code point. -/
def encodedBytes (n : Nat) : List Nat :=
  let tail (shift : Nat) : Nat := 0x80 + n / Nat.pow 64 shift % 64
  if n < 0x80 then [n]
  else if n < 0x800 then [0xc0 + n / 64, tail 0]
  else if n < 0x10000 then [0xe0 + n / 4096, tail 1, tail 0]
  else [0xf0 + n / 262144, tail 2, tail 1, tail 0]

/-- The last code points with one, two and three bytes, and the one before the surrogates. -/
def encodingEnds : List Nat := [0x7f, 0x7ff, 0xd7ff, 0xffff]

/-- Where to divide a range of code points so that each of its bytes gets a full range or a single
value: the last code point of the first part. -/
def divide? (low high : Nat) : Option Nat :=
  match encodingEnds.find? fun e => low ≤ e ∧ e < high with
  | some e => some e
  | none =>
    if high < 0x80 then none
    else [64, 4096, 262144].findSome? fun unit =>
      if low / unit = high / unit then none
      else if low % unit ≠ 0 then some (low / unit * unit + unit - 1)
      else if high % unit ≠ unit - 1 then some (high / unit * unit - 1)
      else none

/-- The encoded forms of a range of code points. -/
def rangeEncodings : (fuel : Nat) → (low high : Nat) → List Encoding
  | 0, _, _ => []
  | fuel + 1, low, high =>
    match divide? low high with
    | some e => rangeEncodings fuel low e ++ rangeEncodings fuel (e + 1) high
    | none => [(encodedBytes low).zip (encodedBytes high)]

namespace CharSet

/-- A range of ranks as ranges of code points, which leave out the surrogates. -/
def codePoints (r : Nat × Nat) : List (Nat × Nat) :=
  if r.1 < 0xd800 ∧ 0xd800 ≤ r.2 then [(r.1, 0xd7ff), (0xe000, codePoint r.2)]
  else [(codePoint r.1, codePoint r.2)]

/-- The encoded forms of a set. -/
def encodings (s : CharSet) : List Encoding :=
  (s.ranges.flatMap codePoints).flatMap fun r => rangeEncodings 64 r.1 r.2

/-- The one member of a set that has no other. -/
def only? (s : CharSet) : Option Nat :=
  match s.ranges with
  | [(low, high)] => if low = high then some (codePoint low) else none
  | _ => none

end CharSet

/-! ## States and arrows -/

/-- The bytes of a state. -/
def stateSize : Nat := 32

/-- The bytes of an arrow for a range of bytes. -/
def arrowSize : Nat := 8

/-- The bytes of an arrow for nothing. -/
def linkSize : Nat := 4

/-- The ends of encodings behind each first range of bytes. -/
def endsBehind (ends : List Encoding) : List (List Encoding) :=
  let firsts := (ends.filterMap List.head?).eraseDups
  firsts.map fun first => ends.filterMap fun e => if e.head? = some first then e.tail? else none

/-- All distinct ends of encodings, level by level. -/
def allEnds : (levels : Nat) → List (List Encoding) → List (List Encoding)
  | 0, _ => []
  | levels + 1, level =>
    let level := (level.filter fun ends => !ends.contains []).eraseDups
    level ++ allEnds levels (level.flatMap endsBehind)

/-- The size of a set read forwards. -/
def CharSet.forwardSize (s : CharSet) : Nat :=
  let states := (allEnds 4 [s.encodings]).eraseDups
  states.foldl (fun n ends => n + stateSize + arrowSize * (endsBehind ends).length) stateSize

/-- The size of a set read backwards. -/
def CharSet.backwardSize (s : CharSet) : Nat :=
  let encodings := s.encodings
  let fronts := encodings.flatMap fun e => (List.range e.length).map fun i => e.take (i + 1)
  2 * stateSize + linkSize * encodings.length + stateSize * fronts.eraseDups.length

/-- The size of a set. -/
def CharSet.size (forward : Bool) (s : CharSet) : Nat :=
  match s.only? with
  | some n => stateSize * (encodedBytes n).length
  | none =>
    if s.isAscii then 2 * stateSize + arrowSize * s.ranges.length
    else if forward then s.forwardSize
    else s.backwardSize

namespace Pattern

/-- Whether a pattern can match an empty piece, wherever that is. -/
def mayBeEmpty : Pattern → Bool
  | .empty => true
  | .set s => s.isEmpty
  | .look _ => true
  | .group p => p.mayBeEmpty
  | .both p q => p.mayBeEmpty && q.mayBeEmpty
  | .either p q => p.mayBeEmpty || q.mayBeEmpty
  | .repeated p least _ => least = 0 || p.mayBeEmpty

/-- The size of a repetition of a pattern of a size. -/
def repeatedSize (size : Nat) (mayBeEmpty : Bool) (least : Nat) : Option Nat → Nat
  | none =>
    if least = 0 then
      if mayBeEmpty then size + 3 * stateSize + 4 * linkSize
      else size + stateSize + 2 * linkSize
    else least * size + stateSize + 2 * linkSize
  | some most =>
    let optional := (most - least) * (stateSize + size + 2 * linkSize)
    if least = most then least * size
    else if least = 0 ∧ most = 1 then optional + stateSize
    else (if least = 0 then stateSize else least * size) + stateSize + optional

/-- The size of a pattern that is one of several alternatives, without what joins them. -/
def alternativeSize (size : Nat) : Pattern → Nat
  | .either _ _ => size - 2 * stateSize
  | _ => size + linkSize

/-- The size of a pattern. -/
def size (forward : Bool) : Pattern → Nat
  | .empty => stateSize
  | .set s => s.size forward
  | .look _ => stateSize
  | .group p => if forward then p.size forward + 2 * stateSize else p.size forward
  | .both p q => p.size forward + q.size forward
  | .either p q =>
    2 * stateSize + alternativeSize (p.size forward) p + alternativeSize (q.size forward) q
  | .repeated p least most => repeatedSize (p.size forward) p.mayBeEmpty least most

/-- The most bytes of an automaton. -/
def maxSize : Nat := 10485760

/-- What stands around every pattern: a loop that begins anywhere, and the end. -/
def frameSize (forward : Bool) : Nat :=
  4 * stateSize + arrowSize + 2 * linkSize + if forward then 2 * stateSize else 0

/-- Whether a pattern has too large an automaton. -/
def isTooLarge (forward : Bool) (p : Pattern) : Bool :=
  maxSize < frameSize forward + p.size forward

end Pattern

end WordMachine
