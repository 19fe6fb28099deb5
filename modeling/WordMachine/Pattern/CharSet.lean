/-!
# Sets of characters

A set of characters is a list of closed ranges in increasing order with a gap between any two, so
each set has one form. A range is of ranks: the characters are numbered without the hole that the
surrogates leave in the code points.

* `CharSet.rank` : the number of a character.
* `CharSet.contains` : membership.
* `CharSet.union`, `CharSet.complement`, `CharSet.inter`, `CharSet.diff` : the operations.
* `CharSet.withBothCases` : a set with the other case of its ASCII letters.
-/

namespace WordMachine

/-- A set of characters. -/
structure CharSet where
  /-- First and last rank of each range. -/
  ranges : List (Nat × Nat) := []
  deriving DecidableEq, Repr, Hashable, Inhabited

namespace CharSet

/-- How many code points are surrogates. -/
def surrogates : Nat := 0x800

/-- The number of a character among all characters. -/
def rank (c : Char) : Nat := if c.toNat < 0xd800 then c.toNat else c.toNat - surrogates

/-- The code point of the character with a rank. -/
def codePoint (rank : Nat) : Nat := if rank < 0xd800 then rank else rank + surrogates

/-- The rank of the last character. -/
def lastRank : Nat := 0x10f7ff

/-- The rank of the last ASCII character. -/
def lastAscii : Nat := 0x7f

/-- Add a range to ranges in order. Ranges that meet it or touch it become one with it. -/
def insertRange (r : Nat × Nat) : List (Nat × Nat) → List (Nat × Nat)
  | [] => [r]
  | s :: rest =>
    if r.2 + 1 < s.1 then r :: s :: rest
    else if s.2 + 1 < r.1 then s :: insertRange r rest
    else insertRange (min r.1 s.1, max r.2 s.2) rest

/-- The ranges between ranges in order, from a rank on. -/
def gaps : (low : Nat) → List (Nat × Nat) → List (Nat × Nat)
  | low, [] => if low ≤ lastRank then [(low, lastRank)] else []
  | low, r :: rest =>
    if low < r.1 then (low, r.1 - 1) :: gaps (r.2 + 1) rest else gaps (r.2 + 1) rest

/-- The set of some ranges of characters. -/
def ofRanges (ranges : List (Char × Char)) : CharSet :=
  ⟨ranges.foldl (fun rs r => insertRange (rank r.1, rank r.2) rs) []⟩

/-- The set of one character. -/
def single (c : Char) : CharSet := ofRanges [(c, c)]

/-- Every character. -/
def all : CharSet := ⟨[(0, lastRank)]⟩

/-- Whether a set has no members. -/
def isEmpty (s : CharSet) : Bool := s.ranges.isEmpty

/-- Whether a character is in a set. -/
def contains (s : CharSet) (c : Char) : Bool :=
  s.ranges.any fun r => r.1 ≤ rank c && rank c ≤ r.2

/-- The characters in one of two sets. -/
def union (s t : CharSet) : CharSet :=
  ⟨t.ranges.foldl (fun rs r => insertRange r rs) s.ranges⟩

/-- The characters that are not in a set. -/
def complement (s : CharSet) : CharSet := ⟨gaps 0 s.ranges⟩

/-- The characters in both of two sets. -/
def inter (s t : CharSet) : CharSet := (s.complement.union t.complement).complement

/-- The characters in one set and not in another. -/
def diff (s t : CharSet) : CharSet := s.inter t.complement

/-- Whether all members are ASCII characters. -/
def isAscii (s : CharSet) : Bool := s.ranges.all fun r => r.2 ≤ lastAscii

/-- The members between two characters, moved along by some ranks. -/
def moved (s : CharSet) (low high : Char) (move : Nat → Nat) : CharSet :=
  ⟨(s.inter (ofRanges [(low, high)])).ranges.map fun r => (move r.1, move r.2)⟩

/-- A set with the other case of each of its ASCII letters. -/
def withBothCases (s : CharSet) : CharSet :=
  (s.union (s.moved 'A' 'Z' (· + 0x20))).union (s.moved 'a' 'z' (· - 0x20))

end CharSet

end WordMachine
