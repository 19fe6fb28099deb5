import Std.Data.HashSet
import WordMachine.Pattern.CharSet

/-!
# Patterns

A pattern says which pieces of a text match. Pieces are found by reading the text once. At each
place there is a set of sequences of patterns that the text from there on may begin with, one for
every way a match can have begun; behind a character, each sequence leaves the sequences that are
its residuals. A sequence of patterns that all match nothing at a place completes a match there.

* `Look.holds` : what an assertion says about a place.
* `Pattern.matchesNothing` : whether a pattern matches the empty piece at a place.
* `Pattern.residuals` : what can be left of a pattern behind a character.
* `Pattern.occursIn` : whether a pattern matches somewhere in a text.
-/

namespace WordMachine

/-- The place between two characters of a text. -/
structure Gap where
  before : Option Char
  after : Option Char
  deriving DecidableEq, Repr

/-- Where a place lies to the words around it. -/
inductive WordEdge where
  /-- At the start or at the end of a word. -/
  | boundary
  /-- At neither. -/
  | noBoundary
  | start
  | finish
  /-- With no word before it. -/
  | startHalf
  /-- With no word behind it. -/
  | finishHalf
  deriving DecidableEq, Repr, Hashable

/-- An assertion about a place. -/
inductive Look where
  | textStart
  | textFinish
  /-- The start of a line. Lines end in a newline, or also in a carriage return. -/
  | lineStart (returns : Bool)
  /-- The end of a line. -/
  | lineFinish (returns : Bool)
  /-- A place at words. Words are of ASCII characters, or of those of all scripts. -/
  | word (edge : WordEdge) (scripts : Bool)
  deriving DecidableEq, Repr, Hashable

/-- Whether a character belongs to an ASCII word. -/
def isWordChar (c : Char) : Bool := c.isAlphanum || c == '_'

/-- Whether a place lies to the words around it as named. -/
def WordEdge.holds (g : Gap) (edge : WordEdge) : Bool :=
  let before := g.before.any isWordChar
  let after := g.after.any isWordChar
  match edge with
  | .boundary => before != after
  | .noBoundary => before == after
  | .start => !before && after
  | .finish => before && !after
  | .startHalf => !before
  | .finishHalf => !after

/-- Whether an assertion is true of a place. Between a carriage return and its newline no line
starts or ends. -/
def Look.holds (g : Gap) : Look → Bool
  | .textStart => g.before.isNone
  | .textFinish => g.after.isNone
  | .lineStart false => g.before.isNone || g.before == some '\n'
  | .lineFinish false => g.after.isNone || g.after == some '\n'
  | .lineStart true =>
    g.before.isNone || g.before == some '\n' || (g.before == some '\r' && g.after != some '\n')
  | .lineFinish true =>
    g.after.isNone || g.after == some '\r' || (g.after == some '\n' && g.before != some '\r')
  | .word edge _ => edge.holds g

/-- A pattern. -/
inductive Pattern where
  /-- The empty piece. -/
  | empty
  /-- One character of a set. -/
  | set (s : CharSet)
  /-- The empty piece at certain places. -/
  | look (l : Look)
  /-- A pattern whose piece is remembered. -/
  | group (p : Pattern)
  | both (p q : Pattern)
  | either (p q : Pattern)
  /-- A pattern several times in a row, without a greatest number if `most` is `none`. -/
  | repeated (p : Pattern) (least : Nat) (most : Option Nat)
  deriving DecidableEq, Repr, Hashable, Inhabited

namespace Pattern

/-- Whether a pattern matches the empty piece at a place. -/
def matchesNothing (g : Gap) : Pattern → Bool
  | .empty => true
  | .set _ => false
  | .look l => l.holds g
  | .group p => p.matchesNothing g
  | .both p q => p.matchesNothing g && q.matchesNothing g
  | .either p q => p.matchesNothing g || q.matchesNothing g
  | .repeated p least _ => least = 0 || p.matchesNothing g

/-- The sequences of patterns of which one has to match behind a character that follows a place.
Repetitions that match nothing at the place use up any part of the least number. -/
def residuals (g : Gap) (c : Char) : Pattern → List (List Pattern)
  | .empty => []
  | .set s => if s.contains c then [[]] else []
  | .look _ => []
  | .group p => p.residuals g c
  | .both p q =>
    let first := (p.residuals g c).map (· ++ [q])
    if p.matchesNothing g then first ++ q.residuals g c else first
  | .either p q => p.residuals g c ++ q.residuals g c
  | .repeated p least most =>
    if most = some 0 then []
    else
      let least := if p.matchesNothing g then 0 else least - 1
      let rest := repeated p least (most.map (· - 1))
      (p.residuals g c).map (· ++ [rest])

/-- The residuals of a sequence. -/
def sequenceResiduals (g : Gap) (c : Char) : List Pattern → List (List Pattern)
  | [] => []
  | p :: ps =>
    let first := (p.residuals g c).map (· ++ ps)
    if p.matchesNothing g then first ++ sequenceResiduals g c ps else first

/-- The members of a list, each once. -/
def distinct (sequences : List (List Pattern)) : List (List Pattern) :=
  (Std.HashSet.ofList sequences).toList

/-- Whether one of some sequences completes a match at a place. -/
def completes (g : Gap) (sequences : List (List Pattern)) : Bool :=
  sequences.any fun ps => ps.all (matchesNothing g)

/-- Whether a match is completed in the rest of a text, by a sequence that is under way or by the
pattern from some place on. -/
def search (p : Pattern) : (before : Option Char) → (begun : List (List Pattern)) →
    List Char → Bool
  | before, begun, [] => completes ⟨before, none⟩ ([p] :: begun)
  | before, begun, c :: cs =>
    let g : Gap := ⟨before, some c⟩
    let here := distinct ([p] :: begun)
    completes g here || search p (some c) (here.flatMap (sequenceResiduals g c)) cs

/-- Whether a pattern matches somewhere in a text. -/
def occursIn (p : Pattern) (text : String) : Bool := p.search none [] text.toList

/-! ## Patterns without needless parts -/

/-- One pattern and then another. -/
def andThen : Pattern → Pattern → Pattern
  | .empty, q => q
  | p, .empty => p
  | p, q => .both p q

/-- Whether a pattern matches empty pieces only. -/
def isWidthless : Pattern → Bool
  | .empty => true
  | .set _ => false
  | .look _ => true
  | .group p => p.isWidthless
  | .both p q => p.isWidthless && q.isWidthless
  | .either p q => p.isWidthless && q.isWidthless
  | .repeated p _ most => p.isWidthless || most = some 0

/-- A pattern several times in a row. Empty pieces are not repeated. -/
def times (p : Pattern) (least : Nat) (most : Option Nat) : Pattern :=
  let (least, most) :=
    if p.isWidthless then (min least 1, some (min (most.getD 1) 1)) else (least, most)
  if most = some 0 then .empty
  else if least = 1 ∧ most = some 1 then p
  else .repeated p least most

/-- The set of a pattern that is one. -/
def set? : Pattern → Option CharSet
  | .set s => some s
  | _ => none

/-- Some patterns, of which one has to match. Sets of characters become one set. -/
def anyOf (ps : List Pattern) : Pattern :=
  match ps.mapM set? with
  | some sets => .set (sets.foldl CharSet.union {})
  | none =>
    match ps.reverse with
    | [] => .set {}
    | last :: others => others.foldl (fun q p => .either p q) last

/-- Whether a pattern looks at words of all scripts. -/
def looksAtScripts : Pattern → Bool
  | .look (.word _ scripts) => scripts
  | .empty | .set _ | .look _ => false
  | .group p => p.looksAtScripts
  | .both p q => p.looksAtScripts || q.looksAtScripts
  | .either p q => p.looksAtScripts || q.looksAtScripts
  | .repeated p _ _ => p.looksAtScripts

end Pattern

end WordMachine
