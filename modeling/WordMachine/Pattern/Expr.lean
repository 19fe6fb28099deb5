import WordMachine.Pattern.Basic
import WordMachine.Pattern.Error

/-!
# Patterns as they are written

The parts of a written pattern with their places in it. What a part means depends on the flags that
hold where it stands.

* `ClassExpr` : what is written between brackets.
* `Expr` : a written pattern.
* `Expr.tooDeep?` : the first part that lies too deep inside others.
-/

namespace WordMachine

/-- A written character. -/
structure Literal where
  span : Span
  char : Char
  /-- Whether it is written as two hexadecimal digits, and so may mean a byte. -/
  isByte : Bool := false
  deriving DecidableEq, Repr

/-- The classes with a letter. -/
inductive LetterClass where
  | digit | space | word
  deriving DecidableEq, Repr

/-- The classes with a name between colons. -/
inductive NamedClass where
  | alnum | alpha | ascii | blank | cntrl | digit | graph | lower | print | punct | space | upper
  | word | xdigit
  deriving DecidableEq, Repr

/-- The named class with a name. -/
def NamedClass.ofName? : String → Option NamedClass
  | "alnum" => some .alnum
  | "alpha" => some .alpha
  | "ascii" => some .ascii
  | "blank" => some .blank
  | "cntrl" => some .cntrl
  | "digit" => some .digit
  | "graph" => some .graph
  | "lower" => some .lower
  | "print" => some .print
  | "punct" => some .punct
  | "space" => some .space
  | "upper" => some .upper
  | "word" => some .word
  | "xdigit" => some .xdigit
  | _ => none

/-- What joins two classes between brackets. -/
inductive SetOp where
  | inter | diff | symmDiff
  deriving DecidableEq, Repr

/-- What is written between brackets. -/
inductive ClassExpr where
  | empty (span : Span)
  | literal (l : Literal)
  | range (span : Span) (low high : Literal)
  | named (span : Span) (kind : NamedClass) (negated : Bool)
  | letter (span : Span) (kind : LetterClass) (negated : Bool)
  /-- A property of characters; it has a value apart from its name if `valued`. -/
  | property (span : Span) (name : String) (valued : Bool)
  | union (span : Span) (items : List ClassExpr)
  | bracketed (span : Span) (negated : Bool) (inner : ClassExpr)
  | combined (span : Span) (op : SetOp) (left right : ClassExpr)
  deriving Inhabited

/-- Where a class is written. -/
def ClassExpr.span : ClassExpr → Span
  | .empty span => span
  | .literal l => l.span
  | .range span _ _ => span
  | .named span _ _ => span
  | .letter span _ _ => span
  | .property span _ _ => span
  | .union span _ => span
  | .bracketed span _ _ => span
  | .combined span _ _ _ => span

/-- What can be switched on and off inside a pattern. -/
inductive Flag where
  | ignoreCase
  | multiLine
  | dotMatchesNewline
  | swapGreed
  | scripts
  | returns
  | ignoreBlanks
  deriving DecidableEq, Repr

/-- The flag with a letter. -/
def Flag.ofLetter? : Char → Option Flag
  | 'i' => some .ignoreCase
  | 'm' => some .multiLine
  | 's' => some .dotMatchesNewline
  | 'U' => some .swapGreed
  | 'u' => some .scripts
  | 'R' => some .returns
  | 'x' => some .ignoreBlanks
  | _ => none

/-- Flags and what they are set to. -/
abbrev FlagChanges := List (Flag × Bool)

/-- The assertions as they are written; flags decide what the ends of lines are. -/
inductive Assertion where
  | lineStart
  | lineFinish
  | textStart
  | textFinish
  | word (edge : WordEdge)
  deriving DecidableEq, Repr

/-- A written pattern. -/
inductive Expr where
  | empty (span : Span)
  | flags (span : Span) (changes : FlagChanges)
  | literal (l : Literal)
  | dot (span : Span)
  | assertion (span : Span) (kind : Assertion)
  /-- A class: one between brackets, or one of a letter or a property. -/
  | charClass (c : ClassExpr)
  | repeated (span : Span) (e : Expr) (least : Nat) (most : Option Nat)
  | group (span : Span) (remembered : Bool) (changes : FlagChanges) (e : Expr)
  | either (span : Span) (alternatives : List Expr)
  | sequence (span : Span) (parts : List Expr)
  deriving Inhabited

/-- Where a pattern is written. -/
def Expr.span : Expr → Span
  | .empty span => span
  | .flags span _ => span
  | .literal l => l.span
  | .dot span => span
  | .assertion span _ => span
  | .charClass c => c.span
  | .repeated span _ _ _ => span
  | .group span _ _ _ => span
  | .either span _ => span
  | .sequence span _ => span

/-! ## Depth -/

/-- How deep parts may lie inside others. -/
def maxDepth : Nat := 250

mutual

/-- The first part of a class that lies too deep, at a depth. -/
def ClassExpr.tooDeep? (depth : Nat) : ClassExpr → Option Span
  | .union span items =>
    if maxDepth ≤ depth then some span else ClassExpr.itemsTooDeep? (depth + 1) items
  | .bracketed span _ inner =>
    if maxDepth ≤ depth then some span else ClassExpr.tooDeep? (depth + 1) inner
  | .combined span _ left right =>
    if maxDepth ≤ depth then some span
    else
      (ClassExpr.tooDeep? (depth + 1) left).or (ClassExpr.tooDeep? (depth + 1) right)
  | .empty _ | .literal _ | .range _ _ _ | .named _ _ _ | .letter _ _ _ | .property _ _ _ => none

/-- The first part of some classes that lies too deep, at a depth. -/
def ClassExpr.itemsTooDeep? (depth : Nat) : List ClassExpr → Option Span
  | [] => none
  | c :: cs => (ClassExpr.tooDeep? depth c).or (ClassExpr.itemsTooDeep? depth cs)

end

mutual

/-- The first part of a pattern that lies too deep, at a depth. -/
def Expr.tooDeep? (depth : Nat) : Expr → Option Span
  | .charClass c => c.tooDeep? depth
  | .repeated span e _ _ =>
    if maxDepth ≤ depth then some span else Expr.tooDeep? (depth + 1) e
  | .group span _ _ e =>
    if maxDepth ≤ depth then some span else Expr.tooDeep? (depth + 1) e
  | .either span alternatives =>
    if maxDepth ≤ depth then some span else Expr.partsTooDeep? (depth + 1) alternatives
  | .sequence span parts =>
    if maxDepth ≤ depth then some span else Expr.partsTooDeep? (depth + 1) parts
  | .empty _ | .flags _ _ | .literal _ | .dot _ | .assertion _ _ => none

/-- The first part of some patterns that lies too deep, at a depth. -/
def Expr.partsTooDeep? (depth : Nat) : List Expr → Option Span
  | [] => none
  | e :: es => (Expr.tooDeep? depth e).or (Expr.partsTooDeep? depth es)

end

end WordMachine
