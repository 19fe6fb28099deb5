import WordMachine.Pattern.Expr

/-!
# What written patterns mean

The meaning of a part depends on the modes that hold where it stands. A change of modes holds up to
the end of the group it stands in. Characters of all scripts can be named and excluded one by one,
but there are no tables of their classes, properties and cases: a pattern that needs one is refused.
Where only ASCII characters have classes, a pattern must not exclude characters, because it would
match parts of others.

* `ClassExpr.gather` : the set of a class.
* `Expr.meaning` : the pattern of a written pattern.
-/

namespace WordMachine

/-- What is switched on. -/
structure Modes where
  ignoreCase : Bool := false
  multiLine : Bool := false
  dotMatchesNewline : Bool := false
  scripts : Bool := true
  returns : Bool := false
  deriving DecidableEq, Repr

namespace Modes

/-- Set a flag. Two flags have no meaning beyond reading: one is about which match is found, and
one about blanks. -/
def setFlag (m : Modes) : Flag × Bool → Modes
  | (.ignoreCase, v) => { m with ignoreCase := v }
  | (.multiLine, v) => { m with multiLine := v }
  | (.dotMatchesNewline, v) => { m with dotMatchesNewline := v }
  | (.scripts, v) => { m with scripts := v }
  | (.returns, v) => { m with returns := v }
  | (.swapGreed, _) => m
  | (.ignoreBlanks, _) => m

/-- Set some flags. -/
def change (m : Modes) (changes : FlagChanges) : Modes := changes.foldl setFlag m

end Modes

/-- The ranges of a named class. -/
def NamedClass.ranges : NamedClass → List (Char × Char)
  | .alnum => [('0', '9'), ('A', 'Z'), ('a', 'z')]
  | .alpha => [('A', 'Z'), ('a', 'z')]
  | .ascii => [('\x00', '\x7f')]
  | .blank => [('\t', '\t'), (' ', ' ')]
  | .cntrl => [('\x00', '\x1f'), ('\x7f', '\x7f')]
  | .digit => [('0', '9')]
  | .graph => [('!', '~')]
  | .lower => [('a', 'z')]
  | .print => [(' ', '~')]
  | .punct => [('!', '/'), (':', '@'), ('[', '\x60'), ('\x7b', '~')]
  | .space => [('\t', '\r'), (' ', ' ')]
  | .upper => [('A', 'Z')]
  | .word => [('0', '9'), ('A', 'Z'), ('_', '_'), ('a', 'z')]
  | .xdigit => [('0', '9'), ('A', 'F'), ('a', 'f')]

/-- The ASCII characters of a class with a letter. -/
def LetterClass.ascii : LetterClass → CharSet
  | .digit => .ofRanges NamedClass.digit.ranges
  | .space => .ofRanges NamedClass.space.ranges
  | .word => .ofRanges NamedClass.word.ranges

/-- The set of a class as far as it is gathered, and whether it is known to hold both cases of all
its letters. -/
structure Gathered where
  set : CharSet := {}
  bothCases : Bool := true
  deriving DecidableEq, Repr

namespace Gathered

/-- Add characters. -/
def push (g : Gathered) (s : CharSet) : Gathered := ⟨g.set.union s, false⟩

/-- Add what is gathered apart. -/
def add (g h : Gathered) : Gathered :=
  if h.set.isEmpty ∨ g.set = h.set then g
  else ⟨g.set.union h.set, g.bothCases && h.bothCases⟩

/-- All other characters. -/
def negate (g : Gathered) : Gathered :=
  if g.set.isEmpty then ⟨.all, true⟩ else ⟨g.set.complement, g.bothCases⟩

/-- What is in both. -/
def inter (g h : Gathered) : Gathered :=
  if g.set.isEmpty then g
  else if h.set.isEmpty then {}
  else ⟨g.set.inter h.set, g.bothCases && h.bothCases⟩

/-- What is in the first only. -/
def diff (g h : Gathered) : Gathered :=
  if g.set.isEmpty ∨ h.set.isEmpty then g
  else ⟨g.set.diff h.set, g.bothCases && h.bothCases⟩

/-- Join two sets by an operator. -/
def join (op : SetOp) (g h : Gathered) : Gathered :=
  match op with
  | .inter => g.inter h
  | .diff => g.diff h
  | .symmDiff => (g.add h).diff (g.inter h)

/-- Add the other case of all letters, if case is ignored. Only ASCII characters have cases. -/
def ignoringCase (m : Modes) (span : Span) (g : Gathered) : Except PatternError Gathered :=
  if !m.ignoreCase then .ok g
  else if !m.scripts then .ok ⟨g.set.withBothCases, true⟩
  else if g.bothCases ∨ g.set.isEmpty then .ok ⟨g.set, true⟩
  else .error { flaw := .caseOfScriptsNotFound, span }

/-- A whole class, negated or not. -/
def whole (m : Modes) (span : Span) (negated : Bool) (g : Gathered) :
    Except PatternError Gathered := do
  let g ← g.ignoringCase m span
  if !negated then return g
  else if m.scripts then return g.negate
  else throw { flaw := .matchesNoText, span }

end Gathered

/-- The character of a literal. -/
def Literal.value (m : Modes) (l : Literal) : Except PatternError Char :=
  if !m.scripts ∧ l.isByte ∧ CharSet.lastAscii < l.char.toNat then
    .error { flaw := .matchesNoText, span := l.span }
  else .ok l.char

/-- The character of a literal in a class. -/
def Literal.classValue (m : Modes) (l : Literal) : Except PatternError Char := do
  let c ← l.value m
  if !m.scripts ∧ CharSet.lastAscii < c.toNat then
    throw { flaw := .scriptsNotAllowed, span := l.span }
  return c

/-- The name of a property without the parts that do not count: case, blanks, hyphens, underlines
and a leading `is`. -/
def propertyKey (name : String) : String :=
  let lower := name.toList.map Char.toLower
  let bare := if ['i', 's'].isPrefixOf lower then lower.drop 2 else lower
  String.ofList (bare.filter fun c =>
    c ≠ ' ' ∧ c ≠ '_' ∧ c ≠ '-' ∧ c.toNat ≤ CharSet.lastAscii)

/-- Why a property is refused. Three short names are values of a property. -/
def propertyFlaw (m : Modes) (name : String) (valued : Bool) : Flaw :=
  if !m.scripts then .scriptsNotAllowed
  else if !valued ∧ ["cf", "sc", "lc"].contains (propertyKey name) then .propertyValueNotFound
  else .propertyNotFound

namespace ClassExpr

mutual

/-- Add the characters of a class to what is gathered. -/
def gather (m : Modes) (g : Gathered) : ClassExpr → Except PatternError Gathered
  | .empty _ => .ok g
  | .literal l => do
    let c ← l.classValue m
    return g.push (.single c)
  | .range _ low high => do
    let low ← low.classValue m
    let high ← high.classValue m
    return g.push (.ofRanges [(low, high)])
  | .named span kind negated => do
    let own ← Gathered.whole m span negated ⟨.ofRanges kind.ranges, false⟩
    return g.add own
  | .letter span kind negated =>
    if m.scripts then .error { flaw := .classOfScriptsNotFound, span }
    else if negated then .error { flaw := .matchesNoText, span }
    else .ok (g.add ⟨kind.ascii, false⟩)
  | .property span name valued => .error { flaw := propertyFlaw m name valued, span }
  | .union _ items => gatherAll m g items
  | .bracketed span negated inner => do
    let own ← gather m {} inner
    return g.add (← own.whole m span negated)
  | .combined _ op left right => do
    let l ← gather m {} left
    let r ← gather m {} right
    let r ← r.ignoringCase m right.span
    let l ← l.ignoringCase m left.span
    return g.add (l.join op r)

/-- Add the characters of some classes to what is gathered. -/
def gatherAll (m : Modes) (g : Gathered) : List ClassExpr → Except PatternError Gathered
  | [] => .ok g
  | c :: cs => do
    let g ← gather m g c
    gatherAll m g cs

end

/-- The set of a class that stands alone. -/
def meaning (m : Modes) (c : ClassExpr) : Except PatternError CharSet := do
  let g ← c.gather m {}
  return g.set

end ClassExpr

/-- The assertion of a written one. -/
def Assertion.meaning (m : Modes) : Assertion → Look
  | .lineStart => if m.multiLine then .lineStart m.returns else .textStart
  | .lineFinish => if m.multiLine then .lineFinish m.returns else .textFinish
  | .textStart => .textStart
  | .textFinish => .textFinish
  | .word edge => .word edge m.scripts

/-- The characters that a dot stands for. -/
def dotSet (m : Modes) (span : Span) : Except PatternError CharSet :=
  if !m.scripts then .error { flaw := .matchesNoText, span }
  else if m.dotMatchesNewline then .ok .all
  else if m.returns then .ok (CharSet.ofRanges [('\n', '\n'), ('\r', '\r')]).complement
  else .ok (CharSet.single '\n').complement

/-- The characters that a literal stands for. -/
def Literal.meaning (m : Modes) (l : Literal) : Except PatternError CharSet := do
  let c ← l.value m
  if m.ignoreCase ∧ m.scripts then throw { flaw := .caseOfScriptsNotFound, span := l.span }
  let s := CharSet.single c
  return if m.ignoreCase then s.withBothCases else s

namespace Expr

mutual

/-- The pattern of a written one, and the modes behind it. -/
def meaning (m : Modes) : Expr → Except PatternError (Pattern × Modes)
  | .empty _ => .ok (.empty, m)
  | .flags _ changes => .ok (.empty, m.change changes)
  | .literal l => do
    let s ← l.meaning m
    return (.set s, m)
  | .dot span => do
    let s ← dotSet m span
    return (.set s, m)
  | .assertion _ kind => .ok (.look (kind.meaning m), m)
  | .charClass c => do
    let s ← c.meaning m
    return (.set s, m)
  | .repeated _ e least most => do
    let (p, m) ← meaning m e
    return (p.times least most, m)
  | .group _ remembered changes e => do
    let (p, _) ← meaning (m.change changes) e
    return (if remembered then .group p else p, m)
  | .either _ alternatives => do
    let (ps, m) ← meanings m alternatives
    return (.anyOf ps, m)
  | .sequence _ parts => do
    let (ps, m) ← meanings m parts
    return (ps.foldr Pattern.andThen .empty, m)

/-- The patterns of written ones, and the modes behind them. -/
def meanings (m : Modes) : List Expr → Except PatternError (List Pattern × Modes)
  | [] => .ok ([], m)
  | e :: es => do
    let (p, m) ← meaning m e
    let (ps, m) ← meanings m es
    return (p :: ps, m)

end

end Expr

end WordMachine
