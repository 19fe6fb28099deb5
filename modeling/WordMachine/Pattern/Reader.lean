import WordMachine.Pattern.Expr
import WordMachine.Text.Blank
import WordMachine.Text.Letter
import WordMachine.Text.Numeral

/-!
# Reading patterns

A pattern is read from left to right by a cursor. Where blanks are ignored, so are comments, from a
number sign to the end of the line.

* `Expr.parse` : the written pattern of a text.
-/

namespace WordMachine

/-- How far a pattern is read. -/
structure PatternCursor where
  rest : List Char
  index : Nat := 0
  ignoreBlanks : Bool := false
  /-- The names of groups, and where they stand. -/
  names : List (String × Span) := []

/-- A step of reading. -/
abbrev Reading := EStateM PatternError PatternCursor

namespace Reading

/-! ## Characters -/

/-- The next character. -/
def peek : Reading (Option Char) := return (← get).rest.head?

/-- The index of the next character. -/
def position : Reading Nat := return (← get).index

/-- The part that is the next character. -/
def here : Reading Span := return ⟨(← get).index, (← get).index + 1⟩

/-- How many characters are left. -/
def remaining : Reading Nat := return (← get).rest.length

/-- Stop at a flaw. -/
def fail {α : Type} (flaw : Flaw) (span : Span) : Reading α := throw { flaw, span }

/-- Stop at a flaw at the next character, as a place. -/
def failHere {α : Type} (flaw : Flaw) : Reading α := do
  fail flaw (.point (← position))

/-- Go on by some characters. -/
def skip (n : Nat) : Reading Unit :=
  modify fun c => { c with rest := c.rest.drop n, index := c.index + min n c.rest.length }

/-- How many characters are blanks and comments, in front of a text or inside a comment. -/
def blanks : (comment : Bool) → List Char → Nat
  | _, [] => 0
  | true, c :: cs => blanks (c ≠ '\n') cs + 1
  | false, c :: cs =>
    if Text.isBlank c then blanks false cs + 1
    else if c = '#' then blanks true cs + 1
    else 0

/-- Go on behind blanks, if they are ignored. -/
def skipBlanks : Reading Unit := do
  let c ← get
  if c.ignoreBlanks then skip (blanks false c.rest)

/-- Go on by one character. The next character follows. -/
def advance : Reading (Option Char) := do
  skip 1
  peek

/-- Go on by one character and behind ignored blanks. The next character follows. -/
def advanceFar : Reading (Option Char) := do
  skip 1
  skipBlanks
  peek

/-- Go on behind a text, if it is next. -/
def accept (text : String) : Reading Bool := do
  if text.toList.isPrefixOf (← get).rest then
    skip text.length
    return true
  else return false

/-- A text behind blanks and at most one number sign. -/
def behindBlanks? : (comment : Bool) → List Char → Option (List Char)
  | _, [] => none
  | comment, c :: cs =>
    if Text.isBlank c then behindBlanks? comment cs
    else if !comment && c = '#' then behindBlanks? true cs
    else some (c :: cs)

/-- The character behind the next one, and behind ignored blanks unless there is nothing else. -/
def peekSecond : Reading (Option Char) := do
  let c ← get
  let rest := c.rest.tail
  if c.ignoreBlanks then return ((behindBlanks? false rest).getD rest).head?
  else return rest.head?

/-- The characters up to the first one that is not of a kind. Ignored blanks may lie between
them. -/
def takeFar (kind : Char → Bool) : (fuel : Nat) → Reading (List Char)
  | 0 => return []
  | fuel + 1 => do
    match ← peek with
    | none => return []
    | some c =>
      if kind c then
        let _ ← advanceFar
        return c :: (← takeFar kind fuel)
      else return []

/-- The characters up to the first one that is not of a kind. -/
def takeKind (kind : Char → Bool) : Reading (List Char) := do takeFar kind (← remaining)

/-! ## Numbers -/

/-- The greatest count of a repetition, and the greatest number of a character. -/
def maxNumber : Nat := 0xffffffff

/-- A decimal number with blanks around it. What is wrong with it may never matter. -/
def decimal : Reading (Except PatternError Nat) := do
  skip (((← get).rest.takeWhile Text.isBlank).length)
  let start ← position
  let digits ← takeKind Char.isDigit
  let span : Span := ⟨start, ← position⟩
  let _ ← takeKind Text.isBlank
  match Text.numeral? 10 digits with
  | none => return .error { flaw := .repetitionCountEmpty, span }
  | some n =>
    if maxNumber < n then return .error { flaw := .decimalInvalid, span } else return .ok n

/-- The character of hexadecimal digits. -/
def charOfHex? (digits : List Char) : Option Char := do
  let n ← Text.numeral? 16 digits
  if h : n.isValidChar then return Char.ofNatAux n h else none

/-- Whether a character is a hexadecimal digit. -/
def isHexDigit (c : Char) : Bool := (Text.digit? 16 c).isSome

/-- So many hexadecimal digits. The cursor stands on the last one. -/
def hexDigits : (count : Nat) → Reading (List Char)
  | 0 => return []
  | count + 1 => do
    match ← peek with
    | none => failHere .escapeUnfinished
    | some c =>
      if !isHexDigit c then fail .escapeHexInvalidDigit (← here)
      if count = 0 then return [c]
      let _ ← advanceFar
      return c :: (← hexDigits count)

/-- The hexadecimal digits up to a closing brace, from the character before them. -/
def hexUntilBrace (brace : Nat) : (fuel : Nat) → Reading (List Char)
  | 0 => return []
  | fuel + 1 => do
    match ← advanceFar with
    | none => fail .escapeUnfinished ⟨brace, ← position⟩
    | some c =>
      if c = '\x7d' then return []
      if !isHexDigit c then fail .escapeHexInvalidDigit (← here)
      return c :: (← hexUntilBrace brace fuel)

/-- A character by its number, behind the letter that says how many digits the number has. -/
def hexLiteral (start : Nat) (letter : Char) : Reading Literal := do
  let first ← advanceFar
  match first with
  | none => failHere .escapeUnfinished
  | some '\x7b' =>
    let brace ← position
    let digits ← hexUntilBrace brace ((← remaining) + 1)
    let stop ← position
    let _ ← advanceFar
    if digits.isEmpty then fail .escapeHexEmpty ⟨brace, ← position⟩
    match charOfHex? digits with
    | none => fail .escapeHexInvalid ⟨brace + 1, stop⟩
    | some char => return { span := ⟨start, ← position⟩, char }
  | some _ =>
    let low ← position
    let digits ← hexDigits (if letter = 'x' then 2 else if letter = 'u' then 4 else 8)
    let _ ← advanceFar
    match charOfHex? digits with
    | none => fail .escapeHexInvalid ⟨low, ← position⟩
    | some char => return { span := ⟨start, ← position⟩, char, isByte := letter = 'x' }

/-! ## Escapes -/

/-- The name of a property up to a closing brace, from the character before it. -/
def propertyName : (fuel : Nat) → Reading (List Char)
  | 0 => return []
  | fuel + 1 => do
    match ← advanceFar with
    | none => failHere .escapeUnfinished
    | some c => if c = '\x7d' then return [] else return c :: (← propertyName fuel)

/-- A property of characters, behind its letter. -/
def property (start : Nat) : Reading ClassExpr := do
  match ← advanceFar with
  | none => failHere .escapeUnfinished
  | some '\x7b' =>
    let name ← propertyName ((← remaining) + 1)
    skip 1
    let valued := name.contains ':' || name.contains '='
    return .property ⟨start, ← position⟩ (String.ofList name) valued
  | some '\\' => fail .propertyInvalid (← here)
  | some c =>
    let _ ← advanceFar
    return .property ⟨start, ← position⟩ c.toString false

/-- The class with a letter, and whether it is negated. -/
def letterClass? : Char → Option (LetterClass × Bool)
  | 'd' => some (.digit, false)
  | 'D' => some (.digit, true)
  | 's' => some (.space, false)
  | 'S' => some (.space, true)
  | 'w' => some (.word, false)
  | 'W' => some (.word, true)
  | _ => none

/-- The character that an escaped one stands for. A mark stands for itself. -/
def escapedChar? : Char → Option Char
  | 'a' => some '\x07'
  | 'f' => some '\x0c'
  | 't' => some '\t'
  | 'n' => some '\n'
  | 'r' => some '\r'
  | 'v' => some '\x0b'
  | c =>
    if c.toNat ≤ CharSet.lastAscii ∧ !c.isAlphanum ∧ c ≠ '<' ∧ c ≠ '>' then some c else none

/-- The assertion of an escaped character. -/
def escapedAssertion? : Char → Option Assertion
  | 'A' => some .textStart
  | 'z' => some .textFinish
  | 'b' => some (.word .boundary)
  | 'B' => some (.word .noBoundary)
  | '<' => some (.word .start)
  | '>' => some (.word .finish)
  | _ => none

/-- The place at words with a name. -/
def wordEdge? : String → Option WordEdge
  | "start" => some .start
  | "end" => some .finish
  | "start-half" => some .startHalf
  | "end-half" => some .finishHalf
  | _ => none

/-- Whether a character may stand in the name of a place at words. -/
def isEdgeChar (c : Char) : Bool := c.isAlpha || c = '-'

/-- The name of a place at words between braces, behind a word boundary; `none` if the braces hold
a count. -/
def wordEdge (start : Nat) : Reading (Option WordEdge) := do
  let brace ← get
  match ← advanceFar with
  | none => fail .wordEdgeUnfinished ⟨start, ← position⟩
  | some c =>
    if !isEdgeChar c then
      set brace
      return none
    let low ← position
    let name ← takeKind isEdgeChar
    let high ← position
    if (← peek) ≠ some '\x7d' then fail .wordEdgeUnclosed ⟨brace.index, high⟩
    skip 1
    match wordEdge? (String.ofList name) with
    | some edge => return some edge
    | none => fail .wordEdgeUnrecognized ⟨low, high⟩

/-- An escaped character that is not a number, a class or a property. -/
def simpleEscape (start : Nat) (c : Char) : Reading Expr := do
  skip 1
  let span : Span := ⟨start, ← position⟩
  match escapedChar? c, escapedAssertion? c with
  | some char, _ => return .literal { span, char }
  | none, none => fail .escapeUnrecognized span
  | none, some kind =>
    if c = 'b' ∧ (← peek) = some '\x7b' then
      match ← wordEdge start with
      | some edge => return .assertion ⟨start, ← position⟩ (.word edge)
      | none => return .assertion span kind
    else return .assertion span kind

/-- An escape, from its backslash on. -/
def escape : Reading Expr := do
  let start ← position
  match ← advance with
  | none => fail .escapeUnfinished ⟨start, ← position⟩
  | some c =>
    if c.isDigit then fail .backreference ⟨start, (← here).stop⟩
    else if c = 'x' ∨ c = 'u' ∨ c = 'U' then return .literal (← hexLiteral start c)
    else if c = 'p' ∨ c = 'P' then return .charClass (← property start)
    else match letterClass? c with
      | some (kind, negated) =>
        skip 1
        return .charClass (.letter ⟨start, ← position⟩ kind negated)
      | none => simpleEscape start c

/-! ## Classes between brackets -/

/-- A named class in front of a text, and how many characters it takes. -/
def namedClass? (text : List Char) : Option (NamedClass × Bool × Nat) :=
  match text with
  | '[' :: ':' :: rest =>
    let negated := rest.head? = some '^'
    let rest := if negated then rest.drop 1 else rest
    let name := rest.takeWhile (· ≠ ':')
    if [':', ']'].isPrefixOf (rest.drop name.length) then
      (NamedClass.ofName? (String.ofList name)).map fun kind =>
        (kind, negated, name.length + if negated then 5 else 4)
    else none
  | _ => none

/-- A character or an escape in a class. -/
def classItem (c : Char) : Reading Expr := do
  if c = '\\' then escape
  else
    let span ← here
    skip 1
    return .literal { span, char := c }

/-- A character, an escape or a range in a class that begins with `c`. -/
def classRange (opening : Span) (c : Char) : Reading ClassExpr := do
  let low ← classItem c
  skipBlanks
  match ← peek with
  | none => fail .classUnclosed opening
  | some dash =>
    let second ← peekSecond
    if dash ≠ '-' ∨ second = some ']' ∨ second = some '-' then
      match low with
      | .literal l => return .literal l
      | .charClass c => return c
      | e => fail .classEscapeInvalid e.span
    else
      match ← advanceFar with
      | none => fail .classUnclosed opening
      | some c =>
        let high ← classItem c
        match low, high with
        | .literal l, .literal h =>
          let span : Span := ⟨l.span.start, h.span.stop⟩
          if h.char < l.char then fail .classRangeInvalid span
          else return .range span l h
        | .literal _, e => fail .classRangeNotLiteral e.span
        | e, _ => fail .classRangeNotLiteral e.span

/-- The hyphens in front of a class stand for themselves (newest first). -/
def leadingHyphens (start : Nat) : (fuel : Nat) → List ClassExpr → Reading (List ClassExpr)
  | 0, done => return done
  | fuel + 1, done => do
    if (← peek) = some '-' then
      let l : Literal := { span := ← here, char := '-' }
      if (← advanceFar).isNone then fail .classUnclosed (.point start)
      leadingHyphens start fuel (.literal l :: done)
    else return done

/-- The front of a class, from its bracket on: whether it is negated, and what stands for itself
there (newest first). -/
def classOpening (start : Nat) : Reading (Bool × List ClassExpr) := do
  let unclosed : Reading Unit := do fail .classUnclosed ⟨start, ← position⟩
  let first ← advanceFar
  if first.isNone then unclosed
  let negated := first = some '^'
  if negated then
    if (← advanceFar).isNone then unclosed
  let hyphens ← leadingHyphens start (← remaining) []
  if hyphens.isEmpty ∧ (← peek) = some ']' then
    let l : Literal := { span := ← here, char := ']' }
    if (← advanceFar).isNone then unclosed
    return (negated, [.literal l])
  else return (negated, hyphens)

/-- Items of a class as one (newest first). -/
def unionOf (origin : Nat) : List ClassExpr → ClassExpr
  | [] => .empty (.point origin)
  | [c] => c
  | last :: others =>
    let first := (others.getLast?.getD last).span
    .union ⟨first.start, last.span.stop⟩ (last :: others).reverse

/-- What stands before an operator, and what stands behind it. -/
def combine (pending : Option (SetOp × ClassExpr)) (right : ClassExpr) : ClassExpr :=
  match pending with
  | none => right
  | some (op, left) => .combined ⟨left.span.start, right.span.stop⟩ op left right

/-- The operator in front of a text. -/
def setOp? : List Char → Option SetOp
  | '&' :: '&' :: _ => some .inter
  | '-' :: '-' :: _ => some .diff
  | '~' :: '~' :: _ => some .symmDiff
  | _ => none

mutual

/-- A class, from its bracket on. -/
def bracketed : (fuel : Nat) → Reading ClassExpr
  | 0 => failHere .classUnclosed
  | fuel + 1 => do
    let start ← position
    let (negated, items) ← classOpening start
    let stop ← position
    let inner ← classBody fuel ⟨start, stop⟩ none stop items
    return .bracketed ⟨start, ← position⟩ negated inner

/-- A class behind items that are read (newest first), up to its closing bracket. -/
def classBody : (fuel : Nat) → (opening : Span) → (pending : Option (SetOp × ClassExpr)) →
    (origin : Nat) → List ClassExpr → Reading ClassExpr
  | 0, opening, _, _, _ => fail .classUnclosed opening
  | fuel + 1, opening, pending, origin, items => do
    skipBlanks
    let rest := (← get).rest
    match rest, setOp? rest with
    | [], _ => fail .classUnclosed opening
    | ']' :: _, _ =>
      skip 1
      return combine pending (unionOf origin items)
    | '[' :: _, _ =>
      match namedClass? rest with
      | some (kind, negated, length) =>
        let start ← position
        skip length
        classBody fuel opening pending origin
          (.named ⟨start, start + length⟩ kind negated :: items)
      | none =>
        let inner ← bracketed fuel
        classBody fuel opening pending origin (inner :: items)
    | _, some op =>
      skip 2
      classBody fuel opening (some (op, combine pending (unionOf origin items))) (← position) []
    | c :: _, none =>
      let item ← classRange opening c
      classBody fuel opening pending origin (item :: items)

end

/-! ## Repetitions -/

/-- The part that a repetition repeats, and the parts before it. -/
def repeatedPart : List Expr → Reading (Expr × List Expr)
  | [] => failHere .repetitionMissing
  | .empty _ :: _ => failHere .repetitionMissing
  | .flags _ _ :: _ => failHere .repetitionMissing
  | e :: parts => return (e, parts)

/-- A repetition with a mark of its own. -/
def markedRepetition (least : Nat) (most : Option Nat) (parts : List Expr) :
    Reading (List Expr) := do
  let (e, parts) ← repeatedPart parts
  if (← advance) = some '?' then skip 1
  return .repeated ⟨e.span.start, ← position⟩ e least most :: parts

/-- The counts of a repetition up to its closing brace. -/
def counts (start : Nat) : Reading (Nat × Option Nat) := do
  let unclosed {α : Type} : Reading α := do fail .repetitionUnclosed ⟨start, ← position⟩
  if (← advanceFar).isNone then unclosed
  let least ← decimal
  match ← peek with
  | none => unclosed
  | some ',' =>
    match ← advanceFar with
    | none => unclosed
    | some '\x7d' => return (← ofExcept least, none)
    | some _ =>
      let least ← ofExcept least
      let most ← decimal
      return (least, some (← ofExcept most))
  | some _ =>
    let least ← ofExcept least
    return (least, some least)

/-- A repetition with counts. -/
def countedRepetition (parts : List Expr) : Reading (List Expr) := do
  let start ← position
  let (e, parts) ← repeatedPart parts
  let (least, most) ← counts start
  if (← peek) ≠ some '\x7d' then fail .repetitionUnclosed ⟨start, ← position⟩
  if (← advanceFar) = some '?' then skip 1
  if most.any (· < least) then fail .repetitionInvalid ⟨start, ← position⟩
  return .repeated ⟨e.span.start, ← position⟩ e least most :: parts

/-! ## Groups -/

/-- Whether a character may stand in the name of a group. -/
def isNameChar (first : Bool) (c : Char) : Bool :=
  c = '_' || Text.isAlphabetic c ||
    (!first && (c = '.' || c = '[' || c = ']' || Text.isNumeric c))

/-- The name of a group up to its closing bracket. -/
def nameChars : (fuel : Nat) → (first : Bool) → Reading (List Char)
  | 0, _ => failHere .groupNameUnfinished
  | fuel + 1, first => do
    match ← peek with
    | none => failHere .groupNameUnfinished
    | some c =>
      if c = '>' then return []
      if !isNameChar first c then fail .groupNameInvalid (← here)
      skip 1
      return c :: (← nameChars fuel false)

/-- Read the name of a group. No two groups have the same name. -/
def groupName : Reading Unit := do
  let start ← position
  let name ← nameChars ((← remaining) + 1) true
  let span : Span := ⟨start, ← position⟩
  skip 1
  if name.isEmpty then fail .groupNameEmpty (.point start)
  let name := String.ofList name
  match (← get).names.lookup name with
  | some first => throw { flaw := .groupNameDuplicate, span, first := some first }
  | none => modify fun c => { c with names := (name, span) :: c.names }

/-- A flag, or `none` for the sign that negates those behind it. -/
def flagItem (c : Char) : Reading (Option Flag) := do
  if c = '-' then return none
  match Flag.ofLetter? c with
  | some flag => return some flag
  | none => fail .flagUnrecognized (← here)

/-- Flags up to a colon or a closing bracket, behind those that are read. -/
def flagItems : (fuel : Nat) → List (Option Flag × Span) → Reading (List (Option Flag × Span))
  | 0, done => return done
  | fuel + 1, done => do
    match ← peek with
    | none => failHere .flagUnfinished
    | some c =>
      if c = ':' ∨ c = ')' then return done
      let span ← here
      let item ← flagItem c
      match done.lookup item with
      | some first =>
        let flaw := if item.isNone then Flaw.flagRepeatedNegation else Flaw.flagDuplicate
        throw { flaw, span, first := some first }
      | none =>
        if (← advance).isNone then failHere .flagUnfinished
        flagItems fuel (done ++ [(item, span)])

/-- What flags change. -/
def flagChanges : (value : Bool) → List (Option Flag × Span) → FlagChanges
  | _, [] => []
  | _, (none, _) :: rest => flagChanges false rest
  | value, (some flag, _) :: rest => (flag, value) :: flagChanges value rest

/-- Flags, of which the last is not the sign that negates. -/
def flags : Reading FlagChanges := do
  let items ← flagItems ((← remaining) + 1) []
  match items.getLast? with
  | some (none, span) => fail .flagDanglingNegation span
  | _ => return flagChanges true items

/-- The front of a group. -/
inductive GroupHead where
  /-- No group at all, but flags for what follows. -/
  | flags (changes : FlagChanges)
  | group (remembered : Bool) (changes : FlagChanges)

/-- The front of a group, from its bracket on. -/
def groupHead : Reading GroupHead := do
  let opening ← here
  let _ ← advanceFar
  if (← accept "?=") || (← accept "?!") || (← accept "?<=") || (← accept "?<!") then
    fail .lookAround ⟨opening.start, ← position⟩
  let inner ← position
  if (← accept "?P<") || (← accept "?<") then
    groupName
    return .group true []
  else if ← accept "?" then
    if (← peek).isNone then fail .groupUnclosed opening
    let changes ← flags
    let last ← peek
    skip 1
    if last = some ')' then
      if changes.isEmpty then fail .repetitionMissing (.point inner)
      return .flags changes
    else return .group false changes
  else return .group true []

/-! ## Patterns -/

/-- A character, a dot, an assertion or an escape that begins with `c`. -/
def atom (c : Char) : Reading Expr := do
  let span ← here
  match c with
  | '\\' => escape
  | '.' =>
    skip 1
    return .dot span
  | '^' =>
    skip 1
    return .assertion span .lineStart
  | '$' =>
    skip 1
    return .assertion span .lineFinish
  | c =>
    skip 1
    return .literal { span, char := c }

/-- Parts as one (newest first). -/
def sequenceOf (span : Span) : List Expr → Expr
  | [] => .empty span
  | [e] => e
  | parts => .sequence span parts.reverse

/-- Alternatives as one (newest first), of which the first begins at an index. -/
def eitherOf (first : Nat) (alternatives : List Expr) (last : Expr) (stop : Nat) : Expr :=
  if alternatives.isEmpty then last else .either ⟨first, stop⟩ (last :: alternatives).reverse

/-- Whether blanks are ignored behind some changes. -/
def ignoresBlanks (changes : FlagChanges) (before : Bool) : Bool :=
  (changes.lookup .ignoreBlanks).getD before

/-- Read a pattern up to a closing bracket or the end, behind alternatives and parts that are read
(newest first). The first alternative begins at `first`, the current one at `start`. -/
def body : (fuel : Nat) → (first start : Nat) → (alternatives parts : List Expr) → Reading Expr
  | 0, first, start, alternatives, parts =>
    return eitherOf first alternatives (sequenceOf ⟨start, start⟩ parts) start
  | fuel + 1, first, start, alternatives, parts => do
    skipBlanks
    let here ← position
    let finish : Reading Expr :=
      return eitherOf first alternatives (sequenceOf ⟨start, here⟩ parts) here
    let goOn (parts : List Expr) : Reading Expr := body fuel first start alternatives parts
    match ← peek with
    | none => finish
    | some ')' => finish
    | some '|' =>
      skip 1
      body fuel first (here + 1) (sequenceOf ⟨start, here⟩ parts :: alternatives) []
    | some '(' =>
      let blanks := (← get).ignoreBlanks
      match ← groupHead with
      | .flags changes =>
        modify fun c => { c with ignoreBlanks := ignoresBlanks changes blanks }
        goOn (.flags ⟨here, ← position⟩ changes :: parts)
      | .group remembered changes =>
        modify fun c => { c with ignoreBlanks := ignoresBlanks changes blanks }
        let inner ← position
        let e ← body fuel inner inner [] []
        if (← peek).isNone then fail .groupUnclosed ⟨here, here + 1⟩
        skip 1
        modify fun c => { c with ignoreBlanks := blanks }
        goOn (.group ⟨here, ← position⟩ remembered changes e :: parts)
    | some '[' => goOn (.charClass (← bracketed (2 * (← remaining))) :: parts)
    | some '?' => goOn (← markedRepetition 0 (some 1) parts)
    | some '*' => goOn (← markedRepetition 0 none parts)
    | some '+' => goOn (← markedRepetition 1 none parts)
    | some '\x7b' => goOn (← countedRepetition parts)
    | some c => goOn ((← atom c) :: parts)

/-- A whole pattern. -/
def pattern : Reading Expr := do
  let e ← body ((← remaining) + 1) 0 0 [] []
  if (← peek).isSome then fail .groupUnopened (← here)
  match e.tooDeep? 0 with
  | some span => fail (.nestedTooDeep maxDepth) span
  | none => return e

end Reading

/-- The written pattern of a text. -/
def Expr.parse (text : String) : Except PatternError Expr :=
  match Reading.pattern.run { rest := text.toList } with
  | .ok e _ => .ok e
  | .error e _ => .error e

end WordMachine
