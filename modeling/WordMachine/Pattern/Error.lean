/-!
# What is wrong with a pattern

A flaw is reported with the part of the pattern that has it: the pattern is shown line by line, with
marks below the part. A pattern of several lines is shown between two rules with its lines numbered.

* `Flaw.message` : the text of a flaw.
* `PatternError.report` : the flaw and where it is.
-/

namespace WordMachine

/-- A part of a text, by the index of its first character and the one behind its last. -/
structure Span where
  start : Nat
  stop : Nat
  deriving DecidableEq, Repr, Inhabited

/-- The empty part at an index. -/
def Span.point (index : Nat) : Span := ⟨index, index⟩

/-- What can be wrong with a pattern. -/
inductive Flaw where
  | classEscapeInvalid
  | classRangeInvalid
  | classRangeNotLiteral
  | classUnclosed
  | decimalInvalid
  | escapeHexEmpty
  | escapeHexInvalid
  | escapeHexInvalidDigit
  | escapeUnfinished
  | escapeUnrecognized
  | flagDanglingNegation
  | flagDuplicate
  | flagRepeatedNegation
  | flagUnfinished
  | flagUnrecognized
  | groupNameDuplicate
  | groupNameEmpty
  | groupNameInvalid
  | groupNameUnfinished
  | groupUnclosed
  | groupUnopened
  | nestedTooDeep (limit : Nat)
  | repetitionInvalid
  | repetitionCountEmpty
  | repetitionUnclosed
  | repetitionMissing
  | wordEdgeUnclosed
  | wordEdgeUnrecognized
  | wordEdgeUnfinished
  | propertyInvalid
  | backreference
  | lookAround
  | scriptsNotAllowed
  | matchesNoText
  | propertyNotFound
  | propertyValueNotFound
  | classOfScriptsNotFound
  | caseOfScriptsNotFound
  deriving DecidableEq, Repr

/-- The text of a flaw. -/
def Flaw.message : Flaw → String
  | classEscapeInvalid => "invalid escape sequence found in character class"
  | classRangeInvalid => "invalid character class range, the start must be <= the end"
  | classRangeNotLiteral => "invalid range boundary, must be a literal"
  | classUnclosed => "unclosed character class"
  | decimalInvalid => "decimal literal invalid"
  | escapeHexEmpty => "hexadecimal literal empty"
  | escapeHexInvalid => "hexadecimal literal is not a Unicode scalar value"
  | escapeHexInvalidDigit => "invalid hexadecimal digit"
  | escapeUnfinished => "incomplete escape sequence, reached end of pattern prematurely"
  | escapeUnrecognized => "unrecognized escape sequence"
  | flagDanglingNegation => "dangling flag negation operator"
  | flagDuplicate => "duplicate flag"
  | flagRepeatedNegation => "flag negation operator repeated"
  | flagUnfinished => "expected flag but got end of regex"
  | flagUnrecognized => "unrecognized flag"
  | groupNameDuplicate => "duplicate capture group name"
  | groupNameEmpty => "empty capture group name"
  | groupNameInvalid => "invalid capture group character"
  | groupNameUnfinished => "unclosed capture group name"
  | groupUnclosed => "unclosed group"
  | groupUnopened => "unopened group"
  | nestedTooDeep limit =>
    "exceed the maximum number of nested parentheses/brackets (" ++ toString limit ++ ")"
  | repetitionInvalid => "invalid repetition count range, the start must be <= the end"
  | repetitionCountEmpty => "repetition quantifier expects a valid decimal"
  | repetitionUnclosed => "unclosed counted repetition"
  | repetitionMissing => "repetition operator missing expression"
  | wordEdgeUnclosed =>
    "special word boundary assertion is either unclosed or contains an invalid character"
  | wordEdgeUnrecognized =>
    "unrecognized special word boundary assertion, " ++
      "valid choices are: start, end, start-half or end-half"
  | wordEdgeUnfinished =>
    "found either the beginning of a special word boundary or a bounded repetition " ++
      "on a \\b with an opening brace, but no closing brace"
  | propertyInvalid => "invalid Unicode character class"
  | backreference => "backreferences are not supported"
  | lookAround => "look-around, including look-ahead and look-behind, is not supported"
  | scriptsNotAllowed => "Unicode not allowed here"
  | matchesNoText => "pattern can match invalid UTF-8"
  | propertyNotFound => "Unicode property not found"
  | propertyValueNotFound => "Unicode property value not found"
  | classOfScriptsNotFound =>
    "Unicode-aware Perl class not found (make sure the unicode-perl feature is enabled)"
  | caseOfScriptsNotFound =>
    "Unicode-aware case insensitivity matching is not available " ++
      "(make sure the unicode-case feature is enabled)"

/-- A flaw and where it is. -/
structure PatternError where
  flaw : Flaw
  span : Span
  /-- What the part with the flaw repeats. -/
  first : Option Span := none
  deriving DecidableEq, Repr

namespace PatternError

/-- The line and the column of an index, both counted from one. -/
def lineAndColumn (text : List Char) (index : Nat) : Nat × Nat :=
  let before := text.take index
  (before.count '\n' + 1, (before.reverse.takeWhile (· ≠ '\n')).length + 1)

/-- The lines of a text behind a line that has begun (newest character first). A newline ends a
line, with a carriage return before it; a text need not end in one. -/
def linesFrom : (begun : List Char) → List Char → List (List Char)
  | [], [] => []
  | begun, [] => [begun.reverse]
  | '\r' :: begun, '\n' :: cs => begun.reverse :: linesFrom [] cs
  | begun, '\n' :: cs => begun.reverse :: linesFrom [] cs
  | begun, c :: cs => linesFrom (c :: begun) cs

/-- Marks below parts of a line, given by their columns, in order. -/
def marks : (column : Nat) → List (Nat × Nat) → List Char
  | _, [] => []
  | column, (start, stop) :: rest =>
    let blanks := start - column
    let width := max 1 (stop - start)
    List.replicate blanks ' ' ++ List.replicate width '^' ++ marks (column + blanks + width) rest

/-- The parts to mark, in order. -/
def spans (e : PatternError) : List Span :=
  match e.first with
  | none => [e.span]
  | some first =>
    if first.start < e.span.start ∨ (first.start = e.span.start ∧ first.stop < e.span.stop)
    then [first, e.span] else [e.span, first]

/-- What stands before a line with a number. -/
def margin (width number : Nat) : String :=
  if width = 0 then "    "
  else
    let digits := toString number
    String.ofList (List.replicate (width - digits.length) ' ') ++ digits ++ ": "

/-- A line with the marks below it. -/
def shownLine (text : List Char) (spans : List Span) (width number : Nat) (line : List Char) :
    String :=
  let columns := spans.filterMap fun s =>
    let (first, start) := lineAndColumn text s.start
    let (last, stop) := lineAndColumn text s.stop
    if first = number ∧ last = number then some (start, stop) else none
  let below :=
    if columns.isEmpty then ""
    else
      String.ofList (List.replicate (margin width number).length ' ' ++ marks 1 columns) ++ "\n"
  margin width number ++ String.ofList line ++ "\n" ++ below

/-- A line about each part that goes over several lines. -/
def longParts (text : List Char) (spans : List Span) : List String :=
  spans.filterMap fun s =>
    let (first, start) := lineAndColumn text s.start
    let (last, stop) := lineAndColumn text s.stop
    if first = last then none
    else some ("on line " ++ toString first ++ " (column " ++ toString start ++
      ") through line " ++ toString last ++ " (column " ++ toString (stop - 1) ++ ")\n")

/-- The rule above and below a pattern of several lines. -/
def rule : String := String.ofList (List.replicate 79 '~') ++ "\n"

/-- The report of a flaw of a pattern. -/
def report (e : PatternError) (pattern : String) : String :=
  let text := pattern.toList
  let lines := linesFrom [] text
  let count := if text.getLast? = some '\n' then lines.length + 1 else lines.length
  let width := if count ≤ 1 then 0 else (toString count).length
  let shown := String.join (lines.zipIdx.map fun (line, i) =>
    shownLine text e.spans width (i + 1) line)
  let body :=
    if text.contains '\n' then rule ++ shown ++ rule ++ String.join (longParts text e.spans)
    else shown
  "regex parse error:\n" ++ body ++ "error: " ++ e.flaw.message

end PatternError

end WordMachine
