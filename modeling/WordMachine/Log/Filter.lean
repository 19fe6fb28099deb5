import WordMachine.Log.Notice
import WordMachine.Pattern.Parse
import WordMachine.Text.Blank

/-!
# Log filters

A filter is a comma separated list of directives, and after a slash a pattern that has to match in a
message. A directive is a level, which holds for every part of the program, or the name of a part,
alone or with a level behind an equals sign. Of the directives whose name begins the name of a part,
the longest decides. A filter without directives lets errors through.

* `Filter.parse` : the filter of a text, and complaints about what was not understood.
* `Filter.passes` : whether a notice is shown.
-/

namespace WordMachine

/-- What is shown of a part of the program. -/
structure Directive where
  /-- The part, or `none` for all of them. -/
  target : Option String
  /-- The least severe level that is shown; `none` shows nothing. -/
  level : Option Level
  deriving DecidableEq, Repr

namespace Directive

/-- The length of a target in bytes. -/
def weight (d : Directive) : Nat := (d.target.getD "").utf8ByteSize

/-- Whether a directive is about a part. -/
def covers (d : Directive) (origin : String) : Bool :=
  match d.target with
  | none => true
  | some target => target.toList.isPrefixOf origin.toList

/-- Whether a level is shown. -/
def shows (d : Directive) (level : Level) : Bool :=
  match d.level with
  | none => false
  | some least => level.rank ≤ least.rank

end Directive

/-- Which notices are shown. -/
structure Filter where
  directives : List Directive := []
  /-- The pattern that has to match in a message. -/
  pattern : Option Pattern := none
  deriving DecidableEq, Repr, Inhabited

namespace Filter

/-- The level with a name, in either case; `off` is no level at all. -/
def level? (name : String) : Option (Option Level) :=
  let upper := String.ofList (name.toList.map Char.toUpper)
  if upper = "OFF" then some none
  else ([Level.error, .warn, .info, .debug, .trace].find? fun l => l.name == upper).map some

/-- Add a directive. It takes the place of one with its target. -/
def insert (d : Directive) : List Directive → List Directive
  | [] => [d]
  | x :: xs => if x.target = d.target then d :: xs else x :: insert d xs

/-- The complaint about a part of a filter. -/
def complaint (part : String) : String :=
  "warning: invalid logging spec '" ++ part ++ "', ignoring it"

/-- A text without blanks around it. -/
def trimmed (text : String) : String := String.ofList (Text.trim text.toList)

/-- The directive of a text, or a complaint. -/
def directive (text : String) : Except String Directive :=
  match text.splitToList (· == '=') with
  | [name] =>
    match level? name with
    | some level => .ok ⟨none, level⟩
    | none => .ok ⟨some name, some .trace⟩
  | [name, value] =>
    let value := trimmed value
    if value.isEmpty then .ok ⟨some name, some .trace⟩
    else match level? value with
      | some level => .ok ⟨some name, level⟩
      | none => .error (complaint value)
  | _ => .error (complaint text)

/-- Read directives one after the other. -/
def readDirectives : List String → Filter → List String → Filter × List String
  | [], f, complaints => (f, complaints.reverse)
  | text :: rest, f, complaints =>
    match directive text with
    | .ok d => readDirectives rest { f with directives := insert d f.directives } complaints
    | .error e => readDirectives rest f (e :: complaints)

/-- The filter of a text, and complaints about what was not understood. -/
def parse (spec : String) : Filter × List String :=
  let texts (list : String) : List String :=
    ((list.splitToList (· == ',')).map trimmed).filter fun text => !text.isEmpty
  match spec.splitToList (· == '/') with
  | [list] => readDirectives (texts list) {} []
  | [list, pattern] =>
    match Pattern.parse pattern with
    | .ok p => readDirectives (texts list) { pattern := some p } []
    | .error refusal =>
      let (f, complaints) := readDirectives (texts list) {} []
      (f, complaints ++ ["warning: invalid regex filter - " ++ refusal.message pattern])
  | _ => ({}, [complaint spec ++ " (too many '/'s)"])

/-- The directive that decides about a part: the longest, and of equal ones the last. -/
def deciding? (directives : List Directive) (origin : String) : Option Directive :=
  directives.foldl (fun best d =>
    if d.covers origin && (best.all fun b : Directive => b.weight ≤ d.weight) then some d
    else best) none

/-- Whether a notice is shown. -/
def passes (f : Filter) (n : Notice) : Bool :=
  let directives := if f.directives.isEmpty then [⟨none, some .error⟩] else f.directives
  (match deciding? directives n.origin with
    | some d => d.shows n.level
    | none => false) &&
  f.pattern.all fun pattern => pattern.occursIn n.message

end Filter

end WordMachine
