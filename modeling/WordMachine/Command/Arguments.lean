/-!
# Arguments of the command

A command line names one of two commands, `run` and `readobj`, with options before and behind it.
Long options begin with two dashes and carry a value behind an equals sign or as the next argument;
short options begin with one dash and can be written together, the last of them with its value. A
lone `--` ends the options. Arguments are read from left to right, and the first that asks for help
or for the version, or that has no meaning, ends the reading.

* `Arguments.parse` : what a command line asks for.
-/

namespace WordMachine

/-- What a run shows of every step. -/
inductive Watching where
  | nothing
  /-- Source lines, or instructions where there are none. -/
  | trace
  /-- Events as JSON. -/
  | events
  deriving DecidableEq, Repr

/-- What is to be done. -/
inductive Task where
  /-- Execute an object file from a label. -/
  | run (object : String) (entry : Option String) (watching : Watching)
  /-- Describe an object file, in words or as JSON. -/
  | describe (object : String) (json : Bool)
  deriving DecidableEq, Repr

/-- A well-formed command line. -/
structure Invocation where
  task : Task
  /-- Whether more is logged than usual. -/
  verbose : Bool
  deriving DecidableEq, Repr

/-- The options. -/
inductive OptionName where
  | verbose | help | version | entry | trace | events | json
  deriving DecidableEq, Repr

/-- The long form of an option. -/
def OptionName.long : OptionName → String
  | verbose => "verbose"
  | help => "help"
  | version => "version"
  | entry => "entry"
  | trace => "trace"
  | events => "events"
  | json => "json"

/-- The short form of an option, if it has one. -/
def OptionName.short? : OptionName → Option Char
  | verbose => some 'v'
  | help => some 'h'
  | version => some 'V'
  | entry => some 'e'
  | trace | events | json => none

/-- Where an argument stands: before the command, or behind one. -/
inductive Scope where
  | top | run | readobj
  deriving DecidableEq, Repr

/-- The options that have a meaning in a scope. -/
def Scope.options : Scope → List OptionName
  | top => [.verbose, .help, .version]
  | run => [.verbose, .help, .entry, .trace, .events]
  | readobj => [.verbose, .help, .json]

/-- Why a command line has no meaning. -/
inductive UsageError where
  | noCommand
  | unknownCommand (name : String)
  | unknownOption (text : String)
  | unexpectedArgument (text : String)
  | unexpectedValue (option : OptionName)
  | missingValue (option : OptionName)
  | repeated (option : OptionName)
  | conflict (first second : OptionName)
  | missingObject
  deriving DecidableEq, Repr

/-- The text of a usage error. -/
def UsageError.message : UsageError → String
  | noCommand => "a command is required"
  | unknownCommand name => "unrecognized command '" ++ name ++ "'"
  | unknownOption text => "unknown option '" ++ text ++ "'"
  | unexpectedArgument text => "unexpected argument '" ++ text ++ "'"
  | unexpectedValue o => "option '--" ++ o.long ++ "' takes no value"
  | missingValue o => "option '--" ++ o.long ++ "' needs a value"
  | repeated o => "option '--" ++ o.long ++ "' is given more than once"
  | conflict a b => "options '--" ++ a.long ++ "' and '--" ++ b.long ++ "' exclude each other"
  | missingObject => "an object file is required"

/-- What ends the reading of arguments before their end. -/
inductive Stop where
  | help
  | version
  | usage (error : UsageError)
  deriving DecidableEq, Repr

namespace Arguments

/-- What was read so far behind a command, or before it. -/
structure Draft where
  object : Option String := none
  entry : Option String := none
  /-- The options seen, each of them once. -/
  seen : List OptionName := []
  deriving DecidableEq, Repr

/-- Whether an option was seen. -/
def Draft.has (d : Draft) (o : OptionName) : Bool := d.seen.contains o

/-- The kinds of arguments. -/
inductive Form where
  /-- The end of the options. -/
  | escape
  | long (name : String) (value : Option String)
  | short (letters : List Char)
  | plain
  deriving DecidableEq, Repr

/-- The value behind the first equals sign, if there is one. -/
def attached? (text : List Char) : Option String :=
  match text.dropWhile (· ≠ '=') with
  | [] => none
  | _ :: value => some (String.ofList value)

/-- The kind of an argument. -/
def Form.of (argument : String) : Form :=
  match argument.toList with
  | ['-', '-'] => .escape
  | '-' :: '-' :: text => .long (String.ofList (text.takeWhile (· ≠ '='))) (attached? text)
  | '-' :: c :: letters => .short (c :: letters)
  | _ => .plain

/-- Note an option without a value. -/
def flag (o : OptionName) (d : Draft) : Except Stop Draft :=
  match o with
  | .help => .error .help
  | .version => .error .version
  | _ =>
    if d.has o then .error (.usage (.repeated o)) else .ok { d with seen := o :: d.seen }

/-- Note the value of an option; the entry label is the only one. -/
def assign (o : OptionName) (value : String) (d : Draft) : Except Stop Draft :=
  if d.has o then .error (.usage (.repeated o))
  else .ok { d with seen := o :: d.seen, entry := some value }

/-- Whether an option has a value. -/
def takesValue (o : OptionName) : Bool := o = .entry

/-- Note the object file, which is named once. -/
def place (argument : String) (d : Draft) : Except Stop Draft :=
  match d.object with
  | none => .ok { d with object := some argument }
  | some _ => .error (.usage (.unexpectedArgument argument))

/-- A long option; also the option that waits for its value. -/
def long (scope : Scope) (name : String) (value : Option String) (d : Draft) :
    Except Stop (Draft × Option OptionName) :=
  match scope.options.find? fun o => o.long == name with
  | none => .error (.usage (.unknownOption ("--" ++ name)))
  | some o =>
    match takesValue o, value with
    | true, some v => (assign o v d).map fun d => (d, none)
    | true, none => .ok (d, some o)
    | false, some _ => .error (.usage (.unexpectedValue o))
    | false, none => (flag o d).map fun d => (d, none)

/-- Short options written together; also the option that waits for its value. -/
def cluster (scope : Scope) : List Char → Draft → Except Stop (Draft × Option OptionName)
  | [], d => .ok (d, none)
  | c :: rest, d =>
    match scope.options.find? fun o => o.short? == some c with
    | none => .error (.usage (.unknownOption (String.ofList ['-', c])))
    | some o =>
      if takesValue o then
        match rest with
        | [] => .ok (d, some o)
        | '=' :: value => (assign o (String.ofList value) d).map fun d => (d, none)
        | value => (assign o (String.ofList value) d).map fun d => (d, none)
      else
        match flag o d with
        | .ok d => cluster scope rest d
        | .error stop => .error stop

/-- The arguments behind `--`: nothing in them is an option. -/
def readPlain : List String → Draft → Except Stop Draft
  | [], d => .ok d
  | argument :: rest, d =>
    match place argument d with
    | .ok d => readPlain rest d
    | .error stop => .error stop

/-- The arguments behind a command. `waiting` is an option whose value comes next. -/
def read (scope : Scope) : (waiting : Option OptionName) → List String → Draft →
    Except Stop Draft
  | none, [], d => .ok d
  | some o, [], _ => .error (.usage (.missingValue o))
  | some o, argument :: rest, d =>
    match Form.of argument with
    | .plain =>
      match assign o argument d with
      | .ok d => read scope none rest d
      | .error stop => .error stop
    | _ => .error (.usage (.missingValue o))
  | none, argument :: rest, d =>
    match Form.of argument with
    | .escape => readPlain rest d
    | .plain =>
      match place argument d with
      | .ok d => read scope none rest d
      | .error stop => .error stop
    | .long name value =>
      match long scope name value d with
      | .ok (d, waiting) => read scope waiting rest d
      | .error stop => .error stop
    | .short letters =>
      match cluster scope letters d with
      | .ok (d, waiting) => read scope waiting rest d
      | .error stop => .error stop

/-- What is asked for behind `help`: nothing, or one command. -/
def help : List String → Stop
  | [] => .help
  | name :: rest =>
    if name = "run" ∨ name = "readobj" ∨ name = "help" then
      match rest with
      | [] => .help
      | extra :: _ => .usage (.unknownCommand extra)
    else .usage (.unknownCommand name)

/-- The task of a finished `run`. -/
def runTask (d : Draft) : Except Stop Task :=
  if d.has .trace && d.has .events then .error (.usage (.conflict .trace .events))
  else match d.object with
    | none => .error (.usage .missingObject)
    | some object => .ok (.run object d.entry
        (if d.has .trace then .trace else if d.has .events then .events else .nothing))

/-- The task of a finished `readobj`. -/
def describeTask (d : Draft) : Except Stop Task :=
  match d.object with
  | none => .error (.usage .missingObject)
  | some object => .ok (.describe object (d.has .json))

/-- The arguments behind a command, with the options before it. -/
def command (scope : Scope) (rest : List String) (before : Draft) : Except Stop Invocation := do
  let d ← read scope none rest {}
  let task ← if scope = .run then runTask d else describeTask d
  return { task, verbose := before.has .verbose || d.has .verbose }

/-- The arguments from the start. -/
def readTop : List String → Draft → Except Stop Invocation
  | [], _ => .error (.usage .noCommand)
  | argument :: rest, d =>
    if argument = "run" then command .run rest d
    else if argument = "readobj" then command .readobj rest d
    else if argument = "help" then .error (help rest)
    else match Form.of argument with
      | .escape => .error (.usage .noCommand)
      | .plain => .error (.usage (.unknownCommand argument))
      | .long name value =>
        match long .top name value d with
        | .ok (d, _) => readTop rest d
        | .error stop => .error stop
      | .short letters =>
        match cluster .top letters d with
        | .ok (d, _) => readTop rest d
        | .error stop => .error stop

/-- What a command line asks for. -/
def parse (arguments : List String) : Except Stop Invocation := readTop arguments {}

end Arguments

end WordMachine
