import WordMachine.Command.Arguments
import WordMachine.Log.Console
import WordMachine.ObjectFile.Listing
import WordMachine.ObjectFile.Load
import WordMachine.ObjectFile.Summary
import WordMachine.Session
import WordMachine.Settings.Basic

/-!
# The work of the command

* `Invocation.filterText` : which notices are shown.
* `Launch.prepare` : everything a run needs, from an object file.
* `Failure` : why a command ends without doing its work, with its text and its status.
-/

namespace WordMachine

/-- The name of the command and its version. -/
def versionText : String := "nyulan 0.3.0"

/-- The text that help shows. -/
def helpText : String :=
  "Register-based bytecode virtual machine\n\n" ++
  "Usage: nyulan [OPTIONS] <COMMAND>\n\n" ++
  "Commands:\n" ++
  "  run OBJECT [-e LABEL] [--trace | --events]  Execute an object file\n" ++
  "  readobj OBJECT [--json]                     Describe the contents of an object file\n" ++
  "  help [COMMAND]                              Print this message\n\n" ++
  "Options:\n" ++
  "  -v, --verbose  Log loader and VM activity at debug level\n" ++
  "  -h, --help     Print help\n" ++
  "  -V, --version  Print version\n"

/-- The variable whose filter wins over every other. -/
def filterVariable : String := "RUST_LOG"

/-- The variable that asks for colour. -/
def colourVariable : String := "CLICOLOR_FORCE"

/-- Whether the heading of a failure is coloured. -/
def wantsColour (env : String → Option String) : Bool :=
  (env colourVariable).any fun value => value ≠ "0"

/-- The object file of a task. -/
def Task.object : Task → String
  | run object _ _ => object
  | describe object _ => object

/-- The text of the filter: that of the variables, or the one the options ask for, or that of the
settings. -/
def Invocation.filterText (i : Invocation) (settings : Settings)
    (env : String → Option String) : String :=
  let asked :=
    match i.task with
    | .run _ _ .trace => "trace"
    | _ => if i.verbose then "debug" else settings.logFilter
  (env filterVariable).getD asked

/-- Why a command ended without doing its work. -/
inductive Failure where
  | load (error : FormatError)
  | lookup (error : LookupError)
  | run (fault : Fault)
  deriving DecidableEq, Repr

namespace Failure

/-- What stands before the text of a failure. -/
def heading : Failure → String
  | load _ | lookup _ => "failed to load:"
  | run _ => "failed to run:"

/-- The text of a failure. -/
def message : Failure → String
  | load e => e.message
  | lookup e => e.message
  | run f => f.message

/-- The exit status of a failure. -/
def status : Failure → Nat
  | load _ | lookup _ => 1
  | run _ => 2

/-- The line of a failure; a coloured heading is bold and red. -/
def line (colour : Bool) (f : Failure) : String :=
  let heading := if colour then "\x1b[1;31m" ++ f.heading ++ "\x1b[0m" else f.heading
  heading ++ " " ++ f.message ++ "\n"

end Failure

/-- Everything a run needs. -/
structure Launch where
  machine : Machine
  observer : Observer
  code : Array Word
  entry : Address

namespace Launch

/-- The notice about an object file for a newer machine. -/
def versionNotices (path : String) (o : ObjectFile) : List Notice :=
  if currentInstructionSet < o.instructionSet then
    [.newerInstructionSet path o.instructionSet.toNat currentInstructionSet.toNat]
  else []

/-- The observer of a run, and what there is to report about it. -/
def observerFor (o : ObjectFile) : Watching → Observer × List Notice
  | .nothing => (.silent, [])
  | .events => (.console .json, [])
  | .trace =>
    match DebugInfo.load o with
    | .ok info => (.sourceLines info, [])
    | .error e => (.disassembly, [.noDebugInfo e.message])

/-- A run of an object file from a label, and what there is to report about it. -/
def prepare (path : String) (o : ObjectFile) (label : String) (watching : Watching)
    (limits : Limits) : Except LookupError Launch × List Notice :=
  match o.findLabel (Text.Utf8.encode label) with
  | .error e => (.error e, versionNotices path o)
  | .ok found =>
    let (observer, notices) := observerFor o watching
    (.ok {
        machine := (Machine.ofLiteral o.literal).withLimits limits
        observer
        code := o.code.toArray
        entry := found.address },
      versionNotices path o ++ [.entryPoint label found.address] ++ notices)

end Launch

/-- The text that describes an object file. -/
def description (o : ObjectFile) (json : Bool) : String :=
  if json then o.summary ++ "\n" else o.listing

/-- The status the surroundings see: the low eight bits of the status of a program. -/
def Termination.exitCode (t : Termination) : Nat := (t.status % 256).toNat

end WordMachine
