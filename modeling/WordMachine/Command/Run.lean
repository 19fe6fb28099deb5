import WordMachine.Command.Basic

/-!
# Running the command

The command in a given world. Notices and event lines go to the error stream in the order in which
they arise, between what the program itself writes there.

* `Command.run` : the exit status and the world after a command line.
-/

namespace WordMachine

namespace World

/-- Write a text to the output stream. -/
def print (w : World) (text : String) : World :=
  { w with out := (w.out.writeAll (Text.Utf8.encode text)).2 }

/-- Write a text to the error stream. -/
def printError (w : World) (text : String) : World :=
  { w with err := (w.err.writeAll (Text.Utf8.encode text)).2 }

end World

namespace Command

/-- What a command leaves behind. -/
structure Outcome where
  status : Nat
  world : World

/-- What is shown on the error stream, and how. -/
structure Display where
  filter : Filter
  colour : Bool

namespace Display

/-- Show notices. -/
def notices (d : Display) (ns : List Notice) (w : World) : World :=
  w.printError (d.filter.render (ns.map .notice))

/-- Show what a session has reported, and forget it. -/
def flush (d : Display) (s : Session) : Session :=
  { s with
    machine := { s.machine with journal := [] }
    world := s.world.printError (d.filter.render s.journal) }

/-- End with a failure. -/
def fail (d : Display) (f : Failure) (w : World) : Outcome :=
  { status := f.status, world := w.printError (f.line d.colour) }

/-- Turns until a run ends, or `none` if it does not end within the bound. What was reported is
shown before the world answers a request, because the answer may be a line on the same stream. -/
def turns (d : Display) (code : Array Word) : (bound : Nat) → Session → Option (Ending × World)
  | 0, _ => none
  | bound + 1, s =>
    match s.begin code with
    | .running s => turns d code bound s
    | .ended ending s => some (ending, (d.flush s).world)
    | .waiting request s =>
      let s := d.flush s
      let (reply, world) := s.world.answer request
      match { s with world }.resume request reply with
      | .running s => turns d code bound s
      | .ended ending s => some (ending, (d.flush s).world)
      | .waiting _ _ => none

/-- A run to its end. -/
def launch (d : Display) (l : Launch) (bound : Nat) (w : World) : Option Outcome :=
  let s : Session := { machine := l.machine, observer := l.observer, world := w }
  match d.turns l.code bound (s.start l.code l.entry) with
  | none => none
  | some (.ok t, w) => some { status := t.exitCode, world := w }
  | some (.error f, w) => some (d.fail (.run f) w)

/-- A task on a loaded object file. -/
def perform (d : Display) (settings : Settings) (o : ObjectFile) (bound : Nat) (w : World) :
    Task → Option Outcome
  | .describe _ json => some { status := 0, world := w.print (description o json) }
  | .run path entry watching =>
    let label := entry.getD settings.entryLabel
    match Launch.prepare path o label watching settings.limits with
    | (.error e, ns) => some (d.fail (.lookup e) (d.notices ns w))
    | (.ok l, ns) => d.launch l bound (d.notices ns w)

end Display

/-- A well-formed command line in a world. -/
def invoke (i : Invocation) (env : String → Option String) (bound : Nat) (w : World) :
    Option Outcome :=
  let settings := Settings.ofVariables env
  let (filter, complaints) := Filter.parse (i.filterText settings env)
  let d : Display := { filter, colour := wantsColour env }
  let w := w.printError (String.join (complaints.map (· ++ "\n")))
  let (result, ns) := ObjectFile.load w.disk i.task.object
  let w := d.notices ns w
  match result with
  | .error e => some (d.fail (.load e) w)
  | .ok o => d.perform settings o bound w i.task

/-- The end of a command line that asks for no task. -/
def stop (w : World) : Stop → Outcome
  | .help => { status := 0, world := w.print helpText }
  | .version => { status := 0, world := w.print (versionText ++ "\n") }
  | .usage e => { status := 2, world := w.printError ("error: " ++ e.message ++ "\n") }

/-- A command line in a world: `none` if its program takes more than `bound` turns. -/
def run (arguments : List String) (env : String → Option String) (bound : Nat)
    (w : World) : Option Outcome :=
  match Arguments.parse arguments with
  | .error s => some (stop w s)
  | .ok i => invoke i env bound w

end Command

end WordMachine
