import WordMachine.Command.Run

/-!
# The command in its surroundings

The command line over the real streams and files. Everything that is decided here is decided by
the modules below it; this one reads, writes and asks.
-/

namespace WordMachine.Host

/-- The host's reason for a refusal. -/
def reason : IO.Error → String
  | .noFileOrDirectory _ _ _ => FileError.notFound.message
  | .inappropriateType _ 20 _ => FileError.notDirectory.message
  | .inappropriateType _ _ _ => FileError.isDirectory.message
  | .invalidArgument _ 36 _ => FileError.nameTooLong.message
  | e => toString e

/-- The reply to an action that may be refused. -/
def attempt {α : Type} (action : IO α) : IO (Except String α) := do
  try
    return .ok (← action)
  catch e =>
    return .error (reason e)

/-- The bytes up to a newline, a limit or the end of a stream. -/
partial def readLine (stream : IO.FS.Stream) (limit : Nat) (done : ByteArray) :
    IO ByteArray := do
  if limit = 0 then
    return done
  let chunk ← stream.read 1
  if chunk.isEmpty then
    return done
  if chunk.toList.contains newline then
    return done ++ chunk
  readLine stream (limit - 1) (done ++ chunk)

/-- The files of a program by descriptor. -/
abbrev Files := IO.Ref (List (Nat × IO.FS.Handle))

/-- The stream of a descriptor. -/
def stream (files : Files) (descriptor : Nat) : IO IO.FS.Stream := do
  match descriptor with
  | 0 => IO.getStdin
  | 1 => IO.getStdout
  | 2 => IO.getStderr
  | _ =>
    match (← files.get).lookup descriptor with
    | some handle => return IO.FS.Stream.ofHandle handle
    | none => throw (IO.userError World.unknownDescriptor)

/-- Open a file for reading and writing, creating it if it is missing. -/
def openFile (path : String) : IO IO.FS.Handle := do
  if path.toList.contains '\x00' then
    throw (IO.userError FileError.zeroInName.message)
  try
    IO.FS.Handle.mk path .readWrite
  catch
    | .noFileOrDirectory _ _ _ => do
      let created ← IO.FS.Handle.mk path .writeNew
      created.flush
      IO.FS.Handle.mk path .readWrite
    | e => throw e

/-- The answer to a request. -/
def answer (files : Files) : Request → IO Reply
  | .readLine descriptor _ limit => attempt do
    return (← readLine (← stream files descriptor) limit .empty).toList
  | .write descriptor bytes => attempt do
    let out ← stream files descriptor
    out.write ⟨bytes.toArray⟩
    out.flush
    return []
  | .openFile descriptor path => attempt do
    let handle ← openFile path
    files.modify ((descriptor, handle) :: ·)
    return []
  | .closeFile descriptor => do
    files.modify fun table => table.filter fun f => f.1 ≠ descriptor
    return .ok []

/-- Show what a session has reported, and forget it. -/
def flush (filter : Filter) (s : Session) : IO Session := do
  if s.machine.journal.isEmpty then
    return s
  IO.eprint (filter.render s.journal)
  return { s with machine := { s.machine with journal := [] } }

/-- Turns until a run ends. -/
partial def turns (filter : Filter) (files : Files) (code : Array Word) (s : Session) :
    IO Ending := do
  let rec settle : Stage → IO Ending
    | .running s => do turns filter files code (← flush filter s)
    | .ended ending s => do
      discard (flush filter s)
      return ending
    | .waiting request s => do
      let s ← flush filter s
      settle (s.resume request (← answer files request))
  settle (s.begin code)

/-- End with a failure. -/
def fail (colour : Bool) (f : Failure) : IO UInt32 := do
  IO.eprint (f.line colour)
  return UInt32.ofNat f.status

/-- The variables the command looks at. -/
def variableNames : List String :=
  [Settings.entryLabelKey, Settings.maxStackBytesKey, Settings.maxCallDepthKey,
    Settings.heapBaseKey, Settings.maxHeapBytesKey, Settings.logFilterKey, filterVariable,
    colourVariable]

/-- Their values. -/
def environment : IO (String → Option String) := do
  let values ← variableNames.mapM fun name => return (name, ← IO.getEnv name)
  return fun name => (values.lookup name).join

/-- A well-formed command line. -/
def invoke (i : Invocation) : IO UInt32 := do
  let env ← environment
  let settings := Settings.ofVariables env
  let colour := wantsColour env
  let (filter, complaints) := Filter.parse (i.filterText settings env)
  complaints.forM IO.eprintln
  let path := i.task.object
  let contents ← attempt (return (← IO.FS.readBinFile path).toList)
  let (result, notices) := ObjectFile.ofContents path contents
  IO.eprint (filter.render (notices.map .notice))
  match result, i.task with
  | .error e, _ => fail colour (.load e)
  | .ok o, .describe _ json =>
    IO.print (description o json)
    return 0
  | .ok o, .run _ entry watching =>
    let (prepared, notices) :=
      Launch.prepare path o (entry.getD settings.entryLabel) watching settings.limits
    IO.eprint (filter.render (notices.map .notice))
    match prepared with
    | .error e => fail colour (.lookup e)
    | .ok l =>
      let s : Session := { machine := l.machine, observer := l.observer }
      match ← turns filter (← IO.mkRef []) l.code (s.start l.code l.entry) with
      | .ok t => return UInt32.ofNat t.exitCode
      | .error f => fail colour (.run f)

end WordMachine.Host

open WordMachine in
/-- The command. -/
def main (arguments : List String) : IO UInt32 := do
  match Arguments.parse arguments with
  | .ok i => Host.invoke i
  | .error .help =>
    IO.print helpText
    return 0
  | .error .version =>
    IO.println versionText
    return 0
  | .error (.usage e) =>
    IO.eprintln ("error: " ++ e.message)
    return 2
