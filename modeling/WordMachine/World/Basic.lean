import WordMachine.Machine.HostCall
import WordMachine.World.Disk
import WordMachine.World.Input
import WordMachine.World.Sink

/-!
# The world of a program

Everything a program can reach through the host: its input, its two output streams, the disk, and
the files it has open. The world answers the requests of host functions.

* `World.answer` : the answer to a request, and the world afterwards.
-/

namespace WordMachine

/-- An open file: which one, and where the next byte is read or written. -/
structure Handle where
  path : Path
  position : Nat := 0
  deriving DecidableEq, Repr

/-- The surroundings of a machine. -/
structure World where
  input : Input := []
  out : Sink := .unbounded
  err : Sink := .unbounded
  disk : Disk := {}
  /-- The open files by descriptor. -/
  handles : List (Nat × Handle) := []

namespace World

/-- The open file of a descriptor. -/
def handle? (w : World) (descriptor : Nat) : Option Handle := w.handles.lookup descriptor

/-- Remember an open file under a descriptor. -/
def setHandle (w : World) (descriptor : Nat) (h : Handle) : World :=
  { w with handles := (descriptor, h) :: w.handles.filter fun p => p.1 ≠ descriptor }

/-- Forget the open file of a descriptor. -/
def dropHandle (w : World) (descriptor : Nat) : World :=
  { w with handles := w.handles.filter fun p => p.1 ≠ descriptor }

/-- The host's words for a descriptor it does not know. -/
def unknownDescriptor : String := "Bad file descriptor (os error 9)"

/-- Read a line from standard input or an open file. -/
def readLine (w : World) (descriptor limit : Nat) : Reply × World :=
  if descriptor = 0 then
    let (reply, input) := w.input.readLine limit
    (reply, { w with input })
  else
    match w.handle? descriptor with
    | none => (.error unknownDescriptor, w)
    | some h =>
      let content := (w.disk.content? h.path).getD []
      let line := takeLine limit (content.drop h.position)
      (.ok line, w.setHandle descriptor { h with position := h.position + line.length })

/-- Write bytes to an output stream or an open file. -/
def write (w : World) (descriptor : Nat) (bytes : List UInt8) : Reply × World :=
  if descriptor = 1 then
    let (result, out) := w.out.writeFlushed bytes
    (result.map fun _ => [], { w with out })
  else if descriptor = 2 then
    let (result, err) := w.err.writeFlushed bytes
    (result.map fun _ => [], { w with err })
  else
    match w.handle? descriptor with
    | none => (.error unknownDescriptor, w)
    | some h =>
      let w := w.setHandle descriptor { h with position := h.position + bytes.length }
      (.ok [], { w with disk := w.disk.overwrite h.path h.position bytes })

/-- Open a file under a descriptor. -/
def openFile (w : World) (descriptor : Nat) (path : String) : Reply × World :=
  match w.disk.openOrCreate path with
  | .error e => (.error e.message, w)
  | .ok (path, disk) => (.ok [], { w with disk }.setHandle descriptor { path })

/-- The answer to a request, and the world afterwards. -/
def answer (w : World) : Request → Reply × World
  | .readLine descriptor _ limit => w.readLine descriptor limit
  | .write descriptor bytes => w.write descriptor bytes
  | .openFile descriptor path => w.openFile descriptor path
  | .closeFile descriptor => (.ok [], w.dropHandle descriptor)

end World

end WordMachine
