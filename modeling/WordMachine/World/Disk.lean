/-!
# Files

A working directory with directories and files below it. Paths are walked name by name: every name
but the last must be a directory, `.` stays, `..` goes up, and a name has at most 255 bytes.

* `Disk.locate` : where a path leads.
* `Disk.openOrCreate` : opening for reading and writing, creating a missing file.
* `Disk.readFile` : the whole of a file.
-/

namespace WordMachine

/-- The names that lead from the working directory to a file or directory. -/
abbrev Path := List String

/-- Why the host does not open or read a file. -/
inductive FileError where
  | notFound
  | notDirectory
  | isDirectory
  | nameTooLong
  | zeroInName
  deriving DecidableEq, Repr

/-- The text of a reason. -/
def FileError.message : FileError → String
  | notFound => "No such file or directory (os error 2)"
  | notDirectory => "Not a directory (os error 20)"
  | isDirectory => "Is a directory (os error 21)"
  | nameTooLong => "File name too long (os error 36)"
  | zeroInName => "file name contained an unexpected NUL byte"

/-- Directories and files below the working directory. -/
structure Disk where
  directories : List Path := []
  files : List (Path × List UInt8) := []
  deriving Inhabited

/-- Where a path leads. -/
inductive Place where
  | directory
  | file (path : Path)
  /-- Nothing, in a directory that exists. -/
  | missing (path : Path)
  deriving DecidableEq, Repr

namespace Disk

/-- The bytes of a file. -/
def content? (d : Disk) (path : Path) : Option (List UInt8) := d.files.lookup path

/-- Whether a path is a directory. -/
def isDirectory (d : Disk) (path : Path) : Bool := path.isEmpty || d.directories.contains path

/-- Replace or add the bytes of a file. -/
def putFile (d : Disk) (path : Path) (bytes : List UInt8) : Disk :=
  { d with files := (path, bytes) :: d.files.filter fun f => f.1 ≠ path }

/-- Add a directory and those above it. -/
def putDirectory (d : Disk) (path : Path) : Disk :=
  let line := (List.range (path.length + 1)).map path.take
  { d with directories := line.filter (fun p => !d.isDirectory p) ++ d.directories }

/-- The names of a path; empty ones, from repeated slashes, do not count. -/
def names (path : String) : List String :=
  (path.splitToList (· == '/')).filter fun n => !n.isEmpty

/-- The most bytes of a name. -/
def maxName : Nat := 255

/-- The most bytes of a path. -/
def maxPath : Nat := 4095

/-- Walk names from a directory. `none` is a directory outside the working directory, of which
nothing is known. -/
def walk (d : Disk) : Option Path → List String → Except FileError Place
  | _, [] => .ok .directory
  | here, "." :: rest => d.walk here rest
  | here, ".." :: rest =>
    match here with
    | none | some [] => d.walk none rest
    | some path => d.walk (some path.dropLast) rest
  | none, _ :: _ => .error .notFound
  | some path, name :: rest =>
    let there := path ++ [name]
    if maxName < name.utf8ByteSize then .error .nameTooLong
    else if d.isDirectory there then d.walk (some there) rest
    else if (d.content? there).isSome then
      if rest.isEmpty then .ok (.file there) else .error .notDirectory
    else if rest.isEmpty then .ok (.missing there) else .error .notFound

/-- Where a path leads from the working directory. -/
def locate (d : Disk) (path : String) : Except FileError Place :=
  if path.toList.contains '\x00' then .error .zeroInName
  else if path.isEmpty then .error .notFound
  else if maxPath < path.utf8ByteSize then .error .nameTooLong
  else d.walk (if path.startsWith "/" then none else some []) (names path)

/-- Whether a path asks for a directory by ending in a slash behind a name. -/
def endsInSlash (path : String) : Bool :=
  path.endsWith "/" && (names path).getLast?.any fun n => n ≠ "." && n ≠ ".."

/-- Open a file for reading and writing; a missing one is created empty. The name before a slash
at the end is not looked up: only a directory could be meant. -/
def openOrCreate (d : Disk) (path : String) : Except FileError (Path × Disk) :=
  if endsInSlash path && !(path.toList.contains '\x00') then
    if maxPath < path.utf8ByteSize then .error .nameTooLong
    else match d.locate (String.intercalate "/" ((names path).dropLast ++ ["."])) with
      | .error e => .error e
      | .ok _ => .error .isDirectory
  else
    match d.locate path with
    | .error e => .error e
    | .ok .directory => .error .isDirectory
    | .ok (.file p) => .ok (p, d)
    | .ok (.missing p) => .ok (p, d.putFile p [])

/-- The whole of a file. -/
def readFile (d : Disk) (path : String) : Except FileError (List UInt8) :=
  match d.locate path with
  | .error e => .error e
  | .ok .directory => .error .isDirectory
  | .ok (.missing _) => .error .notFound
  | .ok (.file p) =>
    if path.endsWith "/" then .error .notDirectory
    else match d.content? p with
      | some bytes => .ok bytes
      | none => .error .notFound

/-- Write bytes over a file from a position on. -/
def overwrite (d : Disk) (path : Path) (position : Nat) (bytes : List UInt8) : Disk :=
  match d.content? path with
  | none => d
  | some old =>
    d.putFile path (old.take position ++ bytes ++ old.drop (position + bytes.length))

end Disk

end WordMachine
