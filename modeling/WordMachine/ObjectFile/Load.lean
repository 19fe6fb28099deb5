import WordMachine.ObjectFile.Reader
import WordMachine.World.Disk

/-!
# Loading object files

* `ObjectFile.ofContents` : the object file in the bytes of a path, or why there are none.
* `ObjectFile.load` : the object file at a path of a disk.
-/

namespace WordMachine

namespace ObjectFile

/-- The object file in the bytes found at a path, with what there is to report. -/
def ofContents (path : String) (contents : Except String (List UInt8)) :
    Except FormatError ObjectFile × List Notice :=
  match contents with
  | .error reason => (.error (.unreadable path reason), [])
  | .ok bytes => read bytes

/-- The object file at a path of a disk, with what there is to report. -/
def load (disk : Disk) (path : String) : Except FormatError ObjectFile × List Notice :=
  ofContents path ((disk.readFile path).mapError FileError.message)

end ObjectFile

end WordMachine
