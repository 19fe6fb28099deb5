import WordMachine.Log.Notice
import WordMachine.Machine.Limits
import WordMachine.ObjectFile.Basic
import WordMachine.Settings.Number

/-!
# Settings

What the variables of the surroundings decide: where a program starts, the limits of its machine,
and which notices are shown. A variable that is missing, or that does not hold a number where one
is due, leaves its setting as it is.

* `Settings.ofVariables` : the settings.
* `Settings.complaints` : a notice for each number that was not understood.
-/

namespace WordMachine

/-- The settings of a run. -/
structure Settings where
  /-- The label where a program starts. -/
  entryLabel : String := WordMachine.entryLabel
  limits : Limits := {}
  /-- Which notices are shown. -/
  logFilter : String := "warn"
  deriving DecidableEq, Repr, Inhabited

namespace Settings

/-- The variable that names the entry label. -/
def entryLabelKey : String := "NYULAN_ENTRY_LABEL"

/-- The variable that bounds the calculation stack. -/
def maxStackBytesKey : String := "NYULAN_MAX_STACK_BYTES"

/-- The variable that bounds the call stack. -/
def maxCallDepthKey : String := "NYULAN_MAX_CALL_DEPTH"

/-- The variable that places the heap. -/
def heapBaseKey : String := "NYULAN_HEAP_BASE"

/-- The variable that bounds the heap. -/
def maxHeapBytesKey : String := "NYULAN_MAX_HEAP_BYTES"

/-- The variable that holds the log filter. -/
def logFilterKey : String := "NYULAN_LOG"

/-- The value of a number setting: that of its variable, or the usual one. -/
def value (env : String → Option String) (key : String) (usual : Nat) : Nat :=
  ((env key).bind number?).getD usual

/-- The notice about a variable that holds no number. -/
def complaint (env : String → Option String) (key : String) (usual : Nat) : List Notice :=
  match env key with
  | none => []
  | some raw =>
    match number? raw with
    | some _ => []
    | none => [.settingIgnored key raw usual]

/-- The limits that variables set. -/
def limitsOf (env : String → Option String) : Limits :=
  let usual : Limits := {}
  { maxStackBytes := value env maxStackBytesKey usual.maxStackBytes
    maxCallDepth := value env maxCallDepthKey usual.maxCallDepth
    heapBase := value env heapBaseKey usual.heapBase
    maxHeapBytes := value env maxHeapBytesKey usual.maxHeapBytes }

/-- The notices about variables that hold no number. -/
def complaints (env : String → Option String) : List Notice :=
  let usual : Limits := {}
  complaint env maxStackBytesKey usual.maxStackBytes ++
    complaint env maxCallDepthKey usual.maxCallDepth ++
    complaint env heapBaseKey usual.heapBase ++
    complaint env maxHeapBytesKey usual.maxHeapBytes

/-- The settings that variables make. An empty entry label does not count. -/
def ofVariables (env : String → Option String) : Settings where
  entryLabel := ((env entryLabelKey).filter fun label => label ≠ "").getD
    WordMachine.entryLabel
  limits := limitsOf env
  logFilter := (env logFilterKey).getD ({} : Settings).logFilter

end Settings

end WordMachine
