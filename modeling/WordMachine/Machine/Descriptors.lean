/-!
# File descriptors

Descriptors 0, 1 and 2 are the standard streams and are never in the table. Files get 3, 4, 5 and
so on in the order in which they are opened; a number is used once.

* `Descriptors.register`, `Descriptors.forget` : opening and closing.
-/

namespace WordMachine

/-- The table of open files. -/
structure Descriptors where
  /-- The number of the next file. -/
  next : Nat := 3
  /-- The numbers of the open files. -/
  live : List Nat := []
  deriving DecidableEq, Repr, Inhabited

namespace Descriptors

/-- Whether a number names an open file. -/
def isOpen (d : Descriptors) (number : Nat) : Bool := d.live.contains number

/-- Give out the next number. -/
def register (d : Descriptors) : Descriptors :=
  { next := d.next + 1, live := d.next :: d.live }

/-- Close a file; its number is not used again. -/
def forget (d : Descriptors) (number : Nat) : Descriptors :=
  { d with live := d.live.filter (· ≠ number) }

/-- How many files are open. -/
def count (d : Descriptors) : Nat := d.live.length

end Descriptors

end WordMachine
