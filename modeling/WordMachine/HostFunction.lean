import WordMachine.Address

/-!
# Host functions

A call whose target lies in the static space does not jump: the offset is the number of a function
of the host.

* `HostFunction.number`, `HostFunction.ofNumber?` : the numbering.
* `HostFunction.callAddress` : the address a program calls.
-/

namespace WordMachine

/-- The functions of the host. -/
inductive HostFunction where
  | read | write | openFile | closeFile | exit | malloc | free
  deriving DecidableEq, Repr

namespace HostFunction

/-- Every host function. -/
def all : List HostFunction := [read, write, openFile, closeFile, exit, malloc, free]

/-- The number of a host function. -/
def number : HostFunction → Nat
  | read => 0
  | write => 1
  | openFile => 2
  | closeFile => 3
  | exit => 60
  | malloc => 512
  | free => 513

/-- The host function with a number, if there is one. -/
def ofNumber? (n : Nat) : Option HostFunction := all.find? fun f => f.number == n

theorem ofNumber?_number (f : HostFunction) : ofNumber? f.number = some f := by
  cases f <;> rfl

/-- The name of a host function in structured data. -/
def name : HostFunction → String
  | read => "Read"
  | write => "Write"
  | openFile => "Open"
  | closeFile => "Close"
  | exit => "Exit"
  | malloc => "Malloc"
  | free => "Free"

/-- The name of a host function in messages. -/
def mnemonic : HostFunction → String
  | read => "READ"
  | write => "WRITE"
  | openFile => "OPEN"
  | closeFile => "CLOSE"
  | exit => "EXIT"
  | malloc => "MALLOC"
  | free => "FREE"

/-- The host function with a given name. -/
def ofName? (text : String) : Option HostFunction := all.find? fun f => f.name == text

/-- The static address that a program calls. -/
def callAddress (f : HostFunction) : Address := Address.ofOffset .static f.number

/-- How many arguments a host function takes from the calculation stack. -/
def arity : HostFunction → Nat
  | read | write => 3
  | free => 2
  | openFile | closeFile | exit | malloc => 1

end HostFunction

end WordMachine
