import WordMachine.Address
import WordMachine.Text.Digits

/-!
# Faults

Every cause that stops a run before its end, with its text.

* `Fault.message` : the text of a fault.
-/

namespace WordMachine

/-- Why a run, or an operation of one of its parts, stopped. -/
inductive Fault where
  /-- The high byte of the fetched word is no opcode. -/
  | unknownOpcode (address : Address) (byte : UInt8)
  /-- A call of a static address that is no host function. -/
  | unknownFunction (address : Address) (number : Nat)
  /-- A pop of more bytes than the calculation stack holds. -/
  | stackUnderflow (requested available : Nat)
  | stackOverflow (limit : Nat)
  /-- A return with nothing to return to. -/
  | callStackEmpty (address : Address)
  | callDepthExceeded (limit : Nat)
  /-- A read of a byte that does not exist. -/
  | unmapped (space : Space) (offset : Nat)
  /-- An access that would run past the end of its space. -/
  | crossesSpace (space : Space) (offset length : Nat)
  | heapExhausted (requested limit : Nat)
  | writeToStatic (offset : Nat)
  /-- The program counter is static or beyond the end of the code. -/
  | counterOutOfRange (address : Address) (codeLength : Nat)
  | divisionByZero (address : Address)
  | notReadable (descriptor : Nat)
  | notWritable (descriptor : Nat)
  | badDescriptor (descriptor : Nat)
  /-- The host refused a read or a write, in its own words. -/
  | host (reason : String)
  /-- An operation was used outside its contract: a width above eight bytes or a register above
  fifteen. No instruction does so. -/
  | misuse
  deriving DecidableEq, Repr

/-- The text of a fault. -/
def Fault.message : Fault → String
  | unknownOpcode a b => "unknown opcode " ++ Text.byteMarked b ++ " at @" ++ toString a.toNat
  | unknownFunction a n =>
    "unknown built-in function " ++ toString n ++ " called at @" ++ toString a.toNat
  | stackUnderflow r a =>
    "calculation stack underflow: needed " ++ toString r ++ " bytes, " ++ toString a ++
      " available"
  | stackOverflow l => "calculation stack exceeded " ++ toString l ++ " bytes"
  | callStackEmpty a => "return with empty call stack at @" ++ toString a.toNat
  | callDepthExceeded l => "call depth exceeded " ++ toString l
  | unmapped s o => "invalid " ++ s.name ++ " memory access at offset " ++ Text.hexMarked o
  | crossesSpace s o n =>
    toString n ++ "-byte " ++ s.name ++ " memory access at offset " ++ Text.hexMarked o ++
      " crosses the end of the space"
  | heapExhausted r l =>
    "MALLOC of " ++ toString r ++ " bytes exceeds the " ++ toString l ++ "-byte heap"
  | writeToStatic o => "attempt to write static data at offset " ++ Text.hexMarked o
  | counterOutOfRange a n =>
    "program counter @" ++ toString a.toNat ++ " is outside the code (" ++ toString n ++ " words)"
  | divisionByZero a => "division by zero at @" ++ toString a.toNat
  | notReadable d => "file descriptor " ++ toString d ++ " is not readable"
  | notWritable d => "file descriptor " ++ toString d ++ " is not writable"
  | badDescriptor d => "bad file descriptor " ++ toString d
  | host reason => "IO error: " ++ reason
  | misuse => "operation outside its contract"

end WordMachine
