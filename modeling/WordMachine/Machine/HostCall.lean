import WordMachine.Machine.Basic

/-!
# Calling the host

A host function pops its arguments, works on the machine, and may ask the host for something it
cannot do by itself: read a line, write bytes, open or close a file. The host answers, and the
function finishes with the answer.

* `Request`, `Reply` : what is asked and answered.
* `HostFunction.begin` : the part of a call before the answer.
* `Request.finish` : the part after it.
-/

namespace WordMachine

/-- What a host function asks of the host. -/
inductive Request where
  /-- Read up to `limit` bytes, ending after a newline, for a buffer of the program. -/
  | readLine (descriptor : Nat) (buffer : Address) (limit : Nat)
  /-- Write all of the bytes and flush. -/
  | write (descriptor : Nat) (bytes : List UInt8)
  /-- Open a file for reading and writing under a descriptor, creating it if it is missing. -/
  | openFile (descriptor : Nat) (path : String)
  /-- Close a file. -/
  | closeFile (descriptor : Nat)
  deriving DecidableEq, Repr

/-- The answer: the bytes of a line, no bytes for other requests, or the reason of a failure. -/
abbrev Reply := Except String (List UInt8)

/-- How a host function goes on after popping its arguments. -/
inductive Progress where
  /-- It is done. -/
  | done
  /-- It ends the program. -/
  | exit (status : Int)
  /-- It needs an answer. -/
  | ask (request : Request)
  deriving DecidableEq, Repr

/-- What opening a file pushes when it failed. -/
def openFailedResult : UInt64 := 0xffffffffffffffff

/-- The exit status in the low 32 bits of a register, as a signed number. -/
def exitStatus (value : UInt64) : Int := Int.bmod value.toNat 0x100000000

namespace HostFunction

/-- Fails unless a descriptor above 2 names an open file. -/
def requireOpen (descriptor : Nat) : Action Unit :=
  Action.look fun m =>
    if m.descriptors.isOpen descriptor then .ok () else .error (.badDescriptor descriptor)

/-- Read a line into a buffer: the request. -/
def beginRead (descriptor : Nat) (buffer : Address) (length : Nat) : Action Progress := do
  if descriptor = 1 ∨ descriptor = 2 then throw (.notReadable descriptor)
  if descriptor ≠ 0 then requireOpen descriptor
  return .ask (.readLine descriptor buffer length)

/-- Write a buffer: its bytes are read before the descriptor is looked at. -/
def beginWrite (descriptor : Nat) (buffer : Address) (length : Nat) : Action Progress := do
  let bytes ← Action.look fun m => m.memory.readBytes buffer length
  Action.note (.writing descriptor buffer length)
  if descriptor = 0 then throw (.notWritable descriptor)
  if 2 < descriptor then requireOpen descriptor
  return .ask (.write descriptor bytes)

/-- Open the file whose name lies at an address: the request, under the next descriptor. -/
def beginOpen (name : Address) : Action Progress := do
  let bytes ← Action.look fun m => m.memory.readString name
  let m ← get
  return .ask (.openFile m.descriptors.next (Text.Utf8.decodeLossy bytes))

/-- Close a file: it leaves the table at once. -/
def beginClose (descriptor : Nat) : Action Progress := do
  Action.note (.closing descriptor)
  requireOpen descriptor
  modify fun m => { m with descriptors := m.descriptors.forget descriptor }
  return .ask (.closeFile descriptor)

/-- The part of a call before the answer of the host. Arguments are popped one after the other. -/
def begin : HostFunction → Action Progress
  | read => do
    let descriptor ← Action.popArgument
    let buffer ← Action.popArgument
    let length ← Action.popArgument
    beginRead descriptor.toNat ⟨buffer⟩ length.toNat
  | write => do
    let descriptor ← Action.popArgument
    let buffer ← Action.popArgument
    let length ← Action.popArgument
    beginWrite descriptor.toNat ⟨buffer⟩ length.toNat
  | openFile => do
    let name ← Action.popArgument
    beginOpen ⟨name⟩
  | closeFile => do
    let descriptor ← Action.popArgument
    beginClose descriptor.toNat
  | exit => do
    let status ← Action.popArgument
    Action.note (.exiting status.toNat)
    return .exit (exitStatus status)
  | malloc => do
    let size ← Action.popArgument
    let address ← Action.allocate size.toNat
    Action.pushResult address.bits
    return .done
  | free => do
    let address ← Action.popArgument
    let size ← Action.popArgument
    Action.release ⟨address⟩ size.toNat
    return .done

end HostFunction

/-- The part of a call after the answer of the host. -/
def Request.finish (reply : Reply) : Request → Action Unit
  | readLine descriptor buffer limit =>
    match reply with
    | .error reason => throw (.host reason)
    | .ok line => do
      Action.writeBytes buffer line
      Action.note (.lineRead descriptor buffer limit line.length)
      Action.pushResult (UInt64.ofNat line.length)
  | write _ _ =>
    match reply with
    | .error reason => throw (.host reason)
    | .ok _ => return
  | openFile descriptor path =>
    match reply with
    | .error reason => do
      Action.note (.openFailed path reason)
      Action.pushResult openFailedResult
    | .ok _ => do
      modify fun m => { m with descriptors := m.descriptors.register }
      Action.note (.opened path descriptor)
      Action.pushResult (UInt64.ofNat descriptor)
  | closeFile _ => return

end WordMachine
