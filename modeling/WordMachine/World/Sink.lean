/-!
# Output of a program

A device takes bytes call by call: each call it takes some of the bytes offered, or fails. A call
that is interrupted is made again. Writing all of a text offers what is left until nothing is, and a
device that takes nothing ends it. A sink is a device together with what it has taken.

* `Device.bounded` : a device with room for so many bytes.
* `Sink.writeAll` : write all of some bytes.
* `Sink.taken` : everything taken so far.
-/

namespace WordMachine

/-- How an output device behaves. Its answers may depend on how often it was called and on how
many bytes it has taken. -/
structure Device where
  /-- How many of the bytes offered are taken, or why the call fails. -/
  take : (calls taken offered : Nat) → Except String Nat
  /-- Why flushing fails, if it does. -/
  flushFailure : (calls taken : Nat) → Option String
  /-- How often a call is interrupted before it is answered. -/
  interruptions : (calls taken : Nat) → Nat := fun _ _ => 0

/-- A device that takes `room` bytes in all, or any number of bytes without a bound. When there is
no room left it fails for the given reason, or takes nothing if none is given. -/
def Device.bounded (room : Option Nat) (full flush : Option String) : Device where
  take _ taken offered :=
    match room with
    | none => .ok offered
    | some n =>
      if taken < n then .ok (min offered (n - taken))
      else match full with
        | some reason => .error reason
        | none => .ok 0
  flushFailure _ _ := flush

/-- A device and what it has taken. -/
structure Sink where
  device : Device
  /-- The pieces taken, newest first. -/
  pieces : List (List UInt8) := []
  /-- The number of bytes taken. -/
  size : Nat := 0
  /-- The number of calls made. -/
  calls : Nat := 0

instance : Inhabited Sink := ⟨{ device := .bounded none none none }⟩

namespace Sink

/-- A sink that takes everything. -/
def unbounded : Sink := { device := .bounded none none none }

/-- Everything taken so far. -/
def taken (s : Sink) : List UInt8 := s.pieces.reverse.flatten

/-- Why writing ends when the device takes nothing. -/
def shortWrite : String := "failed to write whole buffer"

/-- Offer bytes until all are taken. Every call that is answered takes at least one byte, so
`rounds` answers are enough for as many bytes. -/
def offer : (rounds : Nat) → List UInt8 → Sink → Except String Unit × Sink
  | _, [], s => (.ok (), s)
  | 0, _ :: _, s => (.error shortWrite, s)
  | rounds + 1, bytes, s =>
    let calls := s.calls + s.device.interruptions s.calls s.size
    match s.device.take calls s.size bytes.length with
    | .error reason => (.error reason, { s with calls := calls + 1 })
    | .ok n =>
      let piece := bytes.take n
      if piece.isEmpty then (.error shortWrite, { s with calls := calls + 1 })
      else
        offer rounds (bytes.drop n)
          { s with
            pieces := piece :: s.pieces
            size := s.size + piece.length
            calls := calls + 1 }

/-- Write all of some bytes. -/
def writeAll (s : Sink) (bytes : List UInt8) : Except String Unit × Sink :=
  offer bytes.length bytes s

/-- Flush. -/
def flush (s : Sink) : Except String Unit :=
  match s.device.flushFailure s.calls s.size with
  | some reason => .error reason
  | none => .ok ()

/-- Write all of some bytes, then flush. -/
def writeFlushed (s : Sink) (bytes : List UInt8) : Except String Unit × Sink :=
  match s.writeAll bytes with
  | (.ok (), s) => (s.flush, s)
  | (.error reason, s) => (.error reason, s)

end Sink

end WordMachine
