/-!
# Input of a program

Standard input as a script: bytes, reads that are interrupted, and reads that fail. An interrupted
read is tried again. The end of the script is the end of the input.

* `Input.readLine` : a line, ending after a newline, at a limit, or at the end of the input.
* `takeLine` : the same on plain bytes.
-/

namespace WordMachine

/-- What one read of one byte meets. -/
inductive InputItem where
  | byte (b : UInt8)
  | interrupt
  | failure (reason : String)
  deriving DecidableEq, Repr

/-- The input that is left. -/
abbrev Input := List InputItem

/-- The byte that ends a line. -/
def newline : UInt8 := 0x0a

namespace Input

/-- Bytes as input. -/
def ofBytes (bytes : List UInt8) : Input := bytes.map .byte

/-- A line behind the bytes already read (newest first), and the input left. A failing read loses
the bytes before it. -/
def collectLine : (limit : Nat) → Input → List UInt8 → Except String (List UInt8) × Input
  | 0, input, done => (.ok done.reverse, input)
  | _ + 1, [], done => (.ok done.reverse, [])
  | limit + 1, .byte b :: input, done =>
    if b = newline then (.ok (b :: done).reverse, input)
    else collectLine limit input (b :: done)
  | limit + 1, .interrupt :: input, done => collectLine (limit + 1) input done
  | _ + 1, .failure reason :: input, _ => (.error reason, input)

/-- A line of at most `limit` bytes, and the input left. -/
def readLine (input : Input) (limit : Nat) : Except String (List UInt8) × Input :=
  collectLine limit input []

end Input

/-- The first line of some bytes, of at most `limit` bytes, behind the bytes already taken (newest
first). -/
def collectLineBytes : (limit : Nat) → List UInt8 → List UInt8 → List UInt8
  | 0, _, done => done.reverse
  | _ + 1, [], done => done.reverse
  | limit + 1, b :: bytes, done =>
    if b = newline then (b :: done).reverse else collectLineBytes limit bytes (b :: done)

/-- The first line of some bytes, of at most `limit` bytes. -/
def takeLine (limit : Nat) (bytes : List UInt8) : List UInt8 :=
  collectLineBytes limit bytes []

end WordMachine
