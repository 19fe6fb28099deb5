/-!
# Numbers as bytes

A number is written in a fixed number of bytes, least significant first or last.

* `littleEndian`, `ofLittleEndian` : the two directions for least significant first.
* `joinBytes` : a register from bytes, most significant first.
* `ByteOrder.encode`, `ByteOrder.decode` : the same for either order.
* `ByteOrder.ofMarker?` : the order that the two marker bytes of an object file declare.
-/

namespace WordMachine

/-- The low `width` bytes of a number, least significant first. -/
def littleEndian : (width : Nat) → (n : Nat) → List UInt8
  | 0, _ => []
  | width + 1, n => UInt8.ofNat n :: littleEndian width (n / 256)

/-- The number with the given bytes, least significant first. -/
def ofLittleEndian : List UInt8 → Nat
  | [] => 0
  | b :: bs => b.toNat + 256 * ofLittleEndian bs

/-- The number with the given bytes, most significant first. Only the low 64 bits are kept. -/
def joinBytes (bytes : List UInt8) : UInt64 :=
  bytes.foldl (fun value b => value <<< 8 ||| b.toUInt64) 0

@[simp] theorem length_littleEndian (width n : Nat) : (littleEndian width n).length = width := by
  induction width generalizing n with
  | zero => rfl
  | succ width ih => simp [littleEndian, ih]

/-- The order of the bytes of a number. -/
inductive ByteOrder where
  /-- Least significant byte first. -/
  | little
  /-- Most significant byte first. -/
  | big
  deriving DecidableEq, Repr, Inhabited

namespace ByteOrder

/-- The low `width` bytes of a number in a byte order. -/
def encode (order : ByteOrder) (width n : Nat) : List UInt8 :=
  match order with
  | .little => littleEndian width n
  | .big => (littleEndian width n).reverse

/-- The number with the given bytes in a byte order. -/
def decode (order : ByteOrder) (bytes : List UInt8) : Nat :=
  match order with
  | .little => ofLittleEndian bytes
  | .big => ofLittleEndian bytes.reverse

/-- The number whose two bytes declare the byte order of an object file. -/
def marker : Nat := 0x1100

/-- The byte order in which two bytes are the marker. -/
def ofMarker? (bytes : List UInt8) : Option ByteOrder :=
  if bytes = encode .little 2 marker then some .little
  else if bytes = encode .big 2 marker then some .big
  else none

/-- The byte order in listings. -/
def render : ByteOrder → String
  | .little => "little-endian"
  | .big => "big-endian"

/-- The byte order in structured data. -/
def name : ByteOrder → String
  | .little => "little"
  | .big => "big"

/-- The byte order in log messages. -/
def title : ByteOrder → String
  | .little => "Little"
  | .big => "Big"

end ByteOrder

end WordMachine
