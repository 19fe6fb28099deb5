import WordMachine.Text.Digits

/-!
# Addresses

One 64-bit address names a byte of one of two spaces: the top bit selects the space and the other
63 bits are the offset in it.

* `Address.space`, `Address.offset` : the two parts.
* `Address.render` : the text of an address in messages.
-/

namespace WordMachine

/-- The two address spaces. -/
inductive Space where
  /-- Writable working memory, and the code addresses. -/
  | dynamic
  /-- Read-only data of the object file, and the host functions. -/
  | static
  deriving DecidableEq, Repr

/-- The name of a space in messages. -/
def Space.name : Space → String
  | .dynamic => "dynamic"
  | .static => "static"

/-- The number of offsets in each space, `2 ^ 63`. It is the weight of the bit that selects the
space. -/
def spaceSize : Nat := 0x8000000000000000

/-- A 64-bit address. -/
structure Address where
  bits : UInt64
  deriving DecidableEq, Repr, Inhabited

namespace Address

/-- The number of an address, top bit included. -/
def toNat (a : Address) : Nat := a.bits.toNat

/-- The space an address lies in. -/
def space (a : Address) : Space :=
  if a.toNat < spaceSize then .dynamic else .static

/-- The low 63 bits. -/
def offset (a : Address) : Nat := a.toNat % spaceSize

/-- The address with a given number, modulo `2 ^ 64`. -/
def ofNat (n : Nat) : Address := ⟨UInt64.ofNat n⟩

/-- The address of an offset of a space; the offset is taken modulo the size of the space. -/
def ofOffset (s : Space) (offset : Nat) : Address :=
  match s with
  | .dynamic => ofNat (offset % spaceSize)
  | .static => ofNat (offset % spaceSize + spaceSize)

/-- The address one further on, wrapping around. -/
def next (a : Address) : Address := ⟨a.bits + 1⟩

/-- Dynamic addresses show their number; static ones show their offset. -/
def render (a : Address) : String :=
  match a.space with
  | .dynamic => "@" ++ toString a.toNat
  | .static => "@static:" ++ toString a.offset

end Address

end WordMachine
