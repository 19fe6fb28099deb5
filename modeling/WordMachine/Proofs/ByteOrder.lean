import Mathlib.Tactic.Ring
import WordMachine.ByteOrder
import WordMachine.Opcode

/-!
# Numbers as bytes, there and back

In either byte order, writing a number in `width` bytes and reading it back loses exactly what does
not fit, and reading `width` bytes and writing them back loses nothing.

* `joinBytes_reverse` : a number whose bytes are shifted in one after the other.
* `ByteOrder.decode_encode` : writing, then reading.
* `ByteOrder.encode_decode` : reading, then writing.
* `ByteOrder.ofMarker?_eq_some` : the marker bytes of a byte order.
-/

namespace WordMachine

theorem Width.modulus_eq (w : Width) : w.modulus = 256 ^ w.bytes := by
  cases w <;> rfl

theorem toNat_ofNat_byte (n : Nat) : (UInt8.ofNat n).toNat = n % 256 := by
  simp

theorem ofLittleEndian_littleEndian (width n : Nat) :
    ofLittleEndian (littleEndian width n) = n % 256 ^ width := by
  induction width generalizing n with
  | zero => simp [littleEndian, ofLittleEndian, Nat.mod_one]
  | succ width ih =>
    simp only [littleEndian, ofLittleEndian, ih, toNat_ofNat_byte]
    rw [pow_succ', Nat.mod_mul]

theorem ofLittleEndian_lt (bytes : List UInt8) : ofLittleEndian bytes < 256 ^ bytes.length := by
  induction bytes with
  | nil => simp [ofLittleEndian]
  | cons b bs ih =>
    have hb := b.toNat_lt
    simp only [ofLittleEndian, List.length_cons, pow_succ]
    omega

theorem littleEndian_ofLittleEndian (bytes : List UInt8) :
    littleEndian bytes.length (ofLittleEndian bytes) = bytes := by
  induction bytes with
  | nil => rfl
  | cons b bs ih =>
    have hb := b.toNat_lt
    have hlow : UInt8.ofNat (b.toNat + 256 * ofLittleEndian bs) = b := by
      apply UInt8.toNat_inj.mp
      rw [toNat_ofNat_byte]
      omega
    have hhigh : (b.toNat + 256 * ofLittleEndian bs) / 256 = ofLittleEndian bs := by omega
    simp only [List.length_cons, littleEndian, ofLittleEndian, hlow, hhigh, ih]

/-- The low bytes of a number, and then those of what is left of it. -/
theorem littleEndian_add (low high n : Nat) :
    littleEndian (low + high) n = littleEndian low n ++ littleEndian high (n / 256 ^ low) := by
  induction low generalizing n with
  | zero => simp [littleEndian]
  | succ low ih =>
    rw [Nat.succ_add, littleEndian, littleEndian, ih, Nat.div_div_eq_div_mul, ← pow_succ',
      List.cons_append]

theorem littleEndian_mod (width n : Nat) :
    littleEndian width (n % 256 ^ width) = littleEndian width n := by
  have h := littleEndian_ofLittleEndian (littleEndian width n)
  rwa [length_littleEndian, ofLittleEndian_littleEndian] at h

theorem shiftLeft_or_byte (n : Nat) (b : UInt8) :
    UInt64.ofNat n <<< 8 ||| b.toUInt64 = UInt64.ofNat (b.toNat + 256 * n) := by
  have hb : b.toNat < 2 ^ 8 := b.toNat_lt
  have hshift : (UInt64.ofNat n <<< 8).toNat = (n % 2 ^ 56) <<< 8 := by
    rw [UInt64.toNat_shiftLeft, UInt64.toNat_ofNat', Nat.shiftLeft_eq, Nat.shiftLeft_eq]
    change n % 2 ^ 64 * 2 ^ 8 % 2 ^ 64 = n % 2 ^ 56 * 2 ^ 8
    omega
  apply UInt64.toNat_inj.mp
  rw [UInt64.toNat_or, hshift, UInt8.toNat_toUInt64, ← Nat.shiftLeft_add_eq_or_of_lt hb,
    Nat.shiftLeft_eq, UInt64.toNat_ofNat']
  omega

/-- Bytes shifted in from the most significant one down make up their number. -/
theorem joinBytes_reverse (bytes : List UInt8) :
    joinBytes bytes.reverse = UInt64.ofNat (ofLittleEndian bytes) := by
  induction bytes with
  | nil => rfl
  | cons b bytes ih =>
    unfold joinBytes at ih ⊢
    rw [List.reverse_cons, List.foldl_append, ih]
    exact shiftLeft_or_byte _ b

namespace ByteOrder

@[simp] theorem length_encode (order : ByteOrder) (width n : Nat) :
    (order.encode width n).length = width := by
  cases order <;> simp [encode]

theorem decode_encode (order : ByteOrder) (width n : Nat) :
    order.decode (order.encode width n) = n % 256 ^ width := by
  cases order <;> simp [encode, decode, ofLittleEndian_littleEndian]

theorem decode_lt (order : ByteOrder) (bytes : List UInt8) :
    order.decode bytes < 256 ^ bytes.length := by
  cases order with
  | little => exact ofLittleEndian_lt bytes
  | big =>
    have h := ofLittleEndian_lt bytes.reverse
    rwa [List.length_reverse] at h

theorem encode_decode (order : ByteOrder) (bytes : List UInt8) :
    order.encode bytes.length (order.decode bytes) = bytes := by
  cases order with
  | little => exact littleEndian_ofLittleEndian bytes
  | big =>
    have h := littleEndian_ofLittleEndian bytes.reverse
    rw [List.length_reverse] at h
    simp [encode, decode, h]

/-- The two marker images differ, so the marker bytes name one byte order. -/
theorem ofMarker?_eq_some {bytes : List UInt8} {order : ByteOrder} :
    ofMarker? bytes = some order ↔ bytes = order.encode 2 marker := by
  unfold ofMarker?
  constructor
  · intro h
    split_ifs at h with hl hb
    · cases h
      exact hl
    · cases h
      exact hb
  · rintro rfl
    cases order <;> decide

end ByteOrder

end WordMachine
