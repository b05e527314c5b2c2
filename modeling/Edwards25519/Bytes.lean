/-!
# Byte strings and hexadecimal text

Field elements, scalars and encoded points all travel as strings of 32 bytes,
least significant byte first. This file holds

* `Edwards25519.littleEndian` and `Edwards25519.littleEndianBytes` – the number
  that a string of bytes stands for, and the bytes of a number;
* `Edwards25519.Bytes32` – strings of exactly 32 bytes, read and built eight
  bytes at a time (`Edwards25519.Bytes32.word`, `Edwards25519.Bytes32.ofWords`);
* `Edwards25519.Hex.encode` – bytes as text, two hexadecimal digits each, the high
  half first, in lower or in upper case.

The bytes of a number determine it, and are determined by it
(`Edwards25519.littleEndianBytes_littleEndian`).
-/

namespace Edwards25519

/-! ### Numbers and their bytes -/

/-- The number whose digits to base 256 are the given bytes, the least
significant one first. -/
def littleEndian : List UInt8 → Nat
  | [] => 0
  | b :: bs => b.toNat + 256 * littleEndian bs

/-- The `k` least significant digits of `n` to base 256, the least significant
one first. -/
def littleEndianBytes : Nat → Nat → List UInt8
  | 0, _ => []
  | k + 1, n => UInt8.ofNat n :: littleEndianBytes k (n / 256)

@[simp] theorem length_littleEndianBytes (k n : Nat) : (littleEndianBytes k n).length = k := by
  induction k generalizing n with
  | zero => rfl
  | succ k ih => simp [littleEndianBytes, ih]

/-- The bytes of a number determine it, and are determined by it. -/
theorem littleEndianBytes_littleEndian (bs : List UInt8) :
    littleEndianBytes bs.length (littleEndian bs) = bs := by
  induction bs with
  | nil => rfl
  | cons b bs ih =>
    have hb : b.toNat < 256 := b.toNat_lt
    have hdiv : (b.toNat + 256 * littleEndian bs) / 256 = littleEndian bs := by omega
    have hmod : UInt8.ofNat (b.toNat + 256 * littleEndian bs) = b := by
      apply UInt8.toNat_inj.1
      rw [UInt8.toNat_ofNat']
      omega
    simp only [littleEndian, List.length_cons, littleEndianBytes, hdiv, hmod, ih]

/-! ### Strings of 32 bytes -/

/-- A string of exactly 32 bytes. -/
abbrev Bytes32 := Vector UInt8 32

namespace Bytes32

/-- The string of 32 zero bytes. -/
def zero : Bytes32 :=
  Vector.replicate 32 0

/-- The given bytes as a string of 32, if they are that many. -/
def ofList? (bs : List UInt8) : Option Bytes32 :=
  if h : bs.toArray.size = 32 then some ⟨bs.toArray, h⟩ else none

/-- The first byte, the least significant one. -/
def first (b : Bytes32) : UInt8 :=
  b[0]

/-- The same string with another first byte. -/
def setFirst (b : Bytes32) (v : UInt8) : Bytes32 :=
  b.set 0 v

/-- The last byte, the most significant one. -/
def last (b : Bytes32) : UInt8 :=
  b[31]

/-- The same string with another last byte. -/
def setLast (b : Bytes32) (v : UInt8) : Bytes32 :=
  b.set 31 v

/-- The number that the 32 bytes stand for, the first byte being the least
significant. -/
def value (b : Bytes32) : Nat :=
  littleEndian b.toList

/-- There are 25 positions from which eight bytes can be read. -/
instance neZero_positions : @NeZero Nat Zero.ofOfNat0 25 :=
  ⟨Nat.succ_ne_zero 24⟩

/-- The 64-bit number in the eight bytes from position `i` on, each of them shifted to its
place. -/
def word (b : Bytes32) (i : Fin 25) : UInt64 :=
  b[i.val].toUInt64 ||| (b[i.val + 1].toUInt64 <<< 8) ||| (b[i.val + 2].toUInt64 <<< 16) |||
    (b[i.val + 3].toUInt64 <<< 24) ||| (b[i.val + 4].toUInt64 <<< 32) |||
    (b[i.val + 5].toUInt64 <<< 40) ||| (b[i.val + 6].toUInt64 <<< 48) |||
    (b[i.val + 7].toUInt64 <<< 56)

/-- The bytes of four 64-bit numbers, one after the other. -/
def ofWords (w₀ w₁ w₂ w₃ : UInt64) : Bytes32 :=
  ⟨(littleEndianBytes 8 w₀.toNat ++ littleEndianBytes 8 w₁.toNat ++
      littleEndianBytes 8 w₂.toNat ++ littleEndianBytes 8 w₃.toNat).toArray, by simp⟩

/-- Bit 255, the highest bit of the last byte. -/
def topBit (b : Bytes32) : Bool :=
  b.last >>> 7 == 1

/-- The same string with bit 255 set to the given value. -/
def setTopBit (b : Bytes32) (s : Bool) : Bytes32 :=
  b.setLast ((b.last &&& 0x7f) ||| (bif s then 0x80 else 0))

end Bytes32

/-! ### Hexadecimal text -/

namespace Hex

/-- The two ways to write the digits from ten to fifteen. -/
inductive LetterCase where
  /-- Written `a` to `f`. -/
  | lower
  /-- Written `A` to `F`. -/
  | upper
deriving DecidableEq, Repr

/-- The digit for the number `n` below sixteen. -/
def digit (c : LetterCase) (n : Nat) : Char :=
  if n < 10 then Char.ofNat ('0'.toNat + n)
  else match c with
    | .lower => Char.ofNat ('a'.toNat + (n - 10))
    | .upper => Char.ofNat ('A'.toNat + (n - 10))

/-- The digits of a string of bytes, two for each byte. -/
def encode (c : LetterCase) (bs : List UInt8) : List Char :=
  bs.flatMap fun b => [digit c (b.toNat / 16), digit c (b.toNat % 16)]

/-- The digits of a string of bytes, as text. -/
def text (c : LetterCase) (bs : List UInt8) : String :=
  String.ofList (encode c bs)

end Hex

end Edwards25519
