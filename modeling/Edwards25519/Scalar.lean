import Edwards25519.Bytes
import Edwards25519.Word

/-!
# Scalars

A scalar is a number of 256 bits by which the base point is multiplied. Nothing is
done to it on the way in: it is neither reduced modulo the order of the group nor
are any of its bits forced, so that every string of 32 bytes is a scalar and no two
of them are the same one.

It is held in four words of 56 bits and a fifth of 32
(`Edwards25519.Scalar`), and these widths are part of the type, so that the words
are determined by the bytes: `Edwards25519.Scalar.toBytes` loses nothing, and
comparing words is comparing scalars.

Multiplication of a point reads the scalar four bits at a time
(`Edwards25519.Scalar.nibbles`), and moves the digits from 0 to 15 to the range from -8
to 7 (`Edwards25519.Scalar.recode`). With signed digits a table of eight multiples is
enough, since the negative of a point costs next to nothing. A digit of 8 or more is
lowered by 16, and the next one raised by one; the top digit may do so too, and then the
carry stands for `16^64`.
-/

namespace Edwards25519

/-- A number of 256 bits, in four words of 56 bits and one of 32, the least
significant one first. -/
@[ext] structure Scalar where
  /-- Bits 0 to 55. -/
  w₀ : UInt64
  /-- Bits 56 to 111. -/
  w₁ : UInt64
  /-- Bits 112 to 167. -/
  w₂ : UInt64
  /-- Bits 168 to 223. -/
  w₃ : UInt64
  /-- Bits 224 to 255. -/
  w₄ : UInt64
  w₀_lt : w₀.toNat < 0x100000000000000
  w₁_lt : w₁.toNat < 0x100000000000000
  w₂_lt : w₂.toNat < 0x100000000000000
  w₃_lt : w₃.toNat < 0x100000000000000
  w₄_lt : w₄.toNat < 0x100000000
deriving DecidableEq

namespace Scalar

/-- The 56 lowest bits of a word. -/
def low56 (x : UInt64) : UInt64 :=
  x &&& 0xffffffffffffff

theorem low56_lt (x : UInt64) : (low56 x).toNat < 0x100000000000000 := by
  rw [low56, UInt64.toNat_and]
  exact Nat.and_lt_two_pow (n := 56) _ (by decide)

/-- A shift by 32 bits or more leaves no more than 32. -/
theorem shiftRight_lt (x : UInt64) {k : UInt64} (hk : 32 ≤ k.toNat % 64) :
    (x >>> k).toNat < 0x100000000 := by
  have hx : x.toNat < UInt64.size := x.toNat_lt
  have hpow : 2 ^ 32 ≤ 2 ^ (k.toNat % 64) := Nat.pow_le_pow_right (by decide) hk
  rw [UInt64.toNat_shiftRight, Nat.shiftRight_eq_div_pow]
  calc x.toNat / 2 ^ (k.toNat % 64)
    _ ≤ x.toNat / 2 ^ 32 := Nat.div_le_div_left hpow (by decide)
    _ < 0x100000000 := Nat.div_lt_of_lt_mul hx

/-- The base to which the words are digits, `2^56`. -/
def base : Nat :=
  0x100000000000000

/-- The number itself. -/
def value (s : Scalar) : Nat :=
  s.w₀.toNat + base * (s.w₁.toNat + base * (s.w₂.toNat + base * (s.w₃.toNat +
    base * s.w₄.toNat)))

/-! ### Ways to make a scalar -/

/-- The scalar whose 256 bits are those of a byte string. -/
def ofBytes (b : Bytes32) : Scalar where
  w₀ := low56 (b.word 0)
  w₁ := low56 ((b.word 0 >>> 56) ||| (b.word 8 <<< 8))
  w₂ := low56 ((b.word 8 >>> 48) ||| (b.word 16 <<< 16))
  w₃ := low56 ((b.word 16 >>> 40) ||| (b.word 24 <<< 24))
  w₄ := b.word 24 >>> 32
  w₀_lt := low56_lt _
  w₁_lt := low56_lt _
  w₂_lt := low56_lt _
  w₃_lt := low56_lt _
  w₄_lt := shiftRight_lt _ (by decide)

/-- The scalar in a byte string of any length, if that length is 32. -/
def ofList? (bs : List UInt8) : Option Scalar :=
  (Bytes32.ofList? bs).map ofBytes

/-- The scalar of a 64-bit number. -/
def ofUInt64 (n : UInt64) : Scalar where
  w₀ := low56 n
  w₁ := n >>> 56
  w₂ := 0
  w₃ := 0
  w₄ := 0
  w₀_lt := low56_lt _
  w₁_lt := Nat.lt_trans (shiftRight_lt n (by decide)) (by decide)
  w₂_lt := by decide
  w₃_lt := by decide
  w₄_lt := by decide

/-- The scalar zero. -/
def zero : Scalar :=
  ofUInt64 0

instance : Inhabited Scalar := ⟨zero⟩

/-- The scalar one. -/
def one : Scalar :=
  ofUInt64 1

/-! ### Bytes -/

/-- The 256 bits of the scalar, in four words of 64 bits. -/
def toWords (s : Scalar) : Vector UInt64 4 :=
  #v[s.w₀ ||| (s.w₁ <<< 56), (s.w₁ >>> 8) ||| (s.w₂ <<< 48), (s.w₂ >>> 16) ||| (s.w₃ <<< 40),
    (s.w₃ >>> 24) ||| (s.w₄ <<< 32)]

/-- The 256 bits of the scalar, as bytes. -/
def toBytes (s : Scalar) : Bytes32 :=
  .ofWords s.toWords[0] s.toWords[1] s.toWords[2] s.toWords[3]

end Scalar

/-! ### Digits to base sixteen -/

/-- The digit of a word in place `j`, where it has sixteen of them to base 16. -/
def Digit.ofWord (w : UInt64) (j : Nat) : Int8 :=
  ((w >>> (4 * j.toUInt64)) &&& 0xf).toUInt8.toInt8

/-- The base-16 digits of a scalar, from 0 to 15, the least significant one
first. Each of its four words holds sixteen. -/
def Scalar.nibbles (s : Scalar) : List Int8 :=
  s.toWords.toList.flatMap fun w => (List.range 16).map (Digit.ofWord w)

/-- A number written with signed digits to base 16. -/
structure Recoding where
  /-- The digits, the least significant one first. -/
  digits : List Int8
  /-- The carry out of the most significant digit. -/
  carry : Int8
deriving DecidableEq, Repr

namespace Recoding

/-- The digits, followed by the carry in the place of one more digit. -/
def toList (r : Recoding) : List Int8 :=
  r.digits ++ [r.carry]

/-- The number that signed digits to base 16 stand for, the least significant one
first. -/
def digitsValue : List Int8 → Int
  | [] => 0
  | d :: ds => d.toInt + 16 * digitsValue ds

/-- The number that is written. -/
def value (r : Recoding) : Int :=
  digitsValue r.toList

/-- The digits in the even places, which weigh `1, 256, 256^2, …`. -/
def evens : List Int8 → List Int8
  | [] => []
  | [d] => [d]
  | d :: _ :: ds => d :: evens ds

/-- The digits in the odd places, which weigh `16, 16 · 256, 16 · 256^2, …`. -/
def odds : List Int8 → List Int8
  | [] => []
  | [_] => []
  | _ :: d :: ds => d :: odds ds

end Recoding

/-- The digits moved from the range 0 to 15 to the range -8 to 7, where `carry`
comes into the first of them: `(d + 8) / 16`, rounded down, is what goes on from a
digit `d` to the next one, and sixteen times that is taken off it. -/
@[specialize] def recodeM {m : Type → Type} [Monad m] [Overflow m] (carry : Int8) :
    List Int8 → m Recoding
  | [] => return ⟨[], carry⟩
  | d :: ds => do
    let d ← Digit.add d carry
    let carry := (← Digit.add d 8) >>> 4
    let d ← Digit.sub d (← Digit.mul carry 16)
    let rest ← recodeM carry ds
    return { rest with digits := d :: rest.digits }

/-- The scalar in signed digits: 64 of them, and a carry of 0 or 1. -/
def Scalar.recode (s : Scalar) : Recoding :=
  Id.run (recodeM 0 s.nibbles)

end Edwards25519
