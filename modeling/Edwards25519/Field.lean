import Edwards25519.Bytes
import Edwards25519.Word

/-!
# The field of 2^255 - 19 elements

An element of the field is held as five words, its *limbs*, and stands for

  `l₀ + l₁ 2^51 + l₂ 2^102 + l₃ 2^153 + l₄ 2^204`

modulo the prime `p = 2^255 - 19` (`Edwards25519.FieldElement.value`). A limb has
51 bits to spare for its share of the number and thirteen more for what
piles up between two reductions, so the same residue is held in many ways. Only
`Edwards25519.FieldElement.toBytes` brings out which one it is; equality (`==`),
the zero test and the sign go through it.

The routines that move the operations through the limbs are each written once, over
a monad that says what an overflow does (`Edwards25519.Overflow`). What the library
computes with is their reading in `Id`; their reading in `Option` is the one that shows
whether an intermediate result ever outgrew its word or its accumulator. The one idea
behind all of them is that `2^255` and `19` are the same residue. Whatever leaves the top
limb, whose upper end has the weight `2^255`, comes back into the bottom limb multiplied
by 19: so do the carry of a reduction (`Edwards25519.FieldElement.carryM`) and the upper
half of the schoolbook product (`Edwards25519.FieldElement.mulM`).
-/

namespace Edwards25519

/-- The prime `2^255 - 19`, the number of elements of the field. -/
def fieldPrime : Nat :=
  0x7fffffffffffffffffffffffffffffffffffffffffffffffffffffffffffffed

/-- An element of the field with `2^255 - 19` elements, as five limbs to base
`2^51`, the least significant one first. -/
structure FieldElement where
  /-- The limb with weight 1. -/
  l₀ : UInt64
  /-- The limb with weight `2^51`. -/
  l₁ : UInt64
  /-- The limb with weight `2^102`. -/
  l₂ : UInt64
  /-- The limb with weight `2^153`. -/
  l₃ : UInt64
  /-- The limb with weight `2^204`. -/
  l₄ : UInt64

namespace FieldElement

/-- The base to which the limbs are digits, `2^51`. -/
def base : Nat :=
  0x8000000000000

/-- The number that the limbs add up to. It represents its residue modulo
`fieldPrime`. -/
def value (a : FieldElement) : Nat :=
  a.l₀.toNat + base * (a.l₁.toNat + base * (a.l₂.toNat + base * (a.l₃.toNat +
    base * a.l₄.toNat)))

/-- Every limb of `a` is below the bound `B`. -/
structure LimbsBelow (B : Nat) (a : FieldElement) : Prop where
  l₀_lt : a.l₀.toNat < B
  l₁_lt : a.l₁.toNat < B
  l₂_lt : a.l₂.toNat < B
  l₃_lt : a.l₃.toNat < B
  l₄_lt : a.l₄.toNat < B

/-- The element of a number below `2^255`, with 51 bits of it in each limb. -/
def ofNat (n : Nat) : FieldElement where
  l₀ := Word.low51 (.ofNat n)
  l₁ := Word.low51 (.ofNat (n >>> 51))
  l₂ := Word.low51 (.ofNat (n >>> 102))
  l₃ := Word.low51 (.ofNat (n >>> 153))
  l₄ := Word.low51 (.ofNat (n >>> 204))

/-- The element whose residue is the number in the 255 lowest bits of a byte
string. Bit 255 is ignored, and a number from `fieldPrime` on wraps around. -/
def ofBytes (b : Bytes32) : FieldElement where
  l₀ := Word.low51 (b.word 0)
  l₁ := Word.low51 (b.word 6 >>> 3)
  l₂ := Word.low51 (b.word 12 >>> 6)
  l₃ := Word.low51 (b.word 19 >>> 1)
  l₄ := Word.low51 (b.word 24 >>> 12)

/-! ### Constants -/

/-- The zero of the field. -/
def zero : FieldElement :=
  ofNat 0

instance : Inhabited FieldElement := ⟨zero⟩

/-- The one of the field. -/
def one : FieldElement :=
  ofNat 1

/-- The element two. -/
def two : FieldElement :=
  ofNat 2

/-- The negative of one, which is `fieldPrime - 1`. -/
def minusOne : FieldElement :=
  ofNat 0x7fffffffffffffffffffffffffffffffffffffffffffffffffffffffffffffec

/-- The coefficient `d = -121665/121666` of the curve `-x² + y² = 1 + d x² y²`. -/
def edwardsD : FieldElement :=
  ofNat 0x52036cee2b6ffe738cc740797779e89800700a4d4141d8ab75eb4dca135978a3

/-- Twice the coefficient of the curve, in which the addition formulas are
written. -/
def edwardsD2 : FieldElement :=
  ofNat 0x2406d9dc56dffce7198e80f2eef3d13000e0149a8283b156ebd69b9426b2f159

/-- A square root of -1, namely two to the power `(p - 1)/4`. -/
def sqrtMinusOne : FieldElement :=
  ofNat 0x2b8324804fc1df0b2b4d00993dfbd7a72f431806ad2fe478c4ee1b274a0ea0b0

section Routines

open Word (low51)

variable {m : Type → Type} [Monad m] [Overflow m]

/-! ### Carries -/

/-- One pass of carries from the lowest limb to the highest. What the highest
limb holds above its 51 bits is folded back into the lowest one, which may then
exceed 51 bits again. -/
@[specialize] def carryM (h : FieldElement) : m FieldElement := do
  let h₁ ← Word.add h.l₁ (h.l₀ >>> 51)
  let h₂ ← Word.add h.l₂ (h₁ >>> 51)
  let h₃ ← Word.add h.l₃ (h₂ >>> 51)
  let h₄ ← Word.add h.l₄ (h₃ >>> 51)
  let h₀ ← Word.add (low51 h.l₀) (← Word.mul (h₄ >>> 51) 19)
  return ⟨h₀, low51 h₁, low51 h₂, low51 h₃, low51 h₄⟩

/-- One pass of carries in which the carry out of the highest limb is dropped,
so that the number is reduced modulo `2^255`. -/
@[specialize] def carryDropM (h : FieldElement) : m FieldElement := do
  let h₁ ← Word.add h.l₁ (h.l₀ >>> 51)
  let h₂ ← Word.add h.l₂ (h₁ >>> 51)
  let h₃ ← Word.add h.l₃ (h₂ >>> 51)
  let h₄ ← Word.add h.l₄ (h₃ >>> 51)
  return ⟨low51 h.l₀, low51 h₁, low51 h₂, low51 h₃, low51 h₄⟩

/-! ### Sums and differences -/

/-- The lowest limb of `4 p`, when the other four are `fourPrimeHigh`. -/
def fourPrimeLow : UInt64 :=
  0x1fffffffffffb4

/-- Each of the four upper limbs of `4 p`. -/
def fourPrimeHigh : UInt64 :=
  0x1ffffffffffffc

/-- The sum, limb by limb, with one pass of carries. -/
@[specialize] def addM (f g : FieldElement) : m FieldElement := do
  carryM
    ⟨← Word.add f.l₀ g.l₀, ← Word.add f.l₁ g.l₁, ← Word.add f.l₂ g.l₂, ← Word.add f.l₃ g.l₃,
      ← Word.add f.l₄ g.l₄⟩

/-- The difference, limb by limb, with one pass of carries. The limbs of `4 p`
are added first, so that none goes below zero as long as those of the subtrahend
are not above them. -/
@[specialize] def subM (f g : FieldElement) : m FieldElement := do
  carryM
    ⟨← Word.sub (← Word.add f.l₀ fourPrimeLow) g.l₀,
      ← Word.sub (← Word.add f.l₁ fourPrimeHigh) g.l₁,
      ← Word.sub (← Word.add f.l₂ fourPrimeHigh) g.l₂,
      ← Word.sub (← Word.add f.l₃ fourPrimeHigh) g.l₃,
      ← Word.sub (← Word.add f.l₄ fourPrimeHigh) g.l₄⟩

/-- The negative: the difference from `4 p`, with one pass of carries. -/
@[specialize] def negM (f : FieldElement) : m FieldElement := do
  carryM
    ⟨← Word.sub fourPrimeLow f.l₀, ← Word.sub fourPrimeHigh f.l₁, ← Word.sub fourPrimeHigh f.l₂,
      ← Word.sub fourPrimeHigh f.l₃, ← Word.sub fourPrimeHigh f.l₄⟩

/-! ### Products -/

/-- The limbs of five columns, which are carried in turn: each into the next, and the
highest into the lowest. -/
@[specialize] def carryColumnsM (t₀ t₁ t₂ t₃ t₄ : Wide) : m FieldElement := do
  let t₁ ← Wide.add t₁ t₀.high51
  let t₂ ← Wide.add t₂ t₁.high51
  let t₃ ← Wide.add t₃ t₂.high51
  let t₄ ← Wide.add t₄ t₃.high51
  let carry ← Wide.narrow t₄.high51
  let r₀ ← Word.add t₀.low51 (← Word.mul carry 19)
  let r₁ ← Word.add t₁.low51 (r₀ >>> 51)
  return ⟨low51 r₀, r₁, t₂.low51, t₃.low51, t₄.low51⟩

/-- The limbs of five columns, which give up their carries all at the same time: each to
the next one, and the highest to the lowest with a factor of 19. One pass of carries
follows. -/
@[specialize] def carryColumnsAtOnceM (t₀ t₁ t₂ t₃ t₄ : Wide) : m FieldElement := do
  let r₀ ← Word.add t₀.low51 (← Word.mul (← Wide.narrow t₄.high51) 19)
  let r₁ ← Word.add t₁.low51 (← Wide.narrow t₀.high51)
  let r₂ ← Word.add t₂.low51 (← Wide.narrow t₁.high51)
  let r₃ ← Word.add t₃.low51 (← Wide.narrow t₂.high51)
  let r₄ ← Word.add t₄.low51 (← Wide.narrow t₃.high51)
  carryM ⟨r₀, r₁, r₂, r₃, r₄⟩

/-- The product. Column `k` collects the products of limbs whose weights multiply
to `2^(51 k)`; those from column five on fall into column `k - 5` with a factor of
19, which is multiplied into the limbs of `f` beforehand. -/
@[specialize] def mulM (f g : FieldElement) : m FieldElement := do
  let w₁ ← Word.mul f.l₁ 19
  let w₂ ← Word.mul f.l₂ 19
  let w₃ ← Word.mul f.l₃ 19
  let w₄ ← Word.mul f.l₄ 19
  let t₀ ← Wide.sum₅ (.prod f.l₀ g.l₀) (.prod w₁ g.l₄) (.prod w₂ g.l₃) (.prod w₃ g.l₂)
    (.prod w₄ g.l₁)
  let t₁ ← Wide.sum₅ (.prod f.l₀ g.l₁) (.prod f.l₁ g.l₀) (.prod w₂ g.l₄) (.prod w₃ g.l₃)
    (.prod w₄ g.l₂)
  let t₂ ← Wide.sum₅ (.prod f.l₀ g.l₂) (.prod f.l₁ g.l₁) (.prod f.l₂ g.l₀) (.prod w₃ g.l₄)
    (.prod w₄ g.l₃)
  let t₃ ← Wide.sum₅ (.prod f.l₀ g.l₃) (.prod f.l₁ g.l₂) (.prod f.l₂ g.l₁) (.prod f.l₃ g.l₀)
    (.prod w₄ g.l₄)
  let t₄ ← Wide.sum₅ (.prod f.l₀ g.l₄) (.prod f.l₁ g.l₃) (.prod f.l₂ g.l₂) (.prod f.l₃ g.l₁)
    (.prod f.l₄ g.l₀)
  carryColumnsM t₀ t₁ t₂ t₃ t₄

/-- The square. The two equal products of a pair of different limbs are taken
once, with a doubled limb. -/
@[specialize] def squareM (f : FieldElement) : m FieldElement := do
  let d₀ ← Word.mul f.l₀ 2
  let d₁ ← Word.mul f.l₁ 2
  let d₂ ← Word.mul (← Word.mul f.l₂ 2) 19
  let w₃ ← Word.mul f.l₃ 19
  let w₄ ← Word.mul f.l₄ 19
  let d₄ ← Word.mul w₄ 2
  let t₀ ← Wide.sum₃ (.prod f.l₀ f.l₀) (.prod d₄ f.l₁) (.prod d₂ f.l₃)
  let t₁ ← Wide.sum₃ (.prod d₀ f.l₁) (.prod d₄ f.l₂) (.prod f.l₃ w₃)
  let t₂ ← Wide.sum₃ (.prod d₀ f.l₂) (.prod f.l₁ f.l₁) (.prod d₄ f.l₃)
  let t₃ ← Wide.sum₃ (.prod d₀ f.l₃) (.prod d₁ f.l₂) (.prod f.l₄ w₄)
  let t₄ ← Wide.sum₃ (.prod d₀ f.l₄) (.prod d₁ f.l₃) (.prod f.l₂ f.l₂)
  carryColumnsAtOnceM t₀ t₁ t₂ t₃ t₄

/-- The result of squaring `n` times in a row. -/
@[specialize] def squareTimesM : Nat → FieldElement → m FieldElement
  | 0, f => return f
  | n + 1, f => do squareTimesM n (← squareM f)

/-- Twice the square, without carrying the doubled limbs. -/
@[specialize] def doubleSquareM (f : FieldElement) : m FieldElement := do
  let r ← squareM f
  return ⟨← Word.add r.l₀ r.l₀, ← Word.add r.l₁ r.l₁, ← Word.add r.l₂ r.l₂, ← Word.add r.l₃ r.l₃,
    ← Word.add r.l₄ r.l₄⟩

/-! ### Powers -/

/-- The powers `f^(2^250 - 1)` and `f^11`, from which both powers below are
finished. The chain doubles the number of ones in the binary exponent: a power
with `i` ones, squared `j` times and multiplied by one with `j` ones, has
`i + j` of them. -/
@[specialize] def powerPairM (f : FieldElement) : m (FieldElement × FieldElement) := do
  let f2 ← squareM f
  let f9 ← mulM f (← squareTimesM 2 f2)
  let f11 ← mulM f2 f9
  let ones5 ← mulM f9 (← squareM f11)
  let ones10 ← mulM (← squareTimesM 5 ones5) ones5
  let ones20 ← mulM (← squareTimesM 10 ones10) ones10
  let ones40 ← mulM (← squareTimesM 20 ones20) ones20
  let ones50 ← mulM (← squareTimesM 10 ones40) ones10
  let ones100 ← mulM (← squareTimesM 50 ones50) ones50
  let ones200 ← mulM (← squareTimesM 100 ones100) ones100
  let ones250 ← mulM (← squareTimesM 50 ones200) ones50
  return (ones250, f11)

/-- The power `f^(p - 2)`, whose exponent is `2^255 - 2^5 + 11`. -/
@[specialize] def invertM (f : FieldElement) : m FieldElement := do
  let (ones250, f11) ← powerPairM f
  mulM (← squareTimesM 5 ones250) f11

/-- The power `f^((p - 5)/8)`, whose exponent is `2^252 - 4 + 1`. -/
@[specialize] def rootPowerM (f : FieldElement) : m FieldElement := do
  let (ones250, _) ← powerPairM f
  mulM (← squareTimesM 2 ones250) f

/-! ### The least residue -/

/-- The limbs of the least number with the same residue, once the limbs have been carried.
Another pass of carries brings the number below `2^255`. Adding 19 then carries out of bit
255 exactly if the number is `p` or more, and the fold of that carry, followed by adding
`2^255 - 19` and dropping bit 255, subtracts `p` in that case and nothing otherwise. -/
@[specialize] def freezeCarriedM (f : FieldElement) : m FieldElement := do
  let t ← carryM f
  let t ← carryM { t with l₀ := ← Word.add t.l₀ 19 }
  carryDropM
    ⟨← Word.add t.l₀ 0x7ffffffffffed, ← Word.add t.l₁ 0x7ffffffffffff,
      ← Word.add t.l₂ 0x7ffffffffffff, ← Word.add t.l₃ 0x7ffffffffffff,
      ← Word.add t.l₄ 0x7ffffffffffff⟩

/-- The limbs of the least number with the same residue. -/
@[specialize] def freezeM (f : FieldElement) : m FieldElement := do
  freezeCarriedM (← carryM f)

/-- The 32 bytes of the least number with the same residue. -/
@[specialize] def toBytesM (f : FieldElement) : m Bytes32 := do
  let t ← freezeM f
  return .ofWords (t.l₀ ||| (t.l₁ <<< 51)) ((t.l₁ >>> 13) ||| (t.l₂ <<< 38))
    ((t.l₂ >>> 26) ||| (t.l₃ <<< 25)) ((t.l₃ >>> 39) ||| (t.l₄ <<< 12))

end Routines

/-! ### Ring operations -/

instance : Add FieldElement where
  add f g := Id.run (addM f g)

instance : Sub FieldElement where
  sub f g := Id.run (subM f g)

instance : Neg FieldElement where
  neg f := Id.run (negM f)

instance : Mul FieldElement where
  mul f g := Id.run (mulM f g)

/-- The square. -/
def square (f : FieldElement) : FieldElement :=
  Id.run (squareM f)

/-- The element squared `n` times in a row, which is its power with the exponent
`2^n`. -/
def squareTimes (n : Nat) (f : FieldElement) : FieldElement :=
  Id.run (squareTimesM n f)

/-- Twice the square. -/
def doubleSquare (f : FieldElement) : FieldElement :=
  Id.run (doubleSquareM f)

/-! ### Inversion and roots -/

/-- The powers with the exponents `2^250 - 1` and `11`. -/
def powerPair (f : FieldElement) : FieldElement × FieldElement :=
  Id.run (powerPairM f)

/-- The inverse, as the power with the exponent `p - 2`. It is zero for zero. -/
def invert (f : FieldElement) : FieldElement :=
  Id.run (invertM f)

/-- The power with the exponent `(p - 5)/8`. -/
def rootPower (f : FieldElement) : FieldElement :=
  Id.run (rootPowerM f)

/-! ### The canonical form -/

/-- The 32 bytes of the least number with the same residue. -/
def toBytes (f : FieldElement) : Bytes32 :=
  Id.run (toBytesM f)

instance : BEq FieldElement where
  beq f g := f.toBytes == g.toBytes

/-- Whether the element is zero. -/
def isZero (f : FieldElement) : Bool :=
  f.toBytes == Bytes32.zero

/-- Whether the least number with the same residue is odd. This is taken for the
sign: of an element other than zero and its negative, exactly one is odd. -/
def isNegative (f : FieldElement) : Bool :=
  f.toBytes.first &&& 1 == 1

/-- Selecting an element limb by limb, each of them by the same condition, is selecting the
element. -/
theorem select_eq (f g : FieldElement) (c : Bool) :
    select f g c = ⟨select f.l₀ g.l₀ c, select f.l₁ g.l₁ c, select f.l₂ g.l₂ c,
      select f.l₃ g.l₃ c, select f.l₄ g.l₄ c⟩ := by
  cases c
  · rfl
  · rfl

/-- The negative of the element if the condition holds, and else the element
itself. -/
def negateIf (c : Bool) (f : FieldElement) : FieldElement :=
  select f (-f) c

end FieldElement

end Edwards25519
