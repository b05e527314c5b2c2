/-!
# Words, accumulators and overflow

Numbers of 255 bits are worked on in pieces that fit a machine word of 64 bits;
sums of products of such words are collected in accumulators of 128 bits. The
routines built on them are right only as long as no intermediate result outgrows
its width, so overflow is made visible here as an *effect*: each operation is
written once, over a monad that decides what becomes of a result that does not
fit (`Edwards25519.Overflow`), and has two readings.

* In `Id` it wraps around. This is the arithmetic of the machine, and the
  reading that runs.
* In `Option` it stops the computation. A routine that returns `some` value in
  this reading has met no overflow on the way.

Shifts to the right, masks and products of two words into an accumulator are
exact in every case and need no monad. Small signed digits of eight bits are
treated like words.

Two more operations are shared by every kind of value: `Edwards25519.select` takes one
of two values by a condition, and `Edwards25519.wipe` is what is left where a value has
been overwritten.
-/

namespace Edwards25519

/-- What becomes of the result of a fixed-width operation. -/
class Overflow (m : Type → Type) where
  /-- The outcome of an operation with the wrapped result `a`, where `fits` says
  whether that is the exact result. -/
  outcome {α : Type} (fits : Bool) (a : α) : m α

/-- Machine arithmetic: whether or not the result fits, what is left of it is
used. -/
@[always_inline] instance : Overflow Id where
  outcome _ a := a

/-- Checked arithmetic: a result that does not fit ends the computation. -/
instance : Overflow Option where
  outcome fits a := if fits then some a else none

variable {m : Type → Type} [Overflow m]

/-! ### Words of 64 bits -/

namespace Word

/-- The sum of two words. -/
@[inline] def add (x y : UInt64) : m UInt64 :=
  Overflow.outcome (x.toNat + y.toNat < UInt64.size) (x + y)

/-- The difference of two words. -/
@[inline] def sub (x y : UInt64) : m UInt64 :=
  Overflow.outcome (y.toNat ≤ x.toNat) (x - y)

/-- The product of two words, where it is expected to be a word again. -/
@[inline] def mul (x y : UInt64) : m UInt64 :=
  Overflow.outcome (x.toNat * y.toNat < UInt64.size) (x * y)

/-- The 51 lowest bits of a word. -/
@[inline] def low51 (x : UInt64) : UInt64 :=
  x &&& 0x7ffffffffffff

end Word

/-! ### Accumulators of 128 bits -/

/-- An accumulator for sums of products of words. -/
abbrev Wide := BitVec 128

namespace Wide

/-- The number of values of an accumulator, `2^128`. -/
abbrev size : Nat :=
  0x100000000000000000000000000000000

/-- The full product of two words, which always fits. -/
@[inline] def prod (x y : UInt64) : Wide :=
  BitVec.ofNatLT (x.toNat * y.toNat) (by
    have h : x.toNat * y.toNat < 2 ^ 64 * 2 ^ 64 := Nat.mul_lt_mul'' x.toNat_lt y.toNat_lt
    exact h)

/-- The sum of two accumulators. -/
@[inline] def add (x y : Wide) : m Wide :=
  Overflow.outcome (x.toNat + y.toNat < size) (x + y)

/-- The sum of three accumulators, taken from the left. -/
@[inline] def sum₃ [Monad m] (a b c : Wide) : m Wide := do
  add (← add a b) c

/-- The sum of five accumulators, taken from the left. -/
@[inline] def sum₅ [Monad m] (a b c d e : Wide) : m Wide := do
  add (← add (← sum₃ a b c) d) e

/-- The 51 lowest bits of an accumulator, as a word. -/
@[inline] def low51 (x : Wide) : UInt64 :=
  Word.low51 (.ofNat x.toNat)

/-- What an accumulator holds above its 51 lowest bits. -/
@[inline] def high51 (x : Wide) : Wide :=
  x >>> 51

/-- An accumulator as a word, where it is expected to hold no more than that. -/
@[inline] def narrow (x : Wide) : m UInt64 :=
  Overflow.outcome (x.toNat < UInt64.size) (.ofNat x.toNat)

end Wide

/-! ### Signed digits of eight bits -/

namespace Digit

/-- The sum of two digits. -/
@[inline] def add (x y : Int8) : m Int8 :=
  Overflow.outcome (-128 ≤ x.toInt + y.toInt ∧ x.toInt + y.toInt < 128) (x + y)

/-- The difference of two digits. -/
@[inline] def sub (x y : Int8) : m Int8 :=
  Overflow.outcome (-128 ≤ x.toInt - y.toInt ∧ x.toInt - y.toInt < 128) (x - y)

/-- The product of two digits. -/
@[inline] def mul (x y : Int8) : m Int8 :=
  Overflow.outcome (-128 ≤ x.toInt * y.toInt ∧ x.toInt * y.toInt < 128) (x * y)

end Digit

/-! ### Selecting and wiping

Scalars are secrets, and so is everything computed from them; code that handles them picks
between two finished values instead of deciding which one to compute, and overwrites a value
it no longer needs. -/

/-- The first value if the condition fails and the second if it holds. -/
def select {α : Type} (a b : α) (c : Bool) : α :=
  bif c then b else a

@[simp] theorem select_false {α : Type} (a b : α) : select a b false = a := rfl

@[simp] theorem select_true {α : Type} (a b : α) : select a b true = b := rfl

/-- What is taken from a selected value is selected from what is taken from the two. -/
theorem apply_select {α β : Type} (f : α → β) (a b : α) (c : Bool) :
    f (select a b c) = select (f a) (f b) c := by
  cases c
  · rfl
  · rfl

/-- The value found in the place of another once that has been overwritten. That this is the
default of the type, whatever the other was, is assumed of the overwriting itself, which is no part
of this library. -/
def wipe {α : Type} [Inhabited α] (_ : α) : α :=
  default

end Edwards25519
