import Mathlib.Algebra.Group.Even
import Mathlib.Tactic.FieldSimp
import Mathlib.Tactic.LinearCombination
import Mathlib.Tactic.Ring

/-!
# The group of a complete Edwards curve

Over a field in which -1 is a square and `d` is none, the points of `-x² + y² = 1 + d x² y²`
form a commutative group under

  `(x₁, y₁) + (x₂, y₂) = ((x₁ y₂ + y₁ x₂)/(1 + c), (y₁ y₂ + x₁ x₂)/(1 - c))`,

where `c = d x₁ x₂ y₁ y₂`. This is what the point formulas of the library are measured by:
they compute with fractions, and in several forms, but all of them compute in this group.

* `Edwards25519.CurvePoint.denominator_ne` – the two denominators never vanish;
* `Edwards25519.CurvePoint.sum_equation` – the sum of two points is a point;
* `Edwards25519.CurvePoint.add_rotate` – in a sum of three points the outer two may be
  exchanged, which together with commutativity is associativity.

For the last of these both sides are brought to a single fraction whose denominator is, by
the equations of the curve, a polynomial of low degree
(`Edwards25519.CurvePoint.one_sub_cross_sq`). What remains is an identity of polynomials
modulo the three equations, and it is proved by giving the multiple of each that has to be
added.

Where multiples of a point have to be evaluated, they are held as fractions `(X/Z, Y/Z)`, so that
nothing is divided. A single addition serves for all of them (`Edwards25519.Fraction.add`),
doubling included, because the curve is complete.
-/

namespace Edwards25519

/-- **A complete curve**: its coefficient `d` is not a square, in a field of odd
characteristic in which -1 is one. -/
class IsComplete {K : Type*} [Field K] (d : K) : Prop where
  two_ne_zero : (2 : K) ≠ 0
  isSquare_neg_one : IsSquare (-1 : K)
  not_isSquare : ¬IsSquare d

/-- A point of the curve `-x² + y² = 1 + d x² y²`. -/
@[ext] structure CurvePoint {K : Type*} [Field K] (d : K) where
  /-- The first coordinate. -/
  x : K
  /-- The second coordinate. -/
  y : K
  /-- The equation of the curve. -/
  equation : -x ^ 2 + y ^ 2 = 1 + d * x ^ 2 * y ^ 2

namespace CurvePoint

variable {K : Type*} [Field K] {d : K} (P Q R : CurvePoint d)

/-! ### The neutral element and negatives -/

instance : Zero (CurvePoint d) where
  zero := ⟨0, 1, by ring⟩

instance : Neg (CurvePoint d) where
  neg P := ⟨-P.x, P.y, by linear_combination P.equation⟩

@[simp] theorem zero_x : (0 : CurvePoint d).x = 0 := rfl

@[simp] theorem zero_y : (0 : CurvePoint d).y = 1 := rfl

@[simp] theorem neg_x : (-P).x = -P.x := rfl

@[simp] theorem neg_y : (-P).y = P.y := rfl

/-! ### The denominators -/

/-- The product `d x₁ x₂ y₁ y₂`, which is one away from either denominator of a sum. -/
def cross : K :=
  d * P.x * Q.x * P.y * Q.y

theorem cross_comm : cross P Q = cross Q P := by
  rw [cross, cross]
  ring

/-- If `c² = 1`, then `d` times a square is a square, with either root `i` of -1. -/
theorem mul_sq_eq_sq {i : K} (hi : i ^ 2 = -1) (hc : cross P Q ^ 2 = 1) :
    d * (P.x * P.y * (Q.y + i * Q.x)) ^ 2 = (P.y + i * cross P Q * P.x) ^ 2 := by
  have hP := P.equation
  have hQ := Q.equation
  rw [cross] at hc ⊢
  linear_combination d * P.x ^ 2 * P.y ^ 2 * hQ - hP + (1 + P.x ^ 2) * hc +
    (d * P.x ^ 2 * P.y ^ 2 * Q.x ^ 2 - (d * P.x * Q.x * P.y * Q.y) ^ 2 * P.x ^ 2) * hi

/-- With `d` no square, a factor on the left must vanish. -/
theorem eq_zero_of_mul_sq [IsComplete d] {a b : K} (h : d * a ^ 2 = b ^ 2) : a = 0 := by
  by_contra ha
  refine IsComplete.not_isSquare (d := d) ⟨b / a, ?_⟩
  field_simp
  exact h

/-- The same with the sign turned, because -1 is a square. -/
theorem eq_zero_of_mul_sq_eq_neg [IsComplete d] {a b : K} (h : d * a ^ 2 = -b ^ 2) : a = 0 := by
  obtain ⟨i, hi⟩ := IsComplete.isSquare_neg_one (d := d)
  refine eq_zero_of_mul_sq (d := d) (b := i * b) ?_
  linear_combination h + b ^ 2 * hi

/-- **The denominators of a sum** are not zero. -/
theorem denominator_ne [IsComplete d] : cross P Q ^ 2 ≠ 1 := by
  intro hc
  obtain ⟨i, hi⟩ := IsComplete.isSquare_neg_one (d := d)
  have hi' : i ^ 2 = -1 := by rw [hi, sq]
  have hni : (-i) ^ 2 = -1 := by rw [neg_sq, hi']
  have hne : cross P Q ≠ 0 := by
    intro h0
    rw [h0] at hc
    norm_num at hc
  rw [cross] at hne
  have hPx : P.x ≠ 0 := by
    intro h0
    exact hne (by rw [h0]; ring)
  have hPy : P.y ≠ 0 := by
    intro h0
    exact hne (by rw [h0]; ring)
  have hQy : Q.y ≠ 0 := by
    intro h0
    exact hne (by rw [h0]; ring)
  -- The factor vanishes with either root of -1, and the two add up to `2 y`.
  have hplus := eq_zero_of_mul_sq (mul_sq_eq_sq P Q hi' hc)
  have hminus := eq_zero_of_mul_sq (mul_sq_eq_sq P Q hni hc)
  have hxy : P.x * P.y ≠ 0 := mul_ne_zero hPx hPy
  have hplus' : Q.y + i * Q.x = 0 := (mul_eq_zero.1 hplus).resolve_left hxy
  have hminus' : Q.y + -i * Q.x = 0 := (mul_eq_zero.1 hminus).resolve_left hxy
  have htwo : (2 : K) * Q.y = 0 := by linear_combination hplus' + hminus'
  exact hQy ((mul_eq_zero.1 htwo).resolve_left (IsComplete.two_ne_zero d))

theorem one_add_cross_ne [IsComplete d] : 1 + cross P Q ≠ 0 := by
  intro h0
  apply denominator_ne P Q
  linear_combination (cross P Q - 1) * h0

theorem one_sub_cross_ne [IsComplete d] : 1 - cross P Q ≠ 0 := by
  intro h0
  apply denominator_ne P Q
  linear_combination (-1 - cross P Q) * h0

/-! ### Sums -/

/-- The numerator of the first coordinate of a sum. -/
def sumX : K :=
  P.x * Q.y + P.y * Q.x

/-- The numerator of the second coordinate of a sum. -/
def sumY : K :=
  P.y * Q.y + P.x * Q.x

/-- **A sum of points is a point**, with the denominators multiplied out. -/
theorem sum_equation_cleared :
    -(sumX P Q * (1 - cross P Q)) ^ 2 + (sumY P Q * (1 + cross P Q)) ^ 2 =
      (1 - cross P Q ^ 2) ^ 2 + d * (sumX P Q * sumY P Q) ^ 2 := by
  have hP := P.equation
  have hQ := Q.equation
  rw [cross, sumX, sumY]
  linear_combination
    ((-Q.x ^ 2 + Q.y ^ 2) * (1 + d * P.x ^ 2 * P.y ^ 2 * (d * Q.x ^ 2 * Q.y ^ 2)) -
      d * Q.x ^ 2 * Q.y ^ 2 * (-P.x ^ 2 + P.y ^ 2 + 1 + d * P.x ^ 2 * P.y ^ 2)) * hP +
    ((1 + d * P.x ^ 2 * P.y ^ 2) * (1 + d * P.x ^ 2 * P.y ^ 2 * (d * Q.x ^ 2 * Q.y ^ 2)) -
      d * P.x ^ 2 * P.y ^ 2 * (-Q.x ^ 2 + Q.y ^ 2 + 1 + d * Q.x ^ 2 * Q.y ^ 2)) * hQ

/-- The product of the two denominators, by the equations of the curve. -/
theorem one_sub_cross_sq :
    1 - cross P Q ^ 2 = (-P.x ^ 2 + P.y ^ 2) + (-Q.x ^ 2 + Q.y ^ 2) -
      (-P.x ^ 2 + P.y ^ 2) * (-Q.x ^ 2 + Q.y ^ 2) := by
  have hP := P.equation
  have hQ := Q.equation
  rw [cross]
  linear_combination (-Q.x ^ 2 + Q.y ^ 2 - 1) * hP + d * P.x ^ 2 * P.y ^ 2 * hQ

variable [IsComplete d]

theorem sum_equation :
    -(sumX P Q / (1 + cross P Q)) ^ 2 + (sumY P Q / (1 - cross P Q)) ^ 2 =
      1 + d * (sumX P Q / (1 + cross P Q)) ^ 2 * (sumY P Q / (1 - cross P Q)) ^ 2 := by
  have hplus := one_add_cross_ne P Q
  have hminus := one_sub_cross_ne P Q
  field_simp
  linear_combination sum_equation_cleared P Q

instance : Add (CurvePoint d) where
  add P Q := ⟨sumX P Q / (1 + cross P Q), sumY P Q / (1 - cross P Q), sum_equation P Q⟩

theorem add_x : (P + Q).x = sumX P Q / (1 + cross P Q) := rfl

theorem add_y : (P + Q).y = sumY P Q / (1 - cross P Q) := rfl

/-- The formula is symmetric in the two points. -/
protected theorem add_comm : P + Q = Q + P := by
  ext
  · rw [add_x, add_x, cross_comm, sumX, sumX]
    ring
  · rw [add_y, add_y, cross_comm, sumY, sumY]
    ring

/-! ### Sums of three points -/

theorem one_sub_cross_sq_ne : 1 - cross P Q ^ 2 ≠ 0 :=
  fun h0 => denominator_ne P Q (sub_eq_zero.1 h0).symm

/-- The numerator of the first coordinate of `P + Q + R`, cleared of the denominators of
`P + Q`. -/
theorem sumX_add : (1 - cross P Q ^ 2) * sumX (P + Q) R =
    sumX P Q * R.y * (1 - cross P Q) + sumY P Q * R.x * (1 + cross P Q) := by
  have hplus := one_add_cross_ne P Q
  have hminus := one_sub_cross_ne P Q
  rw [sumX, add_x, add_y]
  field_simp
  ring

/-- The numerator of the second coordinate of `P + Q + R`, cleared of the denominators of
`P + Q`. -/
theorem sumY_add : (1 - cross P Q ^ 2) * sumY (P + Q) R =
    sumY P Q * R.y * (1 + cross P Q) + sumX P Q * R.x * (1 - cross P Q) := by
  have hplus := one_add_cross_ne P Q
  have hminus := one_sub_cross_ne P Q
  rw [sumY, add_x, add_y]
  field_simp
  ring

/-- What a denominator of `P + Q + R` is away from one, cleared of the denominators of
`P + Q`. -/
theorem cross_add : (1 - cross P Q ^ 2) * cross (P + Q) R =
    d * (R.x * R.y) * (sumX P Q * sumY P Q) := by
  have hplus := one_add_cross_ne P Q
  have hminus := one_sub_cross_ne P Q
  change _ * (d * (P + Q).x * R.x * (P + Q).y * R.y) = _
  rw [add_x, add_y]
  field_simp
  ring

/-- The first coordinates of `P + Q + R` and `R + Q + P`, cleared of all denominators. -/
theorem sumX_rotate :
    (1 - cross P Q ^ 2) * sumX (P + Q) R *
        ((1 - cross R Q ^ 2) + (1 - cross R Q ^ 2) * cross (R + Q) P) =
      (1 - cross R Q ^ 2) * sumX (R + Q) P *
        ((1 - cross P Q ^ 2) + (1 - cross P Q ^ 2) * cross (P + Q) R) := by
  have hP := P.equation
  have hQ := Q.equation
  have hR := R.equation
  rw [sumX_add, sumX_add, cross_add, cross_add, one_sub_cross_sq, one_sub_cross_sq]
  simp only [sumX, sumY, cross]
  linear_combination
    (R.y * (P.x * Q.y + P.y * Q.x) + R.x * (P.y * Q.y + P.x * Q.x)) *
      ((-P.x ^ 2 + P.y ^ 2) - (-R.x ^ 2 + R.y ^ 2)) * hQ -
    d * (Q.x * Q.y) * (R.x * (P.y * Q.y + P.x * Q.x) - R.y * (P.x * Q.y + P.y * Q.x)) *
      (Q.x * Q.y * (R.x ^ 2 + R.y ^ 2) + R.x * R.y * (Q.x ^ 2 + Q.y ^ 2)) * hP +
    d * (Q.x * Q.y) * (P.x * (R.y * Q.y + R.x * Q.x) - P.y * (R.x * Q.y + R.y * Q.x)) *
      (P.x * P.y * (Q.x ^ 2 + Q.y ^ 2) + Q.x * Q.y * (P.x ^ 2 + P.y ^ 2)) * hR

/-- The second coordinates of `P + Q + R` and `R + Q + P`, cleared of all denominators. -/
theorem sumY_rotate :
    (1 - cross P Q ^ 2) * sumY (P + Q) R *
        ((1 - cross R Q ^ 2) - (1 - cross R Q ^ 2) * cross (R + Q) P) =
      (1 - cross R Q ^ 2) * sumY (R + Q) P *
        ((1 - cross P Q ^ 2) - (1 - cross P Q ^ 2) * cross (P + Q) R) := by
  have hP := P.equation
  have hQ := Q.equation
  have hR := R.equation
  rw [sumY_add, sumY_add, cross_add, cross_add, one_sub_cross_sq, one_sub_cross_sq]
  simp only [sumX, sumY, cross]
  linear_combination
    (R.y * (P.y * Q.y + P.x * Q.x) + R.x * (P.x * Q.y + P.y * Q.x)) *
      ((-P.x ^ 2 + P.y ^ 2) - (-R.x ^ 2 + R.y ^ 2)) * hQ +
    d * (Q.x * Q.y) * (R.y * (P.y * Q.y + P.x * Q.x) - R.x * (P.x * Q.y + P.y * Q.x)) *
      (Q.x * Q.y * (R.x ^ 2 + R.y ^ 2) + R.x * R.y * (Q.x ^ 2 + Q.y ^ 2)) * hP -
    d * (Q.x * Q.y) * (P.y * (R.y * Q.y + R.x * Q.x) - P.x * (R.x * Q.y + R.y * Q.x)) *
      (P.x * P.y * (Q.x ^ 2 + Q.y ^ 2) + Q.x * Q.y * (P.x ^ 2 + P.y ^ 2)) * hR

/-- **The outer two of three points may be exchanged.** -/
theorem add_rotate : P + Q + R = R + Q + P := by
  -- Crosswise multiplied, the two sides are those of the cleared equations but for a factor.
  have hne := mul_ne_zero (one_sub_cross_sq_ne P Q) (one_sub_cross_sq_ne R Q)
  ext
  · rw [add_x, add_x, div_eq_div_iff (one_add_cross_ne _ _) (one_add_cross_ne _ _)]
    apply mul_left_cancel₀ hne
    linear_combination sumX_rotate P Q R
  · rw [add_y, add_y, div_eq_div_iff (one_sub_cross_ne _ _) (one_sub_cross_ne _ _)]
    apply mul_left_cancel₀ hne
    linear_combination sumY_rotate P Q R

protected theorem add_assoc : P + Q + R = P + (Q + R) := by
  rw [add_rotate, CurvePoint.add_comm R Q, CurvePoint.add_comm]

/-! ### The group -/

protected theorem zero_add : 0 + P = P := by
  ext
  · simp [add_x, sumX, cross]
  · simp [add_y, sumY, cross]

protected theorem neg_add_cancel : -P + P = 0 := by
  have hminus := one_sub_cross_ne (-P) P
  ext
  · simp [add_x, sumX, mul_comm]
  · rw [add_y, zero_y, div_eq_one_iff_eq hminus, sumY, cross, neg_x, neg_y]
    linear_combination P.equation

instance : AddCommGroup (CurvePoint d) where
  add_assoc P Q R := CurvePoint.add_assoc P Q R
  zero_add P := CurvePoint.zero_add P
  add_zero P := by rw [CurvePoint.add_comm, CurvePoint.zero_add]
  neg_add_cancel P := CurvePoint.neg_add_cancel P
  add_comm P Q := CurvePoint.add_comm P Q
  nsmul := nsmulRec
  zsmul := zsmulRec

end CurvePoint

/-! ### Points as fractions -/

/-- The fractions `X/Z` and `Y/Z`. -/
structure Fraction (K : Type*) where
  /-- The numerator of the first coordinate. -/
  X : K
  /-- The numerator of the second coordinate. -/
  Y : K
  /-- The common denominator. -/
  Z : K

namespace Fraction

variable {K : Type*} [Field K] {d : K} {f g : Fraction K} {P Q : CurvePoint d}

/-- The sum of two points of the curve with the coefficient `d`. -/
def add (d : K) (f g : Fraction K) : Fraction K :=
  let z := f.Z * g.Z
  let xx := f.X * g.X
  let yy := f.Y * g.Y
  let minus := z ^ 2 - d * xx * yy
  let plus := z ^ 2 + d * xx * yy
  ⟨z * minus * (f.X * g.Y + f.Y * g.X), z * plus * (yy + xx), minus * plus⟩

/-- A point, doubled `n` times. -/
def doubleTimes (d : K) : ℕ → Fraction K → Fraction K
  | 0, f => f
  | n + 1, f => doubleTimes d n (add d f f)

/-- The fractions are the coordinates of the point. -/
structure Represents (f : Fraction K) (P : CurvePoint d) : Prop where
  ne_zero : f.Z ≠ 0
  X : f.X = P.x * f.Z
  Y : f.Y = P.y * f.Z

variable [IsComplete d]

theorem Represents.add (hf : f.Represents P) (hg : g.Represents Q) :
    (add d f g).Represents (P + Q) := by
  have hplus := CurvePoint.one_add_cross_ne P Q
  have hminus := CurvePoint.one_sub_cross_ne P Q
  have hz : f.Z * g.Z ≠ 0 := mul_ne_zero hf.ne_zero hg.ne_zero
  -- Each part of the formula is that of the group law, times a power of the denominator.
  have hleft : (f.Z * g.Z) ^ 2 - d * (f.X * g.X) * (f.Y * g.Y) =
      (f.Z * g.Z) ^ 2 * (1 - CurvePoint.cross P Q) := by
    rw [hf.X, hf.Y, hg.X, hg.Y, CurvePoint.cross]
    ring
  have hright : (f.Z * g.Z) ^ 2 + d * (f.X * g.X) * (f.Y * g.Y) =
      (f.Z * g.Z) ^ 2 * (1 + CurvePoint.cross P Q) := by
    rw [hf.X, hf.Y, hg.X, hg.Y, CurvePoint.cross]
    ring
  have hx : f.X * g.Y + f.Y * g.X = f.Z * g.Z * CurvePoint.sumX P Q := by
    rw [hf.X, hf.Y, hg.X, hg.Y, CurvePoint.sumX]
    ring
  have hy : f.Y * g.Y + f.X * g.X = f.Z * g.Z * CurvePoint.sumY P Q := by
    rw [hf.X, hf.Y, hg.X, hg.Y, CurvePoint.sumY]
    ring
  refine ⟨?_, ?_, ?_⟩
  all_goals simp only [Fraction.add, hleft, hright, hx, hy, CurvePoint.add_x, CurvePoint.add_y]
  · exact mul_ne_zero (mul_ne_zero (pow_ne_zero 2 hz) hminus) (mul_ne_zero (pow_ne_zero 2 hz) hplus)
  · field_simp
  · field_simp

theorem Represents.doubleTimes (hf : f.Represents P) (n : ℕ) :
    (doubleTimes d n f).Represents (2 ^ n • P) := by
  induction n generalizing f P with
  | zero =>
    rw [pow_zero, one_nsmul]
    exact hf
  | succ n ih =>
    have h := ih (hf.add hf)
    rw [← two_nsmul, ← mul_nsmul', ← pow_succ] at h
    exact h

end Fraction

end Edwards25519
