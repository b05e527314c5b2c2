import Edwards25519.Field

/-!
# Points in coordinates

The curve is `-x² + y² = 1 + d x² y²` over the field with `2^255 - 19` elements.
A point on it is a pair `(x, y)`, but computing with such pairs takes a division for
every addition, so that the formulas work on fractions, and each of them on a form
that suits it:

* `Edwards25519.Affine` – the pair `(x, y)` itself;
* `Edwards25519.Extended` – the fractions `(X/Z, Y/Z)` together with `T = XY/Z`, the
  form in which points are passed around;
* `Edwards25519.Projective` – the same without `T`, all that a doubling reads;
* `Edwards25519.Completed` – fractions with a denominator each, `(X/Z, Y/T)`, the form
  in which additions and doublings deliver their result;
* `Edwards25519.Cached` – the right summand of an addition, as the products of which
  the formula is made;
* `Edwards25519.Precomputed` – the same for a point with `Z = 1`, the form of the
  entries of a table.

None of the conversions and operations asks whether the coordinates belong to a point of
the curve; that question is `Edwards25519.Extended.isOnCurve`.

The sum of `(x₁, y₁)` and `(x₂, y₂)` is

  `((x₁ y₂ + y₁ x₂)/(1 + d x₁ x₂ y₁ y₂), (y₁ y₂ + x₁ x₂)/(1 - d x₁ x₂ y₁ y₂))`,

without exception: because `d` is no square, the denominators vanish for no two
points of the curve, so that one formula serves for different points, for equal ones
and for the neutral element. It is evaluated through the products
`(y₁ + x₁)(y₂ + x₂)` and `(y₁ - x₁)(y₂ - x₂)`, whose difference and sum are twice the
two numerators (`Edwards25519.Extended.addCached`). Equality (`==`) is that of points, not
of coordinates: fractions are compared by multiplying crosswise with the denominators.
-/

namespace Edwards25519

/-! ### The forms -/

/-- A point by its two coordinates. -/
structure Affine where
  /-- The first coordinate. -/
  x : FieldElement
  /-- The second coordinate. -/
  y : FieldElement

/-- A point `(X/Z, Y/Z)`, with the product of the two numerators over the
denominator as a fourth coordinate. -/
structure Extended where
  /-- The numerator of the first coordinate. -/
  X : FieldElement
  /-- The numerator of the second coordinate. -/
  Y : FieldElement
  /-- The common denominator. -/
  Z : FieldElement
  /-- The element for which `X Y = Z T`. -/
  T : FieldElement

/-- A point `(X/Z, Y/Z)`. -/
structure Projective where
  /-- The numerator of the first coordinate. -/
  X : FieldElement
  /-- The numerator of the second coordinate. -/
  Y : FieldElement
  /-- The common denominator. -/
  Z : FieldElement

/-- A point `(X/Z, Y/T)`. -/
structure Completed where
  /-- The numerator of the first coordinate. -/
  X : FieldElement
  /-- The numerator of the second coordinate. -/
  Y : FieldElement
  /-- The denominator of the first coordinate. -/
  Z : FieldElement
  /-- The denominator of the second coordinate. -/
  T : FieldElement

/-- A point as right summand, by the sum and the difference of its numerators, its
denominator and `2 d T`. -/
structure Cached where
  /-- The sum `Y + X`. -/
  YplusX : FieldElement
  /-- The difference `Y - X`. -/
  YminusX : FieldElement
  /-- The denominator. -/
  Z : FieldElement
  /-- The product `2 d T`. -/
  T2d : FieldElement

/-- A point as right summand, by the sum and the difference of its coordinates and
`2 d x y`. -/
structure Precomputed where
  /-- The sum `y + x`. -/
  yPlusX : FieldElement
  /-- The difference `y - x`. -/
  yMinusX : FieldElement
  /-- The product `2 d x y`. -/
  xy2d : FieldElement

/-! ### Neutral elements -/

/-- The neutral element of the curve, `(0, 1)`. -/
def Affine.identity : Affine :=
  ⟨.zero, .one⟩

/-- The neutral element of the curve, with denominator one. -/
def Extended.identity : Extended :=
  ⟨.zero, .one, .one, .zero⟩

/-- The neutral element of the curve, with denominator one. -/
def Projective.identity : Projective :=
  ⟨.zero, .one, .one⟩

/-- The neutral element of the curve, as right summand. -/
def Cached.identity : Cached :=
  ⟨.one, .one, .one, .zero⟩

/-- The neutral element of the curve, as right summand with denominator one. -/
def Precomputed.identity : Precomputed :=
  ⟨.one, .one, .zero⟩

instance : Inhabited Affine := ⟨.identity⟩

instance : Inhabited Extended := ⟨.identity⟩

instance : Inhabited Projective := ⟨.identity⟩

instance : Inhabited Cached := ⟨.identity⟩

instance : Inhabited Precomputed := ⟨.identity⟩

/-! ### Selection

Selecting a point coordinate by coordinate, each of them by the same condition, is selecting the
point. -/

theorem Affine.select_eq (P Q : Affine) (c : Bool) :
    select P Q c = ⟨select P.x Q.x c, select P.y Q.y c⟩ := by
  cases c
  · rfl
  · rfl

theorem Extended.select_eq (P Q : Extended) (c : Bool) :
    select P Q c = ⟨select P.X Q.X c, select P.Y Q.Y c, select P.Z Q.Z c, select P.T Q.T c⟩ := by
  cases c
  · rfl
  · rfl

theorem Projective.select_eq (P Q : Projective) (c : Bool) :
    select P Q c = ⟨select P.X Q.X c, select P.Y Q.Y c, select P.Z Q.Z c⟩ := by
  cases c
  · rfl
  · rfl

theorem Cached.select_eq (P Q : Cached) (c : Bool) :
    select P Q c = ⟨select P.YplusX Q.YplusX c, select P.YminusX Q.YminusX c, select P.Z Q.Z c,
      select P.T2d Q.T2d c⟩ := by
  cases c
  · rfl
  · rfl

theorem Precomputed.select_eq (P Q : Precomputed) (c : Bool) :
    select P Q c = ⟨select P.yPlusX Q.yPlusX c, select P.yMinusX Q.yMinusX c,
      select P.xy2d Q.xy2d c⟩ := by
  cases c
  · rfl
  · rfl

/-! ### The base point -/

/-- The base point: `y = 4/5`, and `x` is the even one of the two elements that go
with it. -/
def Affine.generator : Affine where
  x := .ofNat 0x216936d3cd6e53fec0a4e231fdd6dc5c692cc7609525a7b2c9562d608f25d51a
  y := .ofNat 0x6666666666666666666666666666666666666666666666666666666666666658

/-- The base point, with denominator one. -/
def Extended.generator : Extended where
  X := Affine.generator.x
  Y := Affine.generator.y
  Z := .one
  T := .ofNat 0x67875f0fd78b766566ea4e8e64abe37d20f09f80775152f56dde8ab3a5b7dda3

/-! ### Conversions -/

/-- The point with denominator one. -/
def Affine.toExtended (P : Affine) : Extended :=
  ⟨P.x, P.y, .one, P.x * P.y⟩

/-- The point as right summand. -/
def Affine.toPrecomputed (P : Affine) : Precomputed :=
  ⟨P.y + P.x, P.y - P.x, P.x * P.y * .edwardsD2⟩

/-- The point by its numerators and denominator alone. -/
def Extended.toProjective (P : Extended) : Projective :=
  ⟨P.X, P.Y, P.Z⟩

/-- The point as right summand. -/
def Extended.toCached (P : Extended) : Cached :=
  ⟨P.Y + P.X, P.Y - P.X, P.Z, P.T * .edwardsD2⟩

/-- The coordinates of the point, at the price of one inversion. With the
denominator zero both are zero. -/
def Extended.toAffine (P : Extended) : Affine :=
  let zInv := P.Z.invert
  ⟨P.X * zInv, P.Y * zInv⟩

/-- The point with the product of the two denominators as common one. -/
def Completed.toProjective (P : Completed) : Projective :=
  ⟨P.X * P.T, P.Y * P.Z, P.Z * P.T⟩

/-- The point with the product of the two denominators as common one. -/
def Completed.toExtended (P : Completed) : Extended :=
  ⟨P.X * P.T, P.Y * P.Z, P.Z * P.T, P.X * P.Y⟩

/-- The point recovered from the sum and the difference of its coordinates: their
difference is `2 x` and their sum `2 y`, over the denominator two. -/
def Precomputed.toExtended (P : Precomputed) : Extended :=
  Completed.toExtended ⟨P.yPlusX - P.yMinusX, P.yPlusX + P.yMinusX, .two, .two⟩

/-! ### The equation of the curve -/

/-- Whether the pair satisfies the equation of the curve. -/
def Affine.isOnCurve (P : Affine) : Bool :=
  let xx := P.x.square
  let yy := P.y.square
  yy - xx == .one + .edwardsD * xx * yy

/-- Whether the coordinates satisfy `X Y = Z T` and `-X² + Y² = Z² + d T²`. The
denominator is not looked at. -/
def Extended.isOnCurve (P : Extended) : Bool :=
  P.X * P.Y == P.Z * P.T &&
    P.Y.square - P.X.square == P.Z.square + P.T.square * .edwardsD

/-! ### Addition -/

namespace Extended

/-- The sum with a prepared summand. -/
def addCached (P : Extended) (Q : Cached) : Completed :=
  let pp := (P.Y + P.X) * Q.YplusX
  let mm := (P.Y - P.X) * Q.YminusX
  let tt2d := P.T * Q.T2d
  let zz := P.Z * Q.Z
  let zz2 := zz + zz
  ⟨pp - mm, pp + mm, zz2 + tt2d, zz2 - tt2d⟩

/-- The difference with a prepared subtrahend, which is the sum with the roles of
its sum and difference exchanged and the sign of `2 d T` turned. -/
def subCached (P : Extended) (Q : Cached) : Completed :=
  let pm := (P.Y + P.X) * Q.YminusX
  let mp := (P.Y - P.X) * Q.YplusX
  let tt2d := P.T * Q.T2d
  let zz := P.Z * Q.Z
  let zz2 := zz + zz
  ⟨pm - mp, pm + mp, zz2 - tt2d, zz2 + tt2d⟩

/-- The sum with a prepared summand of denominator one, which saves a
multiplication. -/
def addPrecomputed (P : Extended) (Q : Precomputed) : Completed :=
  let pp := (P.Y + P.X) * Q.yPlusX
  let mm := (P.Y - P.X) * Q.yMinusX
  let txy2d := P.T * Q.xy2d
  let z2 := P.Z + P.Z
  ⟨pp - mm, pp + mm, z2 + txy2d, z2 - txy2d⟩

instance : Add Extended where
  add P Q := (P.addCached Q.toCached).toExtended

instance : Sub Extended where
  sub P Q := (P.subCached Q.toCached).toExtended

/-- The sum of a list of points, added up from the neutral element and from the
left. -/
def sum (Ps : List Extended) : Extended :=
  Ps.foldl (· + ·) identity

end Extended

/-! ### Doubling -/

/-- Twice a point, with four squarings and no other product: the curve equation
turns the denominators of the addition formula into `y² - x²` and
`2 - (y² - x²)`. -/
def Projective.double (P : Projective) : Completed :=
  let xx := P.X.square
  let yy := P.Y.square
  let zz2 := P.Z.doubleSquare
  let square := (P.X + P.Y).square
  let plus := yy + xx
  let minus := yy - xx
  ⟨square - plus, plus, minus, zz2 - minus⟩

/-- Twice a point. -/
def Extended.double (P : Extended) : Extended :=
  P.toProjective.double.toExtended

/-! ### Negation

The negative of `(x, y)` is `(-x, y)`. -/

instance : Neg Affine where
  neg P := ⟨-P.x, P.y⟩

instance : Neg Extended where
  neg P := ⟨-P.X, P.Y, P.Z, -P.T⟩

/-- The negative of the point if the condition holds, and else the point itself. -/
def Cached.negateIf (c : Bool) (P : Cached) : Cached :=
  ⟨select P.YplusX P.YminusX c, select P.YminusX P.YplusX c, P.Z, P.T2d.negateIf c⟩

/-- The negative of the point if the condition holds, and else the point itself. -/
def Precomputed.negateIf (c : Bool) (P : Precomputed) : Precomputed :=
  ⟨select P.yPlusX P.yMinusX c, select P.yMinusX P.yPlusX c, P.xy2d.negateIf c⟩

/-! ### Equality -/

instance : BEq Affine where
  beq P Q := P.x == Q.x && P.y == Q.y

instance : BEq Extended where
  beq P Q := P.X * Q.Z == P.Z * Q.X && P.Y * Q.Z == P.Z * Q.Y

instance : BEq Projective where
  beq P Q := P.X * Q.Z == P.Z * Q.X && P.Y * Q.Z == P.Z * Q.Y

instance : BEq Precomputed where
  beq P Q := P.yPlusX == Q.yPlusX && P.yMinusX == Q.yMinusX && P.xy2d == Q.xy2d

/-- Whether the point is the neutral element. -/
def Extended.isIdentity (P : Extended) : Bool :=
  P == identity

end Edwards25519
