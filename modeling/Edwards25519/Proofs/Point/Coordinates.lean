import Edwards25519.Proofs.Point.Residues

/-!
# Coordinates and the point they stand for

Each form in which the library holds a point is related here to a point of the curve
(`Edwards25519.Point`). The forms that are fractions stand for a point when their
denominators are not zero and the fractions are its coordinates; which denominator it is
does not matter. The conversions between the forms, whose residues are known from
`Edwards25519.Extended.Holds` and its like, keep the point, and so equality of
coordinates, crosswise multiplied, is equality of points
(`Edwards25519.Extended.Denotes.beq_iff`).

Every operation on coordinates is the operation of the group on the points that they stand
for, whatever the forms and the denominators: addition and subtraction with a summand of
either prepared form, doubling, negation and its conditional variants. The formulas deliver
fractions whose denominators are those of the group law, multiplied with the denominators that
came in, so that they are not zero because those of the group law are not. A doubling gets its
denominators from the equation of the curve.

The two curve checks, for pairs and for extended coordinates, are written apart, and the second
neither divides nor looks at the denominator. Where the denominator is not zero, this is no weaker
than dividing and testing the pair (`Edwards25519.Extended.isOnCurve_iff_toAffine`). Where it is
zero, what is left of the two equations would make `d` or `-d` a square, and neither is one, so
that all coordinates must be zero. These do pass; a caller that wants to exclude them has to look
at the denominator.
-/

namespace Edwards25519

section Forms

open FieldElement

variable {P Q : Point}

/-! ### The forms -/

/-- The pair of the coordinates of a point. -/
structure Affine.Denotes (A : Affine) (P : Point) : Prop where
  x : A.x.Denotes P.x
  y : A.y.Denotes P.y

/-- Fractions with the common denominator `z`, and the product of the two. -/
structure Extended.DenotesOver (E : Extended) (P : Point) (z : Residue) : Prop where
  ne_zero : z ≠ 0
  X : E.X.Denotes (P.x * z)
  Y : E.Y.Denotes (P.y * z)
  Z : E.Z.Denotes z
  T : E.T.Denotes (P.x * P.y * z)

/-- Extended coordinates of a point, with some denominator. -/
def Extended.Denotes (E : Extended) (P : Point) : Prop :=
  ∃ z, E.DenotesOver P z

/-- Fractions with the common denominator `z`. -/
structure Projective.DenotesOver (E : Projective) (P : Point) (z : Residue) : Prop where
  ne_zero : z ≠ 0
  X : E.X.Denotes (P.x * z)
  Y : E.Y.Denotes (P.y * z)
  Z : E.Z.Denotes z

/-- Projective coordinates of a point, with some denominator. -/
def Projective.Denotes (E : Projective) (P : Point) : Prop :=
  ∃ z, E.DenotesOver P z

/-- Fractions with the denominators `z` and `t`. -/
structure Completed.DenotesOver (E : Completed) (P : Point) (z t : Residue) : Prop where
  ne_zero : z ≠ 0
  ne_zero' : t ≠ 0
  X : E.X.Denotes (P.x * z)
  Y : E.Y.Denotes (P.y * t)
  Z : E.Z.Denotes z
  T : E.T.Denotes t

/-- Fractions for the coordinates of a point, with some denominators. -/
def Completed.Denotes (E : Completed) (P : Point) : Prop :=
  ∃ z t, E.DenotesOver P z t

/-- A summand with the denominator `z`. -/
structure Cached.DenotesOver (E : Cached) (P : Point) (z : Residue) : Prop where
  ne_zero : z ≠ 0
  YplusX : E.YplusX.Denotes ((P.y + P.x) * z)
  YminusX : E.YminusX.Denotes ((P.y - P.x) * z)
  Z : E.Z.Denotes z
  T2d : E.T2d.Denotes (2 * coefficient * P.x * P.y * z)

/-- A summand with some denominator. -/
def Cached.Denotes (E : Cached) (P : Point) : Prop :=
  ∃ z, E.DenotesOver P z

/-- A summand with denominator one. -/
structure Precomputed.Denotes (E : Precomputed) (P : Point) : Prop where
  yPlusX : E.yPlusX.Denotes (P.y + P.x)
  yMinusX : E.yMinusX.Denotes (P.y - P.x)
  xy2d : E.xy2d.Denotes (2 * coefficient * P.x * P.y)

theorem Affine.Denotes.holds {A : Affine} (h : A.Denotes P) : A.Holds P.x P.y :=
  ⟨h.x, h.y⟩

theorem Extended.DenotesOver.holds {E : Extended} {z : Residue} (h : E.DenotesOver P z) :
    E.Holds (P.x * z) (P.y * z) z (P.x * P.y * z) :=
  ⟨h.X, h.Y, h.Z, h.T⟩

theorem Completed.DenotesOver.holds {E : Completed} {z t : Residue} (h : E.DenotesOver P z t) :
    E.Holds (P.x * z) (P.y * t) z t :=
  ⟨h.X, h.Y, h.Z, h.T⟩

theorem Cached.DenotesOver.holds {E : Cached} {z : Residue} (h : E.DenotesOver P z) :
    E.Holds ((P.y + P.x) * z) ((P.y - P.x) * z) z (2 * coefficient * P.x * P.y * z) :=
  ⟨h.YplusX, h.YminusX, h.Z, h.T2d⟩

theorem Precomputed.Denotes.holds {E : Precomputed} (h : E.Denotes P) :
    E.Holds (P.y + P.x) (P.y - P.x) (2 * coefficient * P.x * P.y) :=
  ⟨h.yPlusX, h.yMinusX, h.xy2d⟩

/-- A summand with denominator one holds what one with that denominator does. -/
theorem Precomputed.Denotes.holds_mul_one {E : Precomputed} (h : E.Denotes P) :
    E.Holds ((P.y + P.x) * 1) ((P.y - P.x) * 1) (2 * coefficient * P.x * P.y * 1) := by
  rw [mul_one, mul_one, mul_one]
  exact h.holds

/-- Fractions with the residues of fractions for a point are fractions for that point. -/
theorem Completed.Denotes.congr {E F : Completed} {X Y Z T : Residue} (hE : E.Denotes P)
    (hF : F.Holds X Y Z T) (h : F.residues = E.residues) : F.Denotes P := by
  obtain ⟨z, t, hzt⟩ := hE
  rw [hF.residues_eq, hzt.holds.residues_eq] at h
  simp only [Prod.mk.injEq] at h
  obtain ⟨rfl, rfl, rfl, rfl⟩ := h
  exact ⟨_, _, hzt.ne_zero, hzt.ne_zero', hF.X, hF.Y, hF.Z, hF.T⟩

/-- **The equation of the curve**, cleared of the denominator. -/
theorem equation_div_iff {X Y Z T : Residue} (hne : Z ≠ 0) (hproduct : X * Y = Z * T) :
    -(X / Z) ^ 2 + (Y / Z) ^ 2 = 1 + coefficient * (X / Z) ^ 2 * (Y / Z) ^ 2 ↔
      -X ^ 2 + Y ^ 2 = Z ^ 2 + coefficient * T ^ 2 := by
  rw [mul_assoc, ← mul_pow, affine_product hne hproduct]
  field_simp

/-- Coordinates that satisfy the two equations, over a denominator other than zero, are
those of a point. -/
theorem Extended.exists_denotes {E : Extended} (hX : LimbsBelow (2 ^ 53 - 76) E.X)
    (hY : LimbsBelow (2 ^ 53 - 76) E.Y) (hZ : LimbsBelow (2 ^ 53 - 76) E.Z)
    (hT : LimbsBelow (2 ^ 53 - 76) E.T) (hne : E.Z.residue ≠ 0)
    (hproduct : E.X.residue * E.Y.residue = E.Z.residue * E.T.residue)
    (hcurve : -E.X.residue ^ 2 + E.Y.residue ^ 2 =
      E.Z.residue ^ 2 + coefficient * E.T.residue ^ 2) : ∃ P, E.Denotes P := by
  have hTeq : E.T.residue = E.X.residue / E.Z.residue * (E.Y.residue / E.Z.residue) *
      E.Z.residue := by
    rw [affine_product hne hproduct, div_mul_cancel₀ _ hne]
  have hequation := (equation_div_iff hne hproduct).2 hcurve
  exact ⟨⟨_, _, hequation⟩, E.Z.residue, hne, ⟨hX, (div_mul_cancel₀ _ hne).symm⟩,
    ⟨hY, (div_mul_cancel₀ _ hne).symm⟩, ⟨hZ, rfl⟩, ⟨hT, hTeq⟩⟩

/-! ### Conversions -/

/-- A pair becomes fractions with the denominator one. -/
theorem Affine.Denotes.toExtended_one {A : Affine} (h : A.Denotes P) :
    A.toExtended.DenotesOver P 1 := by
  have hpair := h.holds.toExtended
  refine ⟨one_ne_zero, hpair.X.congr ?_, hpair.Y.congr ?_, hpair.Z, hpair.T.congr ?_⟩
  all_goals rw [mul_one]

theorem Affine.Denotes.toExtended {A : Affine} (h : A.Denotes P) : A.toExtended.Denotes P :=
  ⟨1, h.toExtended_one⟩

theorem Affine.Denotes.toPrecomputed {A : Affine} (h : A.Denotes P) :
    A.toPrecomputed.Denotes P := by
  have hsummand := h.holds.toPrecomputed
  exact ⟨hsummand.yPlusX, hsummand.yMinusX, hsummand.xy2d.congr (by ring)⟩

theorem Extended.Denotes.toProjective {E : Extended} (h : E.Denotes P) :
    E.toProjective.Denotes P := by
  obtain ⟨z, hz⟩ := h
  exact ⟨z, hz.ne_zero, hz.X, hz.Y, hz.Z⟩

theorem Extended.Denotes.toCached {E : Extended} (h : E.Denotes P) : E.toCached.Denotes P := by
  obtain ⟨z, hz⟩ := h
  have hsummand := hz.holds.toCached
  exact ⟨z, hz.ne_zero, hsummand.YplusX.congr (by ring), hsummand.YminusX.congr (by ring),
    hsummand.Z, hsummand.T2d.congr (by ring)⟩

/-- **The division** gives the coordinates themselves. -/
theorem Extended.Denotes.toAffine {E : Extended} (h : E.Denotes P) : E.toAffine.Denotes P := by
  obtain ⟨z, hz⟩ := h
  have hpair := hz.holds.toAffine
  rw [mul_div_cancel_right₀ _ hz.ne_zero, mul_div_cancel_right₀ _ hz.ne_zero] at hpair
  exact ⟨hpair.x, hpair.y⟩

theorem Completed.Denotes.toExtended {E : Completed} (h : E.Denotes P) :
    E.toExtended.Denotes P := by
  obtain ⟨z, t, hzt⟩ := h
  have hproducts := hzt.holds.toExtended
  exact ⟨z * t, mul_ne_zero hzt.ne_zero hzt.ne_zero', hproducts.X.congr (by ring),
    hproducts.Y.congr (by ring), hproducts.Z, hproducts.T.congr (by ring)⟩

/-- A summand with denominator one, back in extended coordinates, has the denominator four. -/
theorem Precomputed.Denotes.toExtended {E : Precomputed} (h : E.Denotes P) :
    E.toExtended.Denotes P := by
  have hfour : (4 : Residue) ≠ 0 := by
    have h : (4 : Residue) = 2 * 2 := by norm_num
    rw [h]
    exact mul_ne_zero residue_two_ne_zero residue_two_ne_zero
  have hpoint := h.holds.toExtended
  exact ⟨4, hfour, hpoint.X.congr (by ring), hpoint.Y.congr (by ring), hpoint.Z.congr (by ring),
    hpoint.T.congr (by ring)⟩

/-! ### Equality -/

theorem Affine.Denotes.beq_iff {A B : Affine} (hA : A.Denotes P) (hB : B.Denotes Q) :
    (A == B) = true ↔ P = Q := by
  change (A.x == B.x && A.y == B.y) = true ↔ _
  rw [Bool.and_eq_true, hA.x.beq_iff hB.x, hA.y.beq_iff hB.y, CurvePoint.ext_iff]

/-- **Equality of extended coordinates** is equality of the points. -/
theorem Extended.Denotes.beq_iff {E F : Extended} (hE : E.Denotes P) (hF : F.Denotes Q) :
    (E == F) = true ↔ P = Q := by
  obtain ⟨z, hz⟩ := hE
  obtain ⟨w, hw⟩ := hF
  have hne : z * w ≠ 0 := mul_ne_zero hz.ne_zero hw.ne_zero
  have hcross {a b : Residue} : a * z * w = z * (b * w) ↔ a = b := by
    rw [← mul_left_inj' hne (a := a)]
    constructor
    · intro h
      linear_combination h
    · intro h
      linear_combination h
  rw [hz.holds.beq_iff hw.holds, hcross, hcross, CurvePoint.ext_iff]

end Forms

section Formulas

open CurvePoint FieldElement

variable {P Q : Point}

/-! ### Addition -/

theorem CurvePoint.add_x_mul (P Q : Point) : (P + Q).x * (1 + cross P Q) = sumX P Q := by
  rw [add_x, div_mul_cancel₀ _ (one_add_cross_ne P Q)]

theorem CurvePoint.add_y_mul (P Q : Point) : (P + Q).y * (1 - cross P Q) = sumY P Q := by
  rw [add_y, div_mul_cancel₀ _ (one_sub_cross_ne P Q)]

/-- The four results of an addition over the denominators `z` and `w`, as fractions for
the sum. -/
theorem Completed.denotesOver_add {E : Completed} {z w : Residue} (hz : z ≠ 0) (hw : w ≠ 0)
    (hE : E.Holds
      ((P.y * z + P.x * z) * ((Q.y + Q.x) * w) - (P.y * z - P.x * z) * ((Q.y - Q.x) * w))
      ((P.y * z + P.x * z) * ((Q.y + Q.x) * w) + (P.y * z - P.x * z) * ((Q.y - Q.x) * w))
      (z * w + z * w + P.x * P.y * z * (2 * coefficient * Q.x * Q.y * w))
      (z * w + z * w - P.x * P.y * z * (2 * coefficient * Q.x * Q.y * w))) :
    E.DenotesOver (P + Q) (2 * (z * w) * (1 + cross P Q)) (2 * (z * w) * (1 - cross P Q)) := by
  -- Every one of the four is the group law's, times `2 z w`.
  have hne : 2 * (z * w) ≠ 0 := mul_ne_zero residue_two_ne_zero (mul_ne_zero hz hw)
  have hx := add_x_mul P Q
  have hy := add_y_mul P Q
  rw [sumX] at hx
  rw [sumY] at hy
  refine ⟨mul_ne_zero hne (one_add_cross_ne P Q), mul_ne_zero hne (one_sub_cross_ne P Q),
    hE.X.congr ?_, hE.Y.congr ?_, hE.Z.congr ?_, hE.T.congr ?_⟩
  · linear_combination -2 * z * w * hx
  · linear_combination -2 * z * w * hy
  · rw [cross]
    ring
  · rw [cross]
    ring

/-- **Addition** of a prepared summand. -/
theorem Extended.Denotes.addCached {E : Extended} {F : Cached} (hE : E.Denotes P)
    (hF : F.Denotes Q) : (E.addCached F).Denotes (P + Q) := by
  obtain ⟨z, hz⟩ := hE
  obtain ⟨w, hw⟩ := hF
  exact ⟨_, _, Completed.denotesOver_add hz.ne_zero hw.ne_zero (hz.holds.addCached hw.holds)⟩

/-- **Addition** of a summand with denominator one. -/
theorem Extended.Denotes.addPrecomputed {E : Extended} {F : Precomputed} (hE : E.Denotes P)
    (hF : F.Denotes Q) : (E.addPrecomputed F).Denotes (P + Q) := by
  obtain ⟨z, hz⟩ := hE
  exact ⟨_, _, Completed.denotesOver_add hz.ne_zero one_ne_zero
    (hz.holds.addPrecomputed hF.holds_mul_one)⟩

/-- **The sum of points in extended coordinates.** -/
theorem Extended.Denotes.add {E F : Extended} (hE : E.Denotes P) (hF : F.Denotes Q) :
    (E + F).Denotes (P + Q) :=
  (hE.addCached hF.toCached).toExtended

/-! ### Doubling -/

/-- The denominators of a doubling, by the equation of the curve. -/
theorem CurvePoint.cross_self (P : Point) : 1 + cross P P = P.y ^ 2 - P.x ^ 2 := by
  rw [cross]
  linear_combination -P.equation

/-- **Doubling.** -/
theorem Projective.Denotes.double {E : Projective} (hE : E.Denotes P) :
    E.double.Denotes (P + P) := by
  obtain ⟨z, hz⟩ := hE
  have hne : z ^ 2 ≠ 0 := pow_ne_zero 2 hz.ne_zero
  have hx := add_x_mul P P
  have hy := add_y_mul P P
  have hcross := cross_self P
  rw [sumX] at hx
  rw [sumY] at hy
  have hxx := hz.X.square
  have hyy := hz.Y.square
  have hplus := hyy.add hxx
  have hminus := hyy.sub hxx
  refine ⟨z ^ 2 * (1 + cross P P), z ^ 2 * (1 - cross P P),
    mul_ne_zero hne (one_add_cross_ne P P), mul_ne_zero hne (one_sub_cross_ne P P),
    ((hz.X.add hz.Y).square.sub hplus).congr ?_, hplus.congr ?_, hminus.congr ?_,
    (hz.Z.doubleSquare.sub hminus).congr ?_⟩
  · linear_combination -z ^ 2 * hx
  · linear_combination -z ^ 2 * hy
  · linear_combination -z ^ 2 * hcross
  · linear_combination z ^ 2 * hcross

/-- **The double of a point in extended coordinates.** -/
theorem Extended.Denotes.double {E : Extended} (hE : E.Denotes P) : E.double.Denotes (P + P) :=
  hE.toProjective.double.toExtended

/-! ### Negation -/

theorem Extended.Denotes.neg {E : Extended} (hE : E.Denotes P) : (-E).Denotes (-P) := by
  obtain ⟨z, hz⟩ := hE
  have hneg := hz.holds.neg
  refine ⟨z, hz.ne_zero, hneg.X.congr ?_, hneg.Y, hneg.Z, hneg.T.congr ?_⟩
  all_goals simp only [neg_x, neg_y]
  all_goals ring

/-- **The conditional negative** of a summand: its sum and difference are exchanged. -/
theorem Cached.Denotes.negateIf {E : Cached} (hE : E.Denotes P) (c : Bool) :
    (E.negateIf c).Denotes (bif c then -P else P) := by
  cases c
  · exact hE
  · obtain ⟨z, hz⟩ := hE
    have hneg := hz.holds.neg
    refine ⟨z, hz.ne_zero, hneg.YplusX.congr ?_, hneg.YminusX.congr ?_, hneg.Z,
      hneg.T2d.congr ?_⟩
    all_goals simp only [cond_true, neg_x, neg_y]
    all_goals ring

/-- The same for a summand with denominator one. -/
theorem Precomputed.Denotes.negateIf {E : Precomputed} (hE : E.Denotes P) (c : Bool) :
    (E.negateIf c).Denotes (bif c then -P else P) := by
  cases c
  · exact hE
  · have hneg := hE.holds.neg
    refine ⟨hneg.yPlusX.congr ?_, hneg.yMinusX.congr ?_, hneg.xy2d.congr ?_⟩
    all_goals simp only [cond_true, neg_x, neg_y]
    all_goals ring

/-! ### Subtraction -/

/-- **Subtraction** of a prepared subtrahend: it has the coordinates of an addition. -/
theorem Extended.Denotes.subCached {E : Extended} {F : Cached} (hE : E.Denotes P)
    (hF : F.Denotes Q) : (E.subCached F).Denotes (P - Q) := by
  have hsum := hE.addCached (hF.negateIf true)
  obtain ⟨z, hz⟩ := hE
  obtain ⟨w, hw⟩ := hF
  rw [sub_eq_add_neg]
  exact hsum.congr (hz.holds.subCached hw.holds) (hz.holds.subCached_residues hw.holds)

/-- **The difference of points in extended coordinates.** -/
theorem Extended.Denotes.sub {E F : Extended} (hE : E.Denotes P) (hF : F.Denotes Q) :
    (E - F).Denotes (P - Q) :=
  (hE.subCached hF.toCached).toExtended

/-! ### Fixed points -/

theorem Extended.denotes_identity : identity.Denotes 0 := by
  refine ⟨1, one_ne_zero, ?_, ?_, denotes_one, ?_⟩
  · exact denotes_zero.congr (by rw [zero_x, zero_mul])
  · exact denotes_one.congr (by rw [zero_y, mul_one])
  · exact denotes_zero.congr (by rw [zero_x, zero_mul, zero_mul])

theorem Precomputed.denotes_identity : identity.Denotes 0 := by
  refine ⟨?_, ?_, ?_⟩
  · exact denotes_one.congr (by rw [zero_x, zero_y, add_zero])
  · exact denotes_one.congr (by rw [zero_x, zero_y, sub_zero])
  · exact denotes_zero.congr (by rw [zero_x, mul_zero, zero_mul])

/-! ### Sums of lists -/

/-- **The sum of a list**, each of its points in some extended coordinates. -/
theorem Extended.Denotes.sum {Es : List Extended} {Ps : List Point}
    (h : List.Forall₂ Extended.Denotes Es Ps) : (Extended.sum Es).Denotes Ps.sum := by
  -- What has been added up so far is carried along from the left.
  have hrun : ∀ (A : Extended) (R : Point), A.Denotes R →
      (Es.foldl (· + ·) A).Denotes (R + Ps.sum) := by
    induction h with
    | nil =>
      intro A R hA
      rw [List.sum_nil, add_zero]
      exact hA
    | cons hE _ ih =>
      intro A R hA
      rw [List.sum_cons, ← add_assoc]
      exact ih _ _ (hA.add hE)
  have h := hrun identity 0 denotes_identity
  rw [zero_add] at h
  exact h

end Formulas

section OnCurve

open FieldElement

variable {x y X Y Z T : Residue} {A : Affine} {E : Extended}

/-! ### The equations that are tested -/

theorem Affine.Holds.isOnCurve_iff (h : A.Holds x y) :
    A.isOnCurve = true ↔ -x ^ 2 + y ^ 2 = 1 + coefficient * x ^ 2 * y ^ 2 := by
  have hleft := h.y.square.sub h.x.square
  have hright := denotes_one.add ((denotes_edwardsD.mul h.x.square).mul h.y.square)
  rw [isOnCurve, hleft.beq_iff hright, neg_add_eq_sub]

theorem Extended.Holds.isOnCurve_iff (h : E.Holds X Y Z T) :
    E.isOnCurve = true ↔ X * Y = Z * T ∧ -X ^ 2 + Y ^ 2 = Z ^ 2 + coefficient * T ^ 2 := by
  have hleft := h.Y.square.sub h.X.square
  have hright := h.Z.square.add (h.T.square.mul denotes_edwardsD)
  rw [isOnCurve, Bool.and_eq_true, (h.X.mul h.Y).beq_iff (h.Z.mul h.T), hleft.beq_iff hright,
    neg_add_eq_sub, mul_comm coefficient]

/-! ### With and without a denominator -/

/-- **Over a denominator** the check is that of the pair. -/
theorem Extended.Holds.isOnCurve_eq_toAffine (h : E.Holds X Y Z T) (hne : Z ≠ 0)
    (hproduct : X * Y = Z * T) : E.isOnCurve = E.toAffine.isOnCurve := by
  rw [Bool.eq_iff_iff, h.isOnCurve_iff, h.toAffine.isOnCurve_iff, equation_div_iff hne hproduct]
  exact and_iff_right hproduct

/-- Without a denominator the equations have no solution but zero. -/
theorem eq_zero_of_equations (hproduct : X * Y = 0)
    (hequation : -X ^ 2 + Y ^ 2 = coefficient * T ^ 2) : X = 0 ∧ Y = 0 ∧ T = 0 := by
  -- One numerator is zero, and the square of the other is `d T²` or `-d T²`.
  rcases mul_eq_zero.1 hproduct with rfl | rfl
  · have hT : T = 0 := by
      refine CurvePoint.eq_zero_of_mul_sq (d := coefficient) (b := Y) ?_
      linear_combination -hequation
    rw [hT] at hequation
    exact ⟨rfl, sq_eq_zero_iff.1 (by linear_combination hequation), hT⟩
  · have hT : T = 0 := by
      refine CurvePoint.eq_zero_of_mul_sq_eq_neg (d := coefficient) (b := X) ?_
      linear_combination -hequation
    rw [hT] at hequation
    exact ⟨sq_eq_zero_iff.1 (by linear_combination -hequation), rfl, hT⟩

/-- **Over the denominator zero** nothing passes the check but zero. -/
theorem Extended.Holds.isOnCurve_iff_of_no_denominator (h : E.Holds X Y 0 T) :
    E.isOnCurve = true ↔ X = 0 ∧ Y = 0 ∧ T = 0 := by
  rw [h.isOnCurve_iff, zero_mul, zero_pow two_ne_zero, zero_add]
  constructor
  · rintro ⟨hproduct, hequation⟩
    exact eq_zero_of_equations hproduct hequation
  · rintro ⟨rfl, rfl, rfl⟩
    exact ⟨mul_zero 0, by ring⟩

/-! ### The checks compared -/

theorem Extended.residues_eq_zero_iff :
    E.residues = (0, 0, 0, 0) ↔
      E.Z.residue = 0 ∧ E.X.residue = 0 ∧ E.Y.residue = 0 ∧ E.T.residue = 0 := by
  simp only [residues, Prod.mk.injEq]
  constructor
  · rintro ⟨hX, hY, hZ, hT⟩
    exact ⟨hZ, hX, hY, hT⟩
  · rintro ⟨hZ, hX, hY, hT⟩
    exact ⟨hX, hY, hZ, hT⟩

/-- **What the check of extended coordinates means.** Coordinates of the accepted size pass it
exactly if they are all zero, or if the denominator is not zero, the fourth coordinate is what it
is meant to be, and the affine coordinates pass the check of pairs. In particular the two checks
agree wherever there is a denominator and `X Y = Z T`, and of the coordinates with the denominator
zero only those pass that are all zero. -/
theorem Extended.isOnCurve_iff_toAffine (hE : E.Bounded) :
    (E.isOnCurve = true ↔ E.residues = (0, 0, 0, 0) ∨
        E.Z.residue ≠ 0 ∧ E.X.residue * E.Y.residue = E.Z.residue * E.T.residue ∧
          E.toAffine.isOnCurve = true) ∧
      (E.Z.residue ≠ 0 → E.X.residue * E.Y.residue = E.Z.residue * E.T.residue →
        E.isOnCurve = E.toAffine.isOnCurve) ∧
      (E.Z.residue = 0 → (E.isOnCurve = true ↔ E.residues = (0, 0, 0, 0))) := by
  have hover := hE.holds.isOnCurve_eq_toAffine
  have hwithout (hZ : E.Z.residue = 0) : E.isOnCurve = true ↔ E.residues = (0, 0, 0, 0) := by
    have h := hE.holds
    rw [hZ] at h
    rw [h.isOnCurve_iff_of_no_denominator, residues_eq_zero_iff, and_iff_right hZ]
  refine ⟨?_, hover, hwithout⟩
  rcases eq_or_ne E.Z.residue 0 with hZ | hne
  · rw [hwithout hZ]
    exact (or_iff_left fun h => h.1 hZ).symm
  · rw [residues_eq_zero_iff, or_iff_right fun h => hne h.1, and_iff_right hne]
    constructor
    · intro h
      have hproduct := (hE.holds.isOnCurve_iff.1 h).1
      exact ⟨hproduct, (hover hne hproduct).symm.trans h⟩
    · rintro ⟨hproduct, h⟩
      exact (hover hne hproduct).trans h

/-- Zero in the limbs of `p`, which passes although its affine coordinates do not, and coordinates
off the curve, over the denominator two. -/
theorem Extended.isOnCurve_iff_toAffine_zero :
    let p : FieldElement := ⟨0x7ffffffffffed, 0x7ffffffffffff, 0x7ffffffffffff, 0x7ffffffffffff,
      0x7ffffffffffff⟩
    let E : Extended := ⟨p, p, p, p⟩
    let F : Extended := ⟨.ofNat 6, .ofNat 10, .two, .ofNat 30⟩
    (E.Bounded ∧ F.Bounded ∧ E.residues = (0, 0, 0, 0) ∧ F.Z.residue ≠ 0 ∧
        F.X.residue * F.Y.residue = F.Z.residue * F.T.residue) ∧
      E.isOnCurve = true ∧ E.toAffine.isOnCurve = false ∧ F.isOnCurve = F.toAffine.isOnCurve := by
  intro p E F
  have h : E.Bounded ∧ F.Bounded ∧ E.residues = (0, 0, 0, 0) ∧ F.Z.residue ≠ 0 ∧
      F.X.residue * F.Y.residue = F.Z.residue * F.T.residue ∧ E.toAffine.isOnCurve = false := by
    decide +kernel
  obtain ⟨hE, hF, hzero, hne, hproduct, hpair⟩ := h
  exact ⟨⟨hE, hF, hzero, hne, hproduct⟩, (isOnCurve_iff_toAffine hE).1.2 (.inl hzero), hpair,
    (isOnCurve_iff_toAffine hF).2.1 hne hproduct⟩

end OnCurve

end Edwards25519
