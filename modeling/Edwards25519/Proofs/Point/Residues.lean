import Edwards25519.Point
import Edwards25519.Proofs.Field.Power

/-!
# Coordinates as residues

The conversions and formulas do not look at the curve. Each of them is a handful of sums and
products, and what it makes of the residues in its operands is the same whether or not these
belong to a point. That is what is written down here, once for each operation: a form of
coordinates *holds* certain residues (`Edwards25519.Extended.Holds` and its like for the other
forms) if its limbs are of the size that the operations accept and stand for them, and an operation
on what holds residues holds those of the formula.

Extended coordinates can be equal as points and differ by a factor, which does not matter to the
fractions. Coordinates that are a multiple of others are equal to them
(`Edwards25519.Extended.Holds.beq_of_smul`), even where there is no point and the denominator is
zero. So three things hold for any coordinates:

* the conversions change the scale but not the fractions
  (`Edwards25519.conversions_keep_fractions`). Through a prepared summand all coordinates become
  four times as large, and from completed coordinates the two denominators are multiplied into one;
* negation agrees in every form (`Edwards25519.neg_in_every_form`): affine coordinates turn the
  sign of `x`, extended ones those of `X` and `T`, a prepared summand exchanges its sum and its
  difference and turns the sign of its product, and a subtraction has the same exchanges and signs
  written into the formula;
* the four results of the general addition are those of the one with a summand of denominator one,
  times the denominator `Z₂` of the summand, and in extended coordinates times `Z₂²`
  (`Edwards25519.Extended.addCached_eq_smul_addPrecomputed`).
-/

namespace Edwards25519

section Residues

open FieldElement

/-! ### The forms -/

/-- The pair stands for the residues `x` and `y`. -/
structure Affine.Holds (A : Affine) (x y : Residue) : Prop where
  x : A.x.Denotes x
  y : A.y.Denotes y

/-- The extended coordinates stand for four residues. -/
structure Extended.Holds (E : Extended) (X Y Z T : Residue) : Prop where
  X : E.X.Denotes X
  Y : E.Y.Denotes Y
  Z : E.Z.Denotes Z
  T : E.T.Denotes T

/-- The numerators and denominators of two fractions stand for four residues. -/
structure Completed.Holds (E : Completed) (X Y Z T : Residue) : Prop where
  X : E.X.Denotes X
  Y : E.Y.Denotes Y
  Z : E.Z.Denotes Z
  T : E.T.Denotes T

/-- The sum, the difference, the denominator and the product of a summand stand for four
residues. -/
structure Cached.Holds (E : Cached) (plus minus Z product : Residue) : Prop where
  YplusX : E.YplusX.Denotes plus
  YminusX : E.YminusX.Denotes minus
  Z : E.Z.Denotes Z
  T2d : E.T2d.Denotes product

/-- The sum, the difference and the product of a summand stand for three residues. -/
structure Precomputed.Holds (E : Precomputed) (plus minus product : Residue) : Prop where
  yPlusX : E.yPlusX.Denotes plus
  yMinusX : E.yMinusX.Denotes minus
  xy2d : E.xy2d.Denotes product

/-! ### Residues and bounds -/

/-- The residues of the coordinates. -/
def Affine.residues (A : Affine) : Residue × Residue :=
  (A.x.residue, A.y.residue)

/-- The residues of the coordinates. -/
def Extended.residues (E : Extended) : Residue × Residue × Residue × Residue :=
  (E.X.residue, E.Y.residue, E.Z.residue, E.T.residue)

/-- The residues of the coordinates. -/
def Completed.residues (E : Completed) : Residue × Residue × Residue × Residue :=
  (E.X.residue, E.Y.residue, E.Z.residue, E.T.residue)

/-- The residues of the coordinates. -/
def Cached.residues (E : Cached) : Residue × Residue × Residue × Residue :=
  (E.YplusX.residue, E.YminusX.residue, E.Z.residue, E.T2d.residue)

/-- The residues of the coordinates. -/
def Precomputed.residues (E : Precomputed) : Residue × Residue × Residue :=
  (E.yPlusX.residue, E.yMinusX.residue, E.xy2d.residue)

/-- The pair is of the size that the operations accept. -/
def Affine.Bounded (A : Affine) : Prop :=
  LimbsBelow (2 ^ 53 - 76) A.x ∧ LimbsBelow (2 ^ 53 - 76) A.y

/-- The extended coordinates are of the size that the operations accept. -/
def Extended.Bounded (E : Extended) : Prop :=
  LimbsBelow (2 ^ 53 - 76) E.X ∧ LimbsBelow (2 ^ 53 - 76) E.Y ∧ LimbsBelow (2 ^ 53 - 76) E.Z ∧
    LimbsBelow (2 ^ 53 - 76) E.T

/-- The numerators and denominators are of the size that the operations accept. -/
def Completed.Bounded (E : Completed) : Prop :=
  LimbsBelow (2 ^ 53 - 76) E.X ∧ LimbsBelow (2 ^ 53 - 76) E.Y ∧ LimbsBelow (2 ^ 53 - 76) E.Z ∧
    LimbsBelow (2 ^ 53 - 76) E.T

/-- The parts of the summand are of the size that the operations accept. -/
def Cached.Bounded (E : Cached) : Prop :=
  LimbsBelow (2 ^ 53 - 76) E.YplusX ∧ LimbsBelow (2 ^ 53 - 76) E.YminusX ∧
    LimbsBelow (2 ^ 53 - 76) E.Z ∧ LimbsBelow (2 ^ 53 - 76) E.T2d

/-- The parts of the summand are of the size that the operations accept. -/
def Precomputed.Bounded (E : Precomputed) : Prop :=
  LimbsBelow (2 ^ 53 - 76) E.yPlusX ∧ LimbsBelow (2 ^ 53 - 76) E.yMinusX ∧
    LimbsBelow (2 ^ 53 - 76) E.xy2d

instance (A : Affine) : Decidable A.Bounded :=
  inferInstanceAs (Decidable (_ ∧ _))

instance (E : Extended) : Decidable E.Bounded :=
  inferInstanceAs (Decidable (_ ∧ _ ∧ _ ∧ _))

instance (E : Completed) : Decidable E.Bounded :=
  inferInstanceAs (Decidable (_ ∧ _ ∧ _ ∧ _))

instance (E : Cached) : Decidable E.Bounded :=
  inferInstanceAs (Decidable (_ ∧ _ ∧ _ ∧ _))

instance (E : Precomputed) : Decidable E.Bounded :=
  inferInstanceAs (Decidable (_ ∧ _ ∧ _))

theorem Affine.Bounded.holds {A : Affine} (h : A.Bounded) : A.Holds A.x.residue A.y.residue :=
  ⟨h.1.denotes, h.2.denotes⟩

theorem Extended.Bounded.holds {E : Extended} (h : E.Bounded) :
    E.Holds E.X.residue E.Y.residue E.Z.residue E.T.residue := by
  obtain ⟨hX, hY, hZ, hT⟩ := h
  exact ⟨hX.denotes, hY.denotes, hZ.denotes, hT.denotes⟩

theorem Completed.Bounded.holds {E : Completed} (h : E.Bounded) :
    E.Holds E.X.residue E.Y.residue E.Z.residue E.T.residue := by
  obtain ⟨hX, hY, hZ, hT⟩ := h
  exact ⟨hX.denotes, hY.denotes, hZ.denotes, hT.denotes⟩

theorem Cached.Bounded.holds {E : Cached} (h : E.Bounded) :
    E.Holds E.YplusX.residue E.YminusX.residue E.Z.residue E.T2d.residue := by
  obtain ⟨hplus, hminus, hZ, hproduct⟩ := h
  exact ⟨hplus.denotes, hminus.denotes, hZ.denotes, hproduct.denotes⟩

theorem Precomputed.Bounded.holds {E : Precomputed} (h : E.Bounded) :
    E.Holds E.yPlusX.residue E.yMinusX.residue E.xy2d.residue := by
  obtain ⟨hplus, hminus, hproduct⟩ := h
  exact ⟨hplus.denotes, hminus.denotes, hproduct.denotes⟩

variable {x y X Y Z T X₁ Y₁ Z₁ T₁ X₂ Y₂ Z₂ T₂ plus minus product plus' minus' product' k : Residue}

theorem Affine.Holds.residues_eq {A : Affine} (h : A.Holds x y) : A.residues = (x, y) := by
  rw [Affine.residues, h.x.residue, h.y.residue]

theorem Extended.Holds.residues_eq {E : Extended} (h : E.Holds X Y Z T) :
    E.residues = (X, Y, Z, T) := by
  rw [Extended.residues, h.X.residue, h.Y.residue, h.Z.residue, h.T.residue]

theorem Completed.Holds.residues_eq {E : Completed} (h : E.Holds X Y Z T) :
    E.residues = (X, Y, Z, T) := by
  rw [Completed.residues, h.X.residue, h.Y.residue, h.Z.residue, h.T.residue]

theorem Cached.Holds.residues_eq {E : Cached} (h : E.Holds plus minus Z product) :
    E.residues = (plus, minus, Z, product) := by
  rw [Cached.residues, h.YplusX.residue, h.YminusX.residue, h.Z.residue, h.T2d.residue]

theorem Precomputed.Holds.residues_eq {E : Precomputed} (h : E.Holds plus minus product) :
    E.residues = (plus, minus, product) := by
  rw [Precomputed.residues, h.yPlusX.residue, h.yMinusX.residue, h.xy2d.residue]

/-- The product of the fractions, where `T` is the product of the numerators over the
denominator. -/
theorem affine_product (hne : Z ≠ 0) (hproduct : X * Y = Z * T) : X / Z * (Y / Z) = T / Z := by
  rw [div_mul_div_comm, hproduct, mul_div_mul_left _ _ hne]

/-! ### Conversions -/

theorem Affine.Holds.toExtended {A : Affine} (h : A.Holds x y) :
    A.toExtended.Holds x y 1 (x * y) :=
  ⟨h.x, h.y, denotes_one, h.x.mul h.y⟩

theorem Affine.Holds.toPrecomputed {A : Affine} (h : A.Holds x y) :
    A.toPrecomputed.Holds (y + x) (y - x) (x * y * (2 * coefficient)) :=
  ⟨h.y.add h.x, h.y.sub h.x, (h.x.mul h.y).mul denotes_edwardsD2⟩

theorem Extended.Holds.toCached {E : Extended} (h : E.Holds X Y Z T) :
    E.toCached.Holds (Y + X) (Y - X) Z (T * (2 * coefficient)) :=
  ⟨h.Y.add h.X, h.Y.sub h.X, h.Z, h.T.mul denotes_edwardsD2⟩

theorem Extended.Holds.toAffine {E : Extended} (h : E.Holds X Y Z T) :
    E.toAffine.Holds (X / Z) (Y / Z) := by
  rw [div_eq_mul_inv, div_eq_mul_inv]
  exact ⟨h.X.mul h.Z.inv, h.Y.mul h.Z.inv⟩

theorem Completed.Holds.toExtended {E : Completed} (h : E.Holds X Y Z T) :
    E.toExtended.Holds (X * T) (Y * Z) (Z * T) (X * Y) :=
  ⟨h.X.mul h.T, h.Y.mul h.Z, h.Z.mul h.T, h.X.mul h.Y⟩

/-- Both conversions of completed coordinates multiply crosswise, and in the same way. -/
theorem Completed.toProjective_toExtended (E : Completed) :
    E.toExtended.toProjective = E.toProjective :=
  rfl

/-- The coordinates that sum and difference are those of, over the denominator four. -/
theorem Precomputed.Holds.toExtended {E : Precomputed} (h : E.Holds (y + x) (y - x) product) :
    E.toExtended.Holds (4 * x) (4 * y) (4 * 1) (4 * (x * y)) := by
  have hx := h.yPlusX.sub h.yMinusX
  have hy := h.yPlusX.add h.yMinusX
  exact ⟨(hx.mul denotes_two).congr (by ring), (hy.mul denotes_two).congr (by ring),
    (denotes_two.mul denotes_two).congr (by norm_num), (hx.mul hy).congr (by ring)⟩

/-! ### Addition and subtraction -/

theorem Extended.Holds.addCached {E : Extended} {C : Cached} (hE : E.Holds X Y Z T)
    (hC : C.Holds plus minus Z₂ product) :
    (E.addCached C).Holds ((Y + X) * plus - (Y - X) * minus) ((Y + X) * plus + (Y - X) * minus)
      (Z * Z₂ + Z * Z₂ + T * product) (Z * Z₂ + Z * Z₂ - T * product) := by
  have hpp := (hE.Y.add hE.X).mul hC.YplusX
  have hmm := (hE.Y.sub hE.X).mul hC.YminusX
  have htt := hE.T.mul hC.T2d
  have hzz := hE.Z.mul hC.Z
  exact ⟨hpp.sub hmm, hpp.add hmm, (hzz.add hzz).add htt, (hzz.add hzz).sub htt⟩

/-- A summand of denominator one is added like one whose denominator is written out. -/
theorem Extended.Holds.addPrecomputed {E : Extended} {C : Precomputed} (hE : E.Holds X Y Z T)
    (hC : C.Holds plus minus product) :
    (E.addPrecomputed C).Holds ((Y + X) * plus - (Y - X) * minus)
      ((Y + X) * plus + (Y - X) * minus) (Z * 1 + Z * 1 + T * product)
      (Z * 1 + Z * 1 - T * product) := by
  have hpp := (hE.Y.add hE.X).mul hC.yPlusX
  have hmm := (hE.Y.sub hE.X).mul hC.yMinusX
  have htt := hE.T.mul hC.xy2d
  have hz := hE.Z.congr (mul_one Z).symm
  exact ⟨hpp.sub hmm, hpp.add hmm, (hz.add hz).add htt, (hz.add hz).sub htt⟩

/-- A subtrahend enters like a summand with its sum and difference exchanged and the sign of its
product turned. -/
theorem Extended.Holds.subCached {E : Extended} {C : Cached} (hE : E.Holds X Y Z T)
    (hC : C.Holds plus minus Z₂ product) :
    (E.subCached C).Holds ((Y + X) * minus - (Y - X) * plus) ((Y + X) * minus + (Y - X) * plus)
      (Z * Z₂ + Z * Z₂ + T * -product) (Z * Z₂ + Z * Z₂ - T * -product) := by
  have hpm := (hE.Y.add hE.X).mul hC.YminusX
  have hmp := (hE.Y.sub hE.X).mul hC.YplusX
  have htt := hE.T.mul hC.T2d
  have hzz := hE.Z.mul hC.Z
  exact ⟨hpm.sub hmp, hpm.add hmp, ((hzz.add hzz).sub htt).congr (by ring),
    ((hzz.add hzz).add htt).congr (by ring)⟩

/-! ### Negation -/

theorem Affine.Holds.neg {A : Affine} (h : A.Holds x y) : (-A).Holds (-x) y := by
  obtain ⟨ax, ay⟩ := A
  exact ⟨h.x.neg, h.y⟩

theorem Extended.Holds.neg {E : Extended} (h : E.Holds X Y Z T) : (-E).Holds (-X) Y Z (-T) := by
  obtain ⟨eX, eY, eZ, eT⟩ := E
  exact ⟨h.X.neg, h.Y, h.Z, h.T.neg⟩

theorem Cached.Holds.neg {E : Cached} (h : E.Holds plus minus Z product) :
    (E.negateIf true).Holds minus plus Z (-product) :=
  ⟨h.YminusX, h.YplusX, h.Z, h.T2d.neg⟩

theorem Precomputed.Holds.neg {E : Precomputed} (h : E.Holds plus minus product) :
    (E.negateIf true).Holds minus plus (-product) :=
  ⟨h.yMinusX, h.yPlusX, h.xy2d.neg⟩

/-- **Subtraction is addition of the negative**, coordinate by coordinate. -/
theorem Extended.Holds.subCached_residues {E : Extended} {C : Cached} (hE : E.Holds X Y Z T)
    (hC : C.Holds plus minus Z₂ product) :
    (E.subCached C).residues = (E.addCached (C.negateIf true)).residues := by
  rw [(hE.subCached hC).residues_eq, (hE.addCached hC.neg).residues_eq]

/-! ### Equality -/

theorem Extended.Holds.beq_iff {E F : Extended} (hE : E.Holds X₁ Y₁ Z₁ T₁)
    (hF : F.Holds X₂ Y₂ Z₂ T₂) :
    (E == F) = true ↔ X₁ * Z₂ = Z₁ * X₂ ∧ Y₁ * Z₂ = Z₁ * Y₂ := by
  change (E.X * F.Z == E.Z * F.X && E.Y * F.Z == E.Z * F.Y) = true ↔ _
  rw [Bool.and_eq_true, (hE.X.mul hF.Z).beq_iff (hE.Z.mul hF.X),
    (hE.Y.mul hF.Z).beq_iff (hE.Z.mul hF.Y)]

theorem Precomputed.Holds.beq_iff {C D : Precomputed} (hC : C.Holds plus minus product)
    (hD : D.Holds plus' minus' product') :
    (C == D) = true ↔ plus = plus' ∧ minus = minus' ∧ product = product' := by
  change (C.yPlusX == D.yPlusX && C.yMinusX == D.yMinusX && C.xy2d == D.xy2d) = true ↔ _
  rw [Bool.and_eq_true, Bool.and_eq_true, hC.yPlusX.beq_iff hD.yPlusX,
    hC.yMinusX.beq_iff hD.yMinusX, hC.xy2d.beq_iff hD.xy2d, and_assoc]

/-- **Multiples are equal**: multiplying crosswise does not see a common factor. -/
theorem Extended.Holds.beq_of_smul {E F : Extended} (hE : E.Holds X₁ Y₁ Z₁ T₁)
    (hF : F.Holds X₂ Y₂ Z₂ T₂) (h : E.residues = k • F.residues) : (E == F) = true := by
  rw [hE.residues_eq, hF.residues_eq] at h
  simp only [Prod.smul_mk, smul_eq_mul, Prod.mk.injEq] at h
  obtain ⟨hX, hY, hZ, -⟩ := h
  refine (hE.beq_iff hF).2 ⟨?_, ?_⟩
  · rw [hX, hZ]
    ring
  · rw [hY, hZ]
    ring

end Residues

section Conversions

variable {x y X Y Z T : Residue}

/-! ### From a pair -/

/-- The denominator one is divided out again. -/
theorem Affine.Holds.toAffine_toExtended {A : Affine} (h : A.Holds x y) :
    A.toExtended.toAffine.Holds x y := by
  have hpair := h.toExtended.toAffine
  rwa [div_one, div_one] at hpair

/-- A prepared summand gives the coordinates back over the denominator four. -/
theorem Affine.Holds.toExtended_toPrecomputed {A : Affine} (h : A.Holds x y) :
    A.toPrecomputed.toExtended.Holds (4 * x) (4 * y) 4 (4 * (x * y)) := by
  have hscaled := h.toPrecomputed.toExtended
  rwa [mul_one] at hscaled

/-! ### From extended coordinates -/

/-- **The division** brings every coordinate over the denominator one. -/
theorem Extended.Holds.toExtended_toAffine {E : Extended} (h : E.Holds X Y Z T) (hne : Z ≠ 0)
    (hproduct : X * Y = Z * T) : E.toAffine.toExtended.Holds (X / Z) (Y / Z) 1 (T / Z) := by
  have hdivided := h.toAffine.toExtended
  rwa [affine_product hne hproduct] at hdivided

/-- The coordinates after the division are equal to those before it. -/
theorem Extended.Holds.toExtended_toAffine_beq {E : Extended} (h : E.Holds X Y Z T) (hne : Z ≠ 0)
    (hproduct : X * Y = Z * T) : (E.toAffine.toExtended == E) = true := by
  refine ((h.toExtended_toAffine hne hproduct).beq_iff h).2 ⟨?_, ?_⟩
  · rw [div_mul_cancel₀ _ hne, one_mul]
  · rw [div_mul_cancel₀ _ hne, one_mul]

/-! ### From completed coordinates -/

/-- **The common denominator** `Z T` gives the fractions that the two denominators gave. -/
theorem Completed.Holds.toAffine_toExtended {C : Completed} (h : C.Holds X Y Z T) (hZ : Z ≠ 0)
    (hT : T ≠ 0) : C.toExtended.toAffine.Holds (X / Z) (Y / T) := by
  have hpair := h.toExtended.toAffine
  have hx : X * T / (Z * T) = X / Z := mul_div_mul_right X Z hT
  have hy : Y * Z / (Z * T) = Y / T := by rw [mul_comm Z T, mul_div_mul_right Y T hZ]
  rwa [hx, hy] at hpair

/-! ### All conversions -/

/-- **Conversions keep the fractions**, for coordinates of the accepted size that need not belong
to any point. A pair comes back from extended coordinates as it was, and from a prepared summand
as `(4 x, 4 y, 4, 4 x y)`. Extended coordinates over a denominator other than zero, with
`X Y = Z T`, come back from their pair as `(X/Z, Y/Z, 1, T/Z)`, and are equal to that. Completed
coordinates over denominators other than zero become extended ones with `X Y = Z T`, over a
denominator other than zero, whose pair is `(X/Z, Y/T)` and whose projective coordinates are those
of the direct conversion. -/
theorem conversions_keep_fractions {A : Affine} {E : Extended} {C : Completed} (hA : A.Bounded)
    (hE : E.Bounded) (hC : C.Bounded) :
    (A.toExtended.toAffine.residues = A.residues ∧
        A.toPrecomputed.toExtended.residues =
          (4 * A.x.residue, 4 * A.y.residue, 4, 4 * (A.x.residue * A.y.residue))) ∧
      (E.Z.residue ≠ 0 → E.X.residue * E.Y.residue = E.Z.residue * E.T.residue →
        E.toAffine.toExtended.residues = (E.X.residue / E.Z.residue,
            E.Y.residue / E.Z.residue, 1, E.T.residue / E.Z.residue) ∧
          (E.toAffine.toExtended == E) = true) ∧
      (C.Z.residue ≠ 0 → C.T.residue ≠ 0 →
        let F := C.toExtended
        F.Z.residue ≠ 0 ∧ F.X.residue * F.Y.residue = F.Z.residue * F.T.residue ∧
          F.toAffine.residues = (C.X.residue / C.Z.residue, C.Y.residue / C.T.residue) ∧
          F.toProjective = C.toProjective) := by
  refine ⟨⟨?_, ?_⟩, fun hne hproduct => ⟨?_, ?_⟩, fun hZ hT => ?_⟩
  · rw [hA.holds.toAffine_toExtended.residues_eq, hA.holds.residues_eq]
  · exact hA.holds.toExtended_toPrecomputed.residues_eq
  · exact (hE.holds.toExtended_toAffine hne hproduct).residues_eq
  · exact hE.holds.toExtended_toAffine_beq hne hproduct
  · have hF := hC.holds.toExtended
    refine ⟨?_, ?_, (hC.holds.toAffine_toExtended hZ hT).residues_eq, C.toProjective_toExtended⟩
    · rw [hF.Z.residue]
      exact mul_ne_zero hZ hT
    · rw [hF.X.residue, hF.Y.residue, hF.Z.residue, hF.T.residue]
      ring

/-- Coordinates of no point, all with the largest limbs where these are not held down by
`X Y = Z T`. -/
theorem conversions_keep_fractions_largest :
    let a : FieldElement := ⟨0x1fffffffffffb3, 0x1fffffffffffb3, 0x1fffffffffffb3,
      0x1fffffffffffb3, 0x1fffffffffffb3⟩
    let A : Affine := ⟨a, .two⟩
    let E : Extended := ⟨a, .ofNat 10, .two, a * .ofNat 5⟩
    let C : Completed := ⟨.one, a, .two, a⟩
    let F := C.toExtended
    (A.Bounded ∧ E.Bounded ∧ C.Bounded ∧ E.Z.residue ≠ 0 ∧
        E.X.residue * E.Y.residue = E.Z.residue * E.T.residue ∧ C.Z.residue ≠ 0 ∧
        C.T.residue ≠ 0) ∧
      (A.toExtended.toAffine.residues = A.residues ∧
        A.toPrecomputed.toExtended.residues =
          (4 * A.x.residue, 4 * A.y.residue, 4, 4 * (A.x.residue * A.y.residue))) ∧
      (E.toAffine.toExtended.residues = (E.X.residue / E.Z.residue,
          E.Y.residue / E.Z.residue, 1, E.T.residue / E.Z.residue) ∧
        (E.toAffine.toExtended == E) = true) ∧
      F.Z.residue ≠ 0 ∧ F.X.residue * F.Y.residue = F.Z.residue * F.T.residue ∧
        F.toAffine.residues = (C.X.residue / C.Z.residue, C.Y.residue / C.T.residue) ∧
        F.toProjective = C.toProjective := by
  intro a A E C F
  have h : A.Bounded ∧ E.Bounded ∧ C.Bounded ∧ E.Z.residue ≠ 0 ∧
      E.X.residue * E.Y.residue = E.Z.residue * E.T.residue ∧ C.Z.residue ≠ 0 ∧
      C.T.residue ≠ 0 := by
    decide +kernel
  obtain ⟨hA, hE, hC, hne, hproduct, hZ, hT⟩ := h
  obtain ⟨hpair, hextended, hcompleted⟩ := conversions_keep_fractions hA hE hC
  exact ⟨⟨hA, hE, hC, hne, hproduct, hZ, hT⟩, hpair, hextended hne hproduct, hcompleted hZ hT⟩

end Conversions

/-! ### Negation in every form -/

section Negation

variable {x y X Y Z T plus minus product : Residue}

/-- The negative of a prepared summand is the prepared negative. -/
theorem Extended.Holds.toCached_neg {E : Extended} (h : E.Holds X Y Z T) :
    (E.toCached.negateIf true).residues = (-E).toCached.residues := by
  rw [h.toCached.neg.residues_eq, h.neg.toCached.residues_eq]
  simp only [Prod.mk.injEq]
  refine ⟨?_, ?_, trivial, ?_⟩ <;> ring

/-- The same for a summand with denominator one. -/
theorem Affine.Holds.toPrecomputed_neg {A : Affine} (h : A.Holds x y) :
    (A.toPrecomputed.negateIf true).residues = (-A).toPrecomputed.residues := by
  rw [h.toPrecomputed.neg.residues_eq, h.neg.toPrecomputed.residues_eq]
  simp only [Prod.mk.injEq]
  refine ⟨?_, ?_, ?_⟩ <;> ring

/-- The negated summand, back in extended coordinates, is the negative of the pair: its coordinates
are four times those over the denominator one. -/
theorem Affine.Holds.toExtended_neg {A : Affine} (h : A.Holds x y) :
    ((A.toPrecomputed.negateIf true).toExtended == -A.toExtended) = true := by
  have hsummand : (A.toPrecomputed.negateIf true).Holds (y + -x) (y - -x)
      (-(x * y * (2 * coefficient))) := by
    rw [← sub_eq_add_neg, sub_neg_eq_add]
    exact h.toPrecomputed.neg
  have hpair := h.toExtended.neg
  refine hsummand.toExtended.beq_of_smul hpair (k := 4) ?_
  rw [hsummand.toExtended.residues_eq, hpair.residues_eq]
  simp only [Prod.smul_mk, smul_eq_mul, neg_mul]

/-! ### Negating twice -/

theorem Affine.Holds.residues_neg_neg {A : Affine} (h : A.Holds x y) :
    (- -A).residues = A.residues := by
  rw [h.neg.neg.residues_eq, h.residues_eq, neg_neg]

theorem Extended.Holds.residues_neg_neg {E : Extended} (h : E.Holds X Y Z T) :
    (- -E).residues = E.residues := by
  rw [h.neg.neg.residues_eq, h.residues_eq, neg_neg, neg_neg]

theorem Cached.Holds.residues_negateIf_negateIf {C : Cached} (h : C.Holds plus minus Z product)
    (c : Bool) : ((C.negateIf c).negateIf c).residues = C.residues := by
  cases c with
  | false => rfl
  | true => rw [h.neg.neg.residues_eq, h.residues_eq, neg_neg]

theorem Precomputed.Holds.residues_negateIf_negateIf {C : Precomputed}
    (h : C.Holds plus minus product) (c : Bool) :
    ((C.negateIf c).negateIf c).residues = C.residues := by
  cases c with
  | false => rfl
  | true => rw [h.neg.neg.residues_eq, h.residues_eq, neg_neg]

/-! ### All forms -/

/-- **Negation in every form**, for coordinates of the accepted size that need not belong to any
point. A difference has the coordinates of the sum with the negated summand. The negative of a
prepared summand is what the negative is prepared to; with denominator one it is also equal to the
negative when it is brought back to extended coordinates. Negating twice restores the residues in
each of the four forms. -/
theorem neg_in_every_form {E F : Extended} {C : Cached} {A : Affine} {D : Precomputed}
    (hE : E.Bounded) (hF : F.Bounded) (hC : C.Bounded) (hA : A.Bounded) (hD : D.Bounded) :
    (E.subCached C).residues = (E.addCached (C.negateIf true)).residues ∧
      (F.toCached.negateIf true).residues = (-F).toCached.residues ∧
      (A.toPrecomputed.negateIf true).residues = (-A).toPrecomputed.residues ∧
      ((A.toPrecomputed.negateIf true).toExtended == -A.toExtended) = true ∧
      (- -A).residues = A.residues ∧ (- -F).residues = F.residues ∧
      ∀ c, ((C.negateIf c).negateIf c).residues = C.residues ∧
        ((D.negateIf c).negateIf c).residues = D.residues :=
  ⟨hE.holds.subCached_residues hC.holds, hF.holds.toCached_neg, hA.holds.toPrecomputed_neg,
    hA.holds.toExtended_neg, hA.holds.residues_neg_neg, hF.holds.residues_neg_neg,
    fun c => ⟨hC.holds.residues_negateIf_negateIf c, hD.holds.residues_negateIf_negateIf c⟩⟩

/-- Coordinates of no point, all with the largest limbs. -/
theorem neg_in_every_form_largest :
    let a : FieldElement := ⟨0x1fffffffffffb3, 0x1fffffffffffb3, 0x1fffffffffffb3,
      0x1fffffffffffb3, 0x1fffffffffffb3⟩
    let E : Extended := ⟨a, .one, .zero, a⟩
    let F : Extended := ⟨.one, a, a, .two⟩
    let C : Cached := ⟨a, .zero, a, .one⟩
    let A : Affine := ⟨a, .two⟩
    let D : Precomputed := ⟨.two, a, a⟩
    (E.Bounded ∧ F.Bounded ∧ C.Bounded ∧ A.Bounded ∧ D.Bounded) ∧
      (E.subCached C).residues = (E.addCached (C.negateIf true)).residues ∧
      (F.toCached.negateIf true).residues = (-F).toCached.residues ∧
      (A.toPrecomputed.negateIf true).residues = (-A).toPrecomputed.residues ∧
      ((A.toPrecomputed.negateIf true).toExtended == -A.toExtended) = true ∧
      (- -A).residues = A.residues ∧ (- -F).residues = F.residues ∧
      ∀ c, ((C.negateIf c).negateIf c).residues = C.residues ∧
        ((D.negateIf c).negateIf c).residues = D.residues := by
  intro a E F C A D
  have h : E.Bounded ∧ F.Bounded ∧ C.Bounded ∧ A.Bounded ∧ D.Bounded := by decide
  obtain ⟨hE, hF, hC, hA, hD⟩ := h
  exact ⟨⟨hE, hF, hC, hA, hD⟩, neg_in_every_form hE hF hC hA hD⟩

end Negation

/-! ### Mixed addition -/

section MixedAddition

open FieldElement

variable {X Y Z T X₁ Y₁ Z₁ T₁ X₂ Y₂ Z₂ T₂ k : Residue} {E F : Extended}

/-- Fractions whose numerators and denominators all have a factor become coordinates that have its
square. -/
theorem Completed.Holds.toExtended_smul {G H : Completed}
    (hG : G.Holds (k * X) (k * Y) (k * Z) (k * T)) (hH : H.Holds X Y Z T) :
    G.toExtended.residues = k ^ 2 • H.toExtended.residues := by
  rw [hG.toExtended.residues_eq, hH.toExtended.residues_eq]
  simp only [Prod.smul_mk, smul_eq_mul, Prod.mk.injEq]
  refine ⟨?_, ?_, ?_, ?_⟩ <;> ring

/-- **The two formulas differ by the denominator** of the right summand. -/
theorem Extended.Holds.addCached_mul (hE : E.Holds X₁ Y₁ Z₁ T₁) (hF : F.Holds X₂ Y₂ Z₂ T₂)
    (hne : Z₂ ≠ 0) (hproduct : X₂ * Y₂ = Z₂ * T₂) :
    ∃ X Y Z T, (E.addCached F.toCached).Holds (Z₂ * X) (Z₂ * Y) (Z₂ * Z) (Z₂ * T) ∧
      (E.addPrecomputed F.toAffine.toPrecomputed).Holds X Y Z T := by
  have hgeneral := hE.addCached hF.toCached
  have hmixed := hE.addPrecomputed hF.toAffine.toPrecomputed
  -- The coordinates of the right summand by its affine ones.
  have hx : X₂ = X₂ / Z₂ * Z₂ := (div_mul_cancel₀ X₂ hne).symm
  have hy : Y₂ = Y₂ / Z₂ * Z₂ := (div_mul_cancel₀ Y₂ hne).symm
  have ht : T₂ = X₂ / Z₂ * (Y₂ / Z₂) * Z₂ := by
    rw [affine_product hne hproduct, div_mul_cancel₀ _ hne]
  generalize X₂ / Z₂ = x at hx hy ht hmixed
  generalize Y₂ / Z₂ = y at hx hy ht hmixed
  subst hx hy ht
  refine ⟨_, _, _, _, ⟨hgeneral.X.congr ?_, hgeneral.Y.congr ?_, hgeneral.Z.congr ?_,
    hgeneral.T.congr ?_⟩, hmixed⟩
  all_goals ring

/-- **Mixed addition is addition.** For operands of the accepted size, on the curve or not, of which
the right one has a denominator other than zero and satisfies `X Y = Z T`: each coordinate of the
sum by the general formula is the one of the sum by the mixed formula times the square of that
denominator, so that the two sums are equal. -/
theorem Extended.addCached_eq_smul_addPrecomputed (hE : E.Bounded) (hF : F.Bounded)
    (hne : F.Z.residue ≠ 0)
    (hproduct : F.X.residue * F.Y.residue = F.Z.residue * F.T.residue) :
    let general := (E.addCached F.toCached).toExtended
    let mixed := (E.addPrecomputed F.toAffine.toPrecomputed).toExtended
    general.residues = F.Z.residue ^ 2 • mixed.residues ∧ (general == mixed) = true := by
  intro general mixed
  obtain ⟨X, Y, Z, T, hgeneral, hmixed⟩ := hE.holds.addCached_mul hF.holds hne hproduct
  have hsmul := hgeneral.toExtended_smul hmixed
  exact ⟨hsmul, hgeneral.toExtended.beq_of_smul hmixed.toExtended hsmul⟩

/-- Coordinates of no point, with the largest limbs on the left. -/
theorem Extended.addCached_eq_smul_addPrecomputed_off_curve :
    let a : FieldElement := ⟨0x1fffffffffffb3, 0x1fffffffffffb3, 0x1fffffffffffb3,
      0x1fffffffffffb3, 0x1fffffffffffb3⟩
    let E : Extended := ⟨a, a, a, .one⟩
    let F : Extended := ⟨.ofNat 6, .ofNat 10, .two, .ofNat 30⟩
    let general := (E.addCached F.toCached).toExtended
    let mixed := (E.addPrecomputed F.toAffine.toPrecomputed).toExtended
    (E.Bounded ∧ F.Bounded ∧ E.isOnCurve = false ∧ F.isOnCurve = false ∧ F.Z.residue ≠ 0 ∧
        F.X.residue * F.Y.residue = F.Z.residue * F.T.residue) ∧
      general.residues = F.Z.residue ^ 2 • mixed.residues ∧ (general == mixed) = true := by
  intro a E F
  have h : E.Bounded ∧ F.Bounded ∧ E.isOnCurve = false ∧ F.isOnCurve = false ∧
      F.Z.residue ≠ 0 ∧ F.X.residue * F.Y.residue = F.Z.residue * F.T.residue := by
    decide +kernel
  obtain ⟨hE, hF, hoffE, hoffF, hne, hproduct⟩ := h
  exact ⟨⟨hE, hF, hoffE, hoffF, hne, hproduct⟩,
    addCached_eq_smul_addPrecomputed hE hF hne hproduct⟩

end MixedAddition

end Edwards25519
