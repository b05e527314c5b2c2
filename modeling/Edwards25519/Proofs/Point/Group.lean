import Edwards25519.Proofs.Point.Coordinates

/-!
# The group laws on valid coordinates

Extended coordinates are valid if they stand for a point of the curve at all. Said of the
coordinates themselves (`Edwards25519.Extended.Valid`), this is a bound on their limbs, a
denominator other than zero and two equations; said of the group, it is that there is a point
which they denote (`Edwards25519.Extended.valid_iff`). The first is what a caller can check,
and the second what the formulas keep.

On valid coordinates addition obeys the laws of a commutative group, up to equality of points
(`Edwards25519.Extended.add_laws`). Divided out, what it reaches is the law that the curve has in
affine coordinates (`Edwards25519.Extended.add_affine`), with denominators that do not vanish for
any two points, be they equal, opposite or of low order.

The sums that copies of a point add up to differ in their coordinates with the order of the
additions, and so do its multiples in general, where some of the copies are negated
(`Edwards25519.Extended.IsMultiple`). What they have in common is the point. A chain of `n`
doublings is equal to whatever `2^n` copies add up to
(`Edwards25519.Extended.doubleChain_eq_copies`), although doubling has a formula of its own; and
since a doubling does not read the fourth coordinate, only the last of a chain has to produce it
(`Edwards25519.Extended.doubleChain_eq_iterate`).
-/

namespace Edwards25519

/-! ### Valid coordinates -/

section Valid

open FieldElement

variable {P : Point} {E F G : Extended}

/-- **Valid coordinates**: of the size that the operations accept, over a denominator other than
zero, with `X Y = Z T` and on the curve. -/
structure Extended.Valid (E : Extended) : Prop where
  X_lt : LimbsBelow (2 ^ 53 - 76) E.X
  Y_lt : LimbsBelow (2 ^ 53 - 76) E.Y
  Z_lt : LimbsBelow (2 ^ 53 - 76) E.Z
  T_lt : LimbsBelow (2 ^ 53 - 76) E.T
  ne_zero : E.Z.residue ≠ 0
  product : E.X.residue * E.Y.residue = E.Z.residue * E.T.residue
  equation : -E.X.residue ^ 2 + E.Y.residue ^ 2 =
    E.Z.residue ^ 2 + coefficient * E.T.residue ^ 2

/-- Whether coordinates are valid can be computed, with the coefficient as it is written down. -/
instance (E : Extended) : Decidable E.Valid :=
  decidable_of_iff (LimbsBelow (2 ^ 53 - 76) E.X ∧ LimbsBelow (2 ^ 53 - 76) E.Y ∧
      LimbsBelow (2 ^ 53 - 76) E.Z ∧ LimbsBelow (2 ^ 53 - 76) E.T ∧ E.Z.residue ≠ 0 ∧
      E.X.residue * E.Y.residue = E.Z.residue * E.T.residue ∧
      -E.X.residue ^ 2 + E.Y.residue ^ 2 =
        E.Z.residue ^ 2 + edwardsD.residue * E.T.residue ^ 2) <| by
    rw [residue_edwardsD]
    exact ⟨fun ⟨hX, hY, hZ, hT, hne, hproduct, hequation⟩ =>
        ⟨hX, hY, hZ, hT, hne, hproduct, hequation⟩,
      fun ⟨hX, hY, hZ, hT, hne, hproduct, hequation⟩ =>
        ⟨hX, hY, hZ, hT, hne, hproduct, hequation⟩⟩

/-- Coordinates that stand for a point are valid. -/
theorem Extended.Denotes.valid (hE : E.Denotes P) : E.Valid := by
  obtain ⟨z, hz⟩ := hE
  refine ⟨hz.X.limbs, hz.Y.limbs, hz.Z.limbs, hz.T.limbs, ?_, ?_, ?_⟩
  · rw [hz.Z.residue]
    exact hz.ne_zero
  · rw [hz.X.residue, hz.Y.residue, hz.Z.residue, hz.T.residue]
    ring
  · rw [hz.X.residue, hz.Y.residue, hz.Z.residue, hz.T.residue]
    linear_combination z ^ 2 * P.equation

/-- **Valid coordinates are those that stand for a point.** -/
theorem Extended.valid_iff : E.Valid ↔ ∃ P, E.Denotes P := by
  constructor
  · intro h
    exact exists_denotes h.X_lt h.Y_lt h.Z_lt h.T_lt h.ne_zero h.product h.equation
  · rintro ⟨P, hE⟩
    exact hE.valid

/-- Points for the coordinates in a list. -/
theorem Extended.exists_forall₂_denotes {Es : List Extended} (h : ∀ E ∈ Es, ∃ P, E.Denotes P) :
    ∃ Ps, List.Forall₂ Extended.Denotes Es Ps := by
  induction Es with
  | nil => exact ⟨[], .nil⟩
  | cons E Es ih =>
    obtain ⟨P, hP⟩ := h E List.mem_cons_self
    obtain ⟨Ps, hPs⟩ := ih fun F hF => h F (List.mem_cons_of_mem E hF)
    exact ⟨P :: Ps, .cons hP hPs⟩

/-! ### The laws of addition -/

/-- **Addition is that of a commutative group**, for all valid coordinates and up to equality of
points: it is associative and commutative, it has a neutral element and negatives, negation is
its own inverse, and subtraction is the addition of the negative, by which addition is undone. -/
theorem Extended.add_laws (hE : E.Valid) (hF : F.Valid) (hG : G.Valid) :
    (E + F + G == E + (F + G)) = true ∧ (E + F == F + E) = true ∧ (E + identity == E) = true ∧
      (E + -E == identity) = true ∧ (- -E == E) = true ∧ (E - F == E + -F) = true ∧
      (E - F + F == E) = true := by
  obtain ⟨P, hP⟩ := valid_iff.1 hE
  obtain ⟨Q, hQ⟩ := valid_iff.1 hF
  obtain ⟨R, hR⟩ := valid_iff.1 hG
  -- The two sides of each law stand for those of the same law in the group.
  refine ⟨?_, ?_, ?_, ?_, ?_, ?_, ?_⟩
  · exact (((hP.add hQ).add hR).beq_iff (hP.add (hQ.add hR))).2 (add_assoc P Q R)
  · exact ((hP.add hQ).beq_iff (hQ.add hP)).2 (add_comm P Q)
  · exact ((hP.add denotes_identity).beq_iff hP).2 (add_zero P)
  · exact ((hP.add hP.neg).beq_iff denotes_identity).2 (add_neg_cancel P)
  · exact (hP.neg.neg.beq_iff hP).2 (neg_neg P)
  · exact ((hP.sub hQ).beq_iff (hP.add hQ.neg)).2 (sub_eq_add_neg P Q)
  · exact (((hP.sub hQ).add hQ).beq_iff hP).2 (sub_add_cancel P Q)

/-- The laws for a point, its negative and the point of order two, `(0, -1)`. -/
theorem Extended.add_laws_order_two :
    let E := generator.double
    let F := -generator.double
    let G : Extended := ⟨.zero, .minusOne, .one, .zero⟩
    (E.Valid ∧ F.Valid ∧ G.Valid) ∧
      (E + F + G == E + (F + G)) = true ∧ (E + F == F + E) = true ∧ (E + identity == E) = true ∧
      (E + -E == identity) = true ∧ (- -E == E) = true ∧ (E - F == E + -F) = true ∧
      (E - F + F == E) = true := by
  have hE : Extended.generator.double.Valid := by decide +kernel
  have hF : (-Extended.generator.double).Valid := by decide +kernel
  have hG : Extended.Valid ⟨.zero, .minusOne, .one, .zero⟩ := by decide +kernel
  exact ⟨⟨hE, hF, hG⟩, add_laws hE hF hG⟩

end Valid

section AffineLaw

open CurvePoint FieldElement

variable {P Q : Point} {E F : Extended}

/-! ### Affine coordinates -/

/-- The first affine coordinate. -/
def Extended.x (E : Extended) : Residue :=
  E.X.residue / E.Z.residue

/-- The second affine coordinate. -/
def Extended.y (E : Extended) : Residue :=
  E.Y.residue / E.Z.residue

theorem Extended.Denotes.x_eq (hE : E.Denotes P) : E.x = P.x := by
  obtain ⟨z, hz⟩ := hE
  rw [Extended.x, hz.X.residue, hz.Z.residue, mul_div_cancel_right₀ _ hz.ne_zero]

theorem Extended.Denotes.y_eq (hE : E.Denotes P) : E.y = P.y := by
  obtain ⟨z, hz⟩ := hE
  rw [Extended.y, hz.Y.residue, hz.Z.residue, mul_div_cancel_right₀ _ hz.ne_zero]

/-- The fourth coordinate is the product of the affine ones over the denominator. -/
theorem Extended.Denotes.T_eq (hE : E.Denotes P) : E.T.residue = P.x * P.y * E.Z.residue := by
  obtain ⟨z, hz⟩ := hE
  rw [hz.T.residue, hz.Z.residue]

/-! ### The law -/

/-- **The affine sum** of `(x₁, y₁)` and `(x₂, y₂)`, in extended coordinates: the two
denominators of the law are not zero, division gives its two fractions, and the fourth
coordinate is the product of these over the denominator. -/
structure Extended.IsAffineSum (E : Extended) (x₁ y₁ x₂ y₂ : Residue) : Prop where
  plus_ne_zero : 1 + coefficient * x₁ * x₂ * y₁ * y₂ ≠ 0
  minus_ne_zero : 1 - coefficient * x₁ * x₂ * y₁ * y₂ ≠ 0
  x : E.toAffine.x.residue = (x₁ * y₂ + y₁ * x₂) / (1 + coefficient * x₁ * x₂ * y₁ * y₂)
  y : E.toAffine.y.residue = (y₁ * y₂ + x₁ * x₂) / (1 - coefficient * x₁ * x₂ * y₁ * y₂)
  T : E.T.residue = E.toAffine.x.residue * E.toAffine.y.residue * E.Z.residue

/-- Coordinates of a sum of points are those of the law. -/
theorem Extended.Denotes.isAffineSum (hE : E.Denotes (P + Q)) :
    E.IsAffineSum P.x P.y Q.x Q.y where
  plus_ne_zero := one_add_cross_ne P Q
  minus_ne_zero := one_sub_cross_ne P Q
  x := hE.toAffine.x.residue
  y := hE.toAffine.y.residue
  T := by rw [hE.toAffine.x.residue, hE.toAffine.y.residue, hE.T_eq]

/-- **Addition by the affine law.** For valid coordinates the sum is the one of the law, and the
difference is the sum with the sign of `x₂` turned. -/
theorem Extended.add_affine (hE : E.Valid) (hF : F.Valid) :
    (E + F).IsAffineSum E.x E.y F.x F.y ∧ (E - F).IsAffineSum E.x E.y (-F.x) F.y := by
  obtain ⟨P, hP⟩ := valid_iff.1 hE
  obtain ⟨Q, hQ⟩ := valid_iff.1 hF
  rw [hP.x_eq, hP.y_eq, hQ.x_eq, hQ.y_eq]
  refine ⟨(hP.add hQ).isAffineSum, ?_⟩
  have hsub := hP.sub hQ
  rw [sub_eq_add_neg] at hsub
  exact hsub.isAffineSum

/-- The law for a point and its negative, which add up to the neutral element. -/
theorem Extended.add_affine_opposite :
    let E := generator.double
    let F := -generator.double
    (E.Valid ∧ F.Valid) ∧
      (E + F).IsAffineSum E.x E.y F.x F.y ∧ (E - F).IsAffineSum E.x E.y (-F.x) F.y := by
  intro E F
  have hvalid : E.Valid ∧ F.Valid := by decide +kernel
  exact ⟨hvalid, add_affine hvalid.1 hvalid.2⟩

end AffineLaw

/-! ### Multiples built from a point -/

section Multiples

variable {P : Point} {E F : Extended}

/-- **Sums of copies**: `F` has been added up from `k` copies of `E`, in whatever order and with
the neutral element among them or not. -/
inductive Extended.IsSumOfCopies (E : Extended) : ℕ → Extended → Prop
  /-- The neutral element, from no copies. -/
  | none : IsSumOfCopies E 0 identity
  /-- The coordinates themselves. -/
  | one : IsSumOfCopies E 1 E
  /-- The sum of two such sums. -/
  | add {i j : ℕ} {F G : Extended} (hF : IsSumOfCopies E i F) (hG : IsSumOfCopies E j G) :
      IsSumOfCopies E (i + j) (F + G)

/-- **Multiples**: `F` has been made from copies of `E` by additions and negations, in whatever
order, and the copies count to `n`. -/
inductive Extended.IsMultiple (E : Extended) : ℤ → Extended → Prop
  /-- The neutral element, from no copies. -/
  | zero : IsMultiple E 0 identity
  /-- The coordinates themselves. -/
  | one : IsMultiple E 1 E
  /-- The sum of two multiples. -/
  | add {m n : ℤ} {F G : Extended} (hF : IsMultiple E m F) (hG : IsMultiple E n G) :
      IsMultiple E (m + n) (F + G)
  /-- The negative of a multiple. -/
  | neg {n : ℤ} {F : Extended} (hF : IsMultiple E n F) : IsMultiple E (-n) (-F)

namespace Extended

/-- **A multiple stands for the multiple**, however it has been built. -/
theorem IsMultiple.denotes {n : ℤ} (h : E.IsMultiple n F) (hE : E.Denotes P) :
    F.Denotes (n • P) := by
  induction h with
  | zero =>
    rw [zero_zsmul]
    exact denotes_identity
  | one =>
    rw [one_zsmul]
    exact hE
  | add _ _ ihF ihG =>
    rw [add_zsmul]
    exact ihF.add ihG
  | neg _ ih =>
    rw [neg_zsmul]
    exact ih.neg

/-- A sum of copies is a multiple in which nothing is negated. -/
theorem IsSumOfCopies.isMultiple {k : ℕ} (h : E.IsSumOfCopies k F) : E.IsMultiple k F := by
  induction h with
  | none => exact .zero
  | one => exact .one
  | add _ _ ihF ihG =>
    rw [Nat.cast_add]
    exact ihF.add ihG

/-- Copies of a point add up to its multiple. -/
theorem IsSumOfCopies.denotes {k : ℕ} (h : E.IsSumOfCopies k F) (hE : E.Denotes P) :
    F.Denotes (k • P) := by
  rw [← natCast_zsmul]
  exact h.isMultiple.denotes hE

/-! ### From the left -/

/-- One way to add up copies is one after the other, from the neutral element on. -/
theorem isSumOfCopies_sum (E : Extended) (k : ℕ) :
    E.IsSumOfCopies k (sum (List.replicate k E)) := by
  -- What has been added up so far are the copies taken from the list.
  have hrun : ∀ (i : ℕ) (A : Extended), E.IsSumOfCopies i A →
      E.IsSumOfCopies (i + k) ((List.replicate k E).foldl (· + ·) A) := by
    induction k with
    | zero => exact fun i A hA => hA
    | succ k ih =>
      intro i A hA
      rw [List.replicate_succ, List.foldl_cons, Nat.add_comm k, ← Nat.add_assoc]
      exact ih (i + 1) (A + E) (hA.add .one)
  have h := hrun 0 identity .none
  rw [Nat.zero_add] at h
  exact h

/-- The multiple by an integer: copies added up one after the other, and for a negative integer the
negative of their sum. -/
def multiple (E : Extended) : ℤ → Extended
  | .ofNat k => sum (List.replicate k E)
  | .negSucc k => -sum (List.replicate (k + 1) E)

theorem isMultiple_multiple (E : Extended) (n : ℤ) : E.IsMultiple n (E.multiple n) := by
  cases n with
  | ofNat k => exact (E.isSumOfCopies_sum k).isMultiple
  | negSucc k => exact (E.isSumOfCopies_sum (k + 1)).isMultiple.neg

end Extended

end Multiples

section Doubling

variable {P : Point} {E F : Extended}

/-! ### Without the fourth coordinate -/

/-- The double in projective coordinates, from which the next doubling can go on. -/
def Projective.doubled (E : Projective) : Projective :=
  E.double.toProjective

/-- **A chain of doublings**: `n` that leave out the fourth coordinate, and one more that
produces it. -/
def Extended.doubleChain (E : Extended) (n : ℕ) : Extended :=
  (Projective.doubled^[n] E.toProjective).double.toExtended

/-- Dropping the fourth coordinate before a doubling or after it is the same. -/
theorem Extended.semiconj_toProjective :
    Function.Semiconj Extended.toProjective Extended.double Projective.doubled :=
  fun _ => rfl

/-- **The chain ends where doubling in extended coordinates ends.** -/
theorem Extended.doubleChain_eq_iterate (E : Extended) (n : ℕ) :
    E.doubleChain n = Extended.double^[n + 1] E := by
  have hdrop : (Extended.double^[n] E).toProjective = Projective.doubled^[n] E.toProjective :=
    (semiconj_toProjective.iterate_right n).eq E
  rw [Function.iterate_succ_apply', doubleChain, ← hdrop]
  rfl

/-! ### As a multiple -/

theorem Extended.Denotes.iterate_double (hE : E.Denotes P) (n : ℕ) :
    (Extended.double^[n] E).Denotes (2 ^ n • P) := by
  induction n with
  | zero =>
    rw [pow_zero, one_nsmul]
    exact hE
  | succ n ih =>
    rw [Function.iterate_succ_apply', pow_succ', mul_nsmul', two_nsmul]
    exact ih.double

theorem Extended.Denotes.doubleChain (hE : E.Denotes P) (n : ℕ) :
    (E.doubleChain n).Denotes (2 ^ (n + 1) • P) := by
  rw [doubleChain_eq_iterate]
  exact hE.iterate_double (n + 1)

/-! ### Agreement -/

/-- **Doubling is adding up copies.** For valid coordinates a chain of `n + 1` doublings is valid
again. It is equal to every sum of `2^(n + 1)` copies, the one from left to right among them, and
has the coordinates that `n + 1` doublings in extended coordinates have. In particular a single
doubling is equal to the sum of the point and itself. -/
theorem Extended.doubleChain_eq_copies (hE : E.Valid) :
    (∀ n, (E.doubleChain n).Valid ∧
        (∀ F, E.IsSumOfCopies (2 ^ (n + 1)) F → (E.doubleChain n == F) = true) ∧
        (E.doubleChain n == Extended.sum (List.replicate (2 ^ (n + 1)) E)) = true ∧
        E.doubleChain n = Extended.double^[n + 1] E) ∧
      (E.double == E + E) = true := by
  obtain ⟨P, hP⟩ := valid_iff.1 hE
  have hcopies (n : ℕ) (F : Extended) (hF : E.IsSumOfCopies (2 ^ (n + 1)) F) :
      (E.doubleChain n == F) = true :=
    ((hP.doubleChain n).beq_iff (hF.denotes hP)).2 rfl
  refine ⟨fun n => ⟨(hP.doubleChain n).valid, hcopies n, ?_, E.doubleChain_eq_iterate n⟩, ?_⟩
  · exact hcopies n _ (E.isSumOfCopies_sum _)
  · exact hcopies 0 _ (IsSumOfCopies.one.add .one)

/-- A point of order four, over the denominator two, whose chain passes through the point of
order two and ends at the neutral element. -/
theorem Extended.doubleChain_eq_copies_order_four :
    let E : Extended := ⟨.sqrtMinusOne + .sqrtMinusOne, .zero, .two, .zero⟩
    E.Valid ∧
      (∀ n, (E.doubleChain n).Valid ∧
        (∀ F, E.IsSumOfCopies (2 ^ (n + 1)) F → (E.doubleChain n == F) = true) ∧
        (E.doubleChain n == Extended.sum (List.replicate (2 ^ (n + 1)) E)) = true ∧
        E.doubleChain n = Extended.double^[n + 1] E) ∧
      (E.double == E + E) = true := by
  intro E
  have hE : E.Valid := by decide +kernel
  exact ⟨hE, doubleChain_eq_copies hE⟩

end Doubling

end Edwards25519
