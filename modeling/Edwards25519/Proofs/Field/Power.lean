import Edwards25519.Proofs.Curve
import Edwards25519.Proofs.Field.Product
import Mathlib.NumberTheory.LegendreSymbol.JacobiSymbol
import Mathlib.Tactic.NormNum.LegendreSymbol

/-!
# Powers and the constants of the curve

The two powers of the field are computed by the same chain of squarings and products, and
the chain is followed here by its exponents alone. `Edwards25519.FieldElement.IsPower` says
of limbs that they stand for a power of a fixed residue; a product adds the exponents and a
squaring doubles them, so that the exponent reached by the chain can be read off its steps.

* `Edwards25519.FieldElement.invert_computes` – the power with the exponent `p - 2` is the
  inverse, because `p` is a prime: by Fermat's theorem one more factor makes it one;
* `Edwards25519.FieldElement.rootPower_computes` – the power with the exponent `(p - 5)/8`, of
  which square roots are made, and the two powers that both chains start from.

There is no case distinction in any of it. Whether an element is zero is a question about its
residue and not about its limbs: those of `p` or of `4 p` are zero too, and the chain of squarings
and products sends them to zero like the others.

The coefficient of the curve is `-121665/121666`, a residue that is not a square
(`Edwards25519.not_isSquare_coefficient`), while -1 is one. So the curve is complete, and
its points, the values that the point formulas compute with, form a group
(`Edwards25519.Point`).
-/

namespace Edwards25519

/-! ### Powers -/

namespace FieldElement

variable {f g a : FieldElement} {x : Residue} {i j : ℕ}

/-- The limbs stand for the power of `x` with the exponent `i`. -/
structure IsPower (x : Residue) (i : ℕ) (f : FieldElement) : Prop where
  limbs : LimbsBelow (2 ^ 54) f
  residue : f.residue = x ^ i

theorem IsPower.congr (h : IsPower x i f) (hij : i = j) : IsPower x j f :=
  hij ▸ h

theorem mulM_isPower (hf : IsPower x i f) (hg : IsPower x j g) :
    Exact (mulM f g) (IsPower x (i + j)) := by
  refine (mulM_exact hf.limbs hg.limbs).mono fun r h => ?_
  obtain ⟨hlimbs, hresidue⟩ := h
  exact ⟨hlimbs.mono (by norm_num), by rw [hresidue, hf.residue, hg.residue, pow_add]⟩

theorem squareTimesM_isPower (n : ℕ) (hf : IsPower x i f) :
    Exact (squareTimesM n f) (IsPower x (i * 2 ^ n)) := by
  refine (squareTimesM_exact (by norm_num) le_rfl n hf.limbs).mono fun r h => ?_
  obtain ⟨hlimbs, hresidue⟩ := h
  exact ⟨hlimbs, by rw [hresidue, hf.residue, pow_mul]⟩

theorem squareM_isPower (hf : IsPower x i f) : Exact (squareM f) (IsPower x (i * 2)) := by
  refine (squareM_exact hf.limbs).mono fun r h => ?_
  obtain ⟨hlimbs, hresidue⟩ := h
  exact ⟨hlimbs.mono (by norm_num), by rw [hresidue, hf.residue, pow_mul]⟩

/-- **The common chain of the two powers.** -/
theorem powerPairM_exact (hf : LimbsBelow (2 ^ 54) f) :
    Exact (powerPairM f) fun r =>
      IsPower f.residue (2 ^ 250 - 1) r.1 ∧ IsPower f.residue 11 r.2 := by
  have h1 : IsPower f.residue 1 f := ⟨hf, (pow_one _).symm⟩
  refine (squareM_isPower h1).bind fun f2 h2 => ?_
  refine (squareTimesM_isPower 2 h2).bind fun f8 h8 => ?_
  refine (mulM_isPower h1 h8).bind fun f9 h9 => ?_
  refine (mulM_isPower h2 h9).bind fun f11 h11 => ?_
  refine (squareM_isPower h11).bind fun f22 h22 => ?_
  -- From here on the exponents are runs of ones: that of `onesN` is `2^N - 1`.
  refine (mulM_isPower h9 h22).bind fun ones5 h5 => ?_
  refine (squareTimesM_isPower 5 h5).bind fun s5 hs5 => ?_
  refine (mulM_isPower hs5 h5).bind fun ones10 h10 => ?_
  refine (squareTimesM_isPower 10 h10).bind fun s10 hs10 => ?_
  refine (mulM_isPower hs10 h10).bind fun ones20 h20 => ?_
  refine (squareTimesM_isPower 20 h20).bind fun s20 hs20 => ?_
  refine (mulM_isPower hs20 h20).bind fun ones40 h40 => ?_
  refine (squareTimesM_isPower 10 h40).bind fun s40 hs40 => ?_
  refine (mulM_isPower hs40 h10).bind fun ones50 h50 => ?_
  refine (squareTimesM_isPower 50 h50).bind fun s50 hs50 => ?_
  refine (mulM_isPower hs50 h50).bind fun ones100 h100 => ?_
  refine (squareTimesM_isPower 100 h100).bind fun s100 hs100 => ?_
  refine (mulM_isPower hs100 h100).bind fun ones200 h200 => ?_
  refine (squareTimesM_isPower 50 h200).bind fun s200 hs200 => ?_
  refine (mulM_isPower hs200 h50).bind fun ones250 h250 => ?_
  exact Exact.pure ⟨h250.congr (by norm_num), h11.congr (by norm_num)⟩

theorem invertM_exact (hf : LimbsBelow (2 ^ 54) f) :
    Exact (invertM f) fun r =>
      LimbsBelow (2 ^ 51 + 2 ^ 18) r ∧ r.residue = f.residue ^ (fieldPrime - 2) := by
  refine (powerPairM_exact hf).bind fun r h => ?_
  obtain ⟨h250, h11⟩ := h
  refine (squareTimesM_isPower 5 h250).bind fun s hs => ?_
  refine (mulM_exact hs.limbs h11.limbs).mono fun t h => ?_
  obtain ⟨hlimbs, hresidue⟩ := h
  refine ⟨hlimbs, ?_⟩
  rw [hresidue, hs.residue, h11.residue, ← pow_add]
  congr 1

theorem rootPowerM_exact (hf : LimbsBelow (2 ^ 54) f) :
    Exact (rootPowerM f) fun r =>
      LimbsBelow (2 ^ 51 + 2 ^ 18) r ∧ r.residue = f.residue ^ ((fieldPrime - 5) / 8) := by
  refine (powerPairM_exact hf).bind fun r h => ?_
  obtain ⟨h250, _⟩ := h
  refine (squareTimesM_isPower 2 h250).bind fun s hs => ?_
  refine (mulM_exact hs.limbs hf).mono fun t h => ?_
  obtain ⟨hlimbs, hresidue⟩ := h
  refine ⟨hlimbs, ?_⟩
  rw [hresidue, hs.residue, ← pow_succ]
  congr 1

theorem Denotes.invertM_exact (ha : a.Denotes x) :
    Exact (invertM a) fun r => r.Denotes (x ^ (fieldPrime - 2)) := by
  rw [← ha.residue]
  exact denotes_exact (FieldElement.invertM_exact ha.limbs_lt) (by norm_num)

theorem Denotes.rootPowerM_exact (ha : a.Denotes x) :
    Exact (rootPowerM a) fun r => r.Denotes (x ^ ((fieldPrime - 5) / 8)) := by
  rw [← ha.residue]
  exact denotes_exact (FieldElement.rootPowerM_exact ha.limbs_lt) (by norm_num)

theorem Denotes.invert (ha : a.Denotes x) : a.invert.Denotes (x ^ (fieldPrime - 2)) :=
  ha.invertM_exact.run

theorem Denotes.rootPower (ha : a.Denotes x) :
    a.rootPower.Denotes (x ^ ((fieldPrime - 5) / 8)) :=
  ha.rootPowerM_exact.run

end FieldElement

/-! ### The constants of the curve -/

section Constants

variable {x : Residue}

/-- Two residues given by numbers are equal if the numbers leave the same remainder. -/
theorem natCast_eq {m n : ℕ} (h : m % fieldPrime = n % fieldPrime) : (m : Residue) = n :=
  (ZMod.natCast_eq_natCast_iff' _ _ _).2 h

/-- A number that `p` does not divide is not zero as a residue. -/
theorem natCast_ne_zero {n : ℕ} (h : n % fieldPrime ≠ 0) : (n : Residue) ≠ 0 := by
  rw [ne_eq, ZMod.natCast_eq_zero_iff, Nat.dvd_iff_mod_eq_zero]
  exact h

theorem residue_two_ne_zero : (2 : Residue) ≠ 0 := by
  exact_mod_cast natCast_ne_zero (n := 2) (by decide)

/-! ### The coefficient -/

/-- The coefficient `d` of the curve `-x² + y² = 1 + d x² y²`. -/
def coefficient : Residue :=
  -121665 / 121666

theorem eq_coefficient_iff : x = coefficient ↔ x * 121666 + 121665 = 0 := by
  have hne : (121666 : Residue) ≠ 0 := by
    exact_mod_cast natCast_ne_zero (n := 121666) (by decide)
  rw [coefficient, eq_div_iff hne, eq_neg_iff_add_eq_zero]

/-- The least number of the coefficient. -/
theorem natCast_coefficient :
    ((0x52036cee2b6ffe738cc740797779e89800700a4d4141d8ab75eb4dca135978a3 : ℕ) : Residue) =
      coefficient := by
  rw [eq_coefficient_iff]
  have h := natCast_eq (n := 0)
    (m := 0x52036cee2b6ffe738cc740797779e89800700a4d4141d8ab75eb4dca135978a3 * 121666 + 121665)
    (by decide)
  rw [Nat.cast_zero, Nat.cast_add, Nat.cast_mul, Nat.cast_ofNat (n := 121666),
    Nat.cast_ofNat (n := 121665)] at h
  exact h

/-- **The coefficient is not a square.** -/
theorem not_isSquare_coefficient : ¬IsSquare coefficient := by
  have h : ¬IsSquare ((37095705934669439343138083508754565189542113879843219016388785533085940283555
      : ℤ) : Residue) := by
    apply ZMod.nonsquare_of_jacobiSym_eq_neg_one
    norm_num [fieldPrime_eq]
  rw [← natCast_coefficient]
  exact_mod_cast h

/-- The constant `sqrtMinusOne`, as a residue. -/
def rootMinusOne : Residue :=
  (0x2b8324804fc1df0b2b4d00993dfbd7a72f431806ad2fe478c4ee1b274a0ea0b0 : ℕ)

theorem rootMinusOne_sq : rootMinusOne ^ 2 = -1 := by
  rw [eq_neg_iff_add_eq_zero, rootMinusOne]
  have h := natCast_eq (n := 0)
    (m := 0x2b8324804fc1df0b2b4d00993dfbd7a72f431806ad2fe478c4ee1b274a0ea0b0 ^ 2 + 1)
    (by decide)
  rw [Nat.cast_zero, Nat.cast_add, Nat.cast_pow, Nat.cast_one] at h
  exact h

/-- **The curve is complete.** -/
instance : IsComplete coefficient where
  two_ne_zero := residue_two_ne_zero
  isSquare_neg_one := ⟨rootMinusOne, by rw [← rootMinusOne_sq, sq]⟩
  not_isSquare := not_isSquare_coefficient

/-- The group of the curve. -/
abbrev Point :=
  CurvePoint coefficient

/-! ### As field elements -/

namespace FieldElement

variable {a : FieldElement}

theorem denotes_edwardsD : edwardsD.Denotes coefficient := by
  rw [← natCast_coefficient]
  exact denotes_ofNat (by norm_num)

/-- The coefficient in a form that can be computed with. -/
theorem residue_edwardsD : edwardsD.residue = coefficient :=
  denotes_edwardsD.residue

theorem denotes_edwardsD2 : edwardsD2.Denotes (2 * coefficient) := by
  have h : ((0x2406d9dc56dffce7198e80f2eef3d13000e0149a8283b156ebd69b9426b2f159 : ℕ) : Residue) =
      (2 * 0x52036cee2b6ffe738cc740797779e89800700a4d4141d8ab75eb4dca135978a3 : ℕ) :=
    natCast_eq (by decide)
  rw [← natCast_coefficient]
  rw [Nat.cast_mul, Nat.cast_ofNat (n := 2)] at h
  rw [← h]
  exact denotes_ofNat (by norm_num)

theorem denotes_sqrtMinusOne : sqrtMinusOne.Denotes rootMinusOne :=
  denotes_ofNat (by norm_num)

/-! ### The inverse -/

/-- **The power with the exponent `p - 2` is the inverse**, with zero for that of zero. -/
theorem pow_fieldPrime_sub_two (x : Residue) : x ^ (fieldPrime - 2) = x⁻¹ := by
  rcases eq_or_ne x 0 with rfl | hx
  · rw [inv_zero, zero_pow (by decide)]
  · have hsub : fieldPrime - 2 + 1 = fieldPrime - 1 := by decide
    apply eq_inv_of_mul_eq_one_left
    rw [← pow_succ, hsub]
    exact ZMod.pow_card_sub_one_eq_one hx

theorem Denotes.inv (ha : a.Denotes x) : a.invert.Denotes x⁻¹ := by
  rw [← pow_fieldPrime_sub_two]
  exact ha.invert

end FieldElement

end Constants

/-! ### Inversion -/

namespace FieldElement

variable {a b : FieldElement}

/-- The residue is zero if `p` divides the number. -/
theorem residue_eq_zero_iff : a.residue = 0 ↔ a.value % fieldPrime = 0 := by
  rw [residue, ZMod.natCast_eq_zero_iff, Nat.dvd_iff_mod_eq_zero]

/-- The limbs of an inverse, and its residue. -/
theorem run_invertM (ha : LimbsBelow (2 ^ 54) a) :
    LimbsBelow (2 ^ 54) a.invert ∧ a.invert.residue = a.residue⁻¹ := by
  obtain ⟨hlimbs, hresidue⟩ := (invertM_exact ha).run
  exact ⟨hlimbs.mono (by norm_num), hresidue.trans (pow_fieldPrime_sub_two a.residue)⟩

/-- **The inverse is the only one**: a product is one exactly if its first factor is not zero and
the second is equal to the inverse of the first. -/
theorem mul_beq_one_iff (ha : LimbsBelow (2 ^ 54) a) (hb : LimbsBelow (2 ^ 54) b) :
    (a * b == one) = true ↔ a.value % fieldPrime ≠ 0 ∧ (b == a.invert) = true := by
  have hproduct : LimbsBelow (2 ^ 51 + 2 ^ 18) (a * b) ∧
      (a * b).residue = a.residue * b.residue := (mulM_exact ha hb).run
  obtain ⟨hinverse_lt, hinverse⟩ := run_invertM ha
  rw [beq_iff_residue (hproduct.1.mono (by norm_num)) denotes_one.limbs_lt, hproduct.2,
    denotes_one.residue, beq_iff_residue hb hinverse_lt, hinverse, ne_eq, ← residue_eq_zero_iff]
  constructor
  · intro h
    exact ⟨left_ne_zero_of_mul_eq_one h, eq_inv_of_mul_eq_one_right h⟩
  · rintro ⟨hne, h⟩
    rw [h, mul_inv_cancel₀ hne]

/-- The inverse is zero for the elements that are zero. -/
theorem invert_beq_zero_iff (ha : LimbsBelow (2 ^ 54) a) :
    (a.invert == zero) = true ↔ a.value % fieldPrime = 0 := by
  obtain ⟨hinverse_lt, hinverse⟩ := run_invertM ha
  rw [beq_iff_residue hinverse_lt denotes_zero.limbs_lt, denotes_zero.residue, hinverse,
    inv_eq_zero, residue_eq_zero_iff]

/-- **The inverse modulo `p`.** For limbs below `2^54` nothing in an inversion overflows, and the
number of the result is congruent to the power with the exponent `p - 2`. So the product of an
element and its inverse is one unless `p` divides the number of the element; if it does, the
inverse is zero. -/
theorem invert_computes (ha : LimbsBelow (2 ^ 54) a) :
    Computes (invertM a) a.invert (a.value ^ (fieldPrime - 2)) ∧
      (a.value % fieldPrime ≠ 0 → (a * a.invert == one) = true) ∧
      (a.value % fieldPrime = 0 → (a.invert == zero) = true) := by
  refine ⟨?_, ?_, (invert_beq_zero_iff ha).2⟩
  · have hpower : a.residue ^ (fieldPrime - 2) =
        ((a.value ^ (fieldPrime - 2) : ℤ) : Residue) := by
      rw [Int.cast_pow, Int.cast_natCast, residue]
    exact (computes_run (invertM_exact ha) hpower :)
  · intro hne
    have hinverse_lt := (run_invertM ha).1
    exact (mul_beq_one_iff ha hinverse_lt).2 ⟨hne, (beq_iff_residue hinverse_lt hinverse_lt).2 rfl⟩

/-- The largest limbs, which add up to a number above `8 p`, and the limbs of `4 p`, which are one
more form of zero. -/
theorem invert_computes_largest :
    let a : FieldElement := ⟨0x3fffffffffffff, 0x3fffffffffffff, 0x3fffffffffffff,
      0x3fffffffffffff, 0x3fffffffffffff⟩
    let z : FieldElement := ⟨0x1fffffffffffb4, 0x1ffffffffffffc, 0x1ffffffffffffc,
      0x1ffffffffffffc, 0x1ffffffffffffc⟩
    (LimbsBelow (2 ^ 54) a ∧ LimbsBelow (2 ^ 54) z) ∧
      Computes (invertM a) a.invert (a.value ^ (fieldPrime - 2)) ∧
      (a * a.invert == one) = true ∧ (z.invert == zero) = true := by
  intro a z
  have ha : LimbsBelow (2 ^ 54) a := by decide
  have hz : LimbsBelow (2 ^ 54) z := by decide
  obtain ⟨hpower, hone, -⟩ := invert_computes ha
  obtain ⟨-, -, hzero⟩ := invert_computes hz
  exact ⟨⟨ha, hz⟩, hpower, hone (by decide), hzero (by decide)⟩

end FieldElement

/-! ### The power for square roots -/

namespace FieldElement

variable {a f : FieldElement} {i : ℕ}

theorem cast_value_pow (a : FieldElement) (i : ℕ) :
    ((a.value ^ i : ℤ) : Residue) = a.residue ^ i := by
  rw [Int.cast_pow, Int.cast_natCast, residue]

/-- Limbs for a power stand for a number congruent to the power of the number in the base. -/
theorem IsPower.modEq (h : IsPower a.residue i f) :
    (f.value : ℤ) ≡ a.value ^ i [ZMOD fieldPrime] := by
  rw [← ZMod.intCast_eq_intCast_iff, cast_value_pow, Int.cast_natCast]
  exact h.residue

/-- **The power for square roots modulo `p`.** For limbs below `2^54` nothing in the chain
overflows, and the number of its result is congruent to the power with the exponent `(p - 5)/8`.
The two powers that the chain has in common with the inverse are those with the exponents
`2^250 - 1` and `11`. -/
theorem rootPower_computes (ha : LimbsBelow (2 ^ 54) a) :
    Computes (rootPowerM a) a.rootPower (a.value ^ ((fieldPrime - 5) / 8)) ∧
      (powerPairM a : Option (FieldElement × FieldElement)) = some a.powerPair ∧
        (a.powerPair.1.value : ℤ) ≡ a.value ^ (2 ^ 250 - 1) [ZMOD fieldPrime] ∧
          (a.powerPair.2.value : ℤ) ≡ a.value ^ 11 [ZMOD fieldPrime] := by
  have hpair := powerPairM_exact ha
  obtain ⟨h250, h11⟩ := hpair.run
  refine ⟨?_, hpair.eq_some, h250.modEq, h11.modEq⟩
  exact (computes_run (rootPowerM_exact ha) (a.cast_value_pow ((fieldPrime - 5) / 8)).symm :)

/-- The largest limbs, which add up to a number above `8 p`, and the limbs of `4 p`, which are one
more form of zero. -/
theorem rootPower_computes_largest :
    let a : FieldElement := ⟨0x3fffffffffffff, 0x3fffffffffffff, 0x3fffffffffffff,
      0x3fffffffffffff, 0x3fffffffffffff⟩
    let z : FieldElement := ⟨0x1fffffffffffb4, 0x1ffffffffffffc, 0x1ffffffffffffc,
      0x1ffffffffffffc, 0x1ffffffffffffc⟩
    (LimbsBelow (2 ^ 54) a ∧ LimbsBelow (2 ^ 54) z) ∧
      Computes (rootPowerM a) a.rootPower (a.value ^ ((fieldPrime - 5) / 8)) ∧
        (a.powerPair.1.value : ℤ) ≡ a.value ^ (2 ^ 250 - 1) [ZMOD fieldPrime] ∧
          Computes (rootPowerM z) z.rootPower (z.value ^ ((fieldPrime - 5) / 8)) := by
  intro a z
  have ha : LimbsBelow (2 ^ 54) a := by decide
  have hz : LimbsBelow (2 ^ 54) z := by decide
  obtain ⟨hroot, -, h250, -⟩ := rootPower_computes ha
  exact ⟨⟨ha, hz⟩, hroot, h250, (rootPower_computes hz).1⟩

end FieldElement

end Edwards25519
