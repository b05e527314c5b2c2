import Edwards25519.Proofs.Field.Canonical

/-!
# Products and squares

The schoolbook product collects the products of limbs by their weight in five columns,
those that weigh `2^255` or more with a factor of 19 in the column 255 bits below. The sum
of the columns with their weights is then the product of the two residues, and what remains
is to carry: out of each column into the next, and out of the highest into the lowest, 19
times. A square has its own columns, in which equal products are taken once and doubled,
but the same sum. The carrying only needs to know how large the columns are. All of it is free
of overflow for limbs below `2^54`; the tightest place is the carry out of the highest column,
where `6 · 2^108`, shifted by 51 bits and multiplied by 19, stays below `2^64`.

What each limb routine computes is then said of the numbers that the limbs add up to, as a
congruence modulo `p`, and for operands as wide as the routines bear:

* `Edwards25519.FieldElement.mul_computes` – the product;
* `Edwards25519.FieldElement.squareTimes_eq_iterate_mul` – the squares, which have columns and
  carries of their own, against the product of an element with itself;
* `Edwards25519.FieldElement.add_sub_neg_compute` – the sum, the difference and the negative.

The congruence alone speaks of the machine reading and would not tell whether something wrapped
around on the way. So `Edwards25519.FieldElement.Computes` asks in addition that the checked
reading of the routine gets to the same limbs. For a subtrahend the bound is exact: beyond it the
negative has a limb that goes below zero (`Edwards25519.FieldElement.isSome_negM_iff`).
-/

namespace Edwards25519

namespace Wide

/-! ### Columns -/

/-- A column of five products, each below `B`. -/
theorem sum₅_prod_exact {x₁ y₁ x₂ y₂ x₃ y₃ x₄ y₄ x₅ y₅ : UInt64} {B : ℕ} (hB : 5 * B ≤ 2 ^ 128)
    (h₁ : x₁.toNat * y₁.toNat < B) (h₂ : x₂.toNat * y₂.toNat < B) (h₃ : x₃.toNat * y₃.toNat < B)
    (h₄ : x₄.toNat * y₄.toNat < B) (h₅ : x₅.toNat * y₅.toNat < B) :
    Exact (sum₅ (prod x₁ y₁) (prod x₂ y₂) (prod x₃ y₃) (prod x₄ y₄) (prod x₅ y₅)) fun z =>
      z.toNat < 5 * B ∧ z.toNat = x₁.toNat * y₁.toNat + x₂.toNat * y₂.toNat +
        x₃.toNat * y₃.toNat + x₄.toNat * y₄.toNat + x₅.toNat * y₅.toNat := by
  refine (sum₅_exact ?_).mono fun z hz => ?_
  · simp only [toNat_prod]
    omega
  · simp only [toNat_prod] at hz
    exact ⟨by omega, hz⟩

/-- A column of three products, each below `B`. -/
theorem sum₃_prod_exact {x₁ y₁ x₂ y₂ x₃ y₃ : UInt64} {B : ℕ} (hB : 3 * B ≤ 2 ^ 128)
    (h₁ : x₁.toNat * y₁.toNat < B) (h₂ : x₂.toNat * y₂.toNat < B)
    (h₃ : x₃.toNat * y₃.toNat < B) :
    Exact (sum₃ (prod x₁ y₁) (prod x₂ y₂) (prod x₃ y₃)) fun z =>
      z.toNat < 3 * B ∧
        z.toNat = x₁.toNat * y₁.toNat + x₂.toNat * y₂.toNat + x₃.toNat * y₃.toNat := by
  refine (sum₃_exact ?_).mono fun z hz => ?_
  · simp only [toNat_prod]
    omega
  · simp only [toNat_prod] at hz
    exact ⟨by omega, hz⟩

/-- A product of limbs below `k 2^54` and `2^54`. -/
theorem mul_lt {m n : ℕ} (k : ℕ) (hm : m < k * 2 ^ 54) (hn : n < 2 ^ 54) : m * n < k * 2 ^ 108 :=
  calc m * n < k * 2 ^ 54 * 2 ^ 54 := Nat.mul_lt_mul'' hm hn
    _ = k * 2 ^ 108 := by rw [Nat.mul_assoc, ← Nat.pow_add]

/-- The number that five columns add up to with their weights. -/
def columns (t₀ t₁ t₂ t₃ t₄ : Wide) : ℕ :=
  t₀.toNat + 2 ^ 51 * t₁.toNat + 2 ^ 102 * t₂.toNat + 2 ^ 153 * t₃.toNat + 2 ^ 204 * t₄.toNat

end Wide

namespace FieldElement

variable {f g a b : FieldElement} {x y : Residue}

/-- Limbs from which `c` has gone out of the top stand for the residue of the columns. -/
theorem residue_of_columns {r : FieldElement} {S c : ℕ}
    (h : r.value + 2 ^ 255 * c = S + 19 * c) : r.residue = S := by
  have hcast := congrArg (Nat.cast : ℕ → Residue) h
  push_cast at hcast
  rw [residue]
  linear_combination hcast - (c : Residue) * two_pow_255

/-! ### Carrying columns -/

variable {t₀ t₁ t₂ t₃ t₄ : Wide}

/-- Carrying the columns of a product keeps the residue that they add up to. -/
theorem carryColumnsM_exact (h₀ : t₀.toNat < 95 * 2 ^ 108) (h₁ : t₁.toNat < 95 * 2 ^ 108)
    (h₂ : t₂.toNat < 95 * 2 ^ 108) (h₃ : t₃.toNat < 95 * 2 ^ 108) (h₄ : t₄.toNat < 5 * 2 ^ 108) :
    Exact (carryColumnsM t₀ t₁ t₂ t₃ t₄) fun r =>
      LimbsBelow (2 ^ 51 + 2 ^ 18) r ∧ r.residue = Wide.columns t₀ t₁ t₂ t₃ t₄ := by
  have c₀ := t₀.toNat_high51
  refine (Wide.add_exact (by omega)).bind fun u₁ hu₁ => ?_
  have c₁ := u₁.toNat_high51
  refine (Wide.add_exact (by omega)).bind fun u₂ hu₂ => ?_
  have c₂ := u₂.toNat_high51
  refine (Wide.add_exact (by omega)).bind fun u₃ hu₃ => ?_
  have c₃ := u₃.toNat_high51
  refine (Wide.add_exact (by omega)).bind fun u₄ hu₄ => ?_
  have c₄ := u₄.toNat_high51
  refine (Wide.narrow_exact (by omega)).bind fun c hc => ?_
  refine (Word.mul_const_exact 19 rfl (by omega)).bind fun c19 hc19 => ?_
  have d₀ := t₀.toNat_low51
  refine (Word.add_exact (by omega)).bind fun r₀ hr₀ => ?_
  have d₁ := u₁.toNat_low51
  have e₀ := Word.toNat_shiftRight_51 r₀
  refine (Word.add_exact (by omega)).bind fun r₁ hr₁ => ?_
  refine Exact.pure ⟨limbsBelow_mk ?_ ?_ ?_ ?_ ?_, ?_⟩
  · rw [Word.toNat_low51]
    omega
  · omega
  · rw [Wide.toNat_low51]
    omega
  · rw [Wide.toNat_low51]
    omega
  · rw [Wide.toNat_low51]
    omega
  · refine residue_of_columns (c := c.toNat) ?_
    simp only [value_eq, Wide.columns, Wide.toNat_low51, Word.toNat_low51]
    omega

/-- Carrying the columns of a square keeps the residue that they add up to. -/
theorem carryColumnsAtOnceM_exact (h₀ : t₀.toNat < 114 * 2 ^ 108)
    (h₁ : t₁.toNat < 114 * 2 ^ 108) (h₂ : t₂.toNat < 114 * 2 ^ 108)
    (h₃ : t₃.toNat < 114 * 2 ^ 108) (h₄ : t₄.toNat < 6 * 2 ^ 108) :
    Exact (carryColumnsAtOnceM t₀ t₁ t₂ t₃ t₄) fun r =>
      LimbsBelow (2 ^ 51 + 2 ^ 18) r ∧ r.residue = Wide.columns t₀ t₁ t₂ t₃ t₄ := by
  have c₄ := t₄.toNat_high51
  refine (Wide.narrow_exact (by omega)).bind fun n₄ hn₄ => ?_
  refine (Word.mul_const_exact 19 rfl (by omega)).bind fun n19 hn19 => ?_
  have l₀ := t₀.toNat_low51
  refine (Word.add_exact (by omega)).bind fun r₀ hr₀ => ?_
  have c₀ := t₀.toNat_high51
  refine (Wide.narrow_exact (by omega)).bind fun n₀ hn₀ => ?_
  have l₁ := t₁.toNat_low51
  refine (Word.add_exact (by omega)).bind fun r₁ hr₁ => ?_
  have c₁ := t₁.toNat_high51
  refine (Wide.narrow_exact (by omega)).bind fun n₁ hn₁ => ?_
  have l₂ := t₂.toNat_low51
  refine (Word.add_exact (by omega)).bind fun r₂ hr₂ => ?_
  have c₂ := t₂.toNat_high51
  refine (Wide.narrow_exact (by omega)).bind fun n₂ hn₂ => ?_
  have l₃ := t₃.toNat_low51
  refine (Word.add_exact (by omega)).bind fun r₃ hr₃ => ?_
  have c₃ := t₃.toNat_high51
  refine (Wide.narrow_exact (by omega)).bind fun n₃ hn₃ => ?_
  have l₄ := t₄.toNat_low51
  refine (Word.add_exact (by omega)).bind fun r₄ hr₄ => ?_
  have hresidue : (⟨r₀, r₁, r₂, r₃, r₄⟩ : FieldElement).residue =
      Wide.columns t₀ t₁ t₂ t₃ t₄ := by
    refine residue_of_columns (c := n₄.toNat) ?_
    simp only [value_eq, Wide.columns]
    omega
  rw [← hresidue]
  exact carryM_residue
    (limbsBelow_mk (by omega) (by omega) (by omega) (by omega) (by omega))

/-! ### Products -/

/-- **The schoolbook product** in five columns: the products that weigh `2^255` or more are
taken 19 times. -/
theorem schoolbook_mul (f₀ f₁ f₂ f₃ f₄ g₀ g₁ g₂ g₃ g₄ : Residue) :
    f₀ * g₀ + f₁ * 19 * g₄ + f₂ * 19 * g₃ + f₃ * 19 * g₂ + f₄ * 19 * g₁ +
      2 ^ 51 * (f₀ * g₁ + f₁ * g₀ + f₂ * 19 * g₄ + f₃ * 19 * g₃ + f₄ * 19 * g₂) +
      2 ^ 102 * (f₀ * g₂ + f₁ * g₁ + f₂ * g₀ + f₃ * 19 * g₄ + f₄ * 19 * g₃) +
      2 ^ 153 * (f₀ * g₃ + f₁ * g₂ + f₂ * g₁ + f₃ * g₀ + f₄ * 19 * g₄) +
      2 ^ 204 * (f₀ * g₄ + f₁ * g₃ + f₂ * g₂ + f₃ * g₁ + f₄ * g₀) =
    (f₀ + 2 ^ 51 * f₁ + 2 ^ 102 * f₂ + 2 ^ 153 * f₃ + 2 ^ 204 * f₄) *
      (g₀ + 2 ^ 51 * g₁ + 2 ^ 102 * g₂ + 2 ^ 153 * g₃ + 2 ^ 204 * g₄) := by
  linear_combination (-(f₁ * g₄ + f₂ * g₃ + f₃ * g₂ + f₄ * g₁) -
    2 ^ 51 * (f₂ * g₄ + f₃ * g₃ + f₄ * g₂) - 2 ^ 102 * (f₃ * g₄ + f₄ * g₃) -
    2 ^ 153 * (f₄ * g₄)) * two_pow_255

/-- **The product of limbs** is that of the residues, in limbs of little more than 51
bits. -/
theorem mulM_exact (hf : LimbsBelow (2 ^ 54) f) (hg : LimbsBelow (2 ^ 54) g) :
    Exact (mulM f g) fun r =>
      LimbsBelow (2 ^ 51 + 2 ^ 18) r ∧ r.residue = f.residue * g.residue := by
  obtain ⟨f0, f1, f2, f3, f4⟩ := hf
  obtain ⟨g0, g1, g2, g3, g4⟩ := hg
  have hlow {m n : ℕ} (hm : m < 2 ^ 54) (hn : n < 2 ^ 54) : m * n < 1 * 2 ^ 108 :=
    Wide.mul_lt 1 (by omega) hn
  have hprod {m n : ℕ} (hm : m < 19 * 2 ^ 54) (hn : n < 2 ^ 54) : m * n < 19 * 2 ^ 108 :=
    Wide.mul_lt 19 hm hn
  have hlimb {m : ℕ} (hm : m < 2 ^ 54) : m < 19 * 2 ^ 54 := by omega
  refine (Word.mul_const_exact 19 rfl (by omega)).bind fun w₁ hw₁ => ?_
  refine (Word.mul_const_exact 19 rfl (by omega)).bind fun w₂ hw₂ => ?_
  refine (Word.mul_const_exact 19 rfl (by omega)).bind fun w₃ hw₃ => ?_
  refine (Word.mul_const_exact 19 rfl (by omega)).bind fun w₄ hw₄ => ?_
  have v1 : w₁.toNat < 19 * 2 ^ 54 := by omega
  have v2 : w₂.toNat < 19 * 2 ^ 54 := by omega
  have v3 : w₃.toNat < 19 * 2 ^ 54 := by omega
  have v4 : w₄.toNat < 19 * 2 ^ 54 := by omega
  refine (Wide.sum₅_prod_exact (by norm_num) (hprod (hlimb f0) g0) (hprod v1 g4) (hprod v2 g3)
    (hprod v3 g2) (hprod v4 g1)).bind fun t₀ h => ?_
  obtain ⟨b₀, ht₀⟩ := h
  refine (Wide.sum₅_prod_exact (by norm_num) (hprod (hlimb f0) g1) (hprod (hlimb f1) g0)
    (hprod v2 g4) (hprod v3 g3) (hprod v4 g2)).bind fun t₁ h => ?_
  obtain ⟨b₁, ht₁⟩ := h
  refine (Wide.sum₅_prod_exact (by norm_num) (hprod (hlimb f0) g2) (hprod (hlimb f1) g1)
    (hprod (hlimb f2) g0) (hprod v3 g4) (hprod v4 g3)).bind fun t₂ h => ?_
  obtain ⟨b₂, ht₂⟩ := h
  refine (Wide.sum₅_prod_exact (by norm_num) (hprod (hlimb f0) g3) (hprod (hlimb f1) g2)
    (hprod (hlimb f2) g1) (hprod (hlimb f3) g0) (hprod v4 g4)).bind fun t₃ h => ?_
  obtain ⟨b₃, ht₃⟩ := h
  refine (Wide.sum₅_prod_exact (by norm_num) (hlow f0 g4) (hlow f1 g3) (hlow f2 g2) (hlow f3 g1)
    (hlow f4 g0)).bind fun t₄ h => ?_
  obtain ⟨b₄, ht₄⟩ := h
  -- The columns add up to the product.
  have hcolumns : (Wide.columns t₀ t₁ t₂ t₃ t₄ : Residue) = f.residue * g.residue := by
    rw [Wide.columns, ht₀, ht₁, ht₂, ht₃, ht₄, hw₁, hw₂, hw₃, hw₄, residue_eq, residue_eq]
    push_cast
    exact schoolbook_mul _ _ _ _ _ _ _ _ _ _
  rw [← hcolumns]
  exact carryColumnsM_exact (by omega) (by omega) (by omega) (by omega) (by omega)

theorem Denotes.mulM_exact (ha : a.Denotes x) (hb : b.Denotes y) :
    Exact (mulM a b) fun r => r.Denotes (x * y) := by
  rw [← ha.residue, ← hb.residue]
  exact denotes_exact (FieldElement.mulM_exact ha.limbs_lt hb.limbs_lt) (by norm_num)

theorem Denotes.mul (ha : a.Denotes x) (hb : b.Denotes y) : (a * b).Denotes (x * y) :=
  (ha.mulM_exact hb).run

/-! ### Squares -/

/-- **The schoolbook square** in five columns, with equal products taken together. -/
theorem schoolbook_square (f₀ f₁ f₂ f₃ f₄ : Residue) :
    f₀ * f₀ + f₄ * 19 * 2 * f₁ + f₂ * 2 * 19 * f₃ +
      2 ^ 51 * (f₀ * 2 * f₁ + f₄ * 19 * 2 * f₂ + f₃ * (f₃ * 19)) +
      2 ^ 102 * (f₀ * 2 * f₂ + f₁ * f₁ + f₄ * 19 * 2 * f₃) +
      2 ^ 153 * (f₀ * 2 * f₃ + f₁ * 2 * f₂ + f₄ * (f₄ * 19)) +
      2 ^ 204 * (f₀ * 2 * f₄ + f₁ * 2 * f₃ + f₂ * f₂) =
    (f₀ + 2 ^ 51 * f₁ + 2 ^ 102 * f₂ + 2 ^ 153 * f₃ + 2 ^ 204 * f₄) ^ 2 := by
  linear_combination (-(2 * f₁ * f₄ + 2 * f₂ * f₃) - 2 ^ 51 * (2 * f₂ * f₄ + f₃ ^ 2) -
    2 ^ 102 * (2 * f₃ * f₄) - 2 ^ 153 * f₄ ^ 2) * two_pow_255

/-- **The square of limbs** is that of the residue, in limbs of little more than 51
bits. -/
theorem squareM_exact (hf : LimbsBelow (2 ^ 54) f) :
    Exact (squareM f) fun r => LimbsBelow (2 ^ 51 + 2 ^ 18) r ∧ r.residue = f.residue ^ 2 := by
  obtain ⟨f0, f1, f2, f3, f4⟩ := hf
  have hlow {m n : ℕ} (hm : m < 2 * 2 ^ 54) (hn : n < 2 ^ 54) : m * n < 2 * 2 ^ 108 :=
    Wide.mul_lt 2 hm hn
  have hprod {m n : ℕ} (hm : m < 38 * 2 ^ 54) (hn : n < 2 ^ 54) : m * n < 38 * 2 ^ 108 :=
    Wide.mul_lt 38 hm hn
  refine (Word.mul_const_exact 2 rfl (by omega)).bind fun d₀ hd₀ => ?_
  refine (Word.mul_const_exact 2 rfl (by omega)).bind fun d₁ hd₁ => ?_
  refine (Word.mul_const_exact 2 rfl (by omega)).bind fun e₂ he₂ => ?_
  refine (Word.mul_const_exact 19 rfl (by omega)).bind fun d₂ hd₂ => ?_
  refine (Word.mul_const_exact 19 rfl (by omega)).bind fun w₃ hw₃ => ?_
  refine (Word.mul_const_exact 19 rfl (by omega)).bind fun w₄ hw₄ => ?_
  refine (Word.mul_const_exact 2 rfl (by omega)).bind fun d₄ hd₄ => ?_
  have hf₃w₃ : f.l₃.toNat * w₃.toNat < 38 * 2 ^ 108 := by
    rw [Nat.mul_comm]
    exact hprod (by omega) f3
  have hf₄w₄ : f.l₄.toNat * w₄.toNat < 38 * 2 ^ 108 := by
    rw [Nat.mul_comm]
    exact hprod (by omega) f4
  refine (Wide.sum₃_prod_exact (by norm_num) (hprod (by omega) f0) (hprod (by omega) f1)
    (hprod (by omega) f3)).bind fun t₀ h => ?_
  obtain ⟨b₀, ht₀⟩ := h
  refine (Wide.sum₃_prod_exact (by norm_num) (hprod (by omega) f1) (hprod (by omega) f2)
    hf₃w₃).bind fun t₁ h => ?_
  obtain ⟨b₁, ht₁⟩ := h
  refine (Wide.sum₃_prod_exact (by norm_num) (hprod (by omega) f2) (hprod (by omega) f1)
    (hprod (by omega) f3)).bind fun t₂ h => ?_
  obtain ⟨b₂, ht₂⟩ := h
  refine (Wide.sum₃_prod_exact (by norm_num) (hprod (by omega) f3) (hprod (by omega) f2)
    hf₄w₄).bind fun t₃ h => ?_
  obtain ⟨b₃, ht₃⟩ := h
  refine (Wide.sum₃_prod_exact (by norm_num) (hlow (by omega) f4) (hlow (by omega) f3)
    (hlow (by omega) f2)).bind fun t₄ h => ?_
  obtain ⟨b₄, ht₄⟩ := h
  have hcolumns : (Wide.columns t₀ t₁ t₂ t₃ t₄ : Residue) = f.residue ^ 2 := by
    rw [Wide.columns, ht₀, ht₁, ht₂, ht₃, ht₄, hd₄, hd₂, hd₀, hd₁, he₂, hw₃, hw₄, residue_eq]
    push_cast
    exact schoolbook_square _ _ _ _ _
  rw [← hcolumns]
  exact carryColumnsAtOnceM_exact (by omega) (by omega) (by omega) (by omega) (by omega)

theorem Denotes.squareM_exact (ha : a.Denotes x) :
    Exact (squareM a) fun r => r.Denotes (x ^ 2) := by
  rw [← ha.residue]
  exact denotes_exact (FieldElement.squareM_exact ha.limbs_lt) (by norm_num)

theorem Denotes.square (ha : a.Denotes x) : a.square.Denotes (x ^ 2) :=
  ha.squareM_exact.run

/-- Squaring `n` times raises to the power `2^n`. Any bound that holds of a single square is
kept, and if `n` is zero it is that of the element itself. -/
theorem squareTimesM_exact {B : ℕ} (hlow : 2 ^ 51 + 2 ^ 18 ≤ B) (hhigh : B ≤ 2 ^ 54) (n : ℕ)
    (hf : LimbsBelow B f) :
    Exact (squareTimesM n f) fun r => LimbsBelow B r ∧ r.residue = f.residue ^ 2 ^ n := by
  induction n generalizing f with
  | zero => exact Exact.pure ⟨hf, by rw [pow_zero, pow_one]⟩
  | succ n ih =>
    refine (squareM_exact (hf.mono hhigh)).bind fun g h => ?_
    obtain ⟨hlimbs, hresidue⟩ := h
    refine (ih (hlimbs.mono hlow)).mono fun r hr => ⟨hr.1, ?_⟩
    rw [hr.2, hresidue, ← pow_mul, pow_succ']

theorem Denotes.squareTimesM_exact (n : ℕ) (ha : a.Denotes x) :
    Exact (squareTimesM n a) fun r => r.Denotes (x ^ 2 ^ n) := by
  rw [← ha.residue]
  exact denotes_exact
    (FieldElement.squareTimesM_exact (by norm_num) (by norm_num) n ha.limbs) le_rfl

/-- The doubled square, whose limbs are not carried again. -/
theorem doubleSquareM_exact (hf : LimbsBelow (2 ^ 54) f) :
    Exact (doubleSquareM f) fun r =>
      LimbsBelow (2 ^ 52 + 2 ^ 19) r ∧ r.residue = 2 * f.residue ^ 2 := by
  refine (squareM_exact hf).bind fun s h => ?_
  obtain ⟨hlimbs, hresidue⟩ := h
  obtain ⟨s0, s1, s2, s3, s4⟩ := hlimbs
  refine (Word.add_exact (by omega)).bind fun r₀ hr₀ => ?_
  refine (Word.add_exact (by omega)).bind fun r₁ hr₁ => ?_
  refine (Word.add_exact (by omega)).bind fun r₂ hr₂ => ?_
  refine (Word.add_exact (by omega)).bind fun r₃ hr₃ => ?_
  refine (Word.add_exact (by omega)).bind fun r₄ hr₄ => ?_
  refine Exact.pure ⟨limbsBelow_mk ?_ ?_ ?_ ?_ ?_, ?_⟩
  · omega
  · omega
  · omega
  · omega
  · omega
  · have hdouble : (⟨r₀, r₁, r₂, r₃, r₄⟩ : FieldElement).value = 2 * s.value := by
      simp only [value_eq]
      omega
    rw [residue, hdouble, ← hresidue, residue]
    push_cast
    rfl

theorem Denotes.doubleSquareM_exact (ha : a.Denotes x) :
    Exact (doubleSquareM a) fun r => r.Denotes (2 * x ^ 2) := by
  rw [← ha.residue]
  exact denotes_exact (FieldElement.doubleSquareM_exact ha.limbs_lt) (by norm_num)

theorem Denotes.doubleSquare (ha : a.Denotes x) : a.doubleSquare.Denotes (2 * x ^ 2) :=
  ha.doubleSquareM_exact.run

end FieldElement

/-! ### What a routine computes -/

namespace FieldElement

variable {a f g : FieldElement} {B : ℕ}

/-- **A result modulo `p`**: the checked reading of a routine, which stops at the first overflow,
gets as far as the element `a`, and the number of `a` is congruent to `n`. -/
structure Computes (checked : Option FieldElement) (a : FieldElement) (n : ℤ) : Prop where
  eq_some : checked = some a
  modEq : (a.value : ℤ) ≡ n [ZMOD fieldPrime]

/-- An exact routine computes every number that has the residue of its result. -/
theorem computes_run {r : ∀ {m : Type → Type} [Monad m] [Overflow m], m FieldElement}
    {x : Residue} {n : ℤ} (h : Exact r fun a => LimbsBelow B a ∧ a.residue = x)
    (hn : x = (n : Residue)) : Computes r (Id.run r) n := by
  refine ⟨h.eq_some, (ZMod.intCast_eq_intCast_iff _ _ _).1 ?_⟩
  rw [Int.cast_natCast, ← hn]
  exact h.run.2

/-! ### Products modulo the prime -/

/-- **The product modulo `p`.** For limbs below `2^54` nothing in a multiplication overflows, and
the number of the product is congruent to the product of the numbers. -/
theorem mul_computes (hf : LimbsBelow (2 ^ 54) f) (hg : LimbsBelow (2 ^ 54) g) :
    Computes (mulM f g) (f * g) (f.value * g.value) := by
  have hproduct : f.residue * g.residue = ((f.value * g.value : ℤ) : Residue) := by
    push_cast
    rfl
  exact computes_run (mulM_exact hf hg) hproduct

/-- The largest limbs on both sides. -/
theorem mul_computes_largest :
    let f : FieldElement := ⟨0x3fffffffffffff, 0x3fffffffffffff, 0x3fffffffffffff,
      0x3fffffffffffff, 0x3fffffffffffff⟩
    LimbsBelow (2 ^ 54) f ∧ Computes (mulM f f) (f * f) (f.value * f.value) := by
  intro f
  have hf : LimbsBelow (2 ^ 54) f := by decide
  exact ⟨hf, mul_computes hf hf⟩

/-! ### Squares modulo the prime -/

/-- Multiplying an element with itself, `n` times in a row, raises to the power `2^n`. -/
theorem iterate_mul_self (n : ℕ) (ha : LimbsBelow (2 ^ 54) a) :
    LimbsBelow (2 ^ 54) ((fun b => b * b)^[n] a) ∧
      ((fun b => b * b)^[n] a).residue = a.residue ^ 2 ^ n := by
  induction n generalizing a with
  | zero =>
    refine ⟨ha, ?_⟩
    rw [pow_zero, pow_one]
    rfl
  | succ n ih =>
    obtain ⟨hlimbs, hresidue⟩ := (mulM_exact ha ha).run
    obtain ⟨hlimbs', hresidue'⟩ := ih (hlimbs.mono (by norm_num))
    refine ⟨hlimbs', hresidue'.trans ?_⟩
    rw [hresidue, ← sq, ← pow_mul, pow_succ']

/-- The squares with columns of their own are equal to the products. -/
theorem squareTimes_beq (n : ℕ) (ha : LimbsBelow (2 ^ 54) a) :
    (a.squareTimes n == (fun b => b * b)^[n] a) = true := by
  obtain ⟨hlimbs, hresidue⟩ := (squareTimesM_exact (by norm_num) le_rfl n ha).run
  obtain ⟨hlimbs', hresidue'⟩ := iterate_mul_self n ha
  exact (beq_iff_residue hlimbs hlimbs').2 (hresidue.trans hresidue'.symm)

/-- The doubled square, which is not carried again, is equal to the sum, which is. -/
theorem doubleSquare_beq (ha : LimbsBelow (2 ^ 54) a) :
    (a.doubleSquare == a * a + a * a) = true := by
  obtain ⟨hlimbs, hdouble⟩ := (doubleSquareM_exact ha).run
  obtain ⟨hproduct_lt, hproduct⟩ := (mulM_exact ha ha).run
  have hroom := hproduct_lt.mono (C := 2 ^ 54) (by norm_num)
  obtain ⟨hsum_lt, hsum⟩ := (addM_exact hroom hroom).run
  refine (beq_iff_residue (hlimbs.mono (by norm_num)) (hsum_lt.mono (by norm_num))).2 ?_
  refine hdouble.trans (Eq.trans ?_ hsum.symm)
  rw [hproduct, ← sq, two_mul]

/-- **Squaring is multiplication with itself.** For limbs below `2^54` and every `n`, the element
squared `n` times is equal to the one multiplied with itself `n` times, and its number is
congruent to the power with the exponent `2^n`; squared no times it is the element as it was. The
doubled square is equal to the sum of two products. None of this overflows. -/
theorem squareTimes_eq_iterate_mul (ha : LimbsBelow (2 ^ 54) a) :
    (∀ n, (a.squareTimes n == (fun b => b * b)^[n] a) = true ∧
        Computes (squareTimesM n a) (a.squareTimes n) (a.value ^ 2 ^ n)) ∧
      a.squareTimes 0 = a ∧ a.squareTimes 1 = a.square ∧ (a.square == a * a) = true ∧
      (a.doubleSquare == a * a + a * a) = true ∧
      Computes (doubleSquareM a) a.doubleSquare (2 * a.value ^ 2) := by
  have hone : a.squareTimes 1 = a.square := rfl
  have hsquare := squareTimes_beq 1 ha
  rw [hone, Function.iterate_one] at hsquare
  refine ⟨fun n => ⟨squareTimes_beq n ha, ?_⟩, rfl, hone, hsquare, doubleSquare_beq ha, ?_⟩
  · refine computes_run (squareTimesM_exact (by norm_num) le_rfl n ha) ?_
    push_cast
    rfl
  · refine computes_run (doubleSquareM_exact ha) ?_
    push_cast
    rfl

/-- The largest limbs, which no field operation leaves behind. -/
theorem squareTimes_eq_iterate_mul_largest :
    let a : FieldElement := ⟨0x3fffffffffffff, 0x3fffffffffffff, 0x3fffffffffffff,
      0x3fffffffffffff, 0x3fffffffffffff⟩
    LimbsBelow (2 ^ 54) a ∧
      (∀ n, (a.squareTimes n == (fun b => b * b)^[n] a) = true ∧
        Computes (squareTimesM n a) (a.squareTimes n) (a.value ^ 2 ^ n)) ∧
      a.squareTimes 0 = a ∧ a.squareTimes 1 = a.square ∧ (a.square == a * a) = true ∧
      (a.doubleSquare == a * a + a * a) = true ∧
      Computes (doubleSquareM a) a.doubleSquare (2 * a.value ^ 2) := by
  intro a
  have ha : LimbsBelow (2 ^ 54) a := by decide
  exact ⟨ha, squareTimes_eq_iterate_mul ha⟩

/-! ### Sums and differences modulo the prime -/

/-- **The sum, the difference and the negative modulo `p`.** For `f` with limbs below `2^54` and
`g` with limbs that do not exceed those of `4 p`, no addition of limbs overflows and no
subtraction of limbs goes below zero, and the numbers of the results are congruent to the sum,
the difference and the negative of the numbers. -/
theorem add_sub_neg_compute (hf : LimbsBelow (2 ^ 54) f) (hg : BelowFourPrime g) :
    Computes (addM f g) (f + g) (f.value + g.value) ∧
      Computes (subM f g) (f - g) (f.value - g.value) ∧ Computes (negM g) (-g) (-g.value) := by
  have hsum : f.residue + g.residue = ((f.value + g.value : ℤ) : Residue) := by
    push_cast
    rfl
  have hdiff : f.residue - g.residue = ((f.value - g.value : ℤ) : Residue) := by
    push_cast
    rfl
  have hneg : -g.residue = ((-g.value : ℤ) : Residue) := by
    push_cast
    rfl
  -- The operations are the machine readings of the routines.
  refine ⟨?_, ?_, ?_⟩
  · exact (computes_run (addM_exact hf hg.limbs_lt) hsum :)
  · exact (computes_run (subM_exact hf hg) hdiff :)
  · exact (computes_run (negM_exact hg) hneg :)

/-- The largest limbs on the left, and on the right the limbs of `4 p` themselves, from which
the subtraction leaves nothing. -/
theorem add_sub_neg_compute_largest :
    let f : FieldElement := ⟨0x3fffffffffffff, 0x3fffffffffffff, 0x3fffffffffffff,
      0x3fffffffffffff, 0x3fffffffffffff⟩
    let g : FieldElement := ⟨0x1fffffffffffb4, 0x1ffffffffffffc, 0x1ffffffffffffc,
      0x1ffffffffffffc, 0x1ffffffffffffc⟩
    (LimbsBelow (2 ^ 54) f ∧ BelowFourPrime g) ∧
      Computes (addM f g) (f + g) (f.value + g.value) ∧
      Computes (subM f g) (f - g) (f.value - g.value) ∧ Computes (negM g) (-g) (-g.value) := by
  intro f g
  have hf : LimbsBelow (2 ^ 54) f := by decide
  have hg : BelowFourPrime g := ⟨by decide, by decide, by decide, by decide, by decide⟩
  exact ⟨⟨hf, hg⟩, add_sub_neg_compute hf hg⟩

/-- A negative without overflow is one of limbs within the bound. -/
theorem belowFourPrime_of_negM {r : FieldElement} (h : negM g = some r) : BelowFourPrime g := by
  have hlow := toNat_fourPrimeLow
  have hhigh := toNat_fourPrimeHigh
  obtain ⟨b₀, h₀, h⟩ := Option.bind_eq_some_iff.1 h
  obtain ⟨b₁, h₁, h⟩ := Option.bind_eq_some_iff.1 h
  obtain ⟨b₂, h₂, h⟩ := Option.bind_eq_some_iff.1 h
  obtain ⟨b₃, h₃, h⟩ := Option.bind_eq_some_iff.1 h
  obtain ⟨b₄, h₄, -⟩ := Option.bind_eq_some_iff.1 h
  rw [Word.sub_eq_some_iff] at h₀ h₁ h₂ h₃ h₄
  exact ⟨by omega, by omega, by omega, by omega, by omega⟩

/-- **The bound on a subtrahend is exact**: the negative is free of overflow for no other
limbs. -/
theorem isSome_negM_iff : (negM g : Option FieldElement).isSome = true ↔ BelowFourPrime g := by
  rw [Option.isSome_iff_exists]
  constructor
  · rintro ⟨r, hr⟩
    exact belowFourPrime_of_negM hr
  · intro hg
    exact ⟨_, (negM_exact hg).eq_some⟩

end FieldElement

end Edwards25519
