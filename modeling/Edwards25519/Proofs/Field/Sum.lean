import Edwards25519.Proofs.Bytes
import Edwards25519.Proofs.Prime
import Mathlib.Data.ZMod.Basic
import Mathlib.Tactic.LinearCombination
import Mathlib.Tactic.NormNum
import Mathlib.Tactic.Ring

/-!
# Limbs, the residue they stand for, and sums

The elements of the field are the residues modulo `2^255 - 19`
(`Edwards25519.Residue`), and the limbs of a `Edwards25519.FieldElement` stand for one of
them (`Edwards25519.FieldElement.residue`). What is to be shown of each operation has two
parts: that it computes the right residue, and that it leaves the limbs small enough for
the next operation. `Edwards25519.FieldElement.Denotes` holds both of them together, so
that a formula over limbs is followed by a formula over residues, operation by operation.

The limbs that every operation accepts, and that every operation leaves behind, are those
below `2^53 - 76`; the number is the lowest limb of `4 p`, from which a difference is
taken. The routines themselves are content with more, and the lemmas about them say so: a
pass of carries accepts limbs with a little room below `2^64`, sums and differences accept
limbs below `2^54` on the left, and a subtrahend has to stay below the limbs of `4 p`.

A pass of carries moves what a limb holds above its 51 bits to the next one, and what
leaves the highest limb back into the lowest, 19 times. On the number this is
`Edwards25519.foldTop`: its bits from 255 on are taken off and come back times 19, which
leaves the residue as it is.
-/

namespace Edwards25519

/-! ### The number in the limbs -/

theorem fieldPrime_eq : fieldPrime = 2 ^ 255 - 19 := rfl

namespace FieldElement

/-- Five digits to base `2^51` make up a number of 255 bits. -/
theorem sum_digits51 (n : Nat) :
    n % 2 ^ 51 + 2 ^ 51 * (n / 2 ^ 51 % 2 ^ 51) + 2 ^ 102 * (n / 2 ^ 102 % 2 ^ 51) +
      2 ^ 153 * (n / 2 ^ 153 % 2 ^ 51) + 2 ^ 204 * (n / 2 ^ 204 % 2 ^ 51) = n % 2 ^ 255 := by
  omega

/-- The limbs with their weights. -/
theorem value_eq (a : FieldElement) : a.value = a.l₀.toNat + 2 ^ 51 * a.l₁.toNat +
    2 ^ 102 * a.l₂.toNat + 2 ^ 153 * a.l₃.toNat + 2 ^ 204 * a.l₄.toNat := by
  have hbase : base = 2 ^ 51 := rfl
  rw [value, hbase]
  omega

theorem value_ofNat (n : Nat) : (ofNat n).value = n % 2 ^ 255 := by
  have h : ∀ k, k % 2 ^ 64 % 2 ^ 51 = k % 2 ^ 51 := fun k => by omega
  simp only [value_eq, ofNat, Word.toNat_low51, UInt64.toNat_ofNat', Nat.shiftRight_eq_div_pow, h]
  exact sum_digits51 n

/-- Fifty-one bits of a byte string, read from a word that holds them from bit `j` on. -/
theorem toNat_low51_word (b : Bytes32) (i : Fin 25) (j : UInt64) (hj : j.toNat ≤ 13) :
    (Word.low51 (b.word i >>> j)).toNat = b.value / 2 ^ (8 * i.val + j.toNat) % 2 ^ 51 := by
  have hshift : (b.word i >>> j).toNat = (b.word i).toNat / 2 ^ j.toNat :=
    Word.toNat_shiftRight _ rfl (by omega)
  have hsplit : (2 : Nat) ^ 64 = 2 ^ j.toNat * 2 ^ (64 - j.toNat) := by
    rw [← Nat.pow_add, Nat.add_sub_cancel' (by omega)]
  have h256 : 256 ^ i.val = 2 ^ (8 * i.val) := by
    rw [Nat.pow_mul]
  rw [Word.toNat_low51, hshift, b.toNat_word, hsplit, Nat.mod_mul_right_div_self, h256,
    Nat.div_div_eq_div_mul, ← Nat.pow_add]
  exact Nat.mod_mod_of_dvd _ (Nat.pow_dvd_pow 2 (by omega))

theorem value_ofBytes (b : Bytes32) : (ofBytes b).value = b.value % 2 ^ 255 := by
  have h₀ : (Word.low51 (b.word 0)).toNat = b.value % 2 ^ 51 := by
    rw [Word.toNat_low51, b.toNat_word]
    change b.value / 1 % 2 ^ 64 % 2 ^ 51 = b.value % 2 ^ 51
    omega
  have h₁ : (Word.low51 (b.word 6 >>> 3)).toNat = b.value / 2 ^ 51 % 2 ^ 51 :=
    toNat_low51_word b 6 3 (by decide)
  have h₂ : (Word.low51 (b.word 12 >>> 6)).toNat = b.value / 2 ^ 102 % 2 ^ 51 :=
    toNat_low51_word b 12 6 (by decide)
  have h₃ : (Word.low51 (b.word 19 >>> 1)).toNat = b.value / 2 ^ 153 % 2 ^ 51 :=
    toNat_low51_word b 19 1 (by decide)
  have h₄ : (Word.low51 (b.word 24 >>> 12)).toNat = b.value / 2 ^ 204 % 2 ^ 51 :=
    toNat_low51_word b 24 12 (by decide)
  rw [← sum_digits51 b.value]
  simp only [value_eq, ofBytes, h₀, h₁, h₂, h₃, h₄]

end FieldElement

/-! ### Residues -/

/-- The field with `2^255 - 19` elements. -/
abbrev Residue :=
  ZMod fieldPrime

/-- The upper end of the limbs weighs 19. -/
theorem two_pow_255 : (2 : Residue) ^ 255 = 19 := by
  have h : ((2 ^ 255 : ℕ) : Residue) = ((19 : ℕ) : Residue) :=
    (ZMod.natCast_eq_natCast_iff' _ _ _).2 (by decide)
  exact_mod_cast h

namespace FieldElement

variable {a : FieldElement} {x y : Residue}

/-- The residue that the limbs stand for. -/
def residue (a : FieldElement) : Residue :=
  (a.value : Residue)

/-- The residue, limb by limb. -/
theorem residue_eq (a : FieldElement) :
    a.residue = (a.l₀.toNat : Residue) + 2 ^ 51 * a.l₁.toNat + 2 ^ 102 * a.l₂.toNat +
      2 ^ 153 * a.l₃.toNat + 2 ^ 204 * a.l₄.toNat := by
  rw [residue, value_eq]
  push_cast
  rfl

theorem LimbsBelow.mono {B C : ℕ} (h : LimbsBelow B a) (hBC : B ≤ C) : LimbsBelow C a :=
  ⟨h.l₀_lt.trans_le hBC, h.l₁_lt.trans_le hBC, h.l₂_lt.trans_le hBC, h.l₃_lt.trans_le hBC,
    h.l₄_lt.trans_le hBC⟩

instance (B : ℕ) (a : FieldElement) : Decidable (LimbsBelow B a) :=
  decidable_of_iff (a.l₀.toNat < B ∧ a.l₁.toNat < B ∧ a.l₂.toNat < B ∧ a.l₃.toNat < B ∧
    a.l₄.toNat < B)
    ⟨fun ⟨h₀, h₁, h₂, h₃, h₄⟩ => ⟨h₀, h₁, h₂, h₃, h₄⟩,
      fun ⟨h₀, h₁, h₂, h₃, h₄⟩ => ⟨h₀, h₁, h₂, h₃, h₄⟩⟩

/-- The bound on an element put together from its limbs. -/
theorem limbsBelow_mk {B : ℕ} {a₀ a₁ a₂ a₃ a₄ : UInt64} (h₀ : a₀.toNat < B) (h₁ : a₁.toNat < B)
    (h₂ : a₂.toNat < B) (h₃ : a₃.toNat < B) (h₄ : a₄.toNat < B) :
    LimbsBelow B ⟨a₀, a₁, a₂, a₃, a₄⟩ :=
  ⟨h₀, h₁, h₂, h₃, h₄⟩

/-- **A field element standing for a residue**: its limbs are of the size that the
operations accept, and `x` is their residue. -/
structure Denotes (a : FieldElement) (x : Residue) : Prop where
  limbs : LimbsBelow (2 ^ 53 - 76) a
  residue : a.residue = x

/-- Limbs of the accepted size stand for their residue. -/
theorem LimbsBelow.denotes (h : LimbsBelow (2 ^ 53 - 76) a) : a.Denotes a.residue :=
  ⟨h, rfl⟩

/-- Limbs of the accepted size have the room that the routines ask for. -/
theorem Denotes.limbs_lt (ha : a.Denotes x) : LimbsBelow (2 ^ 54) a :=
  ha.limbs.mono (by norm_num)

theorem Denotes.congr (ha : a.Denotes x) (hxy : x = y) : a.Denotes y :=
  hxy ▸ ha

/-- **A routine without overflow** leaves limbs that stand for the residue it is said to
compute, if they are small enough. -/
theorem denotes_exact {r : ∀ {m : Type → Type} [Monad m] [Overflow m], m FieldElement} {B : ℕ}
    (h : Exact r fun a => LimbsBelow B a ∧ a.residue = x) (hB : B ≤ 2 ^ 53 - 76) :
    Exact r fun a => a.Denotes x :=
  h.mono fun _ ⟨hlimbs, hresidue⟩ => ⟨hlimbs.mono hB, hresidue⟩

/-! ### Numbers and bytes -/

theorem limbsBelow_ofNat (n : ℕ) : LimbsBelow (2 ^ 51) (ofNat n) := by
  refine ⟨?_, ?_, ?_, ?_, ?_⟩ <;> simp only [ofNat, Word.toNat_low51] <;> omega

theorem limbsBelow_ofBytes (b : Bytes32) : LimbsBelow (2 ^ 51) (ofBytes b) := by
  refine ⟨?_, ?_, ?_, ?_, ?_⟩ <;> simp only [ofBytes, Word.toNat_low51] <;> omega

/-- The limbs of a number below `2^255` stand for its residue. -/
theorem denotes_ofNat {n : ℕ} (hn : n < 2 ^ 255) : (ofNat n).Denotes n := by
  refine ⟨(limbsBelow_ofNat n).mono (by norm_num), ?_⟩
  rw [FieldElement.residue, value_ofNat, Nat.mod_eq_of_lt hn]

/-- The limbs read from bytes stand for the number in the 255 lowest bits. -/
theorem denotes_ofBytes (b : Bytes32) : (ofBytes b).Denotes (b.value % 2 ^ 255 : ℕ) :=
  ⟨(limbsBelow_ofBytes b).mono (by norm_num), by rw [FieldElement.residue, value_ofBytes]⟩

theorem denotes_zero : zero.Denotes 0 := by
  rw [← Nat.cast_zero]
  exact denotes_ofNat (by norm_num)

theorem denotes_one : one.Denotes 1 := by
  rw [← Nat.cast_one]
  exact denotes_ofNat (by norm_num)

theorem denotes_two : two.Denotes 2 := by
  rw [← Nat.cast_two]
  exact denotes_ofNat (by norm_num)

end FieldElement

/-! ### Folding -/

/-- The bits of a number from bit 255 on, taken off and put back times 19. -/
def foldTop (n : ℕ) : ℕ :=
  n % 2 ^ 255 + 19 * (n / 2 ^ 255)

/-- Folding keeps the residue: it takes off a multiple of `2^255 - 19`. -/
theorem foldTop_add (n : ℕ) : foldTop n + fieldPrime * (n / 2 ^ 255) = n := by
  rw [foldTop, fieldPrime_eq]
  omega

theorem cast_foldTop (n : ℕ) : (foldTop n : Residue) = n := by
  conv_rhs => rw [← foldTop_add n]
  rw [Nat.cast_add, Nat.cast_mul, ZMod.natCast_self, zero_mul, add_zero]

namespace FieldElement

/-- Limbs of a folded number have the residue of the number. -/
theorem residue_of_foldTop {r : FieldElement} {n : ℕ} (h : r.value = foldTop n) :
    r.residue = n := by
  rw [residue, h, cast_foldTop]

variable {f g h a b : FieldElement} {x y : Residue}

/-! ### Carries -/

/-- **A pass of carries** folds the number and leaves limbs of little more than 51
bits. -/
theorem carryM_exact (hh : LimbsBelow (2 ^ 64 - 2 ^ 13) h) :
    Exact (carryM h) fun r =>
      LimbsBelow (2 ^ 51 + 2 ^ 18) r ∧ r.value = foldTop h.value := by
  obtain ⟨h0, h1, h2, h3, h4⟩ := hh
  -- A carry has at most 13 bits, which is the room that a limb leaves below `2^64`.
  have c₀ := Word.toNat_shiftRight_51 h.l₀
  refine (Word.add_exact (by omega)).bind fun a₁ ha₁ => ?_
  have c₁ := Word.toNat_shiftRight_51 a₁
  refine (Word.add_exact (by omega)).bind fun a₂ ha₂ => ?_
  have c₂ := Word.toNat_shiftRight_51 a₂
  refine (Word.add_exact (by omega)).bind fun a₃ ha₃ => ?_
  have c₃ := Word.toNat_shiftRight_51 a₃
  refine (Word.add_exact (by omega)).bind fun a₄ ha₄ => ?_
  have c₄ := Word.toNat_shiftRight_51 a₄
  refine (Word.mul_const_exact 19 rfl (by omega)).bind fun c hc => ?_
  have d₀ := Word.toNat_low51 h.l₀
  refine (Word.add_exact (by omega)).bind fun a₀ ha₀ => ?_
  -- Each equation above trades `2^51` in one limb for one in the next; together they are
  -- the division of the number by `2^255`.
  refine Exact.pure ⟨⟨?_, ?_, ?_, ?_, ?_⟩, ?_⟩
  all_goals simp only [value_eq, foldTop, Word.toNat_low51]
  all_goals omega

/-- A pass of carries keeps the residue. -/
theorem carryM_residue (hh : LimbsBelow (2 ^ 64 - 2 ^ 13) h) :
    Exact (carryM h) fun r => LimbsBelow (2 ^ 51 + 2 ^ 18) r ∧ r.residue = h.residue :=
  (carryM_exact hh).mono fun _ ⟨hlimbs, hvalue⟩ => ⟨hlimbs, residue_of_foldTop hvalue⟩

/-- **A pass of carries without the fold** leaves the number modulo `2^255`, digit by
digit. -/
theorem carryDropM_exact (hh : LimbsBelow (2 ^ 64 - 2 ^ 13) h) :
    Exact (carryDropM h) fun r => LimbsBelow (2 ^ 51) r ∧ r.value = h.value % 2 ^ 255 := by
  obtain ⟨h0, h1, h2, h3, h4⟩ := hh
  have c₀ := Word.toNat_shiftRight_51 h.l₀
  refine (Word.add_exact (by omega)).bind fun a₁ ha₁ => ?_
  have c₁ := Word.toNat_shiftRight_51 a₁
  refine (Word.add_exact (by omega)).bind fun a₂ ha₂ => ?_
  have c₂ := Word.toNat_shiftRight_51 a₂
  refine (Word.add_exact (by omega)).bind fun a₃ ha₃ => ?_
  have c₃ := Word.toNat_shiftRight_51 a₃
  refine (Word.add_exact (by omega)).bind fun a₄ ha₄ => ?_
  refine Exact.pure ⟨⟨?_, ?_, ?_, ?_, ?_⟩, ?_⟩
  all_goals simp only [value_eq, Word.toNat_low51]
  all_goals omega

/-! ### Sums and differences -/

theorem addM_exact (hf : LimbsBelow (2 ^ 54) f) (hg : LimbsBelow (2 ^ 54) g) :
    Exact (addM f g) fun r =>
      LimbsBelow (2 ^ 51 + 2 ^ 18) r ∧ r.residue = f.residue + g.residue := by
  obtain ⟨f0, f1, f2, f3, f4⟩ := hf
  obtain ⟨g0, g1, g2, g3, g4⟩ := hg
  refine (Word.add_exact (by omega)).bind fun a₀ ha₀ => ?_
  refine (Word.add_exact (by omega)).bind fun a₁ ha₁ => ?_
  refine (Word.add_exact (by omega)).bind fun a₂ ha₂ => ?_
  refine (Word.add_exact (by omega)).bind fun a₃ ha₃ => ?_
  refine (Word.add_exact (by omega)).bind fun a₄ ha₄ => ?_
  have hsum : (⟨a₀, a₁, a₂, a₃, a₄⟩ : FieldElement).value = f.value + g.value := by
    simp only [value_eq]
    omega
  have hresidue : (⟨a₀, a₁, a₂, a₃, a₄⟩ : FieldElement).residue = f.residue + g.residue := by
    rw [residue, hsum, Nat.cast_add, residue, residue]
  rw [← hresidue]
  exact carryM_residue
    (limbsBelow_mk (by omega) (by omega) (by omega) (by omega) (by omega))

theorem toNat_fourPrimeLow : fourPrimeLow.toNat = 2 ^ 53 - 76 := rfl

theorem toNat_fourPrimeHigh : fourPrimeHigh.toNat = 2 ^ 53 - 4 := rfl

/-- The limbs from which a subtrahend is taken are at least as large as its own. -/
structure BelowFourPrime (g : FieldElement) : Prop where
  l₀_le : g.l₀.toNat ≤ 2 ^ 53 - 76
  l₁_le : g.l₁.toNat ≤ 2 ^ 53 - 4
  l₂_le : g.l₂.toNat ≤ 2 ^ 53 - 4
  l₃_le : g.l₃.toNat ≤ 2 ^ 53 - 4
  l₄_le : g.l₄.toNat ≤ 2 ^ 53 - 4

theorem LimbsBelow.belowFourPrime (hg : LimbsBelow (2 ^ 53 - 76) g) : BelowFourPrime g := by
  obtain ⟨g0, g1, g2, g3, g4⟩ := hg
  exact ⟨by omega, by omega, by omega, by omega, by omega⟩

/-- Such a subtrahend has the room that a summand needs. -/
theorem BelowFourPrime.limbs_lt (hg : BelowFourPrime g) : LimbsBelow (2 ^ 54) g := by
  obtain ⟨g0, g1, g2, g3, g4⟩ := hg
  exact ⟨by omega, by omega, by omega, by omega, by omega⟩

/-- Limbs that add up to a difference, but for a multiple of `p`, have the residue of that
difference. -/
theorem residue_of_value_add {r : FieldElement} {m n k : ℕ}
    (h : r.value + m = n + k * fieldPrime) : r.residue = n - m := by
  have hcast := congrArg (Nat.cast : ℕ → Residue) h
  rw [Nat.cast_add, Nat.cast_add, Nat.cast_mul, ZMod.natCast_self, mul_zero, add_zero] at hcast
  exact eq_sub_of_add_eq hcast

theorem subM_exact (hf : LimbsBelow (2 ^ 54) f) (hg : BelowFourPrime g) :
    Exact (subM f g) fun r =>
      LimbsBelow (2 ^ 51 + 2 ^ 18) r ∧ r.residue = f.residue - g.residue := by
  obtain ⟨f0, f1, f2, f3, f4⟩ := hf
  obtain ⟨g0, g1, g2, g3, g4⟩ := hg
  have hlow := toNat_fourPrimeLow
  have hhigh := toNat_fourPrimeHigh
  -- Limb by limb, that of `4 p` is added before that of `g` is taken off.
  refine (Word.add_exact (by omega)).bind fun a₀ ha₀ => ?_
  refine (Word.sub_exact (by omega)).bind fun b₀ hb₀ => ?_
  refine (Word.add_exact (by omega)).bind fun a₁ ha₁ => ?_
  refine (Word.sub_exact (by omega)).bind fun b₁ hb₁ => ?_
  refine (Word.add_exact (by omega)).bind fun a₂ ha₂ => ?_
  refine (Word.sub_exact (by omega)).bind fun b₂ hb₂ => ?_
  refine (Word.add_exact (by omega)).bind fun a₃ ha₃ => ?_
  refine (Word.sub_exact (by omega)).bind fun b₃ hb₃ => ?_
  refine (Word.add_exact (by omega)).bind fun a₄ ha₄ => ?_
  refine (Word.sub_exact (by omega)).bind fun b₄ hb₄ => ?_
  have hdiff : (⟨b₀, b₁, b₂, b₃, b₄⟩ : FieldElement).value + g.value =
      f.value + 4 * fieldPrime := by
    simp only [value_eq, fieldPrime_eq]
    omega
  have hresidue : (⟨b₀, b₁, b₂, b₃, b₄⟩ : FieldElement).residue = f.residue - g.residue :=
    residue_of_value_add hdiff
  rw [← hresidue]
  exact carryM_residue
    (limbsBelow_mk (by omega) (by omega) (by omega) (by omega) (by omega))

theorem negM_exact (hf : BelowFourPrime f) :
    Exact (negM f) fun r => LimbsBelow (2 ^ 51 + 2 ^ 18) r ∧ r.residue = -f.residue := by
  obtain ⟨f0, f1, f2, f3, f4⟩ := hf
  have hlow := toNat_fourPrimeLow
  have hhigh := toNat_fourPrimeHigh
  refine (Word.sub_exact (by omega)).bind fun b₀ hb₀ => ?_
  refine (Word.sub_exact (by omega)).bind fun b₁ hb₁ => ?_
  refine (Word.sub_exact (by omega)).bind fun b₂ hb₂ => ?_
  refine (Word.sub_exact (by omega)).bind fun b₃ hb₃ => ?_
  refine (Word.sub_exact (by omega)).bind fun b₄ hb₄ => ?_
  -- The negative is the difference from zero.
  have hdiff : (⟨b₀, b₁, b₂, b₃, b₄⟩ : FieldElement).value + f.value =
      0 + 4 * fieldPrime := by
    simp only [value_eq, fieldPrime_eq]
    omega
  have hresidue : (⟨b₀, b₁, b₂, b₃, b₄⟩ : FieldElement).residue = -f.residue := by
    rw [residue_of_value_add hdiff, Nat.cast_zero, zero_sub, residue]
  rw [← hresidue]
  exact carryM_residue
    (limbsBelow_mk (by omega) (by omega) (by omega) (by omega) (by omega))

/-! ### On residues -/

theorem Denotes.addM_exact (ha : a.Denotes x) (hb : b.Denotes y) :
    Exact (addM a b) fun r => r.Denotes (x + y) := by
  rw [← ha.residue, ← hb.residue]
  exact denotes_exact (FieldElement.addM_exact ha.limbs_lt hb.limbs_lt) (by norm_num)

theorem Denotes.subM_exact (ha : a.Denotes x) (hb : b.Denotes y) :
    Exact (subM a b) fun r => r.Denotes (x - y) := by
  rw [← ha.residue, ← hb.residue]
  exact denotes_exact (FieldElement.subM_exact ha.limbs_lt hb.limbs.belowFourPrime) (by norm_num)

theorem Denotes.negM_exact (ha : a.Denotes x) : Exact (negM a) fun r => r.Denotes (-x) := by
  rw [← ha.residue]
  exact denotes_exact (FieldElement.negM_exact ha.limbs.belowFourPrime) (by norm_num)

theorem Denotes.add (ha : a.Denotes x) (hb : b.Denotes y) : (a + b).Denotes (x + y) :=
  (ha.addM_exact hb).run

theorem Denotes.sub (ha : a.Denotes x) (hb : b.Denotes y) : (a - b).Denotes (x - y) :=
  (ha.subM_exact hb).run

theorem Denotes.neg (ha : a.Denotes x) : (-a).Denotes (-x) :=
  ha.negM_exact.run

theorem Denotes.negateIf (ha : a.Denotes x) (c : Bool) :
    (a.negateIf c).Denotes (bif c then -x else x) := by
  cases c
  · exact ha
  · exact ha.neg

end FieldElement

end Edwards25519
