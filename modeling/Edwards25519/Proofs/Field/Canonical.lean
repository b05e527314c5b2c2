import Edwards25519.Proofs.Field.Sum

/-!
# The canonical form

Of the many ways to hold a residue in limbs, the bytes of a field element pick one: they
are those of the least number with that residue
(`Edwards25519.FieldElement.value_toBytes`). The three questions that the library asks of a
field element are asked of these bytes, and so they are questions about the residue alone:

* `Edwards25519.FieldElement.Denotes.beq_iff` – two elements are equal;
* `Edwards25519.FieldElement.Denotes.isZero_iff` – an element is zero;
* `Edwards25519.FieldElement.Denotes.isNegative_eq` – its least number is odd.

Reading the bytes again leads back to an equal element, for limbs of any size. Writing what
has been read leads back to the bytes only if their number is the least of its residue
(`Edwards25519.FieldElement.toBytes_canonical`).
-/

namespace Edwards25519

/-! ### Reduction by two folds and a trial -/

theorem foldTop_mod (n : ℕ) : foldTop n % fieldPrime = n % fieldPrime := by
  conv_rhs => rw [← foldTop_add n]
  rw [Nat.add_mul_mod_self_left]

/-- A fold brings a number that is little more than `2^255` below it. -/
theorem foldTop_lt {n : ℕ} (hn : n < 2 ^ 255 + 2 ^ 254) : foldTop n < 2 ^ 255 := by
  rw [foldTop]
  omega

/-- **The trial subtraction**: adding 19 reaches `2^255` exactly for the numbers from `p`
on, and folding what has gone over makes up for the 19 that is taken off afterwards. -/
theorem foldTop_add_19_sub {n : ℕ} (hn : n < 2 ^ 255) :
    (foldTop (n + 19) + (2 ^ 255 - 19)) % 2 ^ 255 = n % fieldPrime := by
  rcases Nat.lt_or_ge n fieldPrime with hlt | hge
  · rw [Nat.mod_eq_of_lt hlt]
    rw [fieldPrime_eq] at hlt
    have hcarry : (n + 19) / 2 ^ 255 = 0 := by omega
    rw [foldTop, hcarry]
    omega
  · have hmod : n % fieldPrime = n - fieldPrime := by
      rw [fieldPrime_eq] at hge ⊢
      omega
    rw [hmod]
    rw [fieldPrime_eq] at hge ⊢
    have hcarry : (n + 19) / 2 ^ 255 = 1 := by omega
    rw [foldTop, hcarry]
    omega

namespace FieldElement

variable {f a c : FieldElement} {b : Bytes32} {x y : Residue}

/-- The least number, once the limbs have been carried. -/
theorem freezeCarriedM_exact (hf : LimbsBelow (2 ^ 51 + 2 ^ 18) f) :
    Exact (freezeCarriedM f) fun r => LimbsBelow (2 ^ 51) r ∧ r.value = f.value % fieldPrime := by
  have hvalue : f.value < 2 ^ 255 + 2 ^ 254 := by
    obtain ⟨f0, f1, f2, f3, f4⟩ := hf
    simp only [value_eq]
    omega
  refine (carryM_exact (hf.mono (by norm_num))).bind fun t h => ?_
  obtain ⟨tlimbs, ht⟩ := h
  -- After this second pass of carries the number is below `2^255`.
  have htlt : t.value < 2 ^ 255 := by
    rw [ht]
    exact foldTop_lt hvalue
  obtain ⟨t0, t1, t2, t3, t4⟩ := tlimbs
  -- The trial adds 19 and carries.
  have h19 : (19 : UInt64).toNat = 19 := rfl
  refine (Word.add_exact (by omega)).bind fun t₀ ht₀ => ?_
  refine (carryM_exact
    (limbsBelow_mk (by omega) (by omega) (by omega) (by omega) (by omega))).bind
      fun u h => ?_
  obtain ⟨ulimbs, hu⟩ := h
  have htrial : (⟨t₀, t.l₁, t.l₂, t.l₃, t.l₄⟩ : FieldElement).value = t.value + 19 := by
    simp only [value_eq]
    omega
  rw [htrial] at hu
  obtain ⟨u0, u1, u2, u3, u4⟩ := ulimbs
  -- The 19 is taken off again by adding `2^255 - 19` and dropping what has gone over.
  have hlow : (0x7ffffffffffed : UInt64).toNat = 2 ^ 51 - 19 := rfl
  have hhigh : (0x7ffffffffffff : UInt64).toNat = 2 ^ 51 - 1 := rfl
  refine (Word.add_exact (by omega)).bind fun v₀ hv₀ => ?_
  refine (Word.add_exact (by omega)).bind fun v₁ hv₁ => ?_
  refine (Word.add_exact (by omega)).bind fun v₂ hv₂ => ?_
  refine (Word.add_exact (by omega)).bind fun v₃ hv₃ => ?_
  refine (Word.add_exact (by omega)).bind fun v₄ hv₄ => ?_
  have hsum : (⟨v₀, v₁, v₂, v₃, v₄⟩ : FieldElement).value = u.value + (2 ^ 255 - 19) := by
    simp only [value_eq]
    omega
  refine (carryDropM_exact
    (limbsBelow_mk (by omega) (by omega) (by omega) (by omega) (by omega))).mono
      fun r h => ?_
  obtain ⟨rlimbs, hr⟩ := h
  refine ⟨rlimbs, ?_⟩
  rw [hr, hsum, hu, foldTop_add_19_sub htlt, ht, foldTop_mod]

/-- **The limbs of the least number** with the same residue. -/
theorem freezeM_exact (hf : LimbsBelow (2 ^ 54) f) :
    Exact (freezeM f) fun r => LimbsBelow (2 ^ 51) r ∧ r.value = f.value % fieldPrime := by
  refine (carryM_exact (hf.mono (by norm_num))).bind fun s h => ?_
  obtain ⟨slimbs, hs⟩ := h
  have hrest := freezeCarriedM_exact slimbs
  rw [hs, foldTop_mod] at hrest
  exact hrest

/-- Whatever the limbs are, even if carrying them overflows, a pass of carries leaves limbs of
little more than 51 bits. -/
theorem limbsBelow_run_carryM (f : FieldElement) :
    LimbsBelow (2 ^ 51 + 2 ^ 18) (Id.run (carryM f)) := by
  have hhead (w : UInt64) : (w >>> 51).toNat < 2 ^ 13 := by
    have hw : w.toNat < 2 ^ 64 := w.toNat_lt
    rw [Word.toNat_shiftRight_51]
    omega
  have hlimb (w : UInt64) : (Word.low51 w).toNat < 2 ^ 51 + 2 ^ 18 := by
    rw [Word.toNat_low51]
    omega
  -- Only the lowest limb is not a remainder: it takes up the carry out of the highest one.
  have hlow (v w : UInt64) : (Word.low51 v + (w >>> 51) * 19).toNat < 2 ^ 51 + 2 ^ 18 := by
    have hw := hhead w
    have h19 : (19 : UInt64).toNat = 19 := rfl
    rw [UInt64.toNat_add, UInt64.toNat_mul, Word.toNat_low51, h19,
      Nat.mod_eq_of_lt (by omega : (w >>> 51).toNat * 19 < 2 ^ 64)]
    exact (Nat.mod_le _ _).trans_lt (by omega)
  exact limbsBelow_mk (hlow _ _) (hlimb _) (hlimb _) (hlimb _) (hlimb _)

/-! ### Bytes -/

/-- Limbs of 51 bits, packed into four words. -/
theorem value_ofWords_limbs (ha : LimbsBelow (2 ^ 51) a) :
    (Bytes32.ofWords (a.l₀ ||| (a.l₁ <<< 51)) ((a.l₁ >>> 13) ||| (a.l₂ <<< 38))
      ((a.l₂ >>> 26) ||| (a.l₃ <<< 25)) ((a.l₃ >>> 39) ||| (a.l₄ <<< 12))).value = a.value := by
  obtain ⟨a0, a1, a2, a3, a4⟩ := ha
  have hw₀ : (a.l₀ ||| (a.l₁ <<< 51)).toNat = a.l₀.toNat + 2 ^ 51 * a.l₁.toNat % 2 ^ 64 :=
    Word.toNat_or_shiftLeft _ _ 51 (by decide) a0
  have hw₁ : ((a.l₁ >>> 13) ||| (a.l₂ <<< 38)).toNat =
      a.l₁.toNat / 2 ^ 13 + 2 ^ 38 * a.l₂.toNat % 2 ^ 64 :=
    Word.toNat_shiftRight_or_shiftLeft _ _ 13 38 (by decide) (by decide) a1
  have hw₂ : ((a.l₂ >>> 26) ||| (a.l₃ <<< 25)).toNat =
      a.l₂.toNat / 2 ^ 26 + 2 ^ 25 * a.l₃.toNat % 2 ^ 64 :=
    Word.toNat_shiftRight_or_shiftLeft _ _ 26 25 (by decide) (by decide) a2
  have hw₃ : ((a.l₃ >>> 39) ||| (a.l₄ <<< 12)).toNat =
      a.l₃.toNat / 2 ^ 39 + 2 ^ 12 * a.l₄.toNat % 2 ^ 64 :=
    Word.toNat_shiftRight_or_shiftLeft _ _ 39 12 (by decide) (by decide) a3
  rw [Bytes32.value_ofWords, hw₀, hw₁, hw₂, hw₃, value_eq]
  omega

theorem toBytesM_exact (hf : LimbsBelow (2 ^ 54) f) :
    Exact (toBytesM f) fun b => b.value = f.value % fieldPrime := by
  refine (freezeM_exact hf).bind fun t h => ?_
  obtain ⟨hlimbs, hvalue⟩ := h
  exact Exact.pure ((value_ofWords_limbs hlimbs).trans hvalue)

/-- **The bytes of a field element** are those of the least number with its residue. -/
theorem value_toBytes (ha : LimbsBelow (2 ^ 54) a) : a.toBytes.value = a.value % fieldPrime :=
  (toBytesM_exact ha).run

/-- The bytes stand for a number below `p`, whatever the limbs are. -/
theorem value_toBytes_lt (a : FieldElement) : a.toBytes.value < fieldPrime := by
  obtain ⟨hlimbs, hvalue⟩ := (freezeCarriedM_exact (limbsBelow_run_carryM a)).run
  have hbytes : a.toBytes.value = (Id.run (freezeCarriedM (Id.run (carryM a)))).value :=
    value_ofWords_limbs hlimbs
  rw [hbytes, hvalue]
  exact Nat.mod_lt _ (by decide)

/-- The number itself leaves the remainder `x`. -/
theorem Denotes.value_mod (ha : a.Denotes x) : a.value % fieldPrime = x.val := by
  rw [← ha.residue, FieldElement.residue, ZMod.val_natCast]

theorem Denotes.toBytesM_exact (ha : a.Denotes x) :
    Exact (toBytesM a) fun b => b.value = x.val := by
  rw [← ha.value_mod]
  exact FieldElement.toBytesM_exact ha.limbs_lt

theorem Denotes.value_toBytes (ha : a.Denotes x) : a.toBytes.value = x.val :=
  ha.toBytesM_exact.run

/-! ### What is read from the bytes -/

theorem beq_iff_toBytes : (a == c) = true ↔ a.toBytes.value = c.toBytes.value := by
  change (a.toBytes == c.toBytes) = true ↔ _
  rw [beq_iff_eq, Bytes32.value_inj]

theorem isZero_iff_toBytes : a.isZero = true ↔ a.toBytes.value = 0 := by
  have hzero : Bytes32.zero.value = 0 := by decide
  rw [isZero, beq_iff_eq, ← Bytes32.value_inj, hzero]

theorem isNegative_iff_toBytes : a.isNegative = true ↔ a.toBytes.value % 2 = 1 := by
  have hbit : (a.toBytes.first &&& 1).toNat = a.toBytes.value % 256 % 2 := by
    rw [UInt8.toNat_and, ← Bytes32.toNat_first]
    exact Nat.and_one_is_mod _
  rw [isNegative, beq_iff_eq, ← UInt8.toNat_inj, hbit]
  change a.toBytes.value % 256 % 2 = 1 ↔ _
  omega

/-- **Equality of elements** is equality of their residues. -/
theorem beq_iff_residue (ha : LimbsBelow (2 ^ 54) a) (hc : LimbsBelow (2 ^ 54) c) :
    (a == c) = true ↔ a.residue = c.residue := by
  rw [beq_iff_toBytes, value_toBytes ha, value_toBytes hc, residue, residue,
    ZMod.natCast_eq_natCast_iff']

theorem Denotes.beq_iff (ha : a.Denotes x) (hc : c.Denotes y) : (a == c) = true ↔ x = y := by
  rw [beq_iff_residue ha.limbs_lt hc.limbs_lt, ha.residue, hc.residue]

theorem Denotes.isZero_iff (ha : a.Denotes x) : a.isZero = true ↔ x = 0 := by
  rw [isZero_iff_toBytes, ha.value_toBytes, ZMod.val_eq_zero]

/-- **The sign of an element** is the parity of the least number of its residue. -/
theorem Denotes.isNegative_eq (ha : a.Denotes x) : a.isNegative = decide (x.val % 2 = 1) := by
  rw [Bool.eq_iff_iff, decide_eq_true_eq, isNegative_iff_toBytes, ha.value_toBytes]

/-! ### Reading and writing bytes -/

/-- What is read from bytes and written again: the least number with the residue of the 255
lowest bits. -/
theorem value_toBytes_ofBytes (b : Bytes32) :
    (ofBytes b).toBytes.value = b.value % 2 ^ 255 % fieldPrime := by
  rw [value_toBytes ((limbsBelow_ofBytes b).mono (by norm_num)), value_ofBytes]

/-- **Writing after reading** gives the bytes back exactly if they are canonical. -/
theorem toBytes_ofBytes_eq_iff : (ofBytes b).toBytes = b ↔ b.value < fieldPrime := by
  rw [← Bytes32.value_inj, value_toBytes_ofBytes]
  constructor
  · intro h
    rw [← h]
    exact Nat.mod_lt _ (by decide)
  · intro h
    have h255 : b.value < 2 ^ 255 := h.trans (by decide)
    rw [Nat.mod_eq_of_lt h255, Nat.mod_eq_of_lt h]

/-- Bytes that hold the least number of a residue are read as that residue. -/
theorem denotes_ofBytes_of_value (hb : b.value = x.val) : (ofBytes b).Denotes x := by
  have hlt : x.val < 2 ^ 255 := x.val_lt.trans (by decide)
  refine (denotes_ofBytes b).congr ?_
  rw [hb, Nat.mod_eq_of_lt hlt, ZMod.natCast_zmod_val]

/-- **Reading after writing** leads back to an equal element. -/
theorem ofBytes_toBytes_beq (a : FieldElement) : (ofBytes a.toBytes == a) = true := by
  rw [beq_iff_toBytes, toBytes_ofBytes_eq_iff.2 a.value_toBytes_lt]

/-- **The canonical encoding.** For limbs below `2^54` the bytes are those of the number that
the limbs add up to, modulo `p`, and equality, the zero test and the sign are questions about
that remainder. What is read from any bytes is written as the number of their 255 lowest bits
modulo `p`. So an element is equal to what is read from its bytes, and bytes are what is
written of what is read from them exactly if their number is below `p`. -/
theorem toBytes_canonical (a c : FieldElement) (b : Bytes32) (ha : LimbsBelow (2 ^ 54) a)
    (hc : LimbsBelow (2 ^ 54) c) :
    (a.toBytes.toList = littleEndianBytes 32 (a.value % fieldPrime) ∧
        ((a == c) = true ↔ a.value % fieldPrime = c.value % fieldPrime) ∧
        (a.isZero = true ↔ a.value % fieldPrime = 0) ∧
        (a.isNegative = true ↔ a.value % fieldPrime % 2 = 1)) ∧
      (ofBytes b).toBytes.toList = littleEndianBytes 32 (b.value % 2 ^ 255 % fieldPrime) ∧
      (∀ e : FieldElement, (ofBytes e.toBytes == e) = true) ∧
      ((ofBytes b).toBytes = b ↔ b.value < fieldPrime) := by
  refine ⟨⟨?_, ?_, ?_, ?_⟩, ?_, ofBytes_toBytes_beq, toBytes_ofBytes_eq_iff⟩
  · rw [Bytes32.toList_eq, value_toBytes ha]
  · rw [beq_iff_toBytes, value_toBytes ha, value_toBytes hc]
  · rw [isZero_iff_toBytes, value_toBytes ha]
  · rw [isNegative_iff_toBytes, value_toBytes ha]
  · rw [Bytes32.toList_eq, value_toBytes_ofBytes]

/-- The largest limbs, which add up to a number above `8 p`, beside reduced limbs of the same
residue, and the bytes of the largest number. -/
theorem toBytes_canonical_largest :
    let a : FieldElement := ⟨0x3fffffffffffff, 0x3fffffffffffff, 0x3fffffffffffff,
      0x3fffffffffffff, 0x3fffffffffffff⟩
    let c : FieldElement := .ofNat 0x7000000000000e000000000001c0000000000038000000000097
    let b : Bytes32 := Vector.replicate 32 0xff
    (LimbsBelow (2 ^ 54) a ∧ LimbsBelow (2 ^ 54) c) ∧
      a.toBytes.toList =
        littleEndianBytes 32 0x7000000000000e000000000001c0000000000038000000000097 ∧
      (a == c) = true ∧ a.isZero = false ∧ a.isNegative = true ∧
      (ofBytes b).toBytes.toList = littleEndianBytes 32 18 ∧
      (ofBytes a.toBytes == a) = true ∧ (ofBytes b).toBytes ≠ b := by
  intro a c b
  have ha : LimbsBelow (2 ^ 54) a := by decide
  have hc : LimbsBelow (2 ^ 54) c := by decide
  obtain ⟨⟨hbytes, heq, hzero, hsign⟩, hread, hback, hwrite⟩ := toBytes_canonical a c b ha hc
  have hnum : a.value % fieldPrime =
      0x7000000000000e000000000001c0000000000038000000000097 := by decide
  have hall : b.value % 2 ^ 255 % fieldPrime = 18 := by decide
  rw [hnum] at hbytes hzero hsign
  rw [hall] at hread
  refine ⟨⟨ha, hc⟩, hbytes, heq.2 (by decide), ?_, hsign.2 (by decide), hread, hback a, ?_⟩
  · rw [← Bool.not_eq_true, hzero]
    decide
  · rw [ne_eq, hwrite]
    decide

end FieldElement

end Edwards25519
