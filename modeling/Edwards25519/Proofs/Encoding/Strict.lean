import Edwards25519.Proofs.Encoding.Decoding

/-!
# Strict encodings

Encoding and decoding points are inverse to each other, in the strict sense that neither a
string nor a point is left with a choice:

* `Edwards25519.decodePoint_spec` – which strings are decoded, in terms of numbers, and to
  which coordinates;
* `Edwards25519.decodePoint_encodePoint` – every point, in whatever extended coordinates, is
  decoded from its encoding;
* `Edwards25519.encodePoint_decodePoint` – every string that is decoded is the encoding of
  the point it is decoded to, and of no other.

All three come from the relation between strings and points that both directions compute
(`Edwards25519.Encodes`).

A point `(x, y)` and its negative `(-x, y)` have the same `y`, and of `x` an encoding keeps only the
parity of the least number. That of `-x` is `p - x`, and `p` is odd: so the encodings of two
opposite points differ in bit 255 and nowhere else, and a string with that bit changed encodes the
negative of what the string itself encodes (`Edwards25519.Encodes.flipTopBit_iff`). The points with
`x = 0` are the exception. They are their own negatives and have one encoding only, with bit 255
clear; with the bit set the string encodes no point at all.
-/

namespace Edwards25519

section Strict

open FieldElement

variable {b : Bytes32} {E : Extended} {P : Point} {x x' : ℕ}

/-! ### In extended coordinates -/

theorem Extended.Denotes.encodes_encodePoint (hE : E.Denotes P) : Encodes (encodePoint E) P :=
  hE.toAffine.encodes_compress

/-- What is decoded has denominator one. -/
theorem decodePoint_sound (h : decodePoint b = some E) :
    ∃ P, E.DenotesOver P 1 ∧ Encodes b P := by
  obtain ⟨A, hA, rfl⟩ := Option.map_eq_some_iff.1 h
  obtain ⟨P, hP, hb⟩ := decompress_sound hA
  exact ⟨P, hP.toExtended_one, hb⟩

theorem decodePoint_complete (h : Encodes b P) :
    ∃ E, decodePoint b = some E ∧ E.Denotes P := by
  obtain ⟨A, hA, hP⟩ := decompress_complete h
  exact ⟨A.toExtended, Option.map_eq_some_iff.2 ⟨A, hA, rfl⟩, hP.toExtended⟩

/-- The strings that are refused are those that encode nothing. -/
theorem decodePoint_eq_none_iff : decodePoint b = none ↔ ∀ P, ¬Encodes b P := by
  rw [Option.eq_none_iff_forall_ne_some]
  constructor
  · intro h P hb
    obtain ⟨E, hE, -⟩ := decodePoint_complete hb
    exact h E hE
  · intro h E hE
    obtain ⟨P, -, hb⟩ := decodePoint_sound hE
    exact h P hb

/-! ### Which strings are decoded -/

/-- The number `x` completes the bytes to a point: with the number in their low 255 bits it
satisfies the equation of the curve modulo `p`, and bit 255 is its parity. -/
structure Completes (b : Bytes32) (x : ℕ) : Prop where
  lt : x < fieldPrime
  equation : -(x : Residue) ^ 2 + ((b.value % 2 ^ 255 : ℕ) : Residue) ^ 2 =
    1 + coefficient * (x : Residue) ^ 2 * ((b.value % 2 ^ 255 : ℕ) : Residue) ^ 2
  sign : x % 2 = b.value / 2 ^ 255

/-- Such a number, below a canonical `y`, is a point that the bytes encode. -/
theorem Completes.encodes (h : Completes b x) (hy : b.value % 2 ^ 255 < fieldPrime) :
    Encodes b ⟨x, (b.value % 2 ^ 255 : ℕ), h.equation⟩ where
  y := by
    change ZMod.val ((b.value % 2 ^ 255 : ℕ) : Residue) = _
    rw [ZMod.val_natCast, Nat.mod_eq_of_lt hy]
  sign := by
    change ZMod.val (x : Residue) % 2 = _
    rw [ZMod.val_natCast, Nat.mod_eq_of_lt h.lt]
    exact h.sign

theorem Encodes.completes (h : Encodes b P) : Completes b P.x.val where
  lt := P.x.val_lt
  equation := by
    rw [← h.y, ZMod.natCast_zmod_val, ZMod.natCast_zmod_val]
    exact P.equation
  sign := h.sign

/-- At most one number completes the bytes. -/
theorem Completes.unique (h : Completes b x) (h' : Completes b x') : x = x' := by
  have hy : CurvePoint.y ⟨_, _, h.equation⟩ = CurvePoint.y ⟨_, _, h'.equation⟩ := rfl
  have hsq : (x : Residue) ^ 2 = (x' : Residue) ^ 2 := CurvePoint.x_sq_eq hy
  have hx : ZMod.val (x : Residue) = x := by rw [ZMod.val_natCast, Nat.mod_eq_of_lt h.lt]
  have hx' : ZMod.val (x' : Residue) = x' := by rw [ZMod.val_natCast, Nat.mod_eq_of_lt h'.lt]
  have hsign : ZMod.val (x : Residue) % 2 = ZMod.val (x' : Residue) % 2 := by
    rw [hx, hx', h.sign, h'.sign]
  rw [← hx, ← hx', eq_of_sq_eq hsq hsign]

/-- The strings that are decoded. -/
theorem isSome_decodePoint_iff (b : Bytes32) :
    (decodePoint b).isSome ↔ b.value % 2 ^ 255 < fieldPrime ∧ ∃ x, Completes b x := by
  rw [Option.isSome_iff_exists]
  constructor
  · rintro ⟨E, hE⟩
    obtain ⟨P, -, hb⟩ := decodePoint_sound hE
    refine ⟨?_, _, hb.completes⟩
    rw [← hb.y]
    exact P.y.val_lt
  · rintro ⟨hy, x, hx⟩
    obtain ⟨E, hE, -⟩ := decodePoint_complete (hx.encodes hy)
    exact ⟨E, hE⟩

/-- The coordinates that are returned. -/
theorem value_of_decodePoint (hE : decodePoint b = some E) (hx : Completes b x) :
    E.X.value % fieldPrime = x ∧ E.Y.value % fieldPrime = b.value % 2 ^ 255 ∧
      E.Z.value % fieldPrime = 1 ∧
      E.T.value % fieldPrime = x * (b.value % 2 ^ 255) % fieldPrime := by
  obtain ⟨P, hP, hb⟩ := decodePoint_sound hE
  rw [hx.unique hb.completes, ← hb.y]
  refine ⟨?_, ?_, ?_, ?_⟩
  · rw [hP.X.value_mod, mul_one]
  · rw [hP.Y.value_mod, mul_one]
  · rw [hP.Z.value_mod, ZMod.val_one]
  · rw [hP.T.value_mod, mul_one, ZMod.val_mul]

/-- Zero for `x` is refused with bit 255 set. -/
theorem decodePoint_eq_none (hy : ((b.value % 2 ^ 255 : ℕ) : Residue) ^ 2 = 1)
    (hsign : 2 ^ 255 ≤ b.value) : decodePoint b = none := by
  refine decodePoint_eq_none_iff.2 fun P hb => ?_
  have hPy : P.y ^ 2 = 1 := by rwa [← hb.y, ZMod.natCast_zmod_val] at hy
  have hx : (P.y ^ 2 * coefficient + 1) * P.x ^ 2 = 0 := by
    rw [equation_iff.2 P.equation, hPy, sub_self]
  rw [mul_eq_zero, sq_eq_zero_iff] at hx
  -- The only `x` is zero, which is even, while bit 255 asks for an odd one.
  have hPx : P.x = 0 := hx.resolve_left (denominator_ne_zero P.y)
  have hbit := hb.sign
  rw [hPx, ZMod.val_zero] at hbit
  omega

/-- **Strict decoding.** The bytes are decoded exactly if the number `y` in their low 255
bits is below `p` and some number `x` completes it to a point with the parity in bit 255.
That number is unique, and the coordinates returned are `x`, `y`, `1` and `x y` modulo `p`.
In particular the two `y` for which `x` is zero are refused with bit 255 set. -/
theorem decodePoint_spec (b : Bytes32) :
    ((decodePoint b).isSome ↔ b.value % 2 ^ 255 < fieldPrime ∧ ∃ x, Completes b x) ∧
      (∀ x x', Completes b x → Completes b x' → x = x') ∧
      (∀ E x, decodePoint b = some E → Completes b x →
        E.X.value % fieldPrime = x ∧ E.Y.value % fieldPrime = b.value % 2 ^ 255 ∧
        E.Z.value % fieldPrime = 1 ∧
        E.T.value % fieldPrime = x * (b.value % 2 ^ 255) % fieldPrime) ∧
      (((b.value % 2 ^ 255 : ℕ) : Residue) ^ 2 = 1 → 2 ^ 255 ≤ b.value →
        decodePoint b = none) :=
  ⟨isSome_decodePoint_iff b, fun _ _ hx hx' => hx.unique hx',
    fun _ _ hE hx => value_of_decodePoint hE hx, decodePoint_eq_none⟩

/-! ### Round trips -/

/-- **A point is decoded from its encoding**, whatever the extended coordinates it was
encoded from, as long as they satisfy the two equations over a denominator other than
zero. -/
theorem decodePoint_encodePoint (E : Extended) (hX : LimbsBelow (2 ^ 53 - 76) E.X)
    (hY : LimbsBelow (2 ^ 53 - 76) E.Y) (hZ : LimbsBelow (2 ^ 53 - 76) E.Z)
    (hT : LimbsBelow (2 ^ 53 - 76) E.T) (hne : E.Z.residue ≠ 0)
    (hproduct : E.X.residue * E.Y.residue = E.Z.residue * E.T.residue)
    (hcurve : -E.X.residue ^ 2 + E.Y.residue ^ 2 =
      E.Z.residue ^ 2 + coefficient * E.T.residue ^ 2) :
    ∃ F, decodePoint (encodePoint E) = some F ∧ (F == E) = true ∧
      (F.toAffine == E.toAffine) = true := by
  obtain ⟨P, hE⟩ := Extended.exists_denotes hX hY hZ hT hne hproduct hcurve
  obtain ⟨F, hdecode, hF⟩ := decodePoint_complete hE.encodes_encodePoint
  exact ⟨F, hdecode, (hF.beq_iff hE).2 rfl, (hF.toAffine.beq_iff hE.toAffine).2 rfl⟩

/-- Twice the base point, in coordinates with a denominator other than one. -/
theorem decodePoint_encodePoint_double : ∃ F,
    decodePoint (encodePoint Extended.generator.double) = some F ∧
      (F == Extended.generator.double) = true ∧
      (F.toAffine == Extended.generator.double.toAffine) = true :=
  decodePoint_encodePoint Extended.generator.double (by decide +kernel) (by decide +kernel)
    (by decide +kernel) (by decide +kernel) (by decide +kernel) (by decide +kernel)
    (by rw [← residue_edwardsD]; decide +kernel)

/-- **A string that is decoded is the encoding of what it is decoded to**, and no other
string is decoded to an equal point. -/
theorem encodePoint_decodePoint (b : Bytes32) (E : Extended) (hE : decodePoint b = some E) :
    encodePoint E = b ∧
      ∀ (c : Bytes32) (F : Extended), decodePoint c = some F → (E == F) = true → b = c := by
  obtain ⟨P, hP, hb⟩ := decodePoint_sound hE
  have hEP : E.Denotes P := ⟨1, hP⟩
  refine ⟨hEP.encodes_encodePoint.bytes_unique hb, fun c F hF heq => ?_⟩
  -- Another string that is decoded to an equal point encodes the same one.
  obtain ⟨Q, hQ, hc⟩ := decodePoint_sound hF
  have hPQ : P = Q := (hEP.beq_iff ⟨1, hQ⟩).1 heq
  rw [← hPQ] at hc
  exact hb.bytes_unique hc

/-- The encoding of the base point, with the sign of `x` changed. -/
theorem encodePoint_decodePoint_negative : ∃ E,
    decodePoint (Encoding.generator.bytes.setTopBit true) = some E ∧
      encodePoint E = Encoding.generator.bytes.setTopBit true := by
  have hdecode : (decodePoint (Encoding.generator.bytes.setTopBit true)).isSome = true := by
    decide +kernel
  obtain ⟨E, hE⟩ := Option.isSome_iff_exists.1 hdecode
  exact ⟨E, hE, (encodePoint_decodePoint _ E hE).1⟩

end Strict

/-! ### Encodings of opposite points -/

section Opposite

variable {b : Bytes32} {E : Extended} {P Q : Point}

/-- A point with `x = 0` is its own negative. -/
theorem CurvePoint.neg_eq_self (hx : P.x = 0) : -P = P := by
  refine CurvePoint.ext ?_ P.neg_y
  rw [neg_x, hx, neg_zero]

/-- **The string with bit 255 changed** encodes the negative of the point, unless `x` is zero, and
it encodes nothing else. -/
theorem Encodes.flipTopBit_iff (h : Encodes b P) :
    Encodes b.flipTopBit Q ↔ Q = -P ∧ P.x ≠ 0 := by
  have hlt := b.value_lt
  have hvalue := b.value_flipTopBit
  have hlow : b.flipTopBit.value % 2 ^ 255 = b.value % 2 ^ 255 := by omega
  have hhigh : b.flipTopBit.value / 2 ^ 255 = 1 - b.value / 2 ^ 255 := by omega
  constructor
  · intro hQ
    have hy : Q.y = P.y := ZMod.val_injective _ (by rw [hQ.y, h.y, hlow])
    have hsign : Q.x.val % 2 = 1 - P.x.val % 2 := by rw [hQ.sign, h.sign, hhigh]
    -- With the same `y` the other point has `x` or `-x`, and the parity rules out the first.
    have hne : Q.x ≠ P.x := by
      intro heq
      rw [heq] at hsign
      omega
    have hneg : Q.x = -P.x :=
      (sq_eq_sq_iff_eq_or_eq_neg.1 (CurvePoint.x_sq_eq hy)).resolve_left hne
    refine ⟨CurvePoint.ext hneg hy, fun hx => hne ?_⟩
    rw [hneg, hx, neg_zero]
  · rintro ⟨rfl, hx⟩
    refine ⟨?_, ?_⟩
    · rw [CurvePoint.neg_y, h.y, hlow]
    · rw [CurvePoint.neg_x, val_neg_mod_two hx, h.sign, hhigh]

/-- **Opposite points have opposite encodings.** Let the bytes be decoded. If the affine `x` of the
point is not zero, then the bytes with bit 255 changed are decoded to its negative, and they are
the encoding of its negative. If it is zero, then the bytes with bit 255 changed are refused, and
the negative has the encoding that the point has. -/
theorem decodePoint_flipTopBit (h : decodePoint b = some E) :
    (E.toAffine.x.residue ≠ 0 →
        (∃ F, decodePoint b.flipTopBit = some F ∧ (F == -E) = true) ∧
          encodePoint (-E) = b.flipTopBit) ∧
      (E.toAffine.x.residue = 0 →
        decodePoint b.flipTopBit = none ∧ encodePoint (-E) = b) := by
  obtain ⟨P, hP, hb⟩ := decodePoint_sound h
  have hE : E.Denotes P := ⟨1, hP⟩
  have hneg : Encodes (encodePoint (-E)) (-P) := hE.neg.encodes_encodePoint
  rw [hE.toAffine.x.residue]
  constructor
  · intro hx
    have hflip : Encodes b.flipTopBit (-P) := hb.flipTopBit_iff.2 ⟨rfl, hx⟩
    obtain ⟨F, hdecode, hF⟩ := decodePoint_complete hflip
    exact ⟨⟨F, hdecode, (hF.beq_iff hE.neg).2 rfl⟩, hneg.bytes_unique hflip⟩
  · intro hx
    rw [CurvePoint.neg_eq_self hx] at hneg
    have hrefused : decodePoint b.flipTopBit = none :=
      decodePoint_eq_none_iff.2 fun Q hQ => (hb.flipTopBit_iff.1 hQ).2 hx
    exact ⟨hrefused, hneg.bytes_unique hb⟩

/-- The base point, and the point of order two, which is its own negative. -/
theorem decodePoint_flipTopBit_order_two :
    (∃ E, (decodePoint Encoding.generator.bytes = some E ∧ E.toAffine.x.residue ≠ 0) ∧
        (∃ F, decodePoint Encoding.generator.bytes.flipTopBit = some F ∧ (F == -E) = true) ∧
          encodePoint (-E) = Encoding.generator.bytes.flipTopBit) ∧
      ∃ E, (decodePoint FieldElement.minusOne.toBytes = some E ∧ E.toAffine.x.residue = 0) ∧
        decodePoint FieldElement.minusOne.toBytes.flipTopBit = none ∧
          encodePoint (-E) = FieldElement.minusOne.toBytes := by
  have hbase : (decodePoint Encoding.generator.bytes).map
      (fun E => decide (E.toAffine.x.residue = 0)) = some false := by
    decide +kernel
  have htwo : (decodePoint FieldElement.minusOne.toBytes).map
      (fun E => decide (E.toAffine.x.residue = 0)) = some true := by
    decide +kernel
  obtain ⟨E, hE, hx⟩ := Option.map_eq_some_iff.1 hbase
  obtain ⟨F, hF, hx'⟩ := Option.map_eq_some_iff.1 htwo
  rw [decide_eq_false_iff_not] at hx
  rw [decide_eq_true_iff] at hx'
  exact ⟨⟨E, ⟨hE, hx⟩, (decodePoint_flipTopBit hE).1 hx⟩,
    ⟨F, ⟨hF, hx'⟩, (decodePoint_flipTopBit hF).2 hx'⟩⟩

end Opposite

end Edwards25519
