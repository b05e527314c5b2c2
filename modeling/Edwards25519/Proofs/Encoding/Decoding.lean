import Edwards25519.Encoding
import Edwards25519.Proofs.Point.Coordinates

/-!
# What a byte string encodes

Decoding knows `y` and looks for an `x` with `v x² = u`, where `u = y² - 1` and `v = d y² + 1`. It
computes one candidate `r` (`Edwards25519.rootOf`), for which

  `v r² = u (u v⁷)^((p - 1)/4)`,

and the power on the right is a fourth root of one. If there is a solution at all, then `u v⁷` is a
square, the power is 1 or -1, and `r` or `r` times a root of -1 solves the equation
(`Edwards25519.rootOf_complete`). The denominator `v` is never zero, since `-1/d` is not a square,
and `u` differs from `-u` unless it is zero, so that both tests of the candidate succeed only for
the two points with `x = 0`. The search does not look at the sign, nor at whether `y` is the least
number of its residue, and is described for every `y` (`Edwards25519.rootSearch_spec`).

A byte string encodes a point if its low 255 bits are the least number of `y` and its bit
255 is the parity of the least number of `x` (`Edwards25519.Encodes`). This is a relation
between all strings and all points, and it is one-to-one: a string encodes at most one
point, because `y` determines `x` up to its sign, of the two solutions one is even and one is odd,
and a point is encoded by at most one string. Encoding and decoding compute it in the two
directions:

* `Edwards25519.Affine.Denotes.encodes_compress` – the bytes computed for a point encode it;
* `Edwards25519.decompress_sound` – a pair computed from bytes is the point they encode;
* `Edwards25519.decompress_complete` – and if they encode any, a pair is computed.
-/

namespace Edwards25519

section Roots

open FieldElement

variable {a b : FieldElement} {u v x y : Residue}

/-! ### The candidate -/

/-- The candidate for a solution of `v x² = u`. -/
def rootOf (u v : Residue) : Residue :=
  (u * v ^ 7) ^ ((fieldPrime - 5) / 8) * v ^ 3 * u

theorem denotes_rootCandidate (ha : a.Denotes u) (hb : b.Denotes v) :
    (Encoding.rootCandidate a b).Denotes (rootOf u v) := by
  have h3 : (b.square * b).Denotes (v ^ 3) := (hb.square.mul hb).congr (by ring)
  have h7 := (h3.square.mul hb).congr (y := v ^ 7) (by ring)
  exact ((ha.mul h7).rootPower.mul h3).mul ha

/-- What the candidate is off by. -/
theorem mul_rootOf_sq (u v : Residue) :
    v * rootOf u v ^ 2 = u * (u * v ^ 7) ^ ((fieldPrime - 1) / 4) := by
  have hexponent : (fieldPrime - 1) / 4 = (fieldPrime - 5) / 8 * 2 + 1 := by decide
  have hpower : (u * v ^ 7) ^ ((fieldPrime - 1) / 4) =
      ((u * v ^ 7) ^ ((fieldPrime - 5) / 8)) ^ 2 * (u * v ^ 7) := by
    rw [hexponent, pow_succ, pow_mul]
  rw [hpower, rootOf]
  -- The power is a factor like any other from here on, and not to be multiplied out.
  generalize (u * v ^ 7) ^ ((fieldPrime - 5) / 8) = w
  ring

/-- **If there is a solution**, the candidate is one up to a root of -1. -/
theorem rootOf_complete (h : v * x ^ 2 = u) :
    v * rootOf u v ^ 2 = u ∨ v * rootOf u v ^ 2 = -u := by
  rw [mul_rootOf_sq]
  rcases eq_or_ne u 0 with hu | hu
  · left
    rw [hu, zero_mul]
  -- The base of the power is a square, so that the power is a root of one.
  have hbase : u * v ^ 7 = (v ^ 4 * x) ^ 2 := by
    rw [← h]
    ring
  have hne : v ^ 4 * x ≠ 0 := by
    intro h0
    apply hu
    rw [← h]
    rcases mul_eq_zero.1 h0 with hv | hx
    · rw [eq_zero_of_pow_eq_zero hv, zero_mul]
    · rw [hx]
      ring
  have hpower : ((u * v ^ 7) ^ ((fieldPrime - 1) / 4)) ^ 2 = 1 := by
    have hexponent : 2 * ((fieldPrime - 1) / 4 * 2) = fieldPrime - 1 := by decide
    rw [hbase, ← pow_mul, ← pow_mul, hexponent]
    exact ZMod.pow_card_sub_one_eq_one hne
  rcases sq_eq_one_iff.1 hpower with hone | hminus
  · left
    rw [hone, mul_one]
  · right
    rw [hminus, mul_neg_one]

/-- The solution of `v x² = u` that is made of the candidate: the candidate itself, or that
times the root of -1. -/
def solution (u v : Residue) : Residue :=
  if v * rootOf u v ^ 2 = u then rootOf u v else rootOf u v * rootMinusOne

/-- Limbs for the solution, selected by the outcome `t` of the first test. -/
theorem denotes_solution {r : FieldElement} {t : Bool} (hr : r.Denotes (rootOf u v))
    (ht : t = true ↔ v * rootOf u v ^ 2 = u) :
    (select r (r * sqrtMinusOne) (!t)).Denotes (solution u v) := by
  rw [solution]
  cases t
  · rw [if_neg fun h => Bool.false_ne_true (ht.2 h)]
    exact hr.mul denotes_sqrtMinusOne
  · rw [if_pos (ht.1 rfl)]
    exact hr

/-- The candidate passes one of the two tests exactly when the solution made of it is
one. -/
theorem solution_iff :
    v * rootOf u v ^ 2 = u ∨ v * rootOf u v ^ 2 = -u ↔ v * solution u v ^ 2 = u := by
  constructor
  · rintro h
    rw [solution]
    split
    · assumption
    · rcases h with h | h
      · contradiction
      · linear_combination v * rootOf u v ^ 2 * rootMinusOne_sq - h
  · exact rootOf_complete

/-- **The equation has a solution** exactly when the one made of the candidate is one. -/
theorem exists_solution_iff : (∃ x, v * x ^ 2 = u) ↔ v * solution u v ^ 2 = u := by
  constructor
  · rintro ⟨x, hx⟩
    exact solution_iff.1 (rootOf_complete hx)
  · intro h
    exact ⟨_, h⟩

/-! ### The sign -/

theorem val_neg_mod_two (hx : x ≠ 0) : (-x).val % 2 = 1 - x.val % 2 := by
  have hlt := x.val_lt
  have hsum := ZMod.neg_val x
  rw [if_neg hx] at hsum
  rw [hsum]
  simp only [fieldPrime_eq] at hlt ⊢
  omega

/-- The negative of an element where its sign is not the wanted one has the wanted one, if
it is not zero. -/
theorem val_negateIf_mod_two (hx : x ≠ 0) (s : Bool) :
    (bif decide (x.val % 2 = 1) ^^ s then -x else x).val % 2 = s.toNat := by
  have hneg := val_neg_mod_two hx
  rcases Nat.mod_two_eq_zero_or_one x.val with h | h
  · cases s
    · simp [h]
    · simp [h, hneg]
  · cases s
    · simp [h, hneg]
    · simp [h]

/-- Two solutions of the same sign are the same. -/
theorem eq_of_sq_eq (h : x ^ 2 = y ^ 2) (hsign : x.val % 2 = y.val % 2) : x = y := by
  rcases sq_eq_sq_iff_eq_or_eq_neg.1 h with heq | hneg
  · exact heq
  rcases eq_or_ne y 0 with rfl | hy
  · rw [hneg, neg_zero]
  · rw [hneg, val_neg_mod_two hy] at hsign
    omega

end Roots

section Search

open FieldElement

variable {a : FieldElement} {u v y : Residue}

/-! ### The `y` in the bytes -/

/-- The residue in the low 255 bits. -/
def decodedY (b : Bytes32) : Residue :=
  (b.value % 2 ^ 255 : ℕ)

theorem value_setTopBit_false (b : Bytes32) : (b.setTopBit false).value = b.value % 2 ^ 255 :=
  Bytes32.value_setTopBit b false

/-- The limbs that decoding reads. -/
theorem denotes_decodedY (b : Bytes32) : (ofBytes (b.setTopBit false)).Denotes (decodedY b) := by
  have h := denotes_ofBytes (b.setTopBit false)
  rwa [value_setTopBit_false, Nat.mod_mod] at h

/-! ### The course of the search -/

/-- **Decoding is the search**, with a test of `y` before it and the sign of `x` after it. -/
theorem decompress_eq (b : Bytes32) : (Encoding.mk b).decompress =
    let y := ofBytes (b.setTopBit false)
    let s := RootSearch.run y
    if y.toBytes == b.setTopBit false && (s.isRoot || s.isFlippedRoot) &&
        !(s.x.isZero && b.topBit) then
      some ⟨s.x.negateIf (s.x.isNegative ^^ b.topBit), y⟩
    else
      none := rfl

/-- **What a search for a solution of `v x² = u` comes to**, in residues. -/
structure RootSearch.Solves (s : RootSearch) (u v : Residue) : Prop where
  numerator : s.numerator.Denotes u
  denominator : s.denominator.Denotes v
  candidate : s.candidate.Denotes (rootOf u v)
  isRoot : s.isRoot = true ↔ v * rootOf u v ^ 2 = u
  isFlippedRoot : s.isFlippedRoot = true ↔ v * rootOf u v ^ 2 = -u
  x : s.x.Denotes (solution u v)

/-- The search for the `x` that belongs to a given `y`. -/
theorem RootSearch.solves_run (hy : a.Denotes y) :
    (run a).Solves (y ^ 2 - 1) (y ^ 2 * coefficient + 1) := by
  -- The numerator and the denominator of `x²`, and the candidate for `x`.
  have hu := hy.square.sub denotes_one
  have hv := (hy.square.mul denotes_edwardsD).add denotes_one
  have hr := denotes_rootCandidate hu hv
  have hvrr := hv.mul hr.square
  -- The outcomes of the tests, on residues.
  have hroot := (hvrr.sub hu).isZero_iff
  have hflipped := (hvrr.add hu).isZero_iff
  rw [sub_eq_zero] at hroot
  rw [add_eq_zero_iff_eq_neg] at hflipped
  exact ⟨hu, hv, hr, hroot, hflipped, denotes_solution hr hroot⟩

/-! ### The tests -/

/-- **The denominator of the equation is not zero**, because `-1/d` is not a square. -/
theorem denominator_ne_zero (y : Residue) : y ^ 2 * coefficient + 1 ≠ 0 := by
  intro h
  have hy : y ≠ 0 := by
    rintro rfl
    rw [zero_pow two_ne_zero, zero_mul, zero_add] at h
    exact one_ne_zero h
  refine not_isSquare_coefficient ⟨rootMinusOne / y, ?_⟩
  rw [div_mul_div_comm, eq_div_iff (mul_ne_zero hy hy)]
  linear_combination h - rootMinusOne_sq

/-- The equation is solved by the roots of the quotient. -/
theorem isSquare_div_iff (hv : v ≠ 0) : IsSquare (u / v) ↔ ∃ x, v * x ^ 2 = u := by
  constructor
  · rintro ⟨x, hx⟩
    refine ⟨x, ?_⟩
    rw [sq, ← hx, mul_div_cancel₀ u hv]
  · rintro ⟨x, hx⟩
    refine ⟨x, ?_⟩
    rw [← hx, mul_div_cancel_left₀ _ hv, sq]

/-- Both tests succeed for `u = 0` alone, for which the candidate is zero. -/
theorem rootOf_tests_iff :
    v * rootOf u v ^ 2 = u ∧ v * rootOf u v ^ 2 = -u ↔ u = 0 := by
  constructor
  · rintro ⟨hroot, hflipped⟩
    have htwo : 2 * u = 0 := by linear_combination hflipped - hroot
    exact (mul_eq_zero.1 htwo).resolve_left residue_two_ne_zero
  · rintro rfl
    have hzero : rootOf 0 v = 0 := by rw [rootOf, mul_zero]
    rw [hzero, zero_pow two_ne_zero, mul_zero, neg_zero]
    exact ⟨rfl, rfl⟩

namespace RootSearch.Solves

variable {s : RootSearch}

/-- One of the tests succeeds exactly if the quotient is a square. -/
theorem found_iff (h : s.Solves u v) (hv : v ≠ 0) :
    s.isRoot = true ∨ s.isFlippedRoot = true ↔ IsSquare (u / v) := by
  rw [h.isRoot, h.isFlippedRoot, solution_iff, ← exists_solution_iff, isSquare_div_iff hv]

/-- Both tests succeed exactly if the numerator is zero. -/
theorem both_iff (h : s.Solves u v) : s.isRoot = true ∧ s.isFlippedRoot = true ↔ u = 0 := by
  rw [h.isRoot, h.isFlippedRoot, rootOf_tests_iff]

/-- One of the tests succeeds exactly if the `x` at the end is a solution. -/
theorem found_iff_solution (h : s.Solves u v) :
    s.isRoot = true ∨ s.isFlippedRoot = true ↔ v * s.x.residue ^ 2 = u := by
  rw [h.isRoot, h.isFlippedRoot, solution_iff, h.x.residue]

end RootSearch.Solves

/-- **The search for `x`**, as decoding makes it (`Edwards25519.decompress_eq`). For every string of
32 bytes, and the `y` in its low 255 bits, it computes `u = y² - 1`, `v = d y² + 1`, which is not
zero, and the candidate `u v³ (u v⁷)^((p - 5)/8)`. One of the two tests succeeds exactly if `u/v` is
a square, and both exactly if `u` is zero; and the `x` at the end is a solution of `v x² = u`
exactly if one of them succeeds. -/
theorem rootSearch_spec (b : Bytes32) :
    let y := decodedY b
    let s := RootSearch.run (ofBytes (b.setTopBit false))
    let u := s.numerator.residue
    let v := s.denominator.residue
    (u = y ^ 2 - 1 ∧ v = coefficient * y ^ 2 + 1 ∧ v ≠ 0 ∧
        s.candidate.residue = u * v ^ 3 * (u * v ^ 7) ^ ((fieldPrime - 5) / 8)) ∧
      (s.isRoot = true ∨ s.isFlippedRoot = true ↔ IsSquare (u / v)) ∧
      (s.isRoot = true ∧ s.isFlippedRoot = true ↔ u = 0) ∧
      (s.isRoot = true ∨ s.isFlippedRoot = true ↔ v * s.x.residue ^ 2 = u) := by
  intro y s u v
  have hs := RootSearch.solves_run (denotes_decodedY b)
  have hu : u = y ^ 2 - 1 := hs.numerator.residue
  have hv : v = y ^ 2 * coefficient + 1 := hs.denominator.residue
  have hne : v ≠ 0 := by
    rw [hv]
    exact denominator_ne_zero y
  rw [← hu, ← hv] at hs
  refine ⟨⟨hu, ?_, hne, ?_⟩, hs.found_iff hne, hs.both_iff, hs.found_iff_solution⟩
  · rw [hv, mul_comm]
  · rw [hs.candidate.residue, rootOf]
    ring

end Search

section Decoding

open FieldElement

variable {b c : Bytes32} {x y : Residue} {P Q : Point}

/-! ### The equation for `x` -/

/-- The equation of the curve, solved for `x²`. -/
theorem equation_iff :
    (y ^ 2 * coefficient + 1) * x ^ 2 = y ^ 2 - 1 ↔
      -x ^ 2 + y ^ 2 = 1 + coefficient * x ^ 2 * y ^ 2 := by
  constructor
  · intro h
    linear_combination -h
  · intro h
    linear_combination -h

/-- Points with the same `y` have the same `x` up to the sign. -/
theorem CurvePoint.x_sq_eq (h : P.y = Q.y) : P.x ^ 2 = Q.x ^ 2 := by
  have hP := equation_iff.2 P.equation
  have hQ := equation_iff.2 Q.equation
  rw [← h, ← hP] at hQ
  exact (mul_left_cancel₀ (denominator_ne_zero P.y) hQ).symm

/-! ### Encoded points -/

/-- **The bytes encode the point**: they hold the least number of `y`, and the parity of
that of `x`. -/
structure Encodes (b : Bytes32) (P : Point) : Prop where
  y : P.y.val = b.value % 2 ^ 255
  sign : P.x.val % 2 = b.value / 2 ^ 255

/-- A string encodes at most one point. -/
theorem Encodes.point_unique (hP : Encodes b P) (hQ : Encodes b Q) : P = Q := by
  have hy : P.y = Q.y := ZMod.val_injective _ (hP.y.trans hQ.y.symm)
  exact CurvePoint.ext (eq_of_sq_eq (CurvePoint.x_sq_eq hy) (hP.sign.trans hQ.sign.symm)) hy

/-- A point is encoded by at most one string. -/
theorem Encodes.bytes_unique (hb : Encodes b P) (hc : Encodes c P) : b = c := by
  have hlow := hb.y.symm.trans hc.y
  have hhigh := hb.sign.symm.trans hc.sign
  rw [← Bytes32.value_inj]
  omega

/-- Bit 255 as a number. -/
theorem toNat_topBit (b : Bytes32) : b.topBit.toNat = b.value / 2 ^ 255 := by
  have hlt := b.value_lt
  rw [Bytes32.topBit_eq]
  rcases Nat.lt_or_ge b.value (2 ^ 255) with hlow | hhigh
  · rw [decide_eq_false (by omega)]
    exact (Nat.div_eq_of_lt hlow).symm
  · rw [decide_eq_true hhigh, Bool.toNat_true]
    omega

/-! ### Encoding -/

/-- The sign is set in bit 255, which the least number for `y` leaves free. -/
theorem Affine.compress_eq (A : Affine) :
    A.compress = ⟨A.y.toBytes.setTopBit A.x.isNegative⟩ := by
  have hfree : A.y.toBytes.value < 2 ^ 255 := A.y.value_toBytes_lt.trans (by decide)
  exact congrArg Encoding.mk (Bytes32.setLast_or_eq_setTopBit hfree _)

/-- **The bytes computed for a point encode it.** -/
theorem Affine.Denotes.encodes_compress {A : Affine} (hA : A.Denotes P) :
    Encodes A.compress.bytes P := by
  have hlt : P.y.val < 2 ^ 255 := P.y.val_lt.trans (by decide)
  have hvalue : A.compress.bytes.value = P.y.val + 2 ^ 255 * (P.x.val % 2) := by
    rw [compress_eq, Bytes32.value_setTopBit, hA.y.value_toBytes, hA.x.isNegative_eq,
      Nat.mod_eq_of_lt hlt]
    rcases Nat.mod_two_eq_zero_or_one P.x.val with h | h
    · simp [h]
    · simp [h]
  refine ⟨?_, ?_⟩
  · omega
  · omega

/-! ### Decoding -/

/-- The `x` that decoding finds for the `y` in the low 255 bits, before the sign is seen to. -/
def decodedX (b : Bytes32) : Residue :=
  solution (decodedY b ^ 2 - 1) (decodedY b ^ 2 * coefficient + 1)

/-- The conditions under which decoding succeeds. -/
structure Decodable (b : Bytes32) : Prop where
  canonical : b.value % 2 ^ 255 < fieldPrime
  equation : (decodedY b ^ 2 * coefficient + 1) * decodedX b ^ 2 = decodedY b ^ 2 - 1
  sign : ¬(decodedX b = 0 ∧ b.topBit = true)

/-- The tests that decoding makes, joined as it joins them, are the conditions. -/
theorem decodable_iff {canonical root flipped zero : Bool}
    (hcanonical : canonical = true ↔ b.value % 2 ^ 255 < fieldPrime)
    (hroot : root = true ↔ (decodedY b ^ 2 * coefficient + 1) *
      rootOf (decodedY b ^ 2 - 1) (decodedY b ^ 2 * coefficient + 1) ^ 2 = decodedY b ^ 2 - 1)
    (hflipped : flipped = true ↔ (decodedY b ^ 2 * coefficient + 1) *
      rootOf (decodedY b ^ 2 - 1) (decodedY b ^ 2 * coefficient + 1) ^ 2 = -(decodedY b ^ 2 - 1))
    (hzero : zero = true ↔ decodedX b = 0) :
    (canonical && (root || flipped) && !(zero && b.topBit)) = true ↔ Decodable b := by
  rw [Bool.and_eq_true, Bool.and_eq_true, Bool.or_eq_true, Bool.not_eq_true', ← Bool.not_eq_true,
    Bool.and_eq_true, hcanonical, hroot, hflipped, hzero, solution_iff]
  constructor
  · rintro ⟨⟨hlt, hequation⟩, hsign⟩
    exact ⟨hlt, hequation, hsign⟩
  · intro h
    exact ⟨⟨h.canonical, h.equation⟩, h.sign⟩

/-- **The course of decoding**: limbs are found for `y` and for an `x`, and if the
conditions hold, the sign of that `x` is corrected. -/
theorem decompress_cases (b : Bytes32) : ∃ r s : FieldElement,
    r.Denotes (decodedX b) ∧ s.Denotes (decodedY b) ∧
      (Decodable b ∧
        (Encoding.mk b).decompress = some ⟨r.negateIf (r.isNegative ^^ b.topBit), s⟩ ∨
      ¬Decodable b ∧ (Encoding.mk b).decompress = none) := by
  -- Reading 255 bits and writing the least number gives the same bytes only below `p`.
  have hcanonical : ((ofBytes (b.setTopBit false)).toBytes == b.setTopBit false) = true ↔
      b.value % 2 ^ 255 < fieldPrime := by
    rw [beq_iff_eq, toBytes_ofBytes_eq_iff, value_setTopBit_false]
  have hs := RootSearch.solves_run (denotes_decodedY b)
  have hconditions := decodable_iff hcanonical hs.isRoot hs.isFlippedRoot hs.x.isZero_iff
  refine ⟨_, _, hs.x, denotes_decodedY b, ?_⟩
  rw [decompress_eq]
  by_cases hdec : Decodable b
  · exact .inl ⟨hdec, if_pos (hconditions.2 hdec)⟩
  · exact .inr ⟨hdec, if_neg (mt hconditions.1 hdec)⟩

/-- The sign that is corrected agrees with bit 255 afterwards, also if `x` is zero. -/
theorem Decodable.val_mod_two (h : Decodable b) :
    (bif decide ((decodedX b).val % 2 = 1) ^^ b.topBit then -decodedX b else decodedX b).val % 2 =
      b.topBit.toNat := by
  rcases eq_or_ne (decodedX b) 0 with hzero | hne
  · have hbit : b.topBit = false := by
      rw [← Bool.not_eq_true]
      exact fun hbit => h.sign ⟨hzero, hbit⟩
    rw [hzero, neg_zero, Bool.cond_self, hbit, ZMod.val_zero]
    rfl
  · exact val_negateIf_mod_two hne b.topBit

/-- **A pair computed from bytes** is the point that they encode. -/
theorem decompress_sound {A : Affine} (h : (Encoding.mk b).decompress = some A) :
    ∃ P, A.Denotes P ∧ Encodes b P := by
  obtain ⟨r, s, hr, hs, ⟨hdec, heq⟩ | ⟨-, heq⟩⟩ := decompress_cases b
  · rw [heq, Option.some_inj] at h
    subst h
    have hx := hr.negateIf (r.isNegative ^^ b.topBit)
    have hsq : (bif r.isNegative ^^ b.topBit then -decodedX b else decodedX b) ^ 2 =
        decodedX b ^ 2 := by
      cases r.isNegative ^^ b.topBit
      · rw [cond_false]
      · rw [cond_true, neg_sq]
    have hequation := hdec.equation
    rw [← hsq, equation_iff] at hequation
    refine ⟨⟨_, _, hequation⟩, ⟨hx, hs⟩, ?_, ?_⟩
    · change (decodedY b).val = _
      rw [decodedY, ZMod.val_natCast, Nat.mod_eq_of_lt hdec.canonical]
    · change ZMod.val (bif r.isNegative ^^ b.topBit then -decodedX b else decodedX b) % 2 = _
      rw [← toNat_topBit, hr.isNegative_eq]
      exact hdec.val_mod_two
  · rw [heq] at h
    contradiction

/-- Bytes that encode a point pass the tests. -/
theorem Encodes.decodable (h : Encodes b P) : Decodable b := by
  have hy : decodedY b = P.y := by
    rw [decodedY, ← h.y, ZMod.natCast_zmod_val]
  have hx : (decodedY b ^ 2 * coefficient + 1) * P.x ^ 2 = decodedY b ^ 2 - 1 := by
    rw [hy]
    exact equation_iff.2 P.equation
  have hequation : (decodedY b ^ 2 * coefficient + 1) * decodedX b ^ 2 = decodedY b ^ 2 - 1 :=
    exists_solution_iff.1 ⟨_, hx⟩
  refine ⟨?_, hequation, ?_⟩
  · rw [← h.y]
    exact P.y.val_lt
  · rintro ⟨hzero, hbit⟩
    -- With the `x` that is found that of the point is zero too, so that bit 255 is not set.
    rw [← hequation, hzero] at hx
    have hPx := mul_left_cancel₀ (denominator_ne_zero (decodedY b)) hx
    rw [zero_pow two_ne_zero, sq_eq_zero_iff] at hPx
    have hsign := h.sign
    rw [← toNat_topBit, hbit, hPx, ZMod.val_zero] at hsign
    exact absurd hsign (by decide)

/-- **Bytes that encode a point** are decoded. -/
theorem decompress_complete (h : Encodes b P) :
    ∃ A, (Encoding.mk b).decompress = some A ∧ A.Denotes P := by
  obtain ⟨r, s, -, -, ⟨-, heq⟩ | ⟨hnot, -⟩⟩ := decompress_cases b
  · -- What is computed is a point that the bytes encode, and there is only one.
    obtain ⟨Q, hA, hQ⟩ := decompress_sound heq
    rw [h.point_unique hQ]
    exact ⟨_, heq, hA⟩
  · exact absurd h.decodable hnot

end Decoding

end Edwards25519
