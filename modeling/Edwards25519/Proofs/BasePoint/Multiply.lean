import Edwards25519.Proofs.BasePoint.Table
import Edwards25519.Proofs.Encoding.Strict
import Mathlib.GroupTheory.OrderOfElement
import Mathlib.Tactic.Module

/-!
# Multiplication of the base point

The multiplication with the table and the one bit by bit end at the same point, the base
point times the number of the scalar, and so they agree
(`Edwards25519.mulBase_eq_doubleAndAdd`).

* With the table, a row and a digit in its place contribute the digit times the point of
  that row (`Edwards25519.LookupTable.Denotes.selectM_exact`), and a whole pass contributes the
  number of its digits to base 256 (`Edwards25519.Extended.Denotes.addDigitsM_exact`). The passes
  over the odd and the even places, with a multiplication by 16 between them, make up the
  number of all 64 digits, and the entry added last makes up for the carry. Whatever the scalar
  is, no digit overflows and none is left that the table could not answer
  (`Edwards25519.mulBase_digits_in_range`).
* Bit by bit, the multiple reached is the number of the bits read so far
  (`Edwards25519.Extended.Denotes.doubleAndAdd`).

The base point has the order `l = 2^252 + 27742317777372353535851937790883648493`
(`Edwards25519.addOrderOf_basePoint`). It is a prime by Lucas's test, like the modulus of the
field, and the multiple of the base point by `l` is the neutral element because the
multiplication with the table says so. So scalars count modulo `l`, although they are never
reduced: multiples of the base point are added by adding the scalars modulo `l`
(`Edwards25519.mulBase_add_of_modEq`), and the encoded multiple determines the scalar modulo `l`
(`Edwards25519.encodePoint_mulBase_eq_iff`).
-/

namespace Edwards25519

section Multiplication

variable {P Q : Point} {E : Extended}

/-! ### Passes over the rows -/

/-- **A pass over the rows** answers every digit in the range, and adds the number of the digits to
base 256. -/
theorem Extended.Denotes.addDigitsM_exact {last : Precomputed} {rows : List LookupTable}
    {digits : List Int8} (hrows : RowsDenote last P rows) (hlength : digits.length ≤ rows.length)
    (hdigits : ∀ d ∈ digits, -8 ≤ d.toInt ∧ d.toInt < 8) (hE : E.Denotes Q) :
    Exact (E.addDigitsM rows digits) fun F =>
      F.Denotes (Q + Recoding.placesValue digits • P) := by
  induction digits generalizing rows P E Q with
  | nil =>
    rw [Recoding.placesValue, zero_zsmul, add_zero]
    simp only [addDigitsM, List.zip_nil_right]
    exact Exact.pure hE
  | cons d ds ih =>
    cases rows with
    | nil => exact absurd hlength (by simp)
    | cons t ts =>
      obtain ⟨ht, hts⟩ := hrows
      obtain ⟨hlow, hhigh⟩ := hdigits d List.mem_cons_self
      have hstep : Exact (do return (E.addPrecomputed (← t.selectM d)).toExtended) fun F =>
          F.Denotes (Q + d.toInt • P) :=
        (ht.selectM_exact ⟨hlow, hhigh.le⟩).bind fun e he =>
          Exact.pure (hE.addPrecomputed he).toExtended
      refine hstep.bind fun F hF => ?_
      -- The rows that are left start from 256 times the point.
      have hsum : Q + d.toInt • P + Recoding.placesValue ds • (256 • P) =
          Q + Recoding.placesValue (d :: ds) • P := by
        rw [Recoding.placesValue, add_zsmul, add_assoc, ← natCast_zsmul P 256, smul_smul, mul_comm]
        rfl
      rw [← hsum]
      exact ih hts (Nat.le_of_succ_le_succ hlength)
        (fun x hx => hdigits x (List.mem_cons_of_mem d hx)) hF

theorem Extended.Denotes.mul16 (hE : E.Denotes P) : E.mul16.Denotes (16 • P) :=
  hE.doubleChain 3

/-- The entry for the carry, which weighs `2^256`. -/
theorem BasePoint.selectCarryM_exact {c : Int8} (hc : c = 0 ∨ c = 1) :
    Exact (selectCarryM c) fun e => e.Denotes (c.toInt • (256 ^ 32 : ℕ) • basePoint) := by
  refine Exact.outcome (decide_eq_true hc) ?_
  rcases hc with rfl | rfl
  · have hzero : (0 : Int8).toInt = 0 := rfl
    rw [hzero, zero_zsmul]
    exact Precomputed.denotes_identity
  · have hone : (1 : Int8).toInt = 1 := rfl
    rw [hone, one_zsmul]
    exact rowsDenote.last_denotes

/-- The digits of the two passes and the carry make up the number of a recoding. -/
theorem Recoding.value_eq_passes {r : Recoding} (hlength : r.digits.length = 64) :
    r.value = 16 * placesValue (odds r.digits) + placesValue (evens r.digits) +
      256 ^ 32 * r.carry.toInt := by
  have hpasses := placesValue_evens_odds r.digits
  rw [value, toList, digitsValue_append, hlength]
  simp only [digitsValue]
  omega

/-- **Multiplication with the table** meets every expectation on its way, and gives the base point
times the number of the scalar. -/
theorem mulBaseM_exact (s : Scalar) :
    Exact (mulBaseM s) fun E => E.Denotes (s.value • basePoint) := by
  have hrows : BasePoint.rows.length = 32 := rfl
  refine (recodeM_exact s.nibbles s.nibbles_mem 0 (by decide)).bind fun r hr => ?_
  have hlength : r.digits.length = 64 := hr.length.trans s.length_nibbles
  -- The odd places, 16 times what they give with the even places added, and the carry.
  refine (Extended.denotes_identity.addDigitsM_exact rowsDenote
    (by rw [Recoding.length_odds, hlength, hrows])
    fun d hd => hr.digit_mem d (Recoding.odds_subset _ hd)).bind fun odd hodd => ?_
  refine (hodd.mul16.addDigitsM_exact rowsDenote
    (by rw [Recoding.length_evens, hlength, hrows])
    fun d hd => hr.digit_mem d (Recoding.evens_subset _ hd)).bind fun all hall => ?_
  refine (BasePoint.selectCarryM_exact hr.carry_eq).bind fun e he => Exact.pure ?_
  have hvalue : r.value = s.value := by
    rw [hr.value, s.digitsValue_nibbles]
    exact zero_add _
  have hpoint : 16 • (0 + Recoding.placesValue (Recoding.odds r.digits) • basePoint) +
      Recoding.placesValue (Recoding.evens r.digits) • basePoint +
      r.carry.toInt • (256 ^ 32 : ℕ) • basePoint = s.value • basePoint := by
    rw [← natCast_zsmul basePoint s.value, ← hvalue, Recoding.value_eq_passes hlength]
    module
  rw [← hpoint]
  exact (hall.addPrecomputed he).toExtended

theorem denotes_mulBase (s : Scalar) : (mulBase s).Denotes (s.value • basePoint) :=
  (mulBaseM_exact s).run

/-- **The digits that multiplication uses.** For every string of 32 bytes, recoding overflows no
digit. It gives 64 digits from -8 to 7 and a carry of 0 or 1, and the sum of all 65 with the powers
of 16 as weights is the number of the string. So the multiplication with every digit and the carry
checked as they are used comes to an end, with the result of the one that runs. -/
theorem mulBase_digits_in_range (b : Bytes32) :
    let s := Scalar.ofBytes b
    let r := s.recode
    recodeM 0 s.nibbles = some r ∧ r.digits.length = 64 ∧
      (∀ d ∈ r.digits, -8 ≤ d.toInt ∧ d.toInt < 8) ∧ (r.carry = 0 ∨ r.carry = 1) ∧
      ∑ i : Fin r.toList.length, r.toList[i].toInt * 16 ^ (i : ℕ) = b.value ∧
      mulBaseM s = some (mulBase s) := by
  intro s r
  obtain ⟨hlength, hdigits, hcarry, hvalue⟩ := s.recode_spec
  refine ⟨?_, hlength, hdigits, hcarry, ?_, (mulBaseM_exact s).eq_some⟩
  · exact (recodeM_exact s.nibbles s.nibbles_mem 0 (by decide)).eq_some
  · rw [← Recoding.digitsValue_eq_sum, ← Scalar.value_ofBytes]
    exact hvalue

/-! ### Bit by bit -/

/-- **Double and add** reaches the multiple by the number of the bits. -/
theorem Extended.Denotes.doubleAndAdd (hE : E.Denotes P) (bits : List Bool) :
    (E.doubleAndAdd bits).Denotes (bitsValue 0 bits • P) := by
  -- What has been reached is the multiple by the number of the bits read so far.
  have hrun : ∀ (A : Extended) (n : ℕ), A.Denotes (n • P) →
      (bits.foldl (fun acc b => bif b then acc.double + E else acc.double) A).Denotes
        (bitsValue n bits • P) := by
    induction bits with
    | nil => exact fun A n hA => hA
    | cons b bits ih =>
      intro A n hA
      have hdouble : A.double.Denotes ((2 * n) • P) := by
        rw [mul_nsmul', two_nsmul]
        exact hA.double
      cases b with
      | false => exact ih _ _ hdouble
      | true => exact ih _ _ (hdouble.add hE)
  exact hrun identity 0 (by rw [zero_nsmul]; exact denotes_identity)

/-! ### Agreement -/

/-- **The two multiplications agree.** For every string of 32 bytes, the multiplication with
the table is equal to doubling and adding the base point along the 256 bits of the string,
the most significant one first; both are the base point times the number of the string. -/
theorem mulBase_eq_doubleAndAdd (b : Bytes32) :
    (mulBase (Scalar.ofBytes b) ==
        Extended.generator.doubleAndAdd ((List.range 256).reverse.map b.value.testBit)) = true ∧
      (mulBase (Scalar.ofBytes b)).Denotes (b.value • basePoint) := by
  have htable := denotes_mulBase (Scalar.ofBytes b)
  rw [Scalar.value_ofBytes] at htable
  have hbits := Extended.denotes_generator.doubleAndAdd
    ((List.range 256).reverse.map b.value.testBit)
  rw [bitsValue_testBit, mul_zero, zero_add, Nat.mod_eq_of_lt b.value_lt] at hbits
  exact ⟨(htable.beq_iff hbits).2 rfl, htable⟩

end Multiplication

/-! ### The order of the base point -/

/-- The order of the base point. -/
def groupOrder : ℕ :=
  2 ^ 252 + 27742317777372353535851937790883648493

/-! ### A prime -/

/-- The chain that ends in the order. -/
def groupOrderChain : List LucasCandidate :=
  [⟨3044861653679985063343, 5, [2, 3, 11, 30703, 82163, 132667, 137849]⟩,
    ⟨198211423230930754013084525763697, 5,
      [2, 2, 2, 2, 3, 23, 58964693, 3044861653679985063343]⟩,
    ⟨292386187, 2, [2, 3, 3, 3, 3, 307, 5879]⟩,
    ⟨213441916511, 13, [2, 5, 73, 292386187]⟩,
    ⟨1257559732178653, 2, [2, 2, 3, 7, 23, 531581, 1224481]⟩,
    ⟨4434155615661930479, 17, [2, 41, 43, 1257559732178653]⟩,
    ⟨172054593956031949258510691, 2, [2, 5, 1361, 2851, 4434155615661930479]⟩,
    ⟨19757330305831588566944191468367130476339, 2,
      [2, 269, 213441916511, 172054593956031949258510691]⟩,
    ⟨276602624281642239937218680557139826668747, 2,
      [2, 7, 19757330305831588566944191468367130476339]⟩,
    ⟨groupOrder, 2,
      [2, 2, 3, 11, 198211423230930754013084525763697,
        276602624281642239937218680557139826668747]⟩]

/-- **The order is a prime.** -/
theorem prime_groupOrder : groupOrder.Prime := by
  have hchain : passesChain smallPrimes groupOrderChain = true := by decide +kernel
  exact prime_of_passesChain prime_of_mem_smallPrimes hchain (by decide)

/-! ### The order -/

/-- The order as a scalar. -/
def orderScalar : Scalar :=
  .ofBytes (.ofWords 0x5812631a5cf5d3ed 0x14def9dea2f79cd6 0 0x1000000000000000)

/-- The multiplication with the table, evaluated at the order. -/
theorem mulBase_orderScalar : (mulBase orderScalar == Extended.identity) = true := by
  decide +kernel

theorem value_orderScalar : orderScalar.value = groupOrder := by
  rw [orderScalar, Scalar.value_ofBytes, Bytes32.value_ofWords]
  rfl

theorem groupOrder_nsmul_basePoint : groupOrder • basePoint = 0 := by
  rw [← value_orderScalar]
  exact ((denotes_mulBase orderScalar).beq_iff Extended.denotes_identity).1 mulBase_orderScalar

theorem basePoint_ne_zero : basePoint ≠ 0 := by
  intro h
  have hx : Affine.generator.x.residue = 0 := congrArg CurvePoint.x h
  rw [Affine.generator, (FieldElement.denotes_ofNat (by norm_num)).residue] at hx
  exact natCast_ne_zero (by decide) hx

/-- **The order of the base point.** -/
theorem addOrderOf_basePoint : addOrderOf basePoint = groupOrder :=
  have : Fact groupOrder.Prime := ⟨prime_groupOrder⟩
  addOrderOf_eq_prime groupOrder_nsmul_basePoint basePoint_ne_zero

/-- Multiples of the base point are those of the remainders modulo its order. -/
theorem nsmul_basePoint_eq_iff {m n : ℕ} :
    m • basePoint = n • basePoint ↔ m ≡ n [MOD groupOrder] := by
  rw [nsmul_eq_nsmul_iff_modEq, addOrderOf_basePoint]

/-! ### Scalars modulo the order -/

/-- **Multiplication of the base point is additive modulo the order**: if `c` is `a + b` modulo
`l`, then the multiple by `c` is the sum of the multiples by `a` and by `b`. Any other scalar
with the same remainder as `c` has the same multiple. -/
theorem mulBase_add_of_modEq (a b c : Scalar) (h : c.value ≡ a.value + b.value [MOD groupOrder]) :
    (mulBase c == mulBase a + mulBase b) = true ∧
      ∀ c' : Scalar, c'.value ≡ c.value [MOD groupOrder] → (mulBase c' == mulBase c) = true := by
  refine ⟨?_, fun c' hc' => ?_⟩
  · have hsum := (denotes_mulBase a).add (denotes_mulBase b)
    rw [← add_nsmul] at hsum
    exact ((denotes_mulBase c).beq_iff hsum).2 (nsmul_basePoint_eq_iff.2 h)
  · exact ((denotes_mulBase c').beq_iff (denotes_mulBase c)).2 (nsmul_basePoint_eq_iff.2 hc')

/-- The largest scalar, which is not reduced, added to itself. The sum is that of its reduced
form `c`, and of `c' = c + l` as well. -/
theorem mulBase_add_largest :
    let a : Scalar := .ofBytes (Vector.replicate 32 0xff)
    let c : Scalar := .ofBytes (.ofWords 0x55c5ffcebe3b564b 0x78ffbe0a4404020b
      0xfffffffffffffffd 0x0fffffffffffffff)
    let c' : Scalar := .ofBytes (.ofWords 0xadd862e91b312a38 0x8ddeb7e8e6fb9ee1
      0xfffffffffffffffd 0x1fffffffffffffff)
    c.value ≡ a.value + a.value [MOD groupOrder] ∧ c'.value ≡ c.value [MOD groupOrder] ∧
      (mulBase c == mulBase a + mulBase a) = true ∧ (mulBase c' == mulBase c) = true := by
  intro a c c'
  have hsum : c.value ≡ a.value + a.value [MOD groupOrder] := by decide +kernel
  have hc' : c'.value ≡ c.value [MOD groupOrder] := by decide +kernel
  obtain ⟨hadd, hcongr⟩ := mulBase_add_of_modEq a a c hsum
  exact ⟨hsum, hc', hadd, hcongr c' hc'⟩

/-- **The encoded multiple determines the scalar modulo the order**: two scalars have the same
one exactly if they leave the same remainder. -/
theorem encodePoint_mulBase_eq_iff (a b : Scalar) :
    encodePoint (mulBase a) = encodePoint (mulBase b) ↔ a.value ≡ b.value [MOD groupOrder] := by
  have ha := (denotes_mulBase a).encodes_encodePoint
  have hb := (denotes_mulBase b).encodes_encodePoint
  rw [← nsmul_basePoint_eq_iff]
  constructor
  · intro h
    rw [h] at ha
    exact ha.point_unique hb
  · intro h
    rw [h] at ha
    exact ha.bytes_unique hb

end Edwards25519
