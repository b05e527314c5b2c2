import Edwards25519.BasePoint.Multiply
import Edwards25519.Proofs.Point.Group
import Edwards25519.Proofs.Scalar

/-!
# The table of multiples

The numbers in the table are what they are said to be: row `i` lists the multiples, from the
first to the eighth, of `256^i` times the base point, and the extra entry is the multiple by
`2^256` (`Edwards25519.rowsDenote`). That is a matter of computation. The multiples are
computed one after the other as fractions, each entry is compared with the fraction it
should be equal to (`Edwards25519.rowsMatch`), and the comparison is evaluated once, for the
whole table.

A table is asked for the multiple by a digit from -8 to 8 without branching on the digit. Two things
have to come out right for that, and neither has anything to do with points.

* **The sign.** A mask, -1 for a negative digit and zero for any other, takes the sign off by an
  addition and an exclusive or, and the addition overflows for no digit but -128
  (`Edwards25519.Digit.magnitudeM_exact`).
* **The scan.** Of the eight entries exactly the one in the wanted place is taken over, and none for
  zero (`Edwards25519.LookupTable.scan_eq_multiple`).

So in any table the answer is the entry for the absolute value of the digit, negated if the digit is
negative (`Edwards25519.LookupTable.select_eq`). What a table should list can be said without the
group: the prepared forms of the first eight multiples of a point, in whatever way these have been
built (`Edwards25519.LookupTable.Lists`). For such a table the entry for a signed digit, brought
back to extended coordinates, is equal to every multiple by that digit
(`Edwards25519.LookupTable.select_eq_multiple`).
-/

namespace Edwards25519

section Rows

open FieldElement

variable {P : Point} {f g : Fraction Residue}

/-! ### The base point -/

/-- The base point of the group. -/
def basePoint : Point where
  x := Affine.generator.x.residue
  y := Affine.generator.y.residue
  equation := by
    rw [← residue_edwardsD]
    decide +kernel

/-- The base point as fractions with denominator one. -/
def baseFraction : Fraction Residue :=
  ⟨Affine.generator.x.residue, Affine.generator.y.residue, 1⟩

theorem baseFraction_represents : baseFraction.Represents basePoint :=
  ⟨one_ne_zero, (mul_one _).symm, (mul_one _).symm⟩

theorem Extended.denotes_generator : generator.Denotes basePoint := by
  have hnat (n : ℕ) : (ofNat n).Denotes (ofNat n).residue :=
    ((limbsBelow_ofNat n).mono (by norm_num)).denotes
  have hx : Affine.generator.x.Denotes basePoint.x := hnat _
  have hy : Affine.generator.y.Denotes basePoint.y := hnat _
  have hT : generator.T.Denotes generator.T.residue := hnat _
  refine ⟨1, one_ne_zero, hx.congr (mul_one _).symm, hy.congr (mul_one _).symm, denotes_one, ?_⟩
  exact hT.congr (by rw [mul_one]; decide +kernel)

/-! ### Comparing entries with fractions -/

/-- The element is of the size that the operations accept, and times `z` it is `x`. -/
def FieldElement.isQuotient (a : FieldElement) (x z : Residue) : Bool :=
  decide (LimbsBelow (2 ^ 53 - 76) a) && decide (a.residue * z = x)

theorem FieldElement.denotes_of_isQuotient {a : FieldElement} {x y z : Residue} (hz : z ≠ 0)
    (h : a.isQuotient x z = true) (hx : x = y * z) : a.Denotes y := by
  rw [isQuotient, Bool.and_eq_true, decide_eq_true_eq, decide_eq_true_eq, hx] at h
  exact ⟨h.1, mul_right_cancel₀ hz h.2⟩

/-- The entry is that of the point with the given fractions. -/
def Precomputed.isPoint (e : Precomputed) (f : Fraction Residue) : Bool :=
  e.yPlusX.isQuotient (f.Y + f.X) f.Z && e.yMinusX.isQuotient (f.Y - f.X) f.Z &&
    e.xy2d.isQuotient (2 * edwardsD.residue * f.X * f.Y) (f.Z ^ 2)

theorem Precomputed.denotes_of_isPoint {e : Precomputed} (hf : f.Represents P)
    (h : e.isPoint f = true) : e.Denotes P := by
  rw [isPoint, Bool.and_eq_true, Bool.and_eq_true] at h
  obtain ⟨⟨hplus, hminus⟩, hproduct⟩ := h
  refine ⟨denotes_of_isQuotient hf.ne_zero hplus ?_, denotes_of_isQuotient hf.ne_zero hminus ?_,
    denotes_of_isQuotient (pow_ne_zero 2 hf.ne_zero) hproduct ?_⟩
  · rw [hf.X, hf.Y]
    ring
  · rw [hf.X, hf.Y]
    ring
  · rw [residue_edwardsD, hf.X, hf.Y]
    ring

/-! ### Rows -/

/-- The entries are the points from `g` on, in steps of `f`. -/
def multiplesMatch (f : Fraction Residue) : Fraction Residue → List Precomputed → Bool
  | _, [] => true
  | g, e :: es => e.isPoint g && multiplesMatch f (g.add edwardsD.residue f) es

theorem denotes_of_multiplesMatch {es : List Precomputed} {k : ℕ} (hf : f.Represents P)
    (hg : g.Represents ((k + 1) • P)) (h : multiplesMatch f g es = true) (i : ℕ)
    (hi : i < es.length) : es[i].Denotes ((k + i + 1) • P) := by
  induction es generalizing g k i with
  | nil => contradiction
  | cons e es ih =>
    rw [multiplesMatch, Bool.and_eq_true] at h
    cases i with
    | zero => exact Precomputed.denotes_of_isPoint hg h.1
    | succ i =>
      have hnext : (g.add edwardsD.residue f).Represents ((k + 1 + 1) • P) := by
        rw [residue_edwardsD, succ_nsmul]
        exact hg.add hf
      have htail := ih hnext h.2 i (Nat.lt_of_succ_lt_succ hi)
      rw [Nat.add_right_comm k 1 i] at htail
      exact htail

/-- A table of the multiples of a point from the first to the eighth. -/
def LookupTable.Denotes (t : LookupTable) (P : Point) : Prop :=
  ∀ (i : ℕ) (hi : i < 8), t.entries[i].Denotes ((i + 1) • P)

/-- Rows for `P`, for `256` times `P` and so on, and after them a single entry. -/
def RowsDenote (last : Precomputed) (P : Point) : List LookupTable → Prop
  | [] => last.Denotes P
  | t :: ts => t.Denotes P ∧ RowsDenote last (256 • P) ts

/-- The comparison of rows and of the entry after them with what they should be. -/
def rowsMatch (last : Precomputed) : Fraction Residue → List LookupTable → Bool
  | f, [] => last.isPoint f
  | f, t :: ts => multiplesMatch f f t.entries.toList &&
      rowsMatch last (f.doubleTimes edwardsD.residue 8) ts

theorem LookupTable.denotes_of_multiplesMatch {t : LookupTable} (hf : f.Represents P)
    (h : multiplesMatch f f t.entries.toList = true) : t.Denotes P := by
  intro i hi
  have hone : f.Represents ((0 + 1) • P) := by
    rw [zero_add, one_nsmul]
    exact hf
  have hentry := Edwards25519.denotes_of_multiplesMatch hf hone h i (by rwa [Vector.length_toList])
  rw [Nat.zero_add, Vector.getElem_toList] at hentry
  exact hentry

theorem rowsDenote_of_rowsMatch {last : Precomputed} {ts : List LookupTable}
    (hf : f.Represents P) (h : rowsMatch last f ts = true) : RowsDenote last P ts := by
  induction ts generalizing f P with
  | nil => exact Precomputed.denotes_of_isPoint hf h
  | cons t ts ih =>
    rw [rowsMatch, Bool.and_eq_true] at h
    refine ⟨LookupTable.denotes_of_multiplesMatch hf h.1, ih ?_ h.2⟩
    rw [residue_edwardsD]
    exact hf.doubleTimes 8

/-- **The table** holds the multiples of the base point. -/
theorem rowsDenote : RowsDenote BasePoint.twoPow256 basePoint BasePoint.rows := by
  refine rowsDenote_of_rowsMatch baseFraction_represents ?_
  -- The comparison of the whole table, evaluated.
  decide +kernel

/-- The entry after the rows is the next multiple in their order. -/
theorem RowsDenote.last_denotes {last : Precomputed} {ts : List LookupTable}
    (h : RowsDenote last P ts) : last.Denotes (256 ^ ts.length • P) := by
  induction ts generalizing P with
  | nil =>
    rw [List.length_nil, pow_zero, one_nsmul]
    exact h
  | cons t ts ih =>
    rw [List.length_cons, pow_succ, mul_nsmul']
    exact ih h.2

end Rows

section Select

variable {P : Point} {t : LookupTable} {x : Int8}

/-! ### Sign and absolute value -/

theorem Digit.toInt_signMask (x : Int8) : (signMask x).toInt = x.toInt / 128 :=
  toInt_shiftRight x rfl

theorem Digit.signMask_of_neg (h : x.toInt < 0) : signMask x = -1 := by
  have hlow := x.le_toInt
  rw [← Int8.toInt_inj, toInt_signMask]
  change x.toInt / 128 = -1
  omega

theorem Digit.signMask_of_nonneg (h : 0 ≤ x.toInt) : signMask x = 0 := by
  have hhigh := x.toInt_lt
  rw [← Int8.toInt_inj, toInt_signMask]
  change x.toInt / 128 = 0
  omega

/-- The lowest bit of the mask is the sign. -/
theorem Digit.signMask_and_one (x : Int8) : (signMask x &&& 1 == 1) = decide (x.toInt < 0) := by
  by_cases h : x.toInt < 0
  · rw [signMask_of_neg h, decide_eq_true h]
    rfl
  · rw [signMask_of_nonneg (Int.not_lt.1 h), decide_eq_false h]
    rfl

theorem Digit.toNat_toUInt8 (h : 0 ≤ x.toInt) : x.toUInt8.toNat = x.toInt.natAbs := by
  rw [Int8.toNat_toUInt8_of_le (Int8.le_iff_toInt_le.2 h)]
  change x.toInt.toNat = _
  omega

/-- **The absolute value** of a digit, for which there is room unless the digit is -128. -/
theorem Digit.magnitudeM_exact (h : -128 < x.toInt) :
    Exact (magnitudeM x) fun k => k.toNat = x.toInt.natAbs := by
  have hmask := toInt_signMask x
  have hhigh := x.toInt_lt
  refine (add_exact (by omega)).bind fun y hy => Exact.pure ?_
  by_cases hneg : x.toInt < 0
  · -- The complement of `x - 1` is `-x`.
    have hcomplement : (y ^^^ signMask x).toInt = -x.toInt := by
      rw [signMask_of_neg hneg, Int8.xor_neg_one, Int8.toInt_not,
        Int.bmod_eq_of_le (by omega) (by omega)]
      omega
    rw [toNat_toUInt8 (by omega), hcomplement, Int.natAbs_neg]
  · have hzero : signMask x = 0 := signMask_of_nonneg (Int.not_lt.1 hneg)
    have hsame : y = x := Int8.toInt_inj.1 (by omega)
    rw [hzero, Int8.xor_zero, hsame]
    exact toNat_toUInt8 (Int.not_lt.1 hneg)

example : (Digit.magnitudeM (-128) : Option UInt8) = none := by decide

/-! ### The scan -/

/-- Entries in the places from `n` on: the one in the place `k` is taken over if it is among them,
and otherwise what has been found before is kept. -/
theorem foldl_select_zipIdx (es : List Precomputed) (k : UInt8) (n : ℕ) (found : Precomputed)
    (hn : n + es.length ≤ 256) :
    (es.zipIdx n).foldl (fun found (entry, place) => select found entry (k == place.toUInt8))
      found = if n ≤ k.toNat then es[k.toNat - n]?.getD found else found := by
  induction es generalizing n found with
  | nil => simp
  | cons e es ih =>
    rw [List.length_cons] at hn
    have hplace : (k == n.toUInt8) = decide (k.toNat = n) := by
      have hlt : n < 256 := by omega
      rw [Bool.eq_iff_iff, beq_iff_eq, decide_eq_true_eq, ← UInt8.toNat_inj]
      change k.toNat = n % 256 ↔ _
      rw [Nat.mod_eq_of_lt hlt]
    rw [List.zipIdx_cons, List.foldl_cons, ih (n + 1) _ (by omega)]
    dsimp only
    rw [hplace]
    rcases Nat.lt_trichotomy k.toNat n with hlt | rfl | hgt
    · -- The place lies before all of these entries.
      rw [decide_eq_false hlt.ne, select_false, if_neg (by omega), if_neg (by omega)]
    · -- It is that of the first one, and no later entry replaces it.
      rw [decide_eq_true rfl, select_true, if_neg (by omega), if_pos le_rfl, Nat.sub_self]
      rfl
    · -- It is among those of the others or after them.
      have hrest : k.toNat - n = k.toNat - (n + 1) + 1 := by omega
      rw [decide_eq_false hgt.ne', select_false, if_pos (by omega), if_pos hgt.le, hrest,
        List.getElem?_cons_succ]

/-- **The scan** finds the entry in the wanted place. -/
theorem LookupTable.scan_eq_multiple (t : LookupTable) (k : UInt8) :
    t.scan k = t.multiple k.toNat := by
  rw [scan, foldl_select_zipIdx _ _ _ _ (by simp)]
  cases k.toNat with
  | zero => rfl
  | succ k =>
    rw [if_pos (by omega), Nat.add_sub_cancel, Vector.getElem?_toList]
    rfl

/-- **The entry for a digit** in the range is that for its absolute value, negated if the digit is
negative. -/
theorem LookupTable.selectM_exact (t : LookupTable) (hx : -8 ≤ x.toInt ∧ x.toInt ≤ 8) :
    Exact (t.selectM x) fun e => e = (t.multiple x.toInt.natAbs).negateIf (x.toInt < 0) := by
  have hexpected : Exact (Overflow.outcome (-8 ≤ x.toInt ∧ x.toInt ≤ 8) x) fun y => y = x :=
    .outcome (decide_eq_true hx) rfl
  refine hexpected.bind fun y hy => ?_
  rw [hy]
  refine (Digit.magnitudeM_exact (by omega)).bind fun k hk => Exact.pure ?_
  rw [Digit.signMask_and_one, scan_eq_multiple, hk]

theorem LookupTable.select_eq (t : LookupTable) (hx : -8 ≤ x.toInt ∧ x.toInt ≤ 8) :
    t.select x = (t.multiple x.toInt.natAbs).negateIf (x.toInt < 0) :=
  (t.selectM_exact hx).run

theorem LookupTable.multiple_succ (t : LookupTable) {k : ℕ} (hk : k < 8) :
    t.multiple (k + 1) = t.entries[k] := by
  rw [multiple, Vector.getElem?_eq_getElem hk, Option.getD_some]

/-! ### Tables of multiples -/

theorem LookupTable.Denotes.multiple (h : t.Denotes P) {k : ℕ} (hk : k ≤ 8) :
    (t.multiple k).Denotes (k • P) := by
  cases k with
  | zero =>
    rw [zero_nsmul]
    exact Precomputed.denotes_identity
  | succ k =>
    rw [t.multiple_succ (by omega)]
    exact h k (by omega)

/-- **The entry for a digit** is the digit times the point of the row. -/
theorem LookupTable.Denotes.selectM_exact (h : t.Denotes P)
    (hx : -8 ≤ x.toInt ∧ x.toInt ≤ 8) : Exact (t.selectM x) fun e => e.Denotes (x.toInt • P) := by
  refine (t.selectM_exact hx).mono fun e he => ?_
  have hmultiple := (h.multiple (k := x.toInt.natAbs) (by omega)).negateIf (x.toInt < 0)
  have hpoint : (bif decide (x.toInt < 0) then -(x.toInt.natAbs • P) else x.toInt.natAbs • P) =
      x.toInt • P := by
    by_cases hneg : x.toInt < 0
    · rw [decide_eq_true hneg, cond_true, ← natCast_zsmul, ← neg_zsmul,
        Int.ofNat_natAbs_of_nonpos hneg.le, neg_neg]
    · rw [decide_eq_false hneg, cond_false, ← natCast_zsmul,
        Int.natAbs_of_nonneg (Int.not_lt.1 hneg)]
  rw [hpoint, ← he] at hmultiple
  exact hmultiple

theorem LookupTable.Denotes.select (h : t.Denotes P) (hx : -8 ≤ x.toInt ∧ x.toInt ≤ 8) :
    (t.select x).Denotes (x.toInt • P) :=
  (h.selectM_exact hx).run

end Select

section SignedMultiple

variable {P : Point} {E : Extended} {C : Precomputed} {t : LookupTable} {x : Int8}

/-! ### Prepared forms -/

/-- The summand is what `E` is prepared to: it is of the accepted size, and equal to the result of
the conversion. -/
structure Precomputed.IsFormOf (C : Precomputed) (E : Extended) : Prop where
  bounded : C.Bounded
  beq : (C == E.toAffine.toPrecomputed) = true

/-- **The forms of a point** are the summands that stand for it. -/
theorem Precomputed.isFormOf_iff (hE : E.Denotes P) : C.IsFormOf E ↔ C.Denotes P := by
  have hform := hE.toAffine.toPrecomputed.holds
  constructor
  · rintro ⟨hbounded, hbeq⟩
    have hC := hbounded.holds
    obtain ⟨hplus, hminus, hproduct⟩ := (hC.beq_iff hform).1 hbeq
    exact ⟨hC.yPlusX.congr hplus, hC.yMinusX.congr hminus, hC.xy2d.congr hproduct⟩
  · intro hC
    exact ⟨⟨hC.yPlusX.limbs, hC.yMinusX.limbs, hC.xy2d.limbs⟩,
      (hC.holds.beq_iff hform).2 ⟨rfl, rfl, rfl⟩⟩

/-- **A table of the multiples of `E`**, from the first to the eighth, each of them built in some
way and prepared. -/
def LookupTable.Lists (t : LookupTable) (E : Extended) : Prop :=
  ∀ (k : ℕ) (hk : k < 8), ∃ F, E.IsMultiple (k + 1) F ∧ t.entries[k].IsFormOf F

/-- The entries of such a table stand for the multiples of the point, and any table whose entries do
is one. -/
theorem LookupTable.lists_iff (hE : E.Denotes P) : t.Lists E ↔ t.Denotes P := by
  have hdenotes {k : ℕ} {F : Extended} (hF : E.IsMultiple (k + 1) F) :
      F.Denotes ((k + 1) • P) := by
    rw [← natCast_zsmul, Nat.cast_succ]
    exact hF.denotes hE
  constructor
  · intro h k hk
    obtain ⟨F, hF, hform⟩ := h k hk
    exact (Precomputed.isFormOf_iff (hdenotes hF)).1 hform
  · intro h k hk
    have hF := E.isMultiple_multiple (k + 1)
    exact ⟨_, hF, (Precomputed.isFormOf_iff (hdenotes hF)).2 (h k hk)⟩

/-- A table of the results of the conversion is one. -/
theorem LookupTable.lists_of_eq (hE : E.Valid)
    (h : ∀ (k : ℕ) (hk : k < 8), ∃ F, E.IsMultiple (k + 1) F ∧
      t.entries[k] = F.toAffine.toPrecomputed) : t.Lists E := by
  obtain ⟨P, hP⟩ := Extended.valid_iff.1 hE
  intro k hk
  obtain ⟨F, hF, hentry⟩ := h k hk
  have hpoint := hF.denotes hP
  refine ⟨F, hF, (Precomputed.isFormOf_iff hpoint).2 ?_⟩
  rw [hentry]
  exact hpoint.toAffine.toPrecomputed

/-! ### The multiple by a digit -/

/-- **The multiple by a digit**, for every digit from -8 to 8. Finding it overflows nowhere. In a
table that lists the multiples of a valid point, the answer brought back to extended coordinates is
valid, and equal to the point times the digit, however this is built from additions and negations.
In any table at all the answer is the entry in the place of the digit; for a negative digit it is
the entry in the place of its absolute value, with sum and difference exchanged and the product
negated; and for zero it is the neutral element. -/
theorem LookupTable.select_eq_multiple (t : LookupTable) (hx : -8 ≤ x.toInt ∧ x.toInt ≤ 8) :
    Digit.magnitudeM x = some (Digit.magnitude x) ∧
      (∀ E : Extended, E.Valid → t.Lists E →
        (t.select x).toExtended.Valid ∧
          (∀ F, E.IsMultiple x.toInt F → ((t.select x).toExtended == F) = true) ∧
          ((t.select x).toExtended == E.multiple x.toInt) = true) ∧
      (∀ (k : ℕ) (hk : k < 8), x.toInt = k + 1 → t.select x = t.entries[k]) ∧
      (∀ (k : ℕ) (hk : k < 8), x.toInt = -(k + 1) →
        t.select x = ⟨t.entries[k].yMinusX, t.entries[k].yPlusX, -t.entries[k].xy2d⟩) ∧
      (x = 0 → t.select x = .identity) := by
  have hselect := t.select_eq (x := x) (by omega)
  refine ⟨(Digit.magnitudeM_exact (by omega)).eq_some, fun E hE hlists => ?_, ?_, ?_, ?_⟩
  · obtain ⟨P, hP⟩ := Extended.valid_iff.1 hE
    have hpoint := (((lists_iff hP).1 hlists).select hx).toExtended
    have hequal (F : Extended) (hF : E.IsMultiple x.toInt F) :
        ((t.select x).toExtended == F) = true :=
      (hpoint.beq_iff (hF.denotes hP)).2 rfl
    exact ⟨hpoint.valid, hequal, hequal _ (E.isMultiple_multiple _)⟩
  · intro k hk h
    have habs : x.toInt.natAbs = k + 1 := by omega
    rw [hselect, habs, t.multiple_succ hk, decide_eq_false (by omega)]
    rfl
  · intro k hk h
    have habs : x.toInt.natAbs = k + 1 := by omega
    rw [hselect, habs, t.multiple_succ hk, decide_eq_true (by omega)]
    rfl
  · rintro rfl
    rw [hselect]
    rfl

/-- The digit -8, the lowest that a recoding gives, in the table of a point of order eight and in
the first row for the base point. -/
theorem LookupTable.select_eq_multiple_order_eight :
    let x : FieldElement :=
      .ofNat 0x1fd5b9a006394a28e933993238de4abb5c193c7013e5e238dea14646c545d14a
    let y : FieldElement :=
      .ofNat 0x05fc536d880238b13933c6d305acdfd5f098eff289f4c345b027b2c28f95e826
    let E : Extended := ⟨x, y, .one, x * y⟩
    let t : LookupTable := ⟨.ofFn fun k => (E.multiple ((k : ℕ) + 1)).toAffine.toPrecomputed⟩
    let s := BasePoint.row0
    let d : Int8 := -8
    ((-8 ≤ d.toInt ∧ d.toInt ≤ 8) ∧ E.Valid ∧ t.Lists E ∧ Extended.generator.Valid ∧
        s.Lists .generator) ∧
      ((t.select d).toExtended == E.multiple (-8)) = true ∧
      ((s.select d).toExtended == Extended.generator.multiple (-8)) = true ∧
      s.select d = ⟨s.entries[7].yMinusX, s.entries[7].yPlusX, -s.entries[7].xy2d⟩ := by
  intro x y E t s d
  have hd : -8 ≤ d.toInt ∧ d.toInt ≤ 8 := by decide
  have hE : E.Valid := by decide +kernel
  have ht : t.Lists E := by
    refine lists_of_eq hE fun k hk => ⟨_, E.isMultiple_multiple (k + 1), ?_⟩
    exact Vector.getElem_ofFn hk
  have hgenerator := Extended.denotes_generator.valid
  have hs : s.Lists .generator := (lists_iff Extended.denotes_generator).2 rowsDenote.1
  obtain ⟨-, hlow, -⟩ := t.select_eq_multiple hd
  obtain ⟨-, hbase, -, hnegative, -⟩ := s.select_eq_multiple hd
  exact ⟨⟨hd, hE, ht, hgenerator, hs⟩, (hlow E hE ht).2.2, (hbase _ hgenerator hs).2.2,
    hnegative 7 (by decide) rfl⟩

end SignedMultiple

end Edwards25519
