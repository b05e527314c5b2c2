import Edwards25519.Proofs.BasePoint.Multiply
import Mathlib.Algebra.BigOperators.Group.List.Basic
import Mathlib.Data.List.Perm.Basic

/-!
# Points, whatever their coordinates

Whether two extended coordinates belong to the same point can be asked in three ways: by
multiplying crosswise, by dividing and comparing the affine coordinates, and by comparing the
encodings. On valid coordinates the three answers are the same
(`Edwards25519.Extended.beq_congruence`), although the last one sees no more of `x` than the
parity of its least number: by the equation of the curve that is all there is to know beside `y`.
What equals is then the point that the coordinates stand for, and any operation on coordinates
that computes an operation on points has equal results for equal operands
(`Edwards25519.Extended.congr₂`).

The points of a list are added up from the left, beginning with the neutral element. Another order
of the list leads through other intermediate points to other coordinates, but reordering a list, or
cutting it in two, changes neither the point nor its encoding (`Edwards25519.Extended.sum_laws`).

No operation of the library asks whether the coordinates it is given are valid. It need not:
the neutral element, the base point, decoded points and multiples of the base point are valid,
and all that the operations make of them, in however many steps, is valid again
(`Edwards25519.Extended.valid_of_reachable`). What is followed along the steps is not the equations
but the point that the coordinates stand for (`Edwards25519.Extended.Reachable.exists_denotes`).
Every operation has a point of the group for its result whatever the points are that it begins with,
so that no pair of them has to be excluded: not two equal points, nor two opposite ones, nor the
neutral element or another point of low order.
-/

namespace Edwards25519

/-! ### Three equalities in one -/

section Equality

variable {P Q : Point} {E E' F F' : Extended}

/-- **Encodings are equal** when the points are. -/
theorem Extended.Denotes.encodePoint_eq_iff (hE : E.Denotes P) (hF : F.Denotes Q) :
    encodePoint E = encodePoint F ↔ P = Q := by
  have hP := hE.encodes_encodePoint
  have hQ := hF.encodes_encodePoint
  constructor
  · intro h
    rw [h] at hP
    exact hP.point_unique hQ
  · rintro rfl
    exact hP.bytes_unique hQ

/-- **Coordinates that cannot be told apart**: they are equal and have the same encoding. -/
structure Extended.Same (E F : Extended) : Prop where
  beq : (E == F) = true
  encode_eq : encodePoint E = encodePoint F

theorem Extended.Denotes.same (hE : E.Denotes P) (hF : F.Denotes P) : E.Same F :=
  ⟨(hE.beq_iff hF).2 rfl, (hE.encodePoint_eq_iff hF).2 rfl⟩

/-- **Congruence**: equal operands have equal results, if the operation computes some operation
`g` on points. -/
theorem Extended.congr₂ {op : Extended → Extended → Extended} {g : Point → Point → Point}
    (hop : ∀ {E F : Extended} {P Q : Point}, E.Denotes P → F.Denotes Q → (op E F).Denotes (g P Q))
    (hE : E.Valid) (hE' : E'.Valid) (hF : F.Valid) (hF' : F'.Valid) (hEE' : (E == E') = true)
    (hFF' : (F == F') = true) : (op E F).Same (op E' F') := by
  obtain ⟨P, hP⟩ := valid_iff.1 hE
  obtain ⟨P', hP'⟩ := valid_iff.1 hE'
  obtain ⟨Q, hQ⟩ := valid_iff.1 hF
  obtain ⟨Q', hQ'⟩ := valid_iff.1 hF'
  obtain rfl : P = P' := (hP.beq_iff hP').1 hEE'
  obtain rfl : Q = Q' := (hQ.beq_iff hQ').1 hFF'
  exact (hop hP hQ).same (hop hP' hQ')

/-- **Three equalities in one, and a congruence.** For valid coordinates the crosswise
comparison, that of the affine coordinates and that of the encodings agree. If the operands of
an addition, a subtraction, a negation, a doubling or an encoding are replaced by equal ones,
then the results are equal and have the same bytes. -/
theorem Extended.beq_congruence (hE : E.Valid) (hE' : E'.Valid) (hF : F.Valid) (hF' : F'.Valid) :
    (((E == F) = true ↔ (E.toAffine == F.toAffine) = true) ∧
        ((E == F) = true ↔ encodePoint E = encodePoint F)) ∧
      ((E == E') = true → (F == F') = true →
        (E + F).Same (E' + F') ∧ (E - F).Same (E' - F') ∧ (-E).Same (-E') ∧
          E.double.Same E'.double ∧ encodePoint E = encodePoint E') := by
  refine ⟨?_, fun hEE' hFF' => ⟨?_, ?_, ?_, ?_, ?_⟩⟩
  · obtain ⟨P, hP⟩ := valid_iff.1 hE
    obtain ⟨Q, hQ⟩ := valid_iff.1 hF
    rw [hP.beq_iff hQ, hP.toAffine.beq_iff hQ.toAffine, hP.encodePoint_eq_iff hQ]
    exact ⟨Iff.rfl, Iff.rfl⟩
  · exact congr₂ Denotes.add hE hE' hF hF' hEE' hFF'
  · exact congr₂ Denotes.sub hE hE' hF hF' hEE' hFF'
  · exact congr₂ (fun hE _ => hE.neg) hE hE' hF hF' hEE' hFF'
  · exact congr₂ (fun hE _ => hE.double) hE hE' hF hF' hEE' hFF'
  · exact (congr₂ (fun hE _ => hE) hE hE' hF hF' hEE' hFF').encode_eq

/-- Twice the base point, added up and doubled, and the point of order two, over the
denominators one and two. -/
theorem Extended.beq_congruence_order_two :
    let E := generator + generator
    let E' := generator.double
    let F : Extended := ⟨.zero, .minusOne, .one, .zero⟩
    let F' : Extended := ⟨.zero, -.two, .two, .zero⟩
    (E.Valid ∧ E'.Valid ∧ F.Valid ∧ F'.Valid ∧ (E == E') = true ∧ (F == F') = true) ∧
      (((E == F) = true ↔ (E.toAffine == F.toAffine) = true) ∧
        ((E == F) = true ↔ encodePoint E = encodePoint F)) ∧
      (E + F).Same (E' + F') ∧ (E - F).Same (E' - F') ∧ (-E).Same (-E') ∧
        E.double.Same E'.double ∧ encodePoint E = encodePoint E' := by
  intro E E' F F'
  have hvalid : E.Valid ∧ E'.Valid ∧ F.Valid ∧ F'.Valid ∧ (E == E') = true ∧
      (F == F') = true := by
    decide +kernel
  obtain ⟨hE, hE', hF, hF', hEE', hFF'⟩ := hvalid
  obtain ⟨hequal, hcongr⟩ := beq_congruence hE hE' hF hF'
  exact ⟨⟨hE, hE', hF, hF', hEE', hFF'⟩, hequal, hcongr hEE' hFF'⟩

end Equality

/-! ### Sums of lists -/

section Sums

variable {Es Fs : List Extended} {Ps Qs : List Point}

/-- Reordered coordinates stand for reordered points, which have the same sum. -/
theorem Extended.exists_denotes_of_perm (hperm : Es.Perm Fs)
    (hEs : List.Forall₂ Extended.Denotes Es Ps) :
    ∃ Qs, List.Forall₂ Extended.Denotes Fs Qs ∧ Qs.sum = Ps.sum := by
  obtain ⟨Qs, hFs, hQs⟩ := List.perm_comp_forall₂ hperm.symm hEs
  exact ⟨Qs, hFs, hQs.sum_eq⟩

/-- Adding up a list and going on with another is adding up both. -/
theorem Extended.Denotes.sum_append (hEs : List.Forall₂ Extended.Denotes Es Ps)
    (hFs : List.Forall₂ Extended.Denotes Fs Qs) :
    (Extended.sum (Es ++ Fs)).Denotes (Ps.sum + Qs.sum) := by
  rw [← List.sum_append]
  exact Denotes.sum (List.rel_append hEs hFs)

/-- **Sums do not depend on the order.** The sum of a list of valid coordinates is valid. It is
equal, and has the same encoding, for every order of the list; that of two lists one after the
other is the sum of their two sums; that of no coordinates is the neutral element; and that of one
point alone is this point. -/
theorem Extended.sum_laws (hEs : ∀ E ∈ Es, E.Valid) (hFs : ∀ F ∈ Fs, F.Valid) :
    (sum Es).Valid ∧ (∀ Gs, Es.Perm Gs → (sum Es).Same (sum Gs)) ∧
      (sum (Es ++ Fs)).Same (sum Es + sum Fs) ∧ sum [] = identity ∧
      ∀ E : Extended, E.Valid → (sum [E]).Same E := by
  obtain ⟨Ps, hPs⟩ := exists_forall₂_denotes fun E hE => valid_iff.1 (hEs E hE)
  obtain ⟨Qs, hQs⟩ := exists_forall₂_denotes fun F hF => valid_iff.1 (hFs F hF)
  have hE := Denotes.sum hPs
  have hF := Denotes.sum hQs
  refine ⟨hE.valid, fun Gs hperm => ?_, (Denotes.sum_append hPs hQs).same (hE.add hF), rfl,
    fun G hG => ?_⟩
  · obtain ⟨Rs, hRs, hsum⟩ := exists_denotes_of_perm hperm hPs
    have hG := Denotes.sum hRs
    rw [hsum] at hG
    exact hE.same hG
  · obtain ⟨R, hR⟩ := valid_iff.1 hG
    have hone := Denotes.sum (.cons hR .nil)
    rw [List.sum_singleton] at hone
    exact hone.same hR

/-- A list with a point, its negative and the point of order two, forwards and backwards and
followed by another. -/
theorem Extended.sum_laws_order_two :
    let Es : List Extended :=
      [generator.double, -generator.double, ⟨.zero, -.two, .two, .zero⟩]
    let Fs : List Extended := [generator, ⟨.zero, .minusOne, .one, .zero⟩]
    ((∀ E ∈ Es, E.Valid) ∧ ∀ F ∈ Fs, F.Valid) ∧
      (sum Es).Valid ∧ (sum Es).Same (sum Es.reverse) ∧
      (sum (Es ++ Fs)).Same (sum Es + sum Fs) ∧ sum [] = identity ∧
      (sum [generator]).Same generator := by
  intro Es Fs
  have h : (∀ E ∈ Es, E.Valid) ∧ ∀ F ∈ Fs, F.Valid := by decide +kernel
  obtain ⟨hvalid, hperm, happend, hnil, hone⟩ := sum_laws h.1 h.2
  exact ⟨h, hvalid, hperm _ Es.reverse_perm.symm, happend, hnil,
    hone generator (h.2 _ List.mem_cons_self)⟩

end Sums

/-! ### Reachable points -/

/-- **The extended coordinates that can be reached**: those of the neutral element, the base
point, decoded points and multiples of the base point, and whatever a finite number of
operations makes of them. -/
inductive Extended.Reachable : Extended → Prop
  /-- The neutral element. -/
  | identity : Reachable Extended.identity
  /-- The base point. -/
  | generator : Reachable Extended.generator
  /-- What a string that is not refused is decoded to. -/
  | decoded {b : Bytes32} {E : Extended} (h : decodePoint b = some E) : Reachable E
  /-- A multiple of the base point. -/
  | multiple (s : Scalar) : Reachable (mulBase s)
  /-- The sum of two points. -/
  | add {E F : Extended} (hE : Reachable E) (hF : Reachable F) : Reachable (E + F)
  /-- The difference of two points. -/
  | sub {E F : Extended} (hE : Reachable E) (hF : Reachable F) : Reachable (E - F)
  /-- The negative of a point. -/
  | neg {E : Extended} (hE : Reachable E) : Reachable (-E)
  /-- The double of a point. -/
  | double {E : Extended} (hE : Reachable E) : Reachable E.double
  /-- The sum of a list of points. -/
  | sum {Es : List Extended} (hEs : ∀ E ∈ Es, Reachable E) : Reachable (Extended.sum Es)
  /-- One of two points, by a condition. -/
  | select {E F : Extended} (hE : Reachable E) (hF : Reachable F) (c : Bool) :
      Reachable (select E F c)
  /-- What is left where a point has been overwritten. -/
  | wipe {E : Extended} (hE : Reachable E) : Reachable (wipe E)
  /-- The coordinates with denominator one, after a division. -/
  | divide {E : Extended} (hE : Reachable E) : Reachable E.toAffine.toExtended
  /-- The sum with a prepared summand or its negative. -/
  | addCached {E F : Extended} (hE : Reachable E) (hF : Reachable F) (c : Bool) :
      Reachable (E.addCached (F.toCached.negateIf c)).toExtended
  /-- The difference from a prepared subtrahend or its negative. -/
  | subCached {E F : Extended} (hE : Reachable E) (hF : Reachable F) (c : Bool) :
      Reachable (E.subCached (F.toCached.negateIf c)).toExtended
  /-- The sum with a prepared summand of denominator one or its negative. -/
  | addPrecomputed {E F : Extended} (hE : Reachable E) (hF : Reachable F) (c : Bool) :
      Reachable (E.addPrecomputed (F.toAffine.toPrecomputed.negateIf c)).toExtended

/-- **Every operation leads from points to a point**, and so does any sequence of them. -/
theorem Extended.Reachable.exists_denotes {E : Extended} (h : E.Reachable) :
    ∃ P, E.Denotes P := by
  induction h with
  | identity => exact ⟨0, denotes_identity⟩
  | generator => exact ⟨basePoint, denotes_generator⟩
  | decoded h =>
    obtain ⟨P, hP, -⟩ := decodePoint_sound h
    exact ⟨P, 1, hP⟩
  | multiple s => exact ⟨_, denotes_mulBase s⟩
  | add _ _ ihE ihF =>
    obtain ⟨P, hP⟩ := ihE
    obtain ⟨Q, hQ⟩ := ihF
    exact ⟨P + Q, hP.add hQ⟩
  | sub _ _ ihE ihF =>
    obtain ⟨P, hP⟩ := ihE
    obtain ⟨Q, hQ⟩ := ihF
    exact ⟨P - Q, hP.sub hQ⟩
  | neg _ ih =>
    obtain ⟨P, hP⟩ := ih
    exact ⟨-P, hP.neg⟩
  | double _ ih =>
    obtain ⟨P, hP⟩ := ih
    exact ⟨P + P, hP.double⟩
  | sum _ ih =>
    obtain ⟨Ps, hPs⟩ := exists_forall₂_denotes ih
    exact ⟨Ps.sum, Denotes.sum hPs⟩
  | select _ _ c ihE ihF =>
    cases c
    · exact ihE
    · exact ihF
  | wipe _ _ =>
    -- Overwriting leaves the neutral element, whatever the point was.
    exact ⟨0, denotes_identity⟩
  | divide _ ih =>
    obtain ⟨P, hP⟩ := ih
    exact ⟨P, hP.toAffine.toExtended⟩
  | addCached _ _ c ihE ihF =>
    obtain ⟨P, hP⟩ := ihE
    obtain ⟨Q, hQ⟩ := ihF
    exact ⟨_, (hP.addCached (hQ.toCached.negateIf c)).toExtended⟩
  | subCached _ _ c ihE ihF =>
    obtain ⟨P, hP⟩ := ihE
    obtain ⟨Q, hQ⟩ := ihF
    exact ⟨_, (hP.subCached (hQ.toCached.negateIf c)).toExtended⟩
  | addPrecomputed _ _ c ihE ihF =>
    obtain ⟨P, hP⟩ := ihE
    obtain ⟨Q, hQ⟩ := ihF
    exact ⟨_, (hP.addPrecomputed (hQ.toAffine.toPrecomputed.negateIf c)).toExtended⟩

/-- **Every point that can be reached is valid.** In particular its denominator is not zero,
whatever the operations were that led to it and whatever the points they were applied to. -/
theorem Extended.valid_of_reachable {E : Extended} (h : E.Reachable) : E.Valid :=
  valid_iff.2 h.exists_denotes

/-- A point of order two, decoded and added to itself. -/
theorem Extended.valid_of_reachable_order_two : ∃ E,
    decodePoint FieldElement.minusOne.toBytes = some E ∧ (E + E).Reachable ∧ (E + E).Valid := by
  have hdecode : (decodePoint FieldElement.minusOne.toBytes).isSome = true := by decide +kernel
  obtain ⟨E, hE⟩ := Option.isSome_iff_exists.1 hdecode
  have hreach : (E + E).Reachable := .add (.decoded hE) (.decoded hE)
  exact ⟨E, hE, hreach, valid_of_reachable hreach⟩

end Edwards25519
