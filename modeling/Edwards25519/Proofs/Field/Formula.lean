import Edwards25519.Proofs.Field.Power

/-!
# Formulas over the field

A result of one operation is an operand of the next, so that the limbs which an operation
leaves behind have to be small enough for every other one. The bound that closes this circle
is the one of `Edwards25519.FieldElement.Denotes`, `2^53 - 76`: sums, differences, products
and powers come out well below it, the doubled square, which is not carried again, still
below it, and a subtrahend may reach it.

A composition of operations is a `Edwards25519.Formula`. It has three readings: the one that
runs (`Edwards25519.Formula.eval`), the one that stops at the first overflow, which is
`Edwards25519.Formula.evalM` in `Option`, and the one in the field itself
(`Edwards25519.Formula.residue`). For every formula the three agree
(`Edwards25519.Formula.evalM_exact`, `Edwards25519.Formula.run_evalM`): one step for each
operation, and the formulas by induction.
-/

namespace Edwards25519

open FieldElement

/-- **A composition of field operations**, of any size and in any order. -/
inductive Formula
  /-- An operand, with limbs of the accepted size. -/
  | operand (a : FieldElement) (ha : LimbsBelow (2 ^ 53 - 76) a)
  /-- An element read from bytes. -/
  | ofBytes (b : Bytes32)
  /-- The sum. -/
  | add (s t : Formula)
  /-- The difference. -/
  | sub (s t : Formula)
  /-- The negative. -/
  | neg (s : Formula)
  /-- The product. -/
  | mul (s t : Formula)
  /-- The square. -/
  | square (s : Formula)
  /-- The result of squaring `n` times in a row. -/
  | squareTimes (n : ℕ) (s : Formula)
  /-- Twice the square. -/
  | doubleSquare (s : Formula)
  /-- The inverse. -/
  | invert (s : Formula)
  /-- The power with the exponent `(p - 5)/8`. -/
  | rootPower (s : Formula)
  /-- The element written to bytes and read again. -/
  | reread (s : Formula)
  /-- One of two elements, by a condition. -/
  | select (s t : Formula) (c : Bool)

namespace Formula

/-! ### Three readings -/

/-- The course of the computation, over a monad that says what an overflow does. -/
def evalM {m : Type → Type} [Monad m] [Overflow m] : Formula → m FieldElement
  | operand a _ => return a
  | ofBytes b => return .ofBytes b
  | add s t => do addM (← s.evalM) (← t.evalM)
  | sub s t => do subM (← s.evalM) (← t.evalM)
  | neg s => do negM (← s.evalM)
  | mul s t => do mulM (← s.evalM) (← t.evalM)
  | square s => do squareM (← s.evalM)
  | squareTimes n s => do squareTimesM n (← s.evalM)
  | doubleSquare s => do doubleSquareM (← s.evalM)
  | invert s => do invertM (← s.evalM)
  | rootPower s => do rootPowerM (← s.evalM)
  | reread s => do return .ofBytes (← toBytesM (← s.evalM))
  | select s t c => do return Edwards25519.select (← s.evalM) (← t.evalM) c

/-- What the field operations make of the operands. -/
def eval : Formula → FieldElement
  | operand a _ => a
  | ofBytes b => .ofBytes b
  | add s t => s.eval + t.eval
  | sub s t => s.eval - t.eval
  | neg s => -s.eval
  | mul s t => s.eval * t.eval
  | square s => s.eval.square
  | squareTimes n s => s.eval.squareTimes n
  | doubleSquare s => s.eval.doubleSquare
  | invert s => s.eval.invert
  | rootPower s => s.eval.rootPower
  | reread s => .ofBytes s.eval.toBytes
  | select s t c => Edwards25519.select s.eval t.eval c

/-- The value in the field. -/
def residue : Formula → Residue
  | operand a _ => a.residue
  | ofBytes b => (b.value % 2 ^ 255 : ℕ)
  | add s t => s.residue + t.residue
  | sub s t => s.residue - t.residue
  | neg s => -s.residue
  | mul s t => s.residue * t.residue
  | square s => s.residue ^ 2
  | squareTimes n s => s.residue ^ 2 ^ n
  | doubleSquare s => s.residue ^ 2 + s.residue ^ 2
  | invert s => s.residue⁻¹
  | rootPower s => s.residue ^ ((fieldPrime - 5) / 8)
  | reread s => s.residue
  | select s t c => Edwards25519.select s.residue t.residue c

/-- The machine reading is the computation with the field operations. -/
theorem run_evalM (t : Formula) : Id.run t.evalM = t.eval := by
  induction t with
  | operand a ha => rfl
  | ofBytes b => rfl
  | add s t ihs iht => rw [eval, ← ihs, ← iht]; rfl
  | sub s t ihs iht => rw [eval, ← ihs, ← iht]; rfl
  | neg s ih => rw [eval, ← ih]; rfl
  | mul s t ihs iht => rw [eval, ← ihs, ← iht]; rfl
  | square s ih => rw [eval, ← ih]; rfl
  | squareTimes n s ih => rw [eval, ← ih]; rfl
  | doubleSquare s ih => rw [eval, ← ih]; rfl
  | invert s ih => rw [eval, ← ih]; rfl
  | rootPower s ih => rw [eval, ← ih]; rfl
  | reread s ih => rw [eval, ← ih]; rfl
  | select s t c ihs iht => rw [eval, ← ihs, ← iht]; rfl

/-- **Every formula is exact**: no operation in it overflows, whatever has been computed
before, and the limbs at the end are of the accepted size again and stand for the value in the
field. -/
theorem evalM_exact (t : Formula) : Exact t.evalM fun a => a.Denotes t.residue := by
  induction t with
  | operand a ha => exact Exact.pure ha.denotes
  | ofBytes b => exact Exact.pure (denotes_ofBytes b)
  | add s t ihs iht => exact ihs.bind fun a ha => iht.bind fun b hb => ha.addM_exact hb
  | sub s t ihs iht => exact ihs.bind fun a ha => iht.bind fun b hb => ha.subM_exact hb
  | neg s ih => exact ih.bind fun a ha => ha.negM_exact
  | mul s t ihs iht => exact ihs.bind fun a ha => iht.bind fun b hb => ha.mulM_exact hb
  | square s ih => exact ih.bind fun a ha => ha.squareM_exact
  | squareTimes n s ih => exact ih.bind fun a ha => ha.squareTimesM_exact n
  | doubleSquare s ih =>
    refine ih.bind fun a ha => ?_
    have h := ha.doubleSquareM_exact
    rw [two_mul] at h
    exact h
  | invert s ih =>
    refine ih.bind fun a ha => ?_
    have h := ha.invertM_exact
    rw [pow_fieldPrime_sub_two] at h
    exact h
  | rootPower s ih => exact ih.bind fun a ha => ha.rootPowerM_exact
  | reread s ih =>
    refine ih.bind fun a ha => ha.toBytesM_exact.bind fun b hb => ?_
    exact Exact.pure (denotes_ofBytes_of_value hb)
  | select s t c ihs iht =>
    refine ihs.bind fun a ha => iht.bind fun b hb => Exact.pure ?_
    cases c
    · exact ha
    · exact hb

end Formula

namespace FieldElement

/-! ### Results within bounds -/

variable {x : Residue}

/-- **A result within bounds**: the checked reading of a routine, which stops at the first
overflow, gets as far as the element `a`, and the limbs of `a` are of the accepted size. -/
structure Reaches (checked : Option FieldElement) (a : FieldElement) : Prop where
  eq_some : checked = some a
  limbs : LimbsBelow (2 ^ 53 - 76) a

/-- An exact routine reaches what the machine computes. -/
theorem reaches_run {r : ∀ {m : Type → Type} [Monad m] [Overflow m], m FieldElement}
    (h : Exact r fun a => a.Denotes x) : Reaches r (Id.run r) :=
  ⟨h.eq_some, h.run.limbs⟩

/-- **Limbs below `2^53 - 76` stay below.** For operands within the bound no operation on words
or accumulators overflows in any of the field operations, nor in writing the bytes, and the
result is within the bound again; elements read from bytes and the constants of the field are
within it. So every composition of the operations is free of overflow, and its result stands
for the value that the same composition has in the field. -/
theorem operations_within_bounds (f g : FieldElement) (hf : LimbsBelow (2 ^ 53 - 76) f)
    (hg : LimbsBelow (2 ^ 53 - 76) g) :
    (Reaches (addM f g) (f + g) ∧ Reaches (subM f g) (f - g) ∧ Reaches (negM f) (-f) ∧
        Reaches (mulM f g) (f * g) ∧ Reaches (squareM f) f.square ∧
        (∀ n, Reaches (squareTimesM n f) (f.squareTimes n)) ∧
        Reaches (doubleSquareM f) f.doubleSquare ∧ Reaches (invertM f) f.invert ∧
        Reaches (rootPowerM f) f.rootPower ∧ toBytesM f = some f.toBytes) ∧
      (∀ b, LimbsBelow (2 ^ 53 - 76) (ofBytes b)) ∧
      (∀ c ∈ [zero, one, two, minusOne, edwardsD, edwardsD2, sqrtMinusOne],
        LimbsBelow (2 ^ 53 - 76) c) ∧
      ∀ t : Formula, Reaches t.evalM t.eval ∧ t.eval.residue = t.residue := by
  have hf' := hf.denotes
  have hg' := hg.denotes
  -- The operations on the right are the machine readings of the routines on the left.
  refine ⟨⟨?_, ?_, ?_, ?_, ?_, fun n => ?_, ?_, ?_, ?_, hf'.toBytesM_exact.eq_some⟩,
    fun b => (denotes_ofBytes b).limbs, ?_, fun t => ?_⟩
  · exact (reaches_run (hf'.addM_exact hg') :)
  · exact (reaches_run (hf'.subM_exact hg') :)
  · exact (reaches_run hf'.negM_exact :)
  · exact (reaches_run (hf'.mulM_exact hg') :)
  · exact (reaches_run hf'.squareM_exact :)
  · exact (reaches_run (hf'.squareTimesM_exact n) :)
  · exact (reaches_run hf'.doubleSquareM_exact :)
  · exact (reaches_run hf'.invertM_exact :)
  · exact (reaches_run hf'.rootPowerM_exact :)
  · decide
  · rw [← t.run_evalM]
    exact ⟨reaches_run t.evalM_exact, t.evalM_exact.run.residue⟩

/-- The largest limbs within the bound, and a doubled square of them, which is not carried,
as subtrahend. -/
theorem operations_within_bounds_largest :
    let f : FieldElement := ⟨0x1fffffffffffb3, 0x1fffffffffffb3, 0x1fffffffffffb3,
      0x1fffffffffffb3, 0x1fffffffffffb3⟩
    ∃ hf : LimbsBelow (2 ^ 53 - 76) f,
      Reaches (subM f f) (f - f) ∧ Reaches (mulM f f) (f * f) ∧
        let t : Formula := .invert (.sub (.operand f hf) (.doubleSquare (.operand f hf)))
        Reaches t.evalM t.eval ∧ t.eval.residue = t.residue := by
  intro f
  have hf : LimbsBelow (2 ^ 53 - 76) f := by decide
  obtain ⟨⟨-, hsub, -, hmul, -⟩, -, -, hformula⟩ := operations_within_bounds f f hf hf
  exact ⟨hf, hsub, hmul, hformula _⟩

end FieldElement

end Edwards25519
