import Edwards25519.BasePoint.Table
import Edwards25519.Scalar

/-!
# Multiples of the base point

A scalar has 64 signed digits to base 16 and a carry. The base point is fixed, so its
multiples by `k 256^i` for `k` from 1 to 8 are kept in a table with a row for each
`i`, and a digit in an even place is answered by one entry of one row. For the
digits in the odd places the same rows serve, if they are added up first and their
sum multiplied by 16. Hence the order of `Edwards25519.mulBase`:

1. add up the entries for the odd digits;
2. double four times;
3. add up the entries for the even digits on top;
4. add `16^64` times the base point if there is a carry.

Two of the steps expect something of their argument that its type does not say: a row has entries
for the digits from -8 to 8 alone, and a carry should be 0 or 1. Neither asks whether it is so, and
both are written as steps that fail in the checked reading if it is not.

The plain way to the same point, one bit after the other, is
`Edwards25519.Extended.doubleAndAdd`.
-/

namespace Edwards25519

/-! ### With the table -/

/-- The point multiplied by 16: three doublings that need not produce `T`, and one that
does. -/
def Extended.mul16 (P : Extended) : Extended :=
  let P2 := P.toProjective.double.toProjective
  let P4 := P2.double.toProjective
  let P8 := P4.double.toProjective
  P8.double.toExtended

section

variable {m : Type → Type} [Monad m] [Overflow m]

/-- The point plus, for each digit, its entry in the row of the same place. -/
@[specialize] def Extended.addDigitsM (P : Extended) (rows : List LookupTable)
    (digits : List Int8) : m Extended :=
  (rows.zip digits).foldlM
    (fun acc (row, d) => do return (acc.addPrecomputed (← row.selectM d)).toExtended) P

/-- The entry for the carry, which is expected to be 0 or 1. -/
@[specialize] def BasePoint.selectCarryM (carry : Int8) : m Precomputed :=
  Overflow.outcome (carry = 0 ∨ carry = 1) (select .identity twoPow256 (carry == 1))

/-- The multiple of the base point by a scalar. -/
@[specialize] def mulBaseM (s : Scalar) : m Extended := do
  let r ← recodeM 0 s.nibbles
  let odd ← Extended.identity.addDigitsM BasePoint.rows (Recoding.odds r.digits)
  let all ← odd.mul16.addDigitsM BasePoint.rows (Recoding.evens r.digits)
  return (all.addPrecomputed (← BasePoint.selectCarryM r.carry)).toExtended

end

/-- The multiple of the base point by a scalar. -/
def mulBase (s : Scalar) : Extended :=
  Id.run (mulBaseM s)

/-! ### Bit by bit -/

/-- The multiple of a point by a number in binary, the most significant bit first:
for each bit the result so far is doubled, and the point added if the bit is one. -/
def Extended.doubleAndAdd (P : Extended) (bits : List Bool) : Extended :=
  bits.foldl (fun acc b => bif b then acc.double + P else acc.double) identity

end Edwards25519
