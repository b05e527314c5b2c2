import Edwards25519.Field
import Mathlib.Data.Nat.Bitwise
import Mathlib.NumberTheory.LucasPrimality
import Mathlib.Tactic.NormNum.Prime
import Mathlib.Tactic.Ring

/-!
# Large primes

That a number `p` of some two hundred bits is a prime is shown by Lucas's test: there is an
element of the order `p - 1` modulo `p`. The test needs the prime factors of `p - 1`, of which
the large ones have to be shown prime in the same way, and so on down to factors small enough
for trial division.

A power is reached by going through the bits of the exponent from the most significant one down,
squaring at each. What has been reached after some of the bits is the power by the number of
these bits (`Edwards25519.bitsValue`). All that the test computes, it computes with remainders
(`Edwards25519.powMod`), so that a whole chain of numbers, each with factors from among those
before it, can be tested by one evaluation (`Edwards25519.passesChain`). The numbers of a chain
that passes are primes (`Edwards25519.prime_of_passesChain`), and the modulus of the field is the
end of one.
-/

namespace Edwards25519

/-! ### Numbers bit by bit -/

/-- The number that bits add after `n`, the most significant one first. -/
def bitsValue (n : ℕ) (bits : List Bool) : ℕ :=
  bits.foldl (fun n b => 2 * n + b.toNat) n

/-- The bits of a number from bit `k - 1` down. -/
theorem bitsValue_testBit (m n k : ℕ) :
    bitsValue m ((List.range k).reverse.map n.testBit) = 2 ^ k * m + n % 2 ^ k := by
  induction k generalizing m with
  | zero => simp [bitsValue, Nat.mod_one]
  | succ k ih =>
    rw [List.range_succ, List.reverse_append, List.reverse_singleton, List.singleton_append,
      List.map_cons]
    have hrest : bitsValue m (n.testBit k :: (List.range k).reverse.map n.testBit) =
        bitsValue (2 * m + (n.testBit k).toNat) ((List.range k).reverse.map n.testBit) := rfl
    rw [hrest, ih, Nat.mod_pow_succ, Nat.toNat_testBit]
    ring

/-- All bits of a number, the most significant one first. -/
def bitsOf (n : ℕ) : List Bool :=
  (List.range (n.log2 + 1)).reverse.map n.testBit

theorem bitsValue_bitsOf (n : ℕ) : bitsValue 0 (bitsOf n) = n := by
  rw [bitsOf, bitsValue_testBit, mul_zero, zero_add, Nat.mod_eq_of_lt Nat.lt_log2_self]

/-! ### Powers with remainders -/

/-- The remainder modulo `m` that is reached from the power `r` of `a` along the bits of an
exponent, the most significant one first. -/
def powMod (m a r : ℕ) (bits : List Bool) : ℕ :=
  bits.foldl (fun r b => r * r * (bif b then a else 1) % m) r

/-- The exponent that is reached is the number of the bits. -/
theorem cast_powMod {m a r n : ℕ} (bits : List Bool) (hr : (r : ZMod m) = a ^ n) :
    (powMod m a r bits : ZMod m) = a ^ bitsValue n bits := by
  induction bits generalizing r n with
  | nil => exact hr
  | cons b bits ih =>
    have hstep : ((r * r * (bif b then a else 1) % m : ℕ) : ZMod m) = a ^ (2 * n + b.toNat) := by
      rw [ZMod.natCast_mod, Nat.cast_mul, Nat.cast_mul, hr, two_mul, pow_add, pow_add]
      cases b
      · rw [cond_false, Bool.toNat_false, pow_zero, Nat.cast_one]
      · rw [cond_true, Bool.toNat_true, pow_one]
    exact ih hstep

/-- Whether the power of `a` with the exponent `n` is one modulo `m`. -/
def isPowOne (m a n : ℕ) : Bool :=
  powMod m a 1 (bitsOf n) % m == 1 % m

theorem isPowOne_iff {m a n : ℕ} : isPowOne m a n = true ↔ (a : ZMod m) ^ n = 1 := by
  have hone : ((1 : ℕ) : ZMod m) = a ^ 0 := by rw [Nat.cast_one, pow_zero]
  have hpow := cast_powMod (bitsOf n) hone
  rw [bitsValue_bitsOf] at hpow
  rw [isPowOne, beq_iff_eq, ← ZMod.natCast_eq_natCast_iff', hpow, Nat.cast_one]

/-! ### The test -/

/-- **Lucas's test** of `p`, with an element `a` and the prime factors of `p - 1`. -/
def lucasTest (p a : ℕ) (factors : List ℕ) : Bool :=
  factors.prod == p - 1 && isPowOne p a (p - 1) &&
    factors.all fun q => !isPowOne p a ((p - 1) / q)

/-- **A number that passes is prime.** -/
theorem prime_of_lucasTest {p : ℕ} (a : ℕ) (factors : List ℕ)
    (hprime : ∀ q ∈ factors, q.Prime) (h : lucasTest p a factors = true) : p.Prime := by
  rw [lucasTest, Bool.and_eq_true, Bool.and_eq_true, beq_iff_eq, isPowOne_iff,
    List.all_eq_true] at h
  obtain ⟨⟨hprod, hone⟩, hne⟩ := h
  refine lucas_primality p a hone fun q hq hdvd => ?_
  -- A prime that divides the product is one of the factors.
  rw [← hprod] at hdvd
  obtain ⟨r, hr, hqr⟩ := (Prime.dvd_prod_iff hq.prime).1 hdvd
  have heq : q = r := (Nat.prime_dvd_prime_iff_eq hq (hprime r hr)).1 hqr
  rw [heq, ne_eq, ← isPowOne_iff, Bool.not_eq_true, ← Bool.not_eq_true']
  exact hne r hr

/-! ### Chains of tests -/

/-- A number, and what Lucas's test of it needs. -/
structure LucasCandidate where
  /-- The number that is tested. -/
  p : ℕ
  /-- An element of the order `p - 1` modulo `p`. -/
  a : ℕ
  /-- The prime factors of `p - 1`. -/
  factors : List ℕ

/-- Whether the candidates pass, one after the other, with factors that are in the list `known`
or have passed before. -/
def passesChain (known : List ℕ) : List LucasCandidate → Bool
  | [] => true
  | c :: cs => c.factors.all (known.contains ·) && lucasTest c.p c.a c.factors &&
      passesChain (c.p :: known) cs

/-- **The numbers of a chain are primes** if the numbers it starts from are. -/
theorem prime_of_passesChain {known : List ℕ} {cs : List LucasCandidate}
    (hknown : ∀ q ∈ known, q.Prime) (h : passesChain known cs = true) {p : ℕ}
    (hp : p ∈ cs.map LucasCandidate.p) : p.Prime := by
  induction cs generalizing known with
  | nil => contradiction
  | cons c cs ih =>
    rw [passesChain, Bool.and_eq_true, Bool.and_eq_true, List.all_eq_true] at h
    obtain ⟨⟨hfactors, htest⟩, hrest⟩ := h
    have hc : c.p.Prime := prime_of_lucasTest c.a c.factors
      (fun q hq => hknown q (List.contains_iff_mem.1 (hfactors q hq))) htest
    rcases List.mem_cons.1 hp with rfl | hp
    · exact hc
    · refine ih (fun q hq => ?_) hrest hp
      rcases List.mem_cons.1 hq with rfl | hq
      · exact hc
      · exact hknown q hq

/-- The primes that chains start from, small enough for trial division. -/
def smallPrimes : List ℕ :=
  [2, 3, 5, 7, 11, 13, 19, 23, 31, 41, 43, 47, 73, 107, 127, 223, 269, 307, 353, 1361, 2437, 2851,
    4153, 5879, 30703, 57467, 65147, 75707, 82163, 132049, 132667, 137849, 430751, 531581, 569003,
    1224481, 1923133, 8574133, 58964693]

theorem prime_of_mem_smallPrimes : ∀ q ∈ smallPrimes, q.Prime := by
  simp only [smallPrimes, List.forall_mem_cons]
  norm_num

/-! ### The field -/

/-- The chain that ends in the modulus of the field. -/
def fieldPrimeChain : List LucasCandidate :=
  [⟨2773320623, 5, [2, 2437, 569003]⟩,
    ⟨72106336199, 7, [2, 13, 2773320623]⟩,
    ⟨1919519569386763, 2, [2, 3, 7, 19, 47, 47, 127, 8574133]⟩,
    ⟨75445702479781427272750846543864801, 7,
      [2, 2, 2, 2, 2, 3, 3, 5, 5, 75707, 72106336199, 1919519569386763]⟩,
    ⟨31757755568855353, 10, [2, 2, 2, 3, 31, 107, 223, 4153, 430751]⟩,
    ⟨74058212732561358302231226437062788676166966415465897661863160754340907, 2,
      [2, 3, 353, 57467, 132049, 1923133, 31757755568855353,
        75445702479781427272750846543864801]⟩,
    ⟨fieldPrime, 2,
      [2, 2, 3, 65147, 74058212732561358302231226437062788676166966415465897661863160754340907]⟩]

/-- **The modulus of the field is a prime.** -/
theorem prime_fieldPrime : fieldPrime.Prime := by
  have hchain : passesChain smallPrimes fieldPrimeChain = true := by decide +kernel
  exact prime_of_passesChain prime_of_mem_smallPrimes hchain (by decide)

instance : Fact fieldPrime.Prime :=
  ⟨prime_fieldPrime⟩

end Edwards25519
