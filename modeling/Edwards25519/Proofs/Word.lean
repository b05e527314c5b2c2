import Edwards25519.Word
import Mathlib.Algebra.Group.Nat.Defs

/-!
# Words, and runs without overflow

A limb routine has two readings, and what one wants to know of it concerns both: that
the checked one meets no overflow, and that the machine one computes the same value. The
two are settled together, by one statement about the routine as it is written, before a
reading is chosen:

* `Edwards25519.Exact` – both readings end with one and the same value, and that value
  has a given property;
* `Edwards25519.Exact.bind` – the rule for a sequence of steps, which is all that the
  routines are made of;
* one rule for each operation on words, accumulators and digits, with the condition
  under which its result fits.

A proof about a routine is then a walk through its steps, each of which leaves a number
with a known value (`toNat`, and for the signed digits `toInt`) and asks for nothing but a
bound. What cannot overflow, such as shifts and masks, is described by the number of its
result alone.
-/

namespace Edwards25519

theorem Overflow.outcome_eq_some_iff {α : Type} {fits : Bool} {a b : α} :
    (Overflow.outcome fits a : Option α) = some b ↔ fits = true ∧ a = b := by
  change (if fits then some a else none) = some b ↔ _
  cases fits <;> simp

/-! ### Words -/

namespace Word

variable {x y z : UInt64}

theorem sub_eq_some_iff : (sub x y : Option UInt64) = some z ↔ z.toNat + y.toNat = x.toNat := by
  have hx : x.toNat < 2 ^ 64 := x.toNat_lt
  have hy : y.toNat < 2 ^ 64 := y.toNat_lt
  have hz : z.toNat < 2 ^ 64 := z.toNat_lt
  rw [sub, Overflow.outcome_eq_some_iff, decide_eq_true_eq, ← UInt64.toNat_inj, UInt64.toNat_sub]
  omega

/-- A mask of `n` ones takes the remainder modulo `2^n`. -/
theorem toNat_and_mask (x : UInt64) {k : UInt64} (n : Nat) (hk : k.toNat = 2 ^ n - 1) :
    (x &&& k).toNat = x.toNat % 2 ^ n := by
  rw [UInt64.toNat_and, hk, Nat.and_two_pow_sub_one_eq_mod]

/-- A shift to the right divides by a power of two. -/
theorem toNat_shiftRight (x : UInt64) {k : UInt64} {n : Nat} (hk : k.toNat = n) (hn : n < 64) :
    (x >>> k).toNat = x.toNat / 2 ^ n := by
  rw [UInt64.toNat_shiftRight, hk, Nat.mod_eq_of_lt hn, Nat.shiftRight_eq_div_pow]

@[simp] theorem toNat_low51 (x : UInt64) : (low51 x).toNat = x.toNat % 2 ^ 51 :=
  toNat_and_mask x 51 rfl

@[simp] theorem toNat_shiftRight_51 (x : UInt64) : (x >>> 51).toNat = x.toNat / 2 ^ 51 :=
  toNat_shiftRight x rfl (by decide)

/-- Putting bits together that lie in different places is adding them. -/
theorem toNat_or_of_lt {k : Nat} (hx : x.toNat < 2 ^ k) (hy : 2 ^ k ∣ y.toNat) :
    (x ||| y).toNat = x.toNat + y.toNat := by
  obtain ⟨q, hq⟩ := hy
  rw [UInt64.toNat_or, hq, Nat.or_comm, ← Nat.two_pow_add_eq_or_of_lt hx, Nat.add_comm]

/-- The bits of `x`, with those of `y` above them. -/
theorem toNat_or_shiftLeft (x y k : UInt64) (hk : k.toNat < 64) (hx : x.toNat < 2 ^ k.toNat) :
    (x ||| (y <<< k)).toNat = x.toNat + 2 ^ k.toNat * y.toNat % 2 ^ 64 := by
  have hleft : (y <<< k).toNat = 2 ^ k.toNat * y.toNat % 2 ^ 64 := by
    rw [UInt64.toNat_shiftLeft, Nat.shiftLeft_eq, Nat.mod_eq_of_lt hk, Nat.mul_comm]
  have hdvd : 2 ^ k.toNat ∣ (y <<< k).toNat := by
    rw [hleft]
    exact (Nat.dvd_mod_iff (Nat.pow_dvd_pow 2 (by omega))).2 (Nat.dvd_mul_right _ _)
  rw [toNat_or_of_lt hx hdvd, hleft]

/-- The bits of `x` from bit `j` on, with those of `y` above them. -/
theorem toNat_shiftRight_or_shiftLeft (x y j k : UInt64) (hj : j.toNat < 64) (hk : k.toNat < 64)
    (hx : x.toNat < 2 ^ (j.toNat + k.toNat)) :
    ((x >>> j) ||| (y <<< k)).toNat = x.toNat / 2 ^ j.toNat + 2 ^ k.toNat * y.toNat % 2 ^ 64 := by
  have hright : (x >>> j).toNat = x.toNat / 2 ^ j.toNat := toNat_shiftRight x rfl hj
  have hlt : (x >>> j).toNat < 2 ^ k.toNat := by
    rw [hright]
    exact Nat.div_lt_of_lt_mul (by rw [← Nat.pow_add]; exact hx)
  rw [toNat_or_shiftLeft _ y k hk hlt, hright]

/-- **A byte put above the lowest `n` bits** of a number, if it holds the next eight of them,
makes up the lowest `n + 8` bits. -/
theorem toNat_or_byte {x : UInt64} {v : UInt8} {N : Nat} (k : UInt64) (n : Nat) (hk : k.toNat = n)
    (hn : n ≤ 56) (hx : x.toNat = N % 2 ^ n) (hv : v.toNat = N / 2 ^ n % 2 ^ 8) :
    (x ||| (v.toUInt64 <<< k)).toNat = N % 2 ^ (n + 8) := by
  have hlt : x.toNat < 2 ^ n := hx ▸ Nat.mod_lt N (Nat.two_pow_pos n)
  have hshift : (v.toUInt64 <<< k).toNat = 2 ^ n * v.toNat := by
    have hfits : v.toNat * 2 ^ n < 2 ^ 64 :=
      calc v.toNat * 2 ^ n < 2 ^ 8 * 2 ^ 56 := Nat.mul_lt_mul_of_lt_of_le v.toNat_lt
            (Nat.pow_le_pow_right (by decide) hn) (by decide)
        _ = 2 ^ 64 := by decide
    rw [UInt64.toNat_shiftLeft, UInt8.toNat_toUInt64, hk, Nat.shiftLeft_eq,
      Nat.mod_eq_of_lt (Nat.lt_of_le_of_lt hn (by decide : 56 < 64)), Nat.mod_eq_of_lt hfits,
      Nat.mul_comm]
  rw [toNat_or_of_lt hlt ⟨v.toNat, hshift⟩, hshift, Nat.pow_add, Nat.mod_mul, hx, hv]

end Word

/-! ### Accumulators -/

namespace Wide

@[simp] theorem toNat_prod (x y : UInt64) : (prod x y).toNat = x.toNat * y.toNat := rfl

@[simp] theorem toNat_low51 (x : Wide) : (low51 x).toNat = x.toNat % 2 ^ 51 := by
  rw [low51, Word.toNat_low51, UInt64.toNat_ofNat']
  exact Nat.mod_mod_of_dvd x.toNat (Nat.pow_dvd_pow 2 (by decide))

@[simp] theorem toNat_high51 (x : Wide) : (high51 x).toNat = x.toNat / 2 ^ 51 := by
  rw [high51, BitVec.toNat_ushiftRight, Nat.shiftRight_eq_div_pow]

end Wide

/-! ### Runs without overflow -/

/-- **A run without overflow**: the routine `r` has a result in the checked reading,
the machine reading has the same one, and it satisfies `post`. -/
def Exact {α : Type} (r : ∀ {m : Type → Type} [Monad m] [Overflow m], m α) (post : α → Prop) :
    Prop :=
  ∃ a, @r Option _ _ = some a ∧ @r Id _ _ = a ∧ post a

namespace Exact

variable {α β : Type} {P : α → Prop} {Q : β → Prop}

/-- A value that is merely returned overflows nowhere. -/
theorem pure {a : α} (h : P a) : Exact (Pure.pure a) P :=
  ⟨a, rfl, rfl, h⟩

/-- **The rule of sequence**: what the first step guarantees of its value is what the
rest may rely on. -/
theorem bind {r : ∀ {m : Type → Type} [Monad m] [Overflow m], m α}
    {k : α → ∀ {m : Type → Type} [Monad m] [Overflow m], m β}
    (hr : Exact r P) (hk : ∀ a, P a → Exact (k a) Q) : Exact (r >>= fun a => k a) Q := by
  obtain ⟨a, hchecked, hmachine, ha⟩ := hr
  obtain ⟨b, hchecked', hmachine', hb⟩ := hk a ha
  refine ⟨b, ?_, ?_, hb⟩
  · exact Option.bind_eq_some_iff.2 ⟨a, hchecked, hchecked'⟩
  · exact (congrArg (fun a => @k a Id _ _) hmachine).trans hmachine'

/-- An operation that decides what to do about overflow has none if its result fits. -/
theorem outcome {fits : Bool} {a : α} (h : fits = true) (ha : P a) :
    Exact (Overflow.outcome fits a) P :=
  ⟨a, Overflow.outcome_eq_some_iff.2 ⟨h, rfl⟩, rfl, ha⟩

/-- A guarantee may be weakened. -/
theorem mono {P' : α → Prop} {r : ∀ {m : Type → Type} [Monad m] [Overflow m], m α}
    (h : Exact r P) (hP : ∀ a, P a → P' a) : Exact r P' := by
  obtain ⟨a, hchecked, hmachine, ha⟩ := h
  exact ⟨a, hchecked, hmachine, hP a ha⟩

/-- The guarantee carries over to the value that the machine computes. -/
theorem run {r : ∀ {m : Type → Type} [Monad m] [Overflow m], m α} (h : Exact r P) :
    P (Id.run r) := by
  obtain ⟨a, -, hmachine, ha⟩ := h
  have hrun : Id.run r = a := hmachine
  rw [hrun]
  exact ha

/-- The checked reading ends with the value that the machine computes. -/
theorem eq_some {r : ∀ {m : Type → Type} [Monad m] [Overflow m], m α} (h : Exact r P) :
    (r : Option α) = some (Id.run r) := by
  obtain ⟨a, hchecked, hmachine, -⟩ := h
  have hrun : Id.run r = a := hmachine
  rw [hrun]
  exact hchecked

end Exact

/-! ### Rules for words -/

namespace Word

variable {x y : UInt64}

theorem add_exact (h : x.toNat + y.toNat < 2 ^ 64) :
    Exact (add x y) fun z => z.toNat = x.toNat + y.toNat :=
  .outcome (decide_eq_true h) (by rw [UInt64.toNat_add, Nat.mod_eq_of_lt h])

theorem sub_exact (h : y.toNat ≤ x.toNat) :
    Exact (sub x y) fun z => z.toNat = x.toNat - y.toNat :=
  .outcome (decide_eq_true h) (UInt64.toNat_sub_of_le _ _ h)

theorem mul_exact (h : x.toNat * y.toNat < 2 ^ 64) :
    Exact (mul x y) fun z => z.toNat = x.toNat * y.toNat :=
  .outcome (decide_eq_true h) (by rw [UInt64.toNat_mul, Nat.mod_eq_of_lt h])

/-- The product with a constant `y`, given as a number so that it is linear in `x`. -/
theorem mul_const_exact (n : Nat) (hy : y.toNat = n) (h : x.toNat * n < 2 ^ 64) :
    Exact (mul x y) fun z => z.toNat = x.toNat * n := by
  subst hy
  exact mul_exact h

end Word

/-! ### Rules for accumulators -/

namespace Wide

variable {x y : Wide}

theorem add_exact (h : x.toNat + y.toNat < 2 ^ 128) :
    Exact (add x y) fun z => z.toNat = x.toNat + y.toNat :=
  .outcome (decide_eq_true h) (by rw [BitVec.toNat_add, Nat.mod_eq_of_lt h])

theorem narrow_exact (h : x.toNat < 2 ^ 64) :
    Exact (narrow x) fun w => w.toNat = x.toNat :=
  .outcome (decide_eq_true h) (by rw [UInt64.toNat_ofNat', Nat.mod_eq_of_lt h])

theorem sum₃_exact {a b c : Wide} (h : a.toNat + b.toNat + c.toNat < 2 ^ 128) :
    Exact (sum₃ a b c) fun z => z.toNat = a.toNat + b.toNat + c.toNat := by
  refine (add_exact (x := a) (y := b) (by omega)).bind fun ab hab => ?_
  rw [← hab] at h ⊢
  exact add_exact h

theorem sum₅_exact {a b c d e : Wide}
    (h : a.toNat + b.toNat + c.toNat + d.toNat + e.toNat < 2 ^ 128) :
    Exact (sum₅ a b c d e) fun z =>
      z.toNat = a.toNat + b.toNat + c.toNat + d.toNat + e.toNat := by
  refine (sum₃_exact (by omega)).bind fun abc habc => ?_
  refine (add_exact (by omega)).bind fun abcd habcd => ?_
  rw [← habc, ← habcd] at h ⊢
  exact add_exact h

end Wide

/-! ### Rules for signed digits -/

namespace Digit

variable {x y : Int8}

theorem add_exact (h : -128 ≤ x.toInt + y.toInt ∧ x.toInt + y.toInt < 128) :
    Exact (add x y) fun z => z.toInt = x.toInt + y.toInt :=
  .outcome (decide_eq_true h) (by
    rw [Int8.toInt_add, Int.bmod_eq_of_le (by omega) (by omega)])

theorem sub_exact (h : -128 ≤ x.toInt - y.toInt ∧ x.toInt - y.toInt < 128) :
    Exact (sub x y) fun z => z.toInt = x.toInt - y.toInt :=
  .outcome (decide_eq_true h) (by
    rw [Int8.toInt_sub, Int.bmod_eq_of_le (by omega) (by omega)])

theorem mul_exact (h : -128 ≤ x.toInt * y.toInt ∧ x.toInt * y.toInt < 128) :
    Exact (mul x y) fun z => z.toInt = x.toInt * y.toInt :=
  .outcome (decide_eq_true h) (by
    rw [Int8.toInt_mul, Int.bmod_eq_of_le (by omega) (by omega)])

/-- The product with a constant `y`, given as a number so that it is linear in `x`. -/
theorem mul_const_exact (n : Int) (hy : y.toInt = n)
    (h : -128 ≤ x.toInt * n ∧ x.toInt * n < 128) :
    Exact (mul x y) fun z => z.toInt = x.toInt * n := by
  subst hy
  exact mul_exact h

end Digit

end Edwards25519
