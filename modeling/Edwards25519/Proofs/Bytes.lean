import Edwards25519.Bytes
import Edwards25519.Proofs.Word

/-!
# Byte strings as numbers

A string of 32 bytes is described by the number it stands for
(`Edwards25519.Bytes32.value`), a number below `2^256` that determines the string
(`Edwards25519.Bytes32.value_inj`). Reading a word is then a division and a remainder
(`Edwards25519.Bytes32.toNat_word`), and writing four words adds them up with their
weights (`Edwards25519.Bytes32.value_ofWords`).

An encoded point keeps a sign in bit 255, the highest bit of the last byte, beside a number
in the bits below; and the parity of a number is that of its first byte. These bits too are
read and written by the number of the string (`Edwards25519.Bytes32.topBit_eq`,
`Edwards25519.Bytes32.value_setTopBit`, `Edwards25519.Bytes32.value_flipTopBit`).

Hexadecimal text spells bytes by two digits each, and either case will do for every single
digit (`Edwards25519.Hex.Spells`). So many texts spell the same bytes, but only one of them
is written in lower case (`Edwards25519.Hex.spells_iff`).
-/

namespace Edwards25519

/-! ### Numbers of a given length -/

/-- As many bytes as there are hold a number below the power of 256 with that
exponent. -/
theorem littleEndian_lt (bs : List UInt8) : littleEndian bs < 256 ^ bs.length := by
  induction bs with
  | nil => simp [littleEndian]
  | cons b bs ih =>
    have hb : b.toNat < 256 := b.toNat_lt
    simp only [littleEndian, List.length_cons, Nat.pow_succ]
    omega

/-- Cutting a number to `k` bytes is taking its remainder. -/
theorem littleEndian_littleEndianBytes (k n : Nat) :
    littleEndian (littleEndianBytes k n) = n % 256 ^ k := by
  induction k generalizing n with
  | zero => simp [littleEndianBytes, littleEndian, Nat.mod_one]
  | succ k ih =>
    rw [Nat.pow_succ, Nat.mul_comm (256 ^ k) 256, Nat.mod_mul, littleEndianBytes, littleEndian, ih,
      UInt8.toNat_ofNat']

/-! ### Parts of a string -/

theorem littleEndian_append (as bs : List UInt8) :
    littleEndian (as ++ bs) = littleEndian as + 256 ^ as.length * littleEndian bs := by
  induction as with
  | nil => simp [littleEndian]
  | cons a as ih =>
    simp only [List.cons_append, littleEndian, ih, List.length_cons, Nat.pow_succ, Nat.mul_add]
    rw [Nat.mul_comm (256 ^ as.length) 256, Nat.mul_assoc, Nat.add_assoc]

theorem littleEndian_take (k : Nat) (bs : List UInt8) :
    littleEndian (bs.take k) = littleEndian bs % 256 ^ k := by
  induction bs generalizing k with
  | nil => simp [littleEndian]
  | cons b bs ih =>
    cases k with
    | zero => simp [littleEndian, Nat.mod_one]
    | succ k =>
      have hb : b.toNat < 256 := b.toNat_lt
      have hdiv : (b.toNat + 256 * littleEndian bs) / 256 = littleEndian bs := by omega
      rw [List.take_succ_cons, littleEndian, littleEndian, ih, Nat.pow_succ,
        Nat.mul_comm (256 ^ k) 256, Nat.mod_mul, hdiv]
      omega

theorem littleEndian_drop (k : Nat) (bs : List UInt8) :
    littleEndian (bs.drop k) = littleEndian bs / 256 ^ k := by
  induction bs generalizing k with
  | nil => simp [littleEndian]
  | cons b bs ih =>
    cases k with
    | zero => simp
    | succ k =>
      have hb : b.toNat < 256 := b.toNat_lt
      have hdiv : (b.toNat + 256 * littleEndian bs) / 256 = littleEndian bs := by omega
      rw [List.drop_succ_cons, ih, littleEndian, Nat.pow_succ, Nat.mul_comm (256 ^ k) 256,
        ← Nat.div_div_eq_div_mul, hdiv]

namespace Bytes32

variable {b c : Bytes32}

/-! ### The number of a string of 32 bytes -/

theorem value_lt (b : Bytes32) : b.value < 2 ^ 256 := by
  have h := littleEndian_lt b.toList
  rw [Vector.length_toList] at h
  exact h

/-- The bytes are the digits of the number to base 256. -/
theorem toList_eq (b : Bytes32) : b.toList = littleEndianBytes 32 b.value := by
  have h := littleEndianBytes_littleEndian b.toList
  rw [Vector.length_toList] at h
  exact h.symm

theorem value_inj : b.value = c.value ↔ b = c := by
  constructor
  · intro h
    apply Vector.toList_inj.1
    rw [b.toList_eq, c.toList_eq, h]
  · rintro rfl
    rfl

/-- A byte is a digit of the number to base 256. -/
theorem toNat_getElem (b : Bytes32) (i : Nat) (hi : i < 32) :
    b[i].toNat = b.value / 256 ^ i % 256 := by
  have hdrop : b.toList.drop i = b[i] :: b.toList.drop (i + 1) := by
    rw [List.drop_eq_getElem_cons (by simpa using hi), Vector.getElem_toList]
  have hvalue := littleEndian_drop i b.toList
  have hlt : b[i].toNat < 256 := b[i].toNat_lt
  rw [hdrop, littleEndian] at hvalue
  rw [value, ← hvalue]
  omega

/-- A word read at position `i` holds the 64 bits from bit `8 i` on. -/
theorem toNat_word (b : Bytes32) (i : Fin 25) :
    (b.word i).toNat = b.value / 256 ^ i.val % 2 ^ 64 := by
  have hbyte (j : Nat) (hj : i.val + j < 32) :
      b[i.val + j].toNat = b.value / 256 ^ i.val / 2 ^ (8 * j) % 2 ^ 8 := by
    have h256 : 2 ^ (8 * j) = 256 ^ j := Nat.pow_mul 2 8 j
    rw [toNat_getElem, Nat.pow_add, ← Nat.div_div_eq_div_mul, h256]
    rfl
  -- With each byte eight more bits of the word are in their places.
  have w₀ : b[i.val].toUInt64.toNat = b.value / 256 ^ i.val % 2 ^ 8 := by
    exact (UInt8.toNat_toUInt64 _).trans (b.toNat_getElem i (by omega))
  have w₁ := Word.toNat_or_byte 8 8 rfl (by decide) w₀ (hbyte 1 (by omega))
  have w₂ := Word.toNat_or_byte 16 16 rfl (by decide) w₁ (hbyte 2 (by omega))
  have w₃ := Word.toNat_or_byte 24 24 rfl (by decide) w₂ (hbyte 3 (by omega))
  have w₄ := Word.toNat_or_byte 32 32 rfl (by decide) w₃ (hbyte 4 (by omega))
  have w₅ := Word.toNat_or_byte 40 40 rfl (by decide) w₄ (hbyte 5 (by omega))
  have w₆ := Word.toNat_or_byte 48 48 rfl (by decide) w₅ (hbyte 6 (by omega))
  exact Word.toNat_or_byte 56 56 rfl (by decide) w₆ (hbyte 7 (by omega))

/-- Four words weigh `1`, `2^64`, `2^128` and `2^192`. -/
theorem value_ofWords (w₀ w₁ w₂ w₃ : UInt64) :
    (ofWords w₀ w₁ w₂ w₃).value =
      w₀.toNat + 2 ^ 64 * w₁.toNat + 2 ^ 128 * w₂.toNat + 2 ^ 192 * w₃.toNat := by
  have h₀ : w₀.toNat < 2 ^ 64 := w₀.toNat_lt
  have h₁ : w₁.toNat < 2 ^ 64 := w₁.toNat_lt
  have h₂ : w₂.toNat < 2 ^ 64 := w₂.toNat_lt
  have h₃ : w₃.toNat < 2 ^ 64 := w₃.toNat_lt
  have hlist : (ofWords w₀ w₁ w₂ w₃).toList = littleEndianBytes 8 w₀.toNat ++
      littleEndianBytes 8 w₁.toNat ++ littleEndianBytes 8 w₂.toNat ++
      littleEndianBytes 8 w₃.toNat := rfl
  simp only [value, hlist, littleEndian_append, littleEndian_littleEndianBytes, List.length_append,
    length_littleEndianBytes]
  omega

/-! ### The ends of a string -/

/-- The first byte is the remainder modulo 256. -/
theorem toNat_first (b : Bytes32) : b.first.toNat = b.value % 256 := by
  have hfirst : b.toList.take 1 = [b.first] := by
    rw [List.take_add_one, List.take_zero, List.nil_append, List.getElem?_eq_getElem (by simp),
      Option.toList_some, Vector.getElem_toList]
    rfl
  have h := littleEndian_take 1 b.toList
  rw [hfirst] at h
  exact h

/-- The number of the string without its last byte. -/
def lowValue (b : Bytes32) : Nat :=
  littleEndian (b.toList.take 31)

theorem lowValue_lt (b : Bytes32) : b.lowValue < 256 ^ 31 := by
  have h := littleEndian_lt (b.toList.take 31)
  rwa [List.length_take, Vector.length_toList] at h

/-- A string whose first 31 bytes are those of `b` weighs its last byte by `256^31`. -/
theorem littleEndian_take_append (b : Bytes32) (v : UInt8) :
    littleEndian (b.toList.take 31 ++ [v]) = b.lowValue + 256 ^ 31 * v.toNat := by
  rw [littleEndian_append, List.length_take, Vector.length_toList]
  rfl

theorem value_eq_last (b : Bytes32) : b.value = b.lowValue + 256 ^ 31 * b.last.toNat := by
  have hlast : b.toList.drop 31 = [b.last] := by
    rw [List.drop_eq_getElem_cons (by simp), List.drop_eq_nil_of_le (by simp),
      Vector.getElem_toList]
    rfl
  rw [← littleEndian_take_append, ← hlast, List.take_append_drop, value]

theorem value_setLast (b : Bytes32) (v : UInt8) :
    (b.setLast v).value = b.lowValue + 256 ^ 31 * v.toNat := by
  rw [← littleEndian_take_append, setLast, value, Vector.toList_set,
    List.set_eq_take_append_cons_drop, if_pos (by simp), List.drop_eq_nil_of_le (by simp)]

/-! ### Bit 255 -/

theorem topBit_eq (b : Bytes32) : b.topBit = decide (2 ^ 255 ≤ b.value) := by
  have hlow := b.lowValue_lt
  have hlast : b.last.toNat < 256 := b.last.toNat_lt
  have hshift : (b.last >>> 7).toNat = b.last.toNat / 2 ^ 7 := by
    rw [UInt8.toNat_shiftRight, Nat.shiftRight_eq_div_pow]
    rfl
  rw [topBit, Bool.eq_iff_iff, beq_iff_eq, decide_eq_true_eq, ← UInt8.toNat_inj, hshift,
    value_eq_last]
  change b.last.toNat / 2 ^ 7 = 1 ↔ _
  omega

/-- Setting bit 255 replaces whatever stands there. -/
theorem value_setTopBit (b : Bytes32) (s : Bool) :
    (b.setTopBit s).value = b.value % 2 ^ 255 + bif s then 2 ^ 255 else 0 := by
  have hlow := b.lowValue_lt
  have hlast : b.last.toNat < 256 := b.last.toNat_lt
  have hmask : (b.last &&& 0x7f).toNat = b.last.toNat % 2 ^ 7 := by
    rw [UInt8.toNat_and]
    exact Nat.and_two_pow_sub_one_eq_mod _ 7
  have hset : ((b.last &&& 0x7f) ||| (bif s then 0x80 else 0)).toNat =
      b.last.toNat % 2 ^ 7 + bif s then 2 ^ 7 else 0 := by
    rw [UInt8.toNat_or, hmask]
    cases s
    · exact Nat.or_zero _
    · have h := Nat.two_pow_add_eq_or_of_lt (Nat.mod_lt b.last.toNat (by decide : 0 < 2 ^ 7)) 1
      rw [Nat.or_comm] at h
      exact h.symm.trans (Nat.add_comm _ _)
  rw [setTopBit, value_setLast, hset, value_eq_last]
  cases s
  · rw [cond_false, cond_false]
    omega
  · rw [cond_true, cond_true]
    omega

/-- Where bit 255 is free, it is set by putting it into the last byte. -/
theorem setLast_or_eq_setTopBit {b : Bytes32} (hb : b.value < 2 ^ 255) (s : Bool) :
    b.setLast (b.last ||| (bif s then 0x80 else 0)) = b.setTopBit s := by
  have hlast : b.last &&& 0x7f = b.last := by
    rw [value_eq_last] at hb
    rw [← UInt8.toNat_inj, UInt8.toNat_and]
    exact (Nat.and_two_pow_sub_one_eq_mod _ 7).trans (Nat.mod_eq_of_lt (by omega))
  rw [setTopBit, hlast]

/-- The same string with bit 255 changed. -/
def flipTopBit (b : Bytes32) : Bytes32 :=
  b.setLast (b.last ^^^ 0x80)

/-- Changing the highest bit of a byte is adding it, with the carry dropped. -/
theorem toNat_xor_0x80 (v : UInt8) : (v ^^^ 0x80).toNat = (v.toNat + 2 ^ 7) % 2 ^ 8 := by
  have hbits : ∀ w : BitVec 8, w ^^^ 0x80#8 = w + 0x80#8 := by decide
  have hadd : v ^^^ 0x80 = v + 0x80 := UInt8.toBitVec_inj.1 (hbits v.toBitVec)
  rw [hadd, UInt8.toNat_add]
  rfl

/-- Changing bit 255 is adding it, with the carry dropped. -/
theorem value_flipTopBit (b : Bytes32) : b.flipTopBit.value = (b.value + 2 ^ 255) % 2 ^ 256 := by
  have hlow := b.lowValue_lt
  have hlast : b.last.toNat < 256 := b.last.toNat_lt
  rw [flipTopBit, value_setLast, toNat_xor_0x80, value_eq_last]
  omega

end Bytes32

namespace Hex

variable {c : Char} {m n k : ℕ} {cs : List Char} {bs bs' : List UInt8}

/-! ### Hexadecimal digits -/

/-- **A hexadecimal digit**, of either case. -/
def IsDigit (c : Char) : Prop :=
  '0' ≤ c ∧ c ≤ '9' ∨ 'a' ≤ c ∧ c ≤ 'f' ∨ 'A' ≤ c ∧ c ≤ 'F'

instance (c : Char) : Decidable (IsDigit c) :=
  inferInstanceAs (Decidable (_ ∨ _))

/-- The digit stands for the number: it is written for it in one of the two cases. -/
def StandsFor (c : Char) (n : ℕ) : Prop :=
  n < 16 ∧ (c = digit .lower n ∨ c = digit .upper n)

instance (c : Char) (n : ℕ) : Decidable (StandsFor c n) :=
  inferInstanceAs (Decidable (_ ∧ _))

theorem IsDigit.toNat_le (h : IsDigit c) : c.toNat ≤ 102 := by
  rcases h with ⟨-, h⟩ | ⟨-, h⟩ | ⟨-, h⟩
  · exact Nat.le_trans h (by decide)
  · exact h
  · exact Nat.le_trans h (by decide)

/-- **A character is a digit exactly if it stands for a number.** -/
theorem isDigit_iff : IsDigit c ↔ ∃ n, StandsFor c n := by
  constructor
  · intro h
    have hall : ∀ k < 103, IsDigit (Char.ofNat k) → ∃ n < 16, StandsFor (Char.ofNat k) n := by
      decide
    obtain ⟨n, -, hn⟩ := hall c.toNat (Nat.lt_succ_of_le h.toNat_le) (by rwa [Char.ofNat_toNat])
    rw [Char.ofNat_toNat] at hn
    exact ⟨n, hn⟩
  · have hlower : ∀ n < 16, IsDigit (digit .lower n) := by decide
    have hupper : ∀ n < 16, IsDigit (digit .upper n) := by decide
    rintro ⟨n, hn, rfl | rfl⟩
    · exact hlower n hn
    · exact hupper n hn

/-- A digit stands for one number only. -/
theorem StandsFor.unique (hm : StandsFor c m) (hn : StandsFor c n) : m = n := by
  have hall : ∀ m < 16, ∀ n < 16, ∀ l ∈ [LetterCase.lower, .upper],
      StandsFor (digit l m) n → m = n := by
    decide
  obtain ⟨hlt, rfl | rfl⟩ := hm
  · exact hall m hlt n hn.1 .lower (by decide) hn
  · exact hall m hlt n hn.1 .upper (by decide) hn

/-- In lower case a digit is the one that is written in lower case. -/
theorem StandsFor.toLower (h : StandsFor c n) : c.toLower = digit .lower n := by
  have hlower : ∀ n < 16, (digit .lower n).toLower = digit .lower n := by decide
  have hupper : ∀ n < 16, (digit .upper n).toLower = digit .lower n := by decide
  obtain ⟨hn, rfl | rfl⟩ := h
  · exact hlower n hn
  · exact hupper n hn

/-! ### Strings of digits -/

/-- The two digits of a byte. -/
theorem encode_cons (l : LetterCase) (hm : m < 16) (hn : n < 16) (bs : List UInt8) :
    encode l (UInt8.ofNat (16 * m + n) :: bs) = digit l m :: digit l n :: encode l bs := by
  have hbyte : (UInt8.ofNat (16 * m + n)).toNat = 16 * m + n := by
    rw [UInt8.toNat_ofNat']
    omega
  have hhigh : (16 * m + n) / 16 = m := by omega
  have hlow : (16 * m + n) % 16 = n := by omega
  simp only [encode, List.flatMap_cons, hbyte, hhigh, hlow, List.cons_append, List.nil_append]

/-- **The text spells the bytes**: each byte by two digits, the high half first. -/
inductive Spells : List Char → List UInt8 → Prop
  /-- No text spells no bytes. -/
  | nil : Spells [] []
  /-- Two digits more spell one byte more. -/
  | cons {c d : Char} {m n : ℕ} {cs : List Char} {bs : List UInt8} (hc : StandsFor c m)
    (hd : StandsFor d n) (h : Spells cs bs) : Spells (c :: d :: cs) (UInt8.ofNat (16 * m + n) :: bs)

theorem Spells.length (h : Spells cs bs) : cs.length = 2 * bs.length := by
  induction h with
  | nil => rfl
  | cons _ _ _ ih =>
    simp only [List.length_cons, ih]
    omega

theorem Spells.isDigit (h : Spells cs bs) : ∀ c ∈ cs, IsDigit c := by
  induction h with
  | nil => simp
  | cons hc hd _ ih =>
    rintro x (_ | ⟨_, _ | ⟨_, hx⟩⟩)
    · exact isDigit_iff.2 ⟨_, hc⟩
    · exact isDigit_iff.2 ⟨_, hd⟩
    · exact ih x hx

/-- In lower case the text is the one that is written for the bytes in lower case. -/
theorem Spells.encode_eq (h : Spells cs bs) : encode .lower bs = cs.map Char.toLower := by
  induction h with
  | nil => rfl
  | cons hc hd _ ih =>
    rw [encode_cons .lower hc.1 hd.1, ih, List.map_cons, List.map_cons, hc.toLower, hd.toLower]

/-- A text spells one string of bytes only. -/
theorem Spells.unique (h : Spells cs bs) (h' : Spells cs bs') : bs = bs' := by
  induction h generalizing bs' with
  | nil =>
    cases h'
    rfl
  | cons hc hd _ ih =>
    cases h' with
    | cons hc' hd' h' => rw [hc.unique hc', hd.unique hd', ih h']

end Hex

end Edwards25519
