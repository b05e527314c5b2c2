import Edwards25519.Proofs.Bytes
import Edwards25519.Scalar
import Mathlib.Algebra.BigOperators.Fin
import Mathlib.Tactic.Ring

/-!
# Scalars, their bytes and their digits

A scalar and its 32 bytes stand for the same number (`Edwards25519.Scalar.value_ofBytes`,
`Edwards25519.Scalar.value_toBytes`), and the number determines either of them
(`Edwards25519.Scalar.value_inj`). No bit is lost in either direction and none is held twice, so
that strings of 32 bytes and scalars are in one-to-one correspondence
(`Edwards25519.Scalar.packing_one_to_one`). Comparing scalars is comparing their words, which are
not reduced to any canonical form beforehand. That this is comparing the numbers depends on the
width of the words, four of 56 bits and one of 32: of words with more bits than that, two different
rows could stand for one number. The widths are part of the type, so that whoever makes a scalar
has to see to them, and a scalar selected from two is one of them.

The 64 digits of a scalar from 0 to 15 are moved to the range from -8 to 7, each carrying
at most one into the next, and what is carried out of the last one is 0 or 1
(`Edwards25519.recodeM_exact`). No digit overflows on the way and the number stays the
same (`Edwards25519.Scalar.recode_spec`). The digits are used in two passes, one over the even
places and one over the odd ones. In each of them consecutive digits differ by a factor of 256 in
weight (`Edwards25519.Recoding.placesValue`).
-/

namespace Edwards25519

/-! ### Words and bytes -/

namespace Scalar

variable {s t : Scalar}

theorem toNat_low56 (x : UInt64) : (low56 x).toNat = x.toNat % 2 ^ 56 :=
  Word.toNat_and_mask x 56 rfl

/-- The words with their weights. -/
theorem value_eq (s : Scalar) : s.value = s.w₀.toNat + 2 ^ 56 * s.w₁.toNat +
    2 ^ 112 * s.w₂.toNat + 2 ^ 168 * s.w₃.toNat + 2 ^ 224 * s.w₄.toNat := by
  have hbase : base = 2 ^ 56 := rfl
  rw [value, hbase]
  omega

theorem value_inj : s.value = t.value ↔ s = t := by
  constructor
  · intro h
    have hs₀ : s.w₀.toNat < 2 ^ 56 := s.w₀_lt
    have hs₁ : s.w₁.toNat < 2 ^ 56 := s.w₁_lt
    have hs₂ : s.w₂.toNat < 2 ^ 56 := s.w₂_lt
    have hs₃ : s.w₃.toNat < 2 ^ 56 := s.w₃_lt
    have ht₀ : t.w₀.toNat < 2 ^ 56 := t.w₀_lt
    have ht₁ : t.w₁.toNat < 2 ^ 56 := t.w₁_lt
    have ht₂ : t.w₂.toNat < 2 ^ 56 := t.w₂_lt
    have ht₃ : t.w₃.toNat < 2 ^ 56 := t.w₃_lt
    rw [value_eq, value_eq] at h
    exact Scalar.ext (UInt64.toNat_inj.1 (by omega)) (UInt64.toNat_inj.1 (by omega))
      (UInt64.toNat_inj.1 (by omega)) (UInt64.toNat_inj.1 (by omega))
      (UInt64.toNat_inj.1 (by omega))
  · rintro rfl
    rfl

/-- The scalar of 32 bytes is their number. -/
theorem value_ofBytes (b : Bytes32) : (ofBytes b).value = b.value := by
  have hb := b.value_lt
  have h₀ : (b.word 0).toNat = b.value / 2 ^ 0 % 2 ^ 64 := b.toNat_word 0
  have h₁ : (b.word 8).toNat = b.value / 2 ^ 64 % 2 ^ 64 := b.toNat_word 8
  have h₂ : (b.word 16).toNat = b.value / 2 ^ 128 % 2 ^ 64 := b.toNat_word 16
  have h₃ : (b.word 24).toNat = b.value / 2 ^ 192 % 2 ^ 64 := b.toNat_word 24
  have hw₁ : ((b.word 0 >>> 56) ||| (b.word 8 <<< 8)).toNat =
      (b.word 0).toNat / 2 ^ 56 + 2 ^ 8 * (b.word 8).toNat % 2 ^ 64 :=
    Word.toNat_shiftRight_or_shiftLeft _ _ 56 8 (by decide) (by decide) (b.word 0).toNat_lt
  have hw₂ : ((b.word 8 >>> 48) ||| (b.word 16 <<< 16)).toNat =
      (b.word 8).toNat / 2 ^ 48 + 2 ^ 16 * (b.word 16).toNat % 2 ^ 64 :=
    Word.toNat_shiftRight_or_shiftLeft _ _ 48 16 (by decide) (by decide) (b.word 8).toNat_lt
  have hw₃ : ((b.word 16 >>> 40) ||| (b.word 24 <<< 24)).toNat =
      (b.word 16).toNat / 2 ^ 40 + 2 ^ 24 * (b.word 24).toNat % 2 ^ 64 :=
    Word.toNat_shiftRight_or_shiftLeft _ _ 40 24 (by decide) (by decide) (b.word 16).toNat_lt
  have hw₄ : (b.word 24 >>> 32).toNat = (b.word 24).toNat / 2 ^ 32 :=
    Word.toNat_shiftRight _ rfl (by decide)
  simp only [value_eq, ofBytes, toNat_low56, hw₁, hw₂, hw₃, hw₄]
  omega

/-- The number whose digits to base `2⁶⁴` are the given words, the least significant one first. -/
def wordsValue : List UInt64 → ℕ
  | [] => 0
  | w :: ws => w.toNat + 2 ^ 64 * wordsValue ws

/-- The words of 64 bits make up the number. -/
theorem value_toWords (s : Scalar) : wordsValue s.toWords.toList = s.value := by
  have hs₀ : s.w₀.toNat < 2 ^ 56 := s.w₀_lt
  have hs₁ : s.w₁.toNat < 2 ^ 56 := s.w₁_lt
  have hs₂ : s.w₂.toNat < 2 ^ 56 := s.w₂_lt
  have hs₃ : s.w₃.toNat < 2 ^ 56 := s.w₃_lt
  have hs₄ : s.w₄.toNat < 2 ^ 32 := s.w₄_lt
  have hw₀ : (s.w₀ ||| (s.w₁ <<< 56)).toNat = s.w₀.toNat + 2 ^ 56 * s.w₁.toNat % 2 ^ 64 :=
    Word.toNat_or_shiftLeft _ _ 56 (by decide) hs₀
  have hw₁ : ((s.w₁ >>> 8) ||| (s.w₂ <<< 48)).toNat =
      s.w₁.toNat / 2 ^ 8 + 2 ^ 48 * s.w₂.toNat % 2 ^ 64 :=
    Word.toNat_shiftRight_or_shiftLeft _ _ 8 48 (by decide) (by decide) hs₁
  have hw₂ : ((s.w₂ >>> 16) ||| (s.w₃ <<< 40)).toNat =
      s.w₂.toNat / 2 ^ 16 + 2 ^ 40 * s.w₃.toNat % 2 ^ 64 :=
    Word.toNat_shiftRight_or_shiftLeft _ _ 16 40 (by decide) (by decide) hs₂
  have hw₃ : ((s.w₃ >>> 24) ||| (s.w₄ <<< 32)).toNat =
      s.w₃.toNat / 2 ^ 24 + 2 ^ 32 * s.w₄.toNat % 2 ^ 64 :=
    Word.toNat_shiftRight_or_shiftLeft _ _ 24 32 (by decide) (by decide) hs₃
  change (s.w₀ ||| (s.w₁ <<< 56)).toNat + 2 ^ 64 * (((s.w₁ >>> 8) ||| (s.w₂ <<< 48)).toNat +
    2 ^ 64 * (((s.w₂ >>> 16) ||| (s.w₃ <<< 40)).toNat +
      2 ^ 64 * (((s.w₃ >>> 24) ||| (s.w₄ <<< 32)).toNat + 2 ^ 64 * 0))) = _
  rw [hw₀, hw₁, hw₂, hw₃, value_eq]
  omega

/-- The bytes of a scalar are those of its number. -/
theorem value_toBytes (s : Scalar) : s.toBytes.value = s.value := by
  rw [toBytes, Bytes32.value_ofWords, ← value_toWords]
  change _ = s.toWords[0].toNat + 2 ^ 64 * (s.toWords[1].toNat + 2 ^ 64 * (s.toWords[2].toNat +
    2 ^ 64 * (s.toWords[3].toNat + 2 ^ 64 * 0)))
  omega

end Scalar

/-! ### Single digits -/

/-- A shift to the right divides and rounds down. -/
theorem Digit.toInt_shiftRight (x : Int8) {k : Int8} {n : ℕ} (hk : (k.toBitVec.smod 8).toNat = n) :
    (x >>> k).toInt = x.toInt / (2 ^ n : ℕ) := by
  have hshift : (x >>> k).toBitVec = x.toBitVec.sshiftRight n := by
    rw [Int8.toBitVec_shiftRight, BitVec.sshiftRight_eq', hk]
  rw [← Int8.toInt_toBitVec, hshift, BitVec.toInt_sshiftRight, Int.shiftRight_eq_div_pow]
  rfl

/-- A byte below 128 is the same number as a signed digit. -/
theorem Digit.toInt_toInt8 {b : UInt8} (hb : b.toNat < 128) : b.toInt8.toInt = b.toNat := by
  have hvalue : b.toInt8.toInt = (b.toNat : Int).bmod (2 ^ 8) := BitVec.toInt_eq_toNat_bmod _
  rw [hvalue, Int.bmod_eq_of_le (by omega) (by omega)]

/-- The digit in a place is found by a division and a remainder. -/
theorem Digit.toInt_ofWord (w : UInt64) {j : ℕ} (hj : j < 16) :
    (ofWord w j).toInt = (w.toNat / 16 ^ j % 16 : ℕ) := by
  have hplace : (4 * j.toUInt64).toNat = 4 * j := by
    have hj64 : j.toUInt64.toNat = j := UInt64.toNat_ofNat_of_lt' (hj.trans (by decide))
    have h4 : (4 : UInt64).toNat = 4 := rfl
    rw [UInt64.toNat_mul, hj64, h4]
    exact Nat.mod_eq_of_lt (by omega)
  have hshift : (w >>> (4 * j.toUInt64)).toNat = w.toNat / 16 ^ j := by
    rw [Word.toNat_shiftRight w hplace (by omega), pow_mul]
    rfl
  have hdigit : ((w >>> (4 * j.toUInt64)) &&& 0xf).toUInt8.toNat = w.toNat / 16 ^ j % 16 := by
    rw [UInt64.toNat_toUInt8, Word.toNat_and_mask _ 4 rfl, hshift]
    omega
  rw [ofWord, toInt_toInt8 (by omega), hdigit]

namespace Recoding

/-! ### Rows of digits -/

theorem digitsValue_append (ds es : List Int8) :
    digitsValue (ds ++ es) = digitsValue ds + 16 ^ ds.length * digitsValue es := by
  induction ds with
  | nil => simp [digitsValue]
  | cons d ds ih =>
    simp only [List.cons_append, digitsValue, ih, List.length_cons, pow_succ']
    ring

/-- The number that digits stand for is their sum, with the powers of 16 as weights. -/
theorem digitsValue_eq_sum (ds : List Int8) :
    digitsValue ds = ∑ i : Fin ds.length, ds[i].toInt * 16 ^ (i : ℕ) := by
  induction ds with
  | nil => rfl
  | cons d ds ih =>
    rw [digitsValue, ih, Finset.mul_sum]
    refine Eq.trans ?_ (Fin.sum_univ_succ _).symm
    simp [pow_succ', mul_left_comm]

/-- The lowest digits of a word make up its remainder. -/
theorem digitsValue_ofWord (w : UInt64) {n : ℕ} (hn : n ≤ 16) :
    digitsValue ((List.range n).map (Digit.ofWord w)) = (w.toNat % 16 ^ n : ℕ) := by
  induction n with
  | zero => simp [digitsValue, Nat.mod_one]
  | succ n ih =>
    rw [List.range_succ, List.map_append, digitsValue_append, ih (by omega), Nat.mod_pow_succ]
    simp [digitsValue, Digit.toInt_ofWord w hn]

/-- The number that signed digits to base 256 stand for, the least significant one first. -/
def placesValue : List Int8 → Int
  | [] => 0
  | d :: ds => d.toInt + 256 * placesValue ds

/-- **The two passes**: the digits in the even places, and sixteen times those in the odd
places, make up the number. -/
theorem placesValue_evens_odds (ds : List Int8) :
    placesValue (evens ds) + 16 * placesValue (odds ds) = digitsValue ds := by
  fun_induction evens ds with
  | case1 => rfl
  | case2 d => simp [placesValue, odds, digitsValue]
  | case3 d e ds ih =>
    simp only [placesValue, odds, digitsValue, ← ih]
    ring

theorem length_evens (ds : List Int8) : (evens ds).length = (ds.length + 1) / 2 := by
  fun_induction evens ds with
  | case1 => decide
  | case2 d => simp
  | case3 d e ds ih =>
    simp only [List.length_cons, ih]
    omega

theorem length_odds (ds : List Int8) : (odds ds).length = ds.length / 2 := by
  fun_induction odds ds with
  | case1 => decide
  | case2 d => simp
  | case3 d e ds ih =>
    simp only [List.length_cons, ih]
    omega

theorem evens_subset (ds : List Int8) : evens ds ⊆ ds := by
  fun_induction evens ds with
  | case1 => exact List.Subset.refl _
  | case2 d => exact List.Subset.refl _
  | case3 d e ds ih =>
    exact List.cons_subset_cons d (List.Subset.trans ih (List.subset_cons_self e ds))

theorem odds_subset (ds : List Int8) : odds ds ⊆ ds := by
  fun_induction odds ds with
  | case1 => exact List.Subset.refl _
  | case2 d => exact List.nil_subset _
  | case3 d e ds ih =>
    exact List.Subset.trans (List.cons_subset_cons e ih) (List.subset_cons_self d (e :: ds))

end Recoding

/-! ### Recoding -/

/-- What a recoding of the digits `ds` is, with `carry` coming into the first of them. -/
structure Recoding.Represents (r : Recoding) (carry : Int) (ds : List Int8) : Prop where
  length : r.digits.length = ds.length
  digit_mem : ∀ d ∈ r.digits, -8 ≤ d.toInt ∧ d.toInt < 8
  carry_mem : 0 ≤ r.carry.toInt ∧ r.carry.toInt ≤ 1
  value : r.value = carry + digitsValue ds

theorem Recoding.Represents.carry_eq {r : Recoding} {carry : Int} {ds : List Int8}
    (h : r.Represents carry ds) : r.carry = 0 ∨ r.carry = 1 := by
  obtain ⟨hlow, hhigh⟩ := h.carry_mem
  rw [← Int8.toInt_inj, ← Int8.toInt_inj]
  change r.carry.toInt = 0 ∨ r.carry.toInt = 1
  omega

/-- **Recoding** digits from 0 to 15 overflows nowhere and keeps the number. -/
theorem recodeM_exact (ds : List Int8) (hds : ∀ d ∈ ds, 0 ≤ d.toInt ∧ d.toInt < 16)
    (carry : Int8) (hcarry : 0 ≤ carry.toInt ∧ carry.toInt ≤ 1) :
    Exact (recodeM carry ds) fun r => r.Represents carry.toInt ds := by
  induction ds generalizing carry with
  | nil =>
    refine Exact.pure ⟨rfl, fun d hd => absurd hd List.not_mem_nil, hcarry, ?_⟩
    simp [Recoding.value, Recoding.toList, Recoding.digitsValue]
  | cons d ds ih =>
    have hd := hds d List.mem_cons_self
    have h8 : (8 : Int8).toInt = 8 := rfl
    -- The digit with its carry is at most 16, and so the carry out of it is 0 or 1 again.
    refine (Digit.add_exact (by omega)).bind fun s hs => ?_
    refine (Digit.add_exact (by omega)).bind fun t ht => ?_
    have hc : (t >>> 4).toInt = t.toInt / 16 := Digit.toInt_shiftRight t rfl
    refine (Digit.mul_const_exact 16 rfl (by omega)).bind fun q hq => ?_
    refine (Digit.sub_exact (by omega)).bind fun e he => ?_
    have htail := ih (fun x hx => hds x (List.mem_cons_of_mem d hx)) (t >>> 4) (by omega)
    refine htail.bind fun rest hrest => ?_
    have hvalue := hrest.value
    refine Exact.pure ⟨?_, ?_, hrest.carry_mem, ?_⟩
    · rw [List.length_cons, List.length_cons, hrest.length]
    · intro x hx
      rcases List.mem_cons.1 hx with rfl | hx
      · omega
      · exact hrest.digit_mem x hx
    · simp only [Recoding.value, Recoding.toList] at hvalue
      simp only [Recoding.value, Recoding.toList, List.cons_append, Recoding.digitsValue, hvalue]
      omega

theorem Scalar.nibbles_mem (s : Scalar) : ∀ d ∈ s.nibbles, 0 ≤ d.toInt ∧ d.toInt < 16 := by
  intro d hd
  obtain ⟨w, -, hw⟩ := List.mem_flatMap.1 hd
  obtain ⟨j, hj, rfl⟩ := List.mem_map.1 hw
  rw [Digit.toInt_ofWord w (List.mem_range.1 hj)]
  omega

theorem Scalar.length_nibbles (s : Scalar) : s.nibbles.length = 64 := by
  simp [nibbles, List.length_flatMap, List.map_const']

/-- Sixteen digits of each word make up the number of the words. -/
theorem Recoding.digitsValue_words (ws : List UInt64) :
    digitsValue (ws.flatMap fun w => (List.range 16).map (Digit.ofWord w)) =
      Scalar.wordsValue ws := by
  induction ws with
  | nil => rfl
  | cons w ws ih =>
    have hlt : w.toNat < 16 ^ 16 := w.toNat_lt
    rw [List.flatMap_cons, digitsValue_append, ih, digitsValue_ofWord w le_rfl,
      Nat.mod_eq_of_lt hlt, List.length_map, List.length_range, Scalar.wordsValue]
    omega

theorem Scalar.digitsValue_nibbles (s : Scalar) : Recoding.digitsValue s.nibbles = s.value := by
  rw [nibbles, Recoding.digitsValue_words, value_toWords]

/-- **The recoding of a scalar** has 64 digits, a carry of 0 or 1, and its number. -/
theorem Scalar.recode_spec (s : Scalar) :
    s.recode.digits.length = 64 ∧ (∀ d ∈ s.recode.digits, -8 ≤ d.toInt ∧ d.toInt < 8) ∧
      (s.recode.carry = 0 ∨ s.recode.carry = 1) ∧ s.recode.value = s.value := by
  have h : s.recode.Represents 0 s.nibbles :=
    (recodeM_exact s.nibbles s.nibbles_mem 0 (by decide)).run
  refine ⟨?_, h.digit_mem, h.carry_eq, ?_⟩
  · rw [h.length, s.length_nibbles]
  · rw [h.value, zero_add, s.digitsValue_nibbles]

/-! ### Small numbers -/

theorem littleEndian_replicate_zero (k : ℕ) : littleEndian (List.replicate k 0) = 0 := by
  induction k with
  | zero => rfl
  | succ k ih => simp [List.replicate_succ, littleEndian, ih]

/-- The bytes of a 64-bit number, followed by 24 zero bytes. -/
def Bytes32.ofUInt64 (n : UInt64) : Bytes32 :=
  ⟨(littleEndianBytes 8 n.toNat ++ List.replicate 24 0).toArray, by simp⟩

theorem Bytes32.toList_ofUInt64 (n : UInt64) :
    (ofUInt64 n).toList = littleEndianBytes 8 n.toNat ++ List.replicate 24 0 := rfl

theorem Bytes32.value_ofUInt64 (n : UInt64) : (ofUInt64 n).value = n.toNat := by
  have hn : n.toNat < 256 ^ 8 := n.toNat_lt
  rw [value, toList_ofUInt64, littleEndian_append, littleEndian_littleEndianBytes,
    littleEndian_replicate_zero, Nat.mod_eq_of_lt hn, Nat.mul_zero, Nat.add_zero]

/-! ### Digits to base 16 -/

/-- A digit of a number is found by a division and a remainder, if the digits are below 16. -/
theorem Recoding.getElem_eq_digit (ds : List Int8) (hds : ∀ d ∈ ds, 0 ≤ d.toInt ∧ d.toInt < 16)
    (i : ℕ) (hi : i < ds.length) : ds[i].toInt = digitsValue ds / 16 ^ i % 16 := by
  induction ds generalizing i with
  | nil => exact absurd hi (Nat.not_lt_zero i)
  | cons d ds ih =>
    have hd := hds d List.mem_cons_self
    rw [digitsValue]
    cases i with
    | zero =>
      rw [List.getElem_cons_zero, pow_zero, Int.ediv_one]
      omega
    | succ i =>
      have hdiv : (d.toInt + 16 * digitsValue ds) / 16 = digitsValue ds := by omega
      rw [List.getElem_cons_succ, ih (fun x hx => hds x (List.mem_cons_of_mem d hx)) i
        (Nat.lt_of_succ_lt_succ hi), pow_succ', ← Int.ediv_ediv_of_nonneg (by norm_num), hdiv]

namespace Scalar

variable {s t : Scalar}

/-- **The nibbles are the 64 digits to base 16** of the number. -/
theorem nibbles_eq (s : Scalar) :
    s.nibbles.map Int8.toInt = (List.range 64).map fun i => (s.value : ℤ) / 16 ^ i % 16 := by
  refine List.ext_getElem (by simp [s.length_nibbles]) fun i hi _ => ?_
  rw [List.length_map] at hi
  rw [List.getElem_map, List.getElem_map, List.getElem_range,
    Recoding.getElem_eq_digit s.nibbles s.nibbles_mem i hi, s.digitsValue_nibbles]

/-! ### One to one -/

theorem toBytes_ofBytes (b : Bytes32) : (ofBytes b).toBytes = b := by
  rw [← Bytes32.value_inj, value_toBytes, value_ofBytes]

theorem ofBytes_toBytes (s : Scalar) : ofBytes s.toBytes = s := by
  rw [← value_inj, value_ofBytes, value_toBytes]

theorem toBytes_inj : s.toBytes = t.toBytes ↔ s = t := by
  rw [← Bytes32.value_inj, value_toBytes, value_toBytes, value_inj]

/-- A 64-bit number as a scalar is the number. -/
theorem value_ofUInt64 (n : UInt64) : (ofUInt64 n).value = n.toNat := by
  have hn : n.toNat < 2 ^ 64 := n.toNat_lt
  have hhigh : (n >>> 56).toNat = n.toNat / 2 ^ 56 := Word.toNat_shiftRight n rfl (by decide)
  simp only [value_eq, ofUInt64, toNat_low56, hhigh, UInt64.toNat_zero]
  omega

/-- Equality of scalars is equality of their words, one by one. -/
theorem beq_iff_words : (s == t) = true ↔
    s.w₀ = t.w₀ ∧ s.w₁ = t.w₁ ∧ s.w₂ = t.w₂ ∧ s.w₃ = t.w₃ ∧ s.w₄ = t.w₄ := by
  rw [beq_iff_eq, Scalar.ext_iff]

/-- Selecting a scalar word by word, each of them by the same condition, is selecting the scalar. -/
theorem select_words (s t : Scalar) (c : Bool) :
    (select s t c).w₀ = select s.w₀ t.w₀ c ∧ (select s t c).w₁ = select s.w₁ t.w₁ c ∧
      (select s t c).w₂ = select s.w₂ t.w₂ c ∧ (select s t c).w₃ = select s.w₃ t.w₃ c ∧
      (select s t c).w₄ = select s.w₄ t.w₄ c :=
  ⟨apply_select w₀ s t c, apply_select w₁ s t c, apply_select w₂ s t c, apply_select w₃ s t c,
    apply_select w₄ s t c⟩

/-- **Packing loses nothing.** The scalar of 32 bytes has words of 56 and 32 bits and is written as
the same bytes again, and its nibbles are the digits of the number of the bytes to base 16. The
scalar of a 64-bit number is that of the bytes of the number with zeros behind. And any two scalars
have the same words, one by one, exactly if they are written as the same bytes; a scalar selected
from the two is written as the bytes selected from theirs. -/
theorem packing_one_to_one (b : Bytes32) (n : UInt64) (s t : Scalar) (c : Bool) :
    ((ofBytes b).toBytes = b ∧ ofBytes s.toBytes = s) ∧
      ((ofBytes b).w₀.toNat < 2 ^ 56 ∧ (ofBytes b).w₁.toNat < 2 ^ 56 ∧
        (ofBytes b).w₂.toNat < 2 ^ 56 ∧ (ofBytes b).w₃.toNat < 2 ^ 56 ∧
        (ofBytes b).w₄.toNat < 2 ^ 32) ∧
      (ofBytes b).nibbles.map Int8.toInt =
        (List.range 64).map (fun i => (b.value : ℤ) / 16 ^ i % 16) ∧
      (ofUInt64 n = ofBytes (.ofUInt64 n) ∧
        (Bytes32.ofUInt64 n).toList = littleEndianBytes 8 n.toNat ++ List.replicate 24 0) ∧
      ((s == t) = true ↔
        s.w₀ = t.w₀ ∧ s.w₁ = t.w₁ ∧ s.w₂ = t.w₂ ∧ s.w₃ = t.w₃ ∧ s.w₄ = t.w₄) ∧
      ((s == t) = true ↔ s.toBytes = t.toBytes) ∧
      (select s t c).toBytes = select s.toBytes t.toBytes c := by
  refine ⟨⟨toBytes_ofBytes b, ofBytes_toBytes s⟩, ?_, ?_, ⟨?_, Bytes32.toList_ofUInt64 n⟩,
    beq_iff_words, ?_, apply_select toBytes s t c⟩
  · exact ⟨(ofBytes b).w₀_lt, (ofBytes b).w₁_lt, (ofBytes b).w₂_lt, (ofBytes b).w₃_lt,
      (ofBytes b).w₄_lt⟩
  · rw [nibbles_eq, value_ofBytes]
  · rw [← value_inj, value_ofUInt64, value_ofBytes, Bytes32.value_ofUInt64]
  · rw [beq_iff_eq, toBytes_inj]

end Scalar

end Edwards25519
