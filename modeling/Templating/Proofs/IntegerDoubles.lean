/-
The doubles of integers.

The double of an integer holds the integer that is nearest with at most 53 binary digits (`holds_ofInt`): a smaller one
gets zeros behind it, a greater one is rounded. The order of such doubles, sign before exponent before mantissa, is
the order of what they hold (`Holds.compare`).

- `held_of_le`, `held_mono`, `held_close`: up to `2 ^ 53` an integer is held as it is, the order of integers is never
  turned, and an integer of 64 bits moves by 512 at most.
- `Holds.lt`, `Holds.beq`: how two doubles compare that hold integers.
-/
import Templating.Proofs.DoubleRounding

namespace Templating.Double

open Float.Model Float.Model.UnpackedFloat

/-! ## What the doubles of integers hold -/

/-- the integer that the double of an integer holds -/
def held : Int → Int
  | .ofNat n => nearest n
  | .negSucc n => -nearest (n + 1)

theorem held_of_le {i : Int} (h : i.natAbs ≤ 2 ^ 53) : held i = i := by
  cases i with
  | ofNat n => exact congrArg Int.ofNat (nearest_of_le h)
  | negSucc n => exact congrArg (fun m : Nat => -(m : Int)) (nearest_of_le h)

theorem held_mono {i j : Int} (h : i ≤ j) : held i ≤ held j := by
  cases i with
  | ofNat m =>
    cases j with
    | ofNat n => exact Int.ofNat_le.2 (nearest_mono (Int.ofNat_le.1 h))
    | negSucc n => exact absurd (h.trans_lt (Int.negSucc_lt_zero n)) (Int.not_lt.2 (Int.natCast_nonneg m))
  | negSucc m =>
    cases j with
    | ofNat n =>
      simp only [held]
      omega
    | negSucc n =>
      have hmono : nearest (n + 1) ≤ nearest (m + 1) := nearest_mono (by omega)
      simp only [held]
      omega

/-- an integer of 64 bits is held up to 512 -/
theorem held_close {i : Int} (h : i.natAbs ≤ 2 ^ 63) : held i ≤ i + 512 ∧ i ≤ held i + 512 := by
  cases i with
  | ofNat n =>
    have hclose := nearest_close_of_le (n := n) h
    simp only [held, Int.ofNat_eq_natCast]
    omega
  | negSucc n =>
    have hclose := nearest_close_of_le (n := n + 1) h
    simp only [held]
    omega

/-! ## Doubles that hold integers -/

/-- the double holds the integer, in 53 binary digits that start with a one -/
inductive Holds : UnpackedFloat → Int → Prop
  | zero (sign : Sign) : Holds (.zero sign) 0
  | finite (sign : Sign) {m k : Nat} {v : Int} (hpos : 0 < m) (hlow : 2 ^ 52 ≤ m) (hhigh : m < 2 ^ 53)
    (hk : k ≤ 1023) (hv : v * 2 ^ 52 = sign.apply (m * 2 ^ k : Nat)) : Holds (.finite sign m (k - 52) hpos) v

/-- mantissas that start with a one are compared behind their exponents -/
theorem compare_scaled {m m' k k' : Nat} (hlow : 2 ^ 52 ≤ m) (hhigh : m < 2 ^ 53) (hlow' : 2 ^ 52 ≤ m')
    (hhigh' : m' < 2 ^ 53) :
    (compare ((k : Int) - 52) ((k' : Int) - 52)).then (compare m m') = compare (m * 2 ^ k) (m' * 2 ^ k') := by
  have hbelow : ∀ {m m' k k' : Nat}, m < 2 ^ 53 → 2 ^ 52 ≤ m' → k < k' → m * 2 ^ k < m' * 2 ^ k' := by
    intro m m' k k' hm hm' hk
    calc m * 2 ^ k < 2 ^ 53 * 2 ^ k := Nat.mul_lt_mul_of_pos_right hm (Nat.two_pow_pos k)
      _ = 2 ^ 52 * 2 ^ (k + 1) := by rw [← Nat.pow_add, ← Nat.pow_add, show 53 + k = 52 + (k + 1) by omega]
      _ ≤ 2 ^ 52 * 2 ^ k' := Nat.mul_le_mul_left _ (Nat.pow_le_pow_right (by decide) hk)
      _ ≤ m' * 2 ^ k' := Nat.mul_le_mul_right _ hm'
  rcases Nat.lt_trichotomy k k' with hlt | rfl | hgt
  · rw [compare_lt_iff_lt.2 (show (k : Int) - 52 < k' - 52 by omega), compare_lt_iff_lt.2 (hbelow hhigh hlow' hlt)]
    rfl
  · have hmono : StrictMono fun m : Nat => m * 2 ^ k :=
      fun _ _ h => Nat.mul_lt_mul_of_pos_right h (Nat.two_pow_pos k)
    rw [compare_eq_iff_eq.2 rfl, Ordering.then, ← cmp_eq_compare, ← cmp_eq_compare]
    exact (hmono.cmp_map_eq m m').symm
  · rw [compare_gt_iff_gt.2 (show (k' : Int) - 52 < k - 52 by omega), compare_gt_iff_gt.2 (hbelow hhigh' hlow hgt)]
    rfl

/-- what is scaled up keeps its order -/
theorem compare_scaledUp (v w : Int) : compare (v * 2 ^ 52) (w * 2 ^ 52) = compare v w := by
  have hmono : StrictMono fun v : Int => v * 2 ^ 52 := fun _ _ h => Int.mul_lt_mul_of_pos_right h (by decide)
  rw [← cmp_eq_compare, ← cmp_eq_compare]
  exact hmono.cmp_map_eq v w

theorem compare_natCast (x y : Nat) : compare (x : Int) (y : Int) = compare x y := by
  have hmono : StrictMono fun x : Nat => (x : Int) := fun _ _ h => Int.ofNat_lt.2 h
  rw [← cmp_eq_compare, ← cmp_eq_compare]
  exact hmono.cmp_map_eq x y

/-- turning both signs turns the order -/
theorem compare_turned (v w : Int) : compare (-v) (-w) = (compare v w).swap := by
  have hanti : StrictAnti fun v : Int => -v := fun _ _ h => Int.neg_lt_neg h
  rw [← cmp_eq_compare, ← cmp_eq_compare, cmp_swap]
  exact hanti.cmp_map_eq v w

theorem Holds.pos {m : Nat} {e : Int} {hm : 0 < m} {v : Int} (h : Holds (.finite .positive m e hm) v) : 0 < v := by
  cases h with
  | @finite _ _ k _ _ _ _ _ hv =>
    have hscaled : (0 : Int) < (m * 2 ^ k : Nat) := Int.natCast_pos.2 (Nat.mul_pos hm (Nat.two_pow_pos k))
    rw [Sign.apply] at hv
    omega

theorem Holds.neg {m : Nat} {e : Int} {hm : 0 < m} {v : Int} (h : Holds (.finite .negative m e hm) v) : v < 0 := by
  cases h with
  | @finite _ _ k _ _ _ _ _ hv =>
    have hscaled : (0 : Int) < (m * 2 ^ k : Nat) := Int.natCast_pos.2 (Nat.mul_pos hm (Nat.two_pow_pos k))
    rw [Sign.apply] at hv
    omega

/-- with the same sign the exponents decide, and behind them the mantissas -/
theorem Holds.compare_positive {m m' : Nat} {e e' : Int} {hm : 0 < m} {hm' : 0 < m'} {v w : Int}
    (hf : Holds (.finite .positive m e hm) v) (hg : Holds (.finite .positive m' e' hm') w) :
    (compare e e').then (compare m m') = compare v w := by
  cases hf with
  | finite _ _ hlow hhigh _ hv =>
    cases hg with
    | finite _ _ hlow' hhigh' _ hw =>
      rw [compare_scaled hlow hhigh hlow' hhigh', ← compare_scaledUp v w, hv, hw, Sign.apply, Sign.apply,
        compare_natCast]

theorem Holds.compare_negative {m m' : Nat} {e e' : Int} {hm : 0 < m} {hm' : 0 < m'} {v w : Int}
    (hf : Holds (.finite .negative m e hm) v) (hg : Holds (.finite .negative m' e' hm') w) :
    ((compare e e').then (compare m m')).swap = compare v w := by
  cases hf with
  | finite _ _ hlow hhigh _ hv =>
    cases hg with
    | finite _ _ hlow' hhigh' _ hw =>
      rw [compare_scaled hlow hhigh hlow' hhigh', ← compare_scaledUp v w, hv, hw, Sign.apply, Sign.apply,
        compare_turned, compare_natCast]

/-- **The order of the doubles** is the order of what they hold. -/
theorem Holds.compare {f g : UnpackedFloat} {v w : Int} (hf : Holds f v) (hg : Holds g w) :
    f.compare g = some (Ord.compare v w) := by
  cases hf with
  | zero =>
    cases hg with
    | zero => rw [compare_eq_iff_eq.2 rfl, UnpackedFloat.compare]
    | finite s hpos hlow hhigh hk hw =>
      have hg := Holds.finite s hpos hlow hhigh hk hw
      cases s with
      | negative => rw [compare_gt_iff_gt.2 hg.neg, UnpackedFloat.compare]
      | positive => rw [compare_lt_iff_lt.2 hg.pos, UnpackedFloat.compare]
  | finite s hpos hlow hhigh hk hv =>
    have hf := Holds.finite s hpos hlow hhigh hk hv
    cases hg with
    | zero =>
      cases s with
      | negative => rw [compare_lt_iff_lt.2 hf.neg, UnpackedFloat.compare]
      | positive => rw [compare_gt_iff_gt.2 hf.pos, UnpackedFloat.compare]
    | finite s' hpos' hlow' hhigh' hk' hw =>
      have hg := Holds.finite s' hpos' hlow' hhigh' hk' hw
      cases s <;> cases s'
      · rw [UnpackedFloat.compare, hf.compare_negative hg]
      · rw [UnpackedFloat.compare, compare_lt_iff_lt.2 (hf.neg.trans hg.pos)]
      · rw [UnpackedFloat.compare, compare_gt_iff_gt.2 (hg.neg.trans hf.pos)]
      · rw [UnpackedFloat.compare, hf.compare_positive hg]

/-! ## Rounding and packing -/

/-- rounding a mantissa of more than 53 binary digits gives a double of the integer that the rest stands for -/
theorem holds_round {n j k : Nat} {e : Int} (hn : n ≠ 0) (hlog : n.log2 + j = 52 + k) (he : e = -j)
    (hsmall : n.log2 < 1023) :
    Holds (roundWithAccuracy Format.binary64 .positive (n * 2 ^ j) e .exact) (nearest n) := by
  have hscaled : n * 2 ^ j ≠ 0 := Nat.mul_ne_zero hn (Nat.two_pow_pos j).ne'
  have hlog' : (n * 2 ^ j).log2 = 52 + k := by rw [log2_scaled hn, hlog]
  have hdigits := halfEven_digits hlog
  obtain ⟨hlow, hhigh⟩ := halfEven_range hscaled hlog'
  have hexponent : e + k = (n.log2 : Int) - 52 := by omega
  rcases Nat.lt_or_eq_of_le hhigh with hfits | hcarry
  · rw [roundWithAccuracy_fits hlog' (by omega) (by omega) hlow hfits]
    simp only [hexponent]
    refine .finite .positive _ hlow hfits hsmall.le ?_
    rw [hdigits]
    exact (Int.natCast_mul _ _).symm
  · have hexponent' : e + k + 1 = ((n.log2 + 1 : Nat) : Int) - 52 := by omega
    rw [roundWithAccuracy_carries hlog' (by omega) hcarry]
    simp only [hexponent']
    refine .finite .positive _ le_rfl (by decide) hsmall ?_
    have hsame : 2 ^ 52 * 2 ^ (n.log2 + 1) = halfEven (n * 2 ^ j) k * 2 ^ n.log2 := by
      rw [hcarry, ← Nat.pow_add, ← Nat.pow_add]
      congr 1
      omega
    rw [hsame, hdigits]
    exact (Int.natCast_mul _ _).symm

/-- the implicit one in front of the digits that are kept -/
theorem toNat_implicit {m : Nat} (hlow : 2 ^ 52 ≤ m) (hhigh : m < 2 ^ 53) :
    (1#1 ++ BitVec.ofNat 52 m).toNat = m := by
  have hkept : (BitVec.ofNat 52 m).toNat = m % 2 ^ 52 := BitVec.toNat_ofNat m 52
  rw [BitVec.toNat_append, ← Nat.shiftLeft_add_eq_or_of_lt (BitVec.isLt _), Nat.shiftLeft_eq, hkept]
  show 1 * 2 ^ 52 + m % 2 ^ 52 = m
  omega

/-- what a double with a leading one is packed into -/
theorem pack_leadingOne {s : Sign} {m k : Nat} (hpos : 0 < m) (hlow : 2 ^ 52 ≤ m) (hhigh : m < 2 ^ 53) (hk : k ≤ 1023) :
    UnpackedFloat.pack Format.binary64 (.finite s m (k - 52) hpos) =
      packComponents Format.binary64 s (BitVec.ofNat 11 (k + 1023)) (BitVec.ofNat 52 m) := by
  have hlog : m.log2 + 1 = Format.binary64.mantissaBits := by
    rw [log2_of_range hlow hhigh]
    rfl
  have hbiased : ((k : Int) - 52 + Format.binary64.exponentBias + Format.binary64.mantissaBitsWithoutImplicit).toNat =
      k + 1023 := by
    simp [Format.exponentBias]
    omega
  have hfits : ¬ 2 ^ Format.binary64.exponentBits ≤ k + 1023 + 1 := by
    simp
    omega
  simp only [UnpackedFloat.pack, hlog, hbiased, if_neg hfits, if_pos]

/-- what bits with an exponent that is neither the least nor the greatest are unpacked into -/
theorem unpack_leadingOne (s : Sign) {e : BitVec 11} (hleast : e ≠ 0#11) (hgreatest : e ≠ -1#11) {m : BitVec 52}
    (hpos : 0 < (1#1 ++ m).toNat) :
    UnpackedFloat.unpack Format.binary64 (packComponents Format.binary64 s e m) =
      .finite s (1#1 ++ m).toNat (e.toNat - 1075) hpos := by
  simp only [UnpackedFloat.unpack, unpackMantissa_packComponents, unpackExponent_packComponents,
    unpackSign_packComponents, Sign.ofBitVec_toBitVec, if_neg hleast, if_neg hgreatest]
  rfl

/-- a double that holds an integer is kept by packing it into bits -/
theorem Holds.unpack_pack {f : UnpackedFloat} {v : Int} (h : Holds f v) :
    UnpackedFloat.unpack Format.binary64 (UnpackedFloat.pack Format.binary64 f) = f := by
  cases h with
  | zero s => cases s <;> rfl
  | @finite s m k _ hpos hlow hhigh hk hv =>
    have hexponent : (BitVec.ofNat 11 (k + 1023)).toNat = k + 1023 := by
      simp
      omega
    have hleast : BitVec.ofNat 11 (k + 1023) ≠ 0#11 := by
      intro h
      have := congrArg BitVec.toNat h
      simp [hexponent] at this
    have hgreatest : BitVec.ofNat 11 (k + 1023) ≠ -1#11 := by
      intro h
      have := congrArg BitVec.toNat h
      simp [hexponent] at this
      omega
    have hvalue : ((k + 1023 : Nat) : Int) - 1075 = k - 52 := by omega
    have hmantissa := toNat_implicit hlow hhigh
    rw [pack_leadingOne hpos hlow hhigh hk, unpack_leadingOne s hleast hgreatest (hmantissa.symm ▸ hpos)]
    simp only [hmantissa, hexponent, hvalue]

/-! ## The conversion -/

theorem Holds.unpack_model {f : UnpackedFloat} {v : Int} (h : Holds f v) : (Float.Model.pack f).unpack = f :=
  h.unpack_pack

theorem unpack_one : (Float.Model.ofNat 1).unpack = .finite .positive (2 ^ 52) (-52) (by decide) := by
  rfl

/-- a product with one is not rounded -/
theorem Holds.mul_one {f : UnpackedFloat} {v : Int} (h : Holds f v) :
    mul Format.binary64 f (.finite .positive (2 ^ 52) (-52) (by decide)) = f := by
  cases h with
  | zero s => cases s <;> rfl
  | @finite s m k _ hpos hlow hhigh hk hv =>
    have hsign : s * .positive = s := by cases s <;> rfl
    have hlog : (m * 2 ^ 52).log2 = 52 + 52 := by rw [log2_scaled hpos.ne', log2_of_range hlow hhigh]
    have hdigits : halfEven (m * 2 ^ 52) 52 = m := by
      have := halfEven_scaled m 0 52
      rwa [Nat.zero_add, halfEven_zero] at this
    have hvalue : (k : Int) - 52 + -52 + (52 : Nat) = k - 52 := by omega
    rw [UnpackedFloat.mul, hsign, roundWithAccuracy_fits hlog (by omega) (by omega) (by omega) (by omega)]
    simp only [hdigits, hvalue]

/-- what a natural number is converted to, below `2 ^ 53` and from there on -/
theorem ofNat_small {n : Nat} (h : n < 2 ^ 53) : Float.ofNat n = ⟨.mul (.ofNat n) (.ofNat 1)⟩ := by
  have hfits : n.toUInt64.toNat = n := UInt64.toNat_ofNat_of_lt' (h.trans (by decide))
  rw [Float.ofNat]
  show Float.ofScientific n false 0 = _
  rw [Float.ofScientific, dif_pos ⟨h, by decide⟩]
  show Float.ofModel (Float.Model.mul (.ofUInt64 n.toUInt64) _) = _
  rw [Float.Model.ofUInt64, UnpackedFloat.ofUInt64, hfits]
  rfl

theorem ofNat_large {n : Nat} (h : 2 ^ 53 ≤ n) : Float.ofNat n = ⟨.ofScientific n 0⟩ := by
  rw [Float.ofNat]
  show Float.ofScientific n false 0 = _
  rw [Float.ofScientific, dif_neg (fun hsmall => h.not_gt hsmall.1)]
  rfl

/-- a natural number below `2 ^ 53` gets zeros until it has 53 binary digits -/
theorem holds_ofNat_small {n : Nat} (h : n < 2 ^ 53) : Holds (UnpackedFloat.ofNat Format.binary64 n) (nearest n) := by
  rcases Nat.eq_zero_or_pos n with rfl | hpos
  · rw [nearest_of_le (Nat.zero_le _)]
    exact .zero .positive
  · have hlog : n.log2 ≤ 52 := log2_le_of_lt h
    have hsign : compare (n : Int) 0 = .gt := compare_gt_iff_gt.2 (Int.natCast_pos.2 hpos)
    have hshift : ((0 : Int) - Format.binary64.targetExponent (totalExponent n 0)).toNat = 52 - n.log2 := by
      rw [targetExponent_binary64, totalExponent]
      omega
    rw [UnpackedFloat.ofNat, UnpackedFloat.ofInt, UnpackedFloat.normalize, hsign]
    simp only [UnpackedFloat.round, decreaseExponent, Int.toNat_natCast, hshift, Nat.shiftLeft_eq]
    exact holds_round (k := 0) hpos.ne' (by omega) (by omega) (by omega)

/-- a greater one gets 53 zeros, and the product with one rounds it -/
theorem holds_ofNat_large {n : Nat} (h : 2 ^ 53 ≤ n) (hsmall : n.log2 < 1023) :
    Holds (UnpackedFloat.ofScientific Format.binary64 n 0) (nearest n) := by
  have hn : n ≠ 0 := by omega
  have hlog : 53 ≤ n.log2 := (Nat.le_log2 hn).2 h
  have hnear : ¬ (0 : Int) > 2 ^ Format.binary64.exponentBits := by decide
  have hnear' : ¬ (0 : Int) < -((2 ^ Format.binary64.exponentBits : Int) + n.log2) := by
    have : (0 : Int) < 2 ^ Format.binary64.exponentBits := by decide
    omega
  have hproduct : n <<< Format.binary64.mantissaBits * 10 ^ (0 : Int).toNat = n * 2 ^ 53 := by
    rw [Nat.shiftLeft_eq, Int.toNat_zero, Nat.pow_zero, Nat.mul_one]
    rfl
  rw [UnpackedFloat.ofScientific, dif_neg hn, if_neg hnear, if_neg hnear', if_pos le_rfl, UnpackedFloat.mul, hproduct]
  exact holds_round (j := 53) (k := n.log2 + 1) hn (by omega) rfl hsmall

theorem holds_ofNat {n : Nat} (hsmall : n.log2 < 1023) : Holds (Float.ofNat n).toModel.unpack (nearest n) := by
  rcases Nat.lt_or_ge n (2 ^ 53) with h | h
  · have hfactor : (Float.Model.ofNat n).unpack = _ := (holds_ofNat_small h).unpack_model
    rw [ofNat_small h, Float.Model.mul, hfactor, unpack_one, (holds_ofNat_small h).mul_one,
      (holds_ofNat_small h).unpack_model]
    exact holds_ofNat_small h
  · rw [ofNat_large h, Float.Model.ofScientific, (holds_ofNat_large h hsmall).unpack_model]
    exact holds_ofNat_large h hsmall

theorem Holds.negated {f : UnpackedFloat} {v : Int} (h : Holds f v) : Holds f.neg (-v) := by
  cases h with
  | zero s => exact .zero _
  | finite s hpos hlow hhigh hk hv =>
    refine .finite _ hpos hlow hhigh hk ?_
    rw [Int.neg_mul, hv]
    cases s
    · exact Int.neg_neg _
    · rfl

/-- **What the double of an integer holds**: the integer with at most 53 binary digits that is nearest. -/
theorem holds_ofInt {i : Int} (h : i.natAbs.log2 < 1023) : Holds (Float.ofInt i).toModel.unpack (held i) := by
  cases i with
  | ofNat n => exact holds_ofNat h
  | negSucc n =>
    have hturned := (holds_ofNat (n := n + 1) h).negated
    show Holds (Float.Model.pack (Float.ofNat (n + 1)).toModel.unpack.neg).unpack _
    rw [hturned.unpack_model]
    exact hturned

/-! ## Comparison -/

variable {x y : Float} {v w : Int}

/-- **A double is less** than another when it holds less. -/
theorem Holds.lt (hx : Holds x.toModel.unpack v) (hy : Holds y.toModel.unpack w) : x < y ↔ v < w := by
  have hless : x < y ↔ UnpackedFloat.compare x.toModel.unpack y.toModel.unpack = some .lt := by
    show decide (_ = true) = true ↔ _
    rw [decide_eq_true_iff]
    exact beq_iff_eq
  rw [hless, hx.compare hy, Option.some_inj, compare_lt_iff_lt]

/-- **A double equals** another when it holds the same. -/
theorem Holds.beq (hx : Holds x.toModel.unpack v) (hy : Holds y.toModel.unpack w) : (x == y) = decide (v = w) := by
  have hequal : (x == y) = (UnpackedFloat.compare x.toModel.unpack y.toModel.unpack == some .eq) := rfl
  rw [hequal, hx.compare hy, Bool.eq_iff_iff, beq_iff_eq, Option.some_inj, compare_eq_iff_eq, decide_eq_true_iff]

end Templating.Double
