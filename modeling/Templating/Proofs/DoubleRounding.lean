/-
Rounding to the precision of a double.

A double has 53 binary digits. An integer with more of them is rounded to the nearest multiple of a power of two, of two
that are as near to the one with an even quotient (`nearest`). The rounding of a double gets there by shifting its
mantissa and keeping two bits of what falls off (`roundedMantissa_shift`).

- `nearest_of_le`, `nearest_close`, `nearest_mono`: up to `2 ^ 53` an integer is itself, it moves by half a step at
  most, and rounding keeps the order.
- `roundWithAccuracy_fits`, `roundWithAccuracy_carries`: a rounded mantissa has 53 binary digits, or it is the next
  power of two and goes to a greater exponent.
-/
import Mathlib

namespace Templating.Double

/-! ## Rounding of integers -/

/-- `a / 2 ^ k` to the nearest integer, and of two to the even one -/
def halfEven (a k : Nat) : Nat :=
  if 2 * (a % 2 ^ k) < 2 ^ k then a / 2 ^ k
  else if 2 * (a % 2 ^ k) = 2 ^ k then a / 2 ^ k + a / 2 ^ k % 2
  else a / 2 ^ k + 1

/-- the binary digits that an integer has beyond 53 -/
def excess (n : Nat) : Nat :=
  n.log2 - 52

/-- the nearest integer with at most 53 binary digits in front of zeros -/
def nearest (n : Nat) : Nat :=
  halfEven n (excess n) * 2 ^ excess n

theorem le_halfEven (a k : Nat) : a / 2 ^ k ≤ halfEven a k := by
  unfold halfEven
  split_ifs <;> omega

theorem halfEven_le (a k : Nat) : halfEven a k ≤ a / 2 ^ k + 1 := by
  unfold halfEven
  split_ifs <;> omega

/-- rounding goes at most half a step up or down -/
theorem halfEven_close (a k : Nat) :
    2 * (halfEven a k * 2 ^ k) ≤ 2 * a + 2 ^ k ∧ 2 * a ≤ 2 * (halfEven a k * 2 ^ k) + 2 ^ k := by
  have hparts : a / 2 ^ k * 2 ^ k + a % 2 ^ k = a := Nat.div_add_mod' a (2 ^ k)
  have hup : (a / 2 ^ k + 1) * 2 ^ k = a / 2 ^ k * 2 ^ k + 2 ^ k := Nat.succ_mul _ _
  have hless : a % 2 ^ k < 2 ^ k := Nat.mod_lt _ (Nat.two_pow_pos k)
  unfold halfEven
  split_ifs
  · omega
  · rcases Nat.mod_two_eq_zero_or_one (a / 2 ^ k) with heven | hodd
    · rw [heven, Nat.add_zero]
      omega
    · rw [hodd, hup]
      omega
  · omega

theorem halfEven_mono {a b : Nat} (h : a ≤ b) (k : Nat) : halfEven a k ≤ halfEven b k := by
  rcases Nat.lt_or_eq_of_le (Nat.div_le_div_right (c := 2 ^ k) h) with hlt | heq
  · calc halfEven a k ≤ a / 2 ^ k + 1 := halfEven_le a k
      _ ≤ b / 2 ^ k := hlt
      _ ≤ halfEven b k := le_halfEven b k
  · have ha := Nat.div_add_mod a (2 ^ k)
    have hb := Nat.div_add_mod b (2 ^ k)
    rw [heq] at ha
    have hrest : a % 2 ^ k ≤ b % 2 ^ k := by omega
    unfold halfEven
    rw [heq]
    split_ifs <;> omega

/-- what is scaled up is rounded alike -/
theorem halfEven_scaled (a k j : Nat) : halfEven (a * 2 ^ j) (k + j) = halfEven a k := by
  have hpos : 0 < 2 ^ j := Nat.two_pow_pos j
  have hquotient : a * 2 ^ j / 2 ^ (k + j) = a / 2 ^ k := by
    rw [Nat.pow_add, Nat.mul_div_mul_right _ _ hpos]
  have hrest : a * 2 ^ j % 2 ^ (k + j) = a % 2 ^ k * 2 ^ j := by
    rw [Nat.pow_add, Nat.mul_mod_mul_right]
  have hless : 2 * (a % 2 ^ k * 2 ^ j) < 2 ^ k * 2 ^ j ↔ 2 * (a % 2 ^ k) < 2 ^ k := by
    rw [← Nat.mul_assoc, Nat.mul_lt_mul_right hpos]
  have hsame : 2 * (a % 2 ^ k * 2 ^ j) = 2 ^ k * 2 ^ j ↔ 2 * (a % 2 ^ k) = 2 ^ k := by
    rw [← Nat.mul_assoc, Nat.mul_left_inj hpos.ne']
  unfold halfEven
  rw [hquotient, hrest, Nat.pow_add]
  simp only [hless, hsame]

theorem halfEven_zero (a : Nat) : halfEven a 0 = a := by
  simp [halfEven, Nat.mod_one]

theorem log2_le_of_lt {n k : Nat} (h : n < 2 ^ (k + 1)) : n.log2 ≤ k := by
  rcases Nat.eq_zero_or_pos n with rfl | hpos
  · exact Nat.zero_le k
  · exact Nat.le_of_lt_succ ((Nat.log2_lt hpos.ne').2 h)

theorem log2_scaled {n : Nat} (hn : n ≠ 0) (j : Nat) : (n * 2 ^ j).log2 = n.log2 + j := by
  obtain ⟨hlow, hhigh⟩ := (Nat.log2_eq_iff hn).1 rfl
  refine (Nat.log2_eq_iff (Nat.mul_ne_zero hn (Nat.two_pow_pos j).ne')).2 ⟨?_, ?_⟩
  · rw [Nat.pow_add]
    exact Nat.mul_le_mul_right _ hlow
  · rw [Nat.add_right_comm, Nat.pow_add]
    exact Nat.mul_lt_mul_of_pos_right hhigh (Nat.two_pow_pos j)

/-- a number of `k + 53` binary digits is rounded to 53 of them, or to the next power of two -/
theorem halfEven_range {a k : Nat} (ha : a ≠ 0) (hlog : a.log2 = 52 + k) :
    2 ^ 52 ≤ halfEven a k ∧ halfEven a k ≤ 2 ^ 53 := by
  obtain ⟨hlow, hhigh⟩ := (Nat.log2_eq_iff ha).1 hlog
  have hpos : 0 < 2 ^ k := Nat.two_pow_pos k
  have hquotient : 2 ^ 52 ≤ a / 2 ^ k := by
    rw [Nat.le_div_iff_mul_le hpos, ← Nat.pow_add]
    exact hlow
  have hbelow : a / 2 ^ k < 2 ^ 53 := by
    rw [Nat.div_lt_iff_lt_mul hpos, ← Nat.pow_add, show 53 + k = 52 + k + 1 by omega]
    exact hhigh
  exact ⟨hquotient.trans (le_halfEven a k), (halfEven_le a k).trans hbelow⟩

/-- **Up to `2 ^ 53`** an integer is itself. -/
theorem nearest_of_le {n : Nat} (h : n ≤ 2 ^ 53) : nearest n = n := by
  rcases Nat.lt_or_eq_of_le h with hlt | rfl
  · have hexcess : excess n = 0 := Nat.sub_eq_zero_of_le (log2_le_of_lt hlt)
    rw [nearest, hexcess, halfEven_zero, Nat.pow_zero, Nat.mul_one]
  · decide +kernel

/-- **Rounding moves** an integer by at most half a step. -/
theorem nearest_close (n : Nat) : 2 * nearest n ≤ 2 * n + 2 ^ excess n ∧ 2 * n ≤ 2 * nearest n + 2 ^ excess n :=
  halfEven_close n (excess n)

-- half way between two, to the one with the even quotient
example : nearest (2 ^ 53 + 1) = 2 ^ 53 ∧ nearest (2 ^ 53 + 3) = 2 ^ 53 + 4 := by decide +kernel

/-- an integer of 64 bits moves by at most 512 -/
theorem nearest_close_of_le {n : Nat} (h : n ≤ 2 ^ 63) : nearest n ≤ n + 512 ∧ n ≤ nearest n + 512 := by
  rcases Nat.lt_or_eq_of_le h with hlt | rfl
  · have hexcess : excess n ≤ 10 := Nat.sub_le_sub_right (log2_le_of_lt hlt) 52
    have hstep : 2 ^ excess n ≤ 2 ^ 10 := Nat.pow_le_pow_right (by decide) hexcess
    have hclose := nearest_close n
    omega
  · decide +kernel

/-- what is rounded stays between the powers of two around it -/
theorem nearest_range {n : Nat} (hn : n ≠ 0) : 2 ^ n.log2 ≤ nearest n ∧ nearest n ≤ 2 ^ (n.log2 + 1) := by
  obtain ⟨hlow, hhigh⟩ := (Nat.log2_eq_iff hn).1 rfl
  rcases Nat.lt_or_ge n.log2 52 with hsmall | hlarge
  · have hle : n ≤ 2 ^ 53 := hhigh.le.trans (Nat.pow_le_pow_right (by decide) (by omega))
    rw [nearest_of_le hle]
    exact ⟨hlow, hhigh.le⟩
  · have hlog : n.log2 = 52 + excess n := by
      unfold excess
      omega
    obtain ⟨hmin, hmax⟩ := halfEven_range hn hlog
    have hpower : 2 ^ (n.log2 + 1) = 2 ^ 53 * 2 ^ excess n := by
      rw [← Nat.pow_add]
      congr 1
      omega
    have hpower' : 2 ^ n.log2 = 2 ^ 52 * 2 ^ excess n := by rw [← Nat.pow_add, ← hlog]
    rw [hpower, hpower', nearest]
    exact ⟨Nat.mul_le_mul_right _ hmin, Nat.mul_le_mul_right _ hmax⟩

/-- **Rounding keeps the order.** -/
theorem nearest_mono {m n : Nat} (h : m ≤ n) : nearest m ≤ nearest n := by
  rcases Nat.eq_zero_or_pos m with rfl | hm
  · rw [nearest_of_le (Nat.zero_le _)]
    exact Nat.zero_le _
  · have hn : 0 < n := hm.trans_le h
    have hlog : m.log2 ≤ n.log2 := (Nat.le_log2 hn.ne').2 ((Nat.log2_self_le hm.ne').trans h)
    rcases Nat.lt_or_eq_of_le hlog with hlt | heq
    · calc nearest m ≤ 2 ^ (m.log2 + 1) := (nearest_range hm.ne').2
        _ ≤ 2 ^ n.log2 := Nat.pow_le_pow_right (by decide) hlt
        _ ≤ nearest n := (nearest_range hn.ne').1
    · have hexcess : excess m = excess n := by rw [excess, excess, heq]
      rw [nearest, nearest, hexcess]
      exact Nat.mul_le_mul_right _ (halfEven_mono h _)

/-! ## The shifts of the rounding -/

open Float.Model Float.Model.UnpackedFloat Float.Model.UnpackedFloat.ExtendedMantissa

/-- Shifting keeps the quotient, and of the rest whether it is a half and whether it is more or less than that. -/
theorem shifted (a k : Nat) : ofMantissaAndAccuracy a .exact >>> k =
    ⟨a / 2 ^ k, decide (2 ^ k ≤ 2 * (a % 2 ^ k)), decide (a % 2 ^ k ≠ 0 ∧ 2 * (a % 2 ^ k) ≠ 2 ^ k)⟩ := by
  induction k with
  | zero => simp [ofMantissaAndAccuracy, HShiftRight.hShiftRight, Nat.repeat, Nat.mod_one]
  | succ k ih =>
    have hstep : ofMantissaAndAccuracy a .exact >>> (k + 1) =
        (ofMantissaAndAccuracy a .exact >>> k).shiftRightOne := rfl
    have hless : a % 2 ^ k < 2 ^ k := Nat.mod_lt _ (Nat.two_pow_pos k)
    have hrest : a % 2 ^ (k + 1) = a % 2 ^ k + 2 ^ k * (a / 2 ^ k % 2) := by rw [Nat.pow_succ, Nat.mod_mul]
    rw [hstep, ih, shiftRightOne, hrest, Nat.pow_succ, Nat.div_div_eq_div_mul, ExtendedMantissa.mk.injEq]
    refine ⟨rfl, ?_, ?_⟩
    all_goals
      rw [Bool.eq_iff_iff]
      rcases Nat.mod_two_eq_zero_or_one (a / 2 ^ k) with hbit | hbit <;> simp [hbit] <;> omega

theorem roundedMantissa_shift (a k : Nat) : (ofMantissaAndAccuracy a .exact >>> k).roundedMantissa = halfEven a k := by
  rw [shifted, roundedMantissa, halfEven]
  rcases Nat.lt_trichotomy (2 * (a % 2 ^ k)) (2 ^ k) with hlt | heq | hgt
  · rw [if_pos hlt, decide_eq_false hlt.not_ge]
    generalize decide (a % 2 ^ k ≠ 0 ∧ 2 * (a % 2 ^ k) ≠ 2 ^ k) = sticky
    cases sticky <;> rfl
  · have hexact : ¬ (a % 2 ^ k ≠ 0 ∧ 2 * (a % 2 ^ k) ≠ 2 ^ k) := fun h => h.2 heq
    rw [if_neg heq.not_lt, if_pos heq, decide_eq_true heq.ge, decide_eq_false hexact]
    rfl
  · have hmore : a % 2 ^ k ≠ 0 ∧ 2 * (a % 2 ^ k) ≠ 2 ^ k := by
      have := Nat.two_pow_pos k
      omega
    rw [if_neg hgt.not_gt, if_neg hgt.ne', decide_eq_true hgt.le, decide_eq_true hmore]
    rfl

theorem targetExponent_binary64 (x : Int) : Format.binary64.targetExponent x = max (x - 53) (-1074) := by
  simp [Format.targetExponent, Format.minExponent, Format.mantissaBits]

/-- a mantissa with `k + 53` binary digits is shifted by `k` -/
theorem shiftToTargetExponent_eq {a k : Nat} (hlog : a.log2 = 52 + k) {e : Int} (he : -1074 ≤ e + k) :
    shiftToTargetExponent Format.binary64 a e .exact = (ofMantissaAndAccuracy a .exact >>> k, e + k) := by
  have hshift : (Format.binary64.targetExponent (totalExponent a e) - e).toNat = k := by
    rw [targetExponent_binary64, totalExponent, hlog]
    omega
  simp only [shiftToTargetExponent, shiftToExponent, hshift]

theorem log2_of_range {m : Nat} (hlow : 2 ^ 52 ≤ m) (hhigh : m < 2 ^ 53) : m.log2 = 52 :=
  (Nat.log2_eq_iff (by omega)).2 ⟨hlow, hhigh⟩

theorem roundWithAccuracy_fits {a k : Nat} (hlog : a.log2 = 52 + k) {e : Int} (he : -1074 ≤ e + k) {s : Sign}
    (hpos : 0 < halfEven a k) (hlow : 2 ^ 52 ≤ halfEven a k) (hhigh : halfEven a k < 2 ^ 53) :
    roundWithAccuracy Format.binary64 s a e .exact = .finite s (halfEven a k) (e + k) hpos := by
  have hlog' : (halfEven a k).log2 = 52 + 0 := log2_of_range hlow hhigh
  have hsecond := shiftToTargetExponent_eq hlog' (e := e + k) (by simpa using he)
  have hmantissa : (ofMantissaAndAccuracy (halfEven a k) .exact >>> 0).mantissa = halfEven a k := by
    rw [shifted, Nat.pow_zero, Nat.div_one]
  simp only [roundWithAccuracy, shiftToTargetExponent_eq hlog he, roundedMantissa_shift, hsecond, hmantissa,
    dif_neg hpos.ne']
  simp

theorem roundWithAccuracy_carries {a k : Nat} (hlog : a.log2 = 52 + k) {e : Int} (he : -1074 ≤ e + k) {s : Sign}
    (hcarry : halfEven a k = 2 ^ 53) :
    roundWithAccuracy Format.binary64 s a e .exact = .finite s (2 ^ 52) (e + k + 1) (by decide) := by
  have hlog' : Nat.log2 (2 ^ 53) = 52 + 1 := Nat.log2_two_pow
  have hsecond := shiftToTargetExponent_eq hlog' (e := e + k) (by omega)
  have hmantissa : (ofMantissaAndAccuracy (2 ^ 53) .exact >>> 1).mantissa = 2 ^ 52 :=
    (congrArg ExtendedMantissa.mantissa (shifted _ _)).trans (by decide)
  simp only [roundWithAccuracy, shiftToTargetExponent_eq hlog he, roundedMantissa_shift, hcarry, hsecond, hmantissa]
  simp

/-- the digits that rounding leaves, whatever zeros the shift finds behind the number -/
theorem halfEven_digits {n j k : Nat} (hlog : n.log2 + j = 52 + k) :
    halfEven (n * 2 ^ j) k * 2 ^ n.log2 = nearest n * 2 ^ 52 := by
  rcases Nat.lt_or_ge n.log2 52 with hsmall | hlarge
  · have hbelow : n < 2 ^ (n.log2 + 1) := Nat.lt_log2_self
    have hle : n ≤ 2 ^ 53 := hbelow.le.trans (Nat.pow_le_pow_right (by decide) (by omega))
    have hzeros : n * 2 ^ j = n * 2 ^ (52 - n.log2) * 2 ^ k := by
      rw [Nat.mul_assoc, ← Nat.pow_add]
      congr 2
      omega
    have hdigits : halfEven (n * 2 ^ j) k = n * 2 ^ (52 - n.log2) := by
      have := halfEven_scaled (n * 2 ^ (52 - n.log2)) 0 k
      rwa [Nat.zero_add, halfEven_zero, ← hzeros] at this
    rw [hdigits, nearest_of_le hle, Nat.mul_assoc, ← Nat.pow_add]
    congr 2
    omega
  · have hshift : k = excess n + j := by
      unfold excess
      omega
    have hpower : 2 ^ n.log2 = 2 ^ excess n * 2 ^ 52 := by
      rw [← Nat.pow_add]
      congr 1
      unfold excess
      omega
    rw [hshift, halfEven_scaled, hpower, nearest, Nat.mul_assoc]

end Templating.Double
