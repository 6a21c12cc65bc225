import Mathlib.Algebra.Order.Field.Power
import Mathlib.Algebra.Order.Field.Rat
import Mathlib.Tactic.FieldSimp
import Mathlib.Tactic.Linarith
import Mathlib.Tactic.Positivity
import Mathlib.Tactic.Ring
import TreeQuery.Number.Binary64

namespace TreeQuery

namespace Ratio

def value (a : Ratio) : ℚ := (a.num : ℚ) / a.den

theorem value_ofNat (n : Nat) : (ofNat n).value = n := by
  rw [value, ofNat, Nat.cast_one, div_one]

theorem value_div (a b : Ratio) : (a.div b).value = a.value / b.value := by
  rw [value, value, value, div, Nat.cast_mul, Nat.cast_mul, div_div_div_eq]

theorem value_nonneg (a : Ratio) : 0 ≤ a.value := by
  rw [value]
  positivity

theorem value_scaleDown (a : Ratio) (k : Int) : (a.scaleDown k).value = a.value / (2 : ℚ) ^ k := by
  rw [scaleDown]
  split
  · next hk =>
    obtain ⟨n, rfl⟩ := Int.eq_ofNat_of_zero_le hk
    rw [value, value, Int.toNat_natCast, zpow_natCast, div_div, Nat.pow_eq]
    push_cast
    rfl
  · next hk =>
    obtain ⟨n, rfl⟩ : ∃ n : Nat, k = -n := ⟨(-k).toNat, by omega⟩
    rw [value, value, neg_neg, Int.toNat_natCast, zpow_neg, zpow_natCast, div_inv_eq_mul,
      Nat.pow_eq]
    push_cast
    rw [div_mul_eq_mul_div]

theorem den_scaleDown_pos {a : Ratio} (ha : 0 < a.den) (k : Int) : 0 < (a.scaleDown k).den := by
  rw [scaleDown]
  split
  · exact Nat.mul_pos ha (Nat.pow_pos (by decide))
  · exact ha

section Whole
variable {a : Ratio} (ha : 0 < a.den)
include ha

theorem floor_lt_iff (n : Nat) : a.floor < n ↔ a.value < n := by
  have hden : (0 : ℚ) < a.den := by exact_mod_cast ha
  rw [floor, Nat.div_lt_iff_lt_mul ha, value, div_lt_iff₀ hden]
  exact_mod_cast Iff.rfl

/-- No quotient is further than a half from the whole number it is rounded to. -/
theorem abs_roundHalfEven_sub_le : |(a.roundHalfEven : ℚ) - a.value| ≤ 1 / 2 := by
  have hden : (0 : ℚ) < a.den := by exact_mod_cast ha
  have hvalue : a.value = (a.num / a.den : Nat) + ((a.num % a.den : Nat) : ℚ) / a.den := by
    have hdivmod : (a.num : ℚ) = a.den * (a.num / a.den : Nat) + (a.num % a.den : Nat) := by
      exact_mod_cast (Nat.div_add_mod a.num a.den).symm
    rw [value, hdivmod]
    field_simp
  have hlow (h : 2 * (a.num % a.den) ≤ a.den) :
      |((a.num / a.den : Nat) : ℚ) - a.value| ≤ 1 / 2 := by
    have hrest : ((a.num % a.den : Nat) : ℚ) / a.den ≤ 1 / 2 := by
      rw [div_le_div_iff₀ hden two_pos]
      exact_mod_cast (by omega : (a.num % a.den) * 2 ≤ 1 * a.den)
    have hpos : (0 : ℚ) ≤ ((a.num % a.den : Nat) : ℚ) / a.den := by positivity
    rw [hvalue, abs_le]
    constructor <;> linarith
  have hhigh (h : a.den ≤ 2 * (a.num % a.den)) :
      |((a.num / a.den + 1 : Nat) : ℚ) - a.value| ≤ 1 / 2 := by
    have hrest : 1 / 2 ≤ ((a.num % a.den : Nat) : ℚ) / a.den := by
      rw [div_le_div_iff₀ two_pos hden]
      exact_mod_cast (by omega : 1 * a.den ≤ (a.num % a.den) * 2)
    have hone : ((a.num % a.den : Nat) : ℚ) / a.den ≤ 1 := by
      rw [div_le_one hden]
      exact_mod_cast (Nat.mod_lt a.num ha).le
    rw [hvalue, abs_le]
    push_cast
    constructor <;> linarith
  unfold roundHalfEven
  dsimp only
  split
  · next h => exact hlow (by omega)
  · split
    · next h => exact hhigh (by omega)
    · have hhalf : 2 * (a.num % a.den) = a.den := by omega
      rcases Nat.mod_two_eq_zero_or_one (a.num / a.den) with h | h
      · rw [h]
        exact hlow hhalf.le
      · rw [h]
        exact hhigh hhalf.ge

theorem roundHalfEven_nearest (z : ℤ) :
    |(a.roundHalfEven : ℚ) - a.value| ≤ |(z : ℚ) - a.value| := by
  have hhalf := abs_roundHalfEven_sub_le ha
  by_cases hz : z = a.roundHalfEven
  · rw [hz]
    exact_mod_cast le_rfl
  · have hone : (1 : ℚ) ≤ |(z : ℚ) - a.roundHalfEven| := by
      have h : (1 : ℤ) ≤ |z - a.roundHalfEven| := Int.one_le_abs (sub_ne_zero.2 hz)
      exact_mod_cast h
    have htriangle := abs_sub_le (z : ℚ) a.value a.roundHalfEven
    rw [abs_sub_comm a.value] at htriangle
    linarith

theorem roundHalfEven_le {n : Nat} (h : a.value ≤ n) : a.roundHalfEven ≤ n := by
  by_contra hlt
  have hnext : (n : ℚ) + 1 ≤ a.roundHalfEven := by exact_mod_cast Nat.lt_of_not_le hlt
  have hhalf := (abs_le.1 (abs_roundHalfEven_sub_le ha)).2
  linarith

theorem le_roundHalfEven {n : Nat} (h : n ≤ a.value) : n ≤ a.roundHalfEven := by
  by_contra hlt
  have hnext : (a.roundHalfEven : ℚ) + 1 ≤ n := by exact_mod_cast Nat.lt_of_not_le hlt
  have hhalf := (abs_le.1 (abs_roundHalfEven_sub_le ha)).1
  linarith

end Whole

theorem value_lt_log {a : Ratio} (ha : 0 < a.den) :
    a.value < 2 ^ ((Nat.log2 a.num : ℤ) - Nat.log2 a.den + 1) := by
  have hden : (0 : ℚ) < a.den := by exact_mod_cast ha
  have hlow : ((2 : ℚ) ^ Nat.log2 a.den) ≤ a.den := by exact_mod_cast Nat.log2_self_le ha.ne'
  have hhigh : (a.num : ℚ) < 2 ^ (Nat.log2 a.num + 1) := by exact_mod_cast Nat.lt_log2_self
  have hsplit : ((2 : ℚ) ^ (Nat.log2 a.num + 1)) =
      2 ^ ((Nat.log2 a.num : ℤ) - Nat.log2 a.den + 1) * 2 ^ Nat.log2 a.den := by
    rw [← zpow_natCast, ← zpow_natCast, ← zpow_add₀ two_ne_zero]
    congr 1
    push_cast
    omega
  rw [value, div_lt_iff₀ hden]
  calc (a.num : ℚ) < 2 ^ (Nat.log2 a.num + 1) := hhigh
    _ = 2 ^ ((Nat.log2 a.num : ℤ) - Nat.log2 a.den + 1) * 2 ^ Nat.log2 a.den := hsplit
    _ ≤ 2 ^ ((Nat.log2 a.num : ℤ) - Nat.log2 a.den + 1) * a.den := by gcongr

section Exponent
variable {a : Ratio} (hnum : a.num ≠ 0) (ha : 0 < a.den)
include hnum ha

theorem log_lt_value : 2 ^ ((Nat.log2 a.num : ℤ) - Nat.log2 a.den - 1) < a.value := by
  have hden : (0 : ℚ) < a.den := by exact_mod_cast ha
  have hlow : ((2 : ℚ) ^ Nat.log2 a.num) ≤ a.num := by exact_mod_cast Nat.log2_self_le hnum
  have hhigh : (a.den : ℚ) < 2 ^ (Nat.log2 a.den + 1) := by exact_mod_cast Nat.lt_log2_self
  have hsplit : ((2 : ℚ) ^ Nat.log2 a.num) =
      2 ^ ((Nat.log2 a.num : ℤ) - Nat.log2 a.den - 1) * 2 ^ (Nat.log2 a.den + 1) := by
    rw [← zpow_natCast, ← zpow_natCast, ← zpow_add₀ two_ne_zero]
    congr 1
    push_cast
    omega
  rw [value, lt_div_iff₀ hden]
  calc (2 : ℚ) ^ ((Nat.log2 a.num : ℤ) - Nat.log2 a.den - 1) * a.den
      < 2 ^ ((Nat.log2 a.num : ℤ) - Nat.log2 a.den - 1) * 2 ^ (Nat.log2 a.den + 1) := by gcongr
    _ = 2 ^ Nat.log2 a.num := hsplit.symm
    _ ≤ a.num := hlow

/-- The unit in which a quotient has 53 bits before the point. -/
def unbounded (a : Ratio) : Int :=
  let guess : Int := (Nat.log2 a.num : Int) - (Nat.log2 a.den : Int) - 52
  if (a.scaleDown guess).floor < Binary64.hiddenBit then guess - 1 else guess

theorem unbounded_spec :
    a.value < 2 ^ 53 * 2 ^ a.unbounded ∧ 2 ^ 52 * 2 ^ a.unbounded ≤ a.value := by
  have hlow := log_lt_value hnum ha
  have hhigh := value_lt_log ha
  unfold unbounded
  -- the lengths of both numbers tell the unit up to one
  set guess : ℤ := (Nat.log2 a.num : ℤ) - Nat.log2 a.den - 52 with hguess
  have hpow (n : Nat) (k : ℤ) : (2 : ℚ) ^ n * 2 ^ k = 2 ^ (n + k) := by
    rw [← zpow_natCast, ← zpow_add₀ two_ne_zero]
  have hfloor : (a.scaleDown guess).floor < Binary64.hiddenBit ↔ a.value < 2 ^ 52 * 2 ^ guess := by
    rw [floor_lt_iff (den_scaleDown_pos ha guess), value_scaleDown, div_lt_iff₀ (by positivity)]
    norm_num [Binary64.hiddenBit]
  dsimp only
  split
  · next h =>
    refine ⟨?_, ?_⟩
    · calc a.value < 2 ^ 52 * 2 ^ guess := hfloor.1 h
        _ = 2 ^ 53 * 2 ^ (guess - 1) := by
          rw [hpow, hpow]
          congr 1
          push_cast
          omega
    · rw [hpow]
      refine le_trans (le_of_eq ?_) hlow.le
      congr 1
      push_cast
      omega
  · next h =>
    refine ⟨?_, not_lt.1 fun hlt => h (hfloor.2 hlt)⟩
    rw [hpow]
    refine hhigh.trans_le (le_of_eq ?_)
    congr 1
    push_cast
    omega

/-- In its unit a quotient has at most 53 bits before the point, and not less unless the unit is
the least of all. -/
theorem binaryExponent_spec : -1074 ≤ a.binaryExponent ∧
    a.value < 2 ^ 53 * 2 ^ a.binaryExponent ∧
    (-1074 < a.binaryExponent → 2 ^ 52 * 2 ^ a.binaryExponent ≤ a.value) := by
  obtain ⟨hhigh, hlow⟩ := unbounded_spec hnum ha
  have hmax : a.binaryExponent = max a.unbounded (-1074) := rfl
  rw [hmax]
  refine ⟨le_max_right _ _, ?_, fun h => ?_⟩
  · refine hhigh.trans_le ?_
    have hle : (2 : ℚ) ^ a.unbounded ≤ 2 ^ max a.unbounded (-1074) :=
      zpow_le_zpow_right₀ one_le_two (le_max_left _ _)
    gcongr
  · rw [max_eq_left (by omega)]
    exact hlow

end Exponent
end Ratio

namespace Binary64

theorem magnitude_ofMagnitude {m : Nat} (h : m ≤ infiniteMagnitude) (negative : Bool) :
    (ofMagnitude negative m).magnitude = m := by
  rw [infiniteMagnitude] at h
  rw [magnitude, ofMagnitude, UInt64.toNat_ofNat', signBit]
  split <;> omega

theorem isNegative_ofMagnitude {m : Nat} (h : m ≤ infiniteMagnitude) (negative : Bool) :
    (ofMagnitude negative m).isNegative = negative := by
  rw [infiniteMagnitude] at h
  rw [isNegative, ofMagnitude, UInt64.toNat_ofNat', signBit]
  cases negative with
  | false => exact decide_eq_false (by simp only [Bool.false_eq_true, if_false]; omega)
  | true => exact decide_eq_true (by simp only [if_true]; omega)

def value (x : Binary64) : ℚ := if x.isNegative then -x.toRatio.value else x.toRatio.value

theorem value_toRatio (x : Binary64) : x.toRatio.value = x.mantissa * (2 : ℚ) ^ x.exponent := by
  rw [toRatio]
  split
  · next h =>
    obtain ⟨n, hn⟩ := Int.eq_ofNat_of_zero_le h
    rw [Ratio.value, hn, Int.toNat_natCast, zpow_natCast, Nat.pow_eq]
    push_cast
    rw [div_one]
  · next h =>
    obtain ⟨n, hn⟩ : ∃ n : Nat, x.exponent = -n := ⟨(-x.exponent).toNat, by omega⟩
    rw [Ratio.value, hn, neg_neg, Int.toNat_natCast, zpow_neg, zpow_natCast, Nat.pow_eq,
      div_eq_mul_inv]
    push_cast
    rfl

theorem mantissa_lt (x : Binary64) : x.mantissa < 2 ^ 53 := by
  rw [mantissa, hiddenBit]
  split <;> omega

theorem exponent_ge (x : Binary64) : -1074 ≤ x.exponent := by
  rw [exponent, hiddenBit]
  split <;> omega

theorem exponent_le {x : Binary64} (h : x.isFinite = true) : x.exponent ≤ 971 := by
  have hlt : x.magnitude < infiniteMagnitude := of_decide_eq_true h
  rw [infiniteMagnitude] at hlt
  rw [exponent, hiddenBit]
  split <;> omega

/-- The bits of `q` units of two to the power of `k`, where `q` may also be the first whole number
that is too long: they are those of the next unit then. -/
theorem value_of_units {x : Binary64} {k : ℤ} {q : Nat} (hk : -1074 ≤ k) (hq : q ≤ 2 ^ 53)
    (hlow : -1074 < k → 2 ^ 52 ≤ q) (hx : x.magnitude = (k + 1074).toNat * hiddenBit + q) :
    x.toRatio.value = q * (2 : ℚ) ^ k := by
  rw [hiddenBit] at hx
  rw [value_toRatio]
  rcases lt_or_ge q (2 ^ 52) with hsmall | hlarge
  · have hmantissa : x.mantissa = q := by
      rw [mantissa, hiddenBit, if_pos] <;> omega
    have hexponent : x.exponent = k := by
      rw [exponent, hiddenBit, if_pos] <;> omega
    rw [hmantissa, hexponent]
  rcases lt_or_eq_of_le hq with hq | rfl
  · have hmantissa : x.mantissa = q := by
      rw [mantissa, hiddenBit, if_neg] <;> omega
    have hexponent : x.exponent = k := by
      rw [exponent, hiddenBit, if_neg] <;> omega
    rw [hmantissa, hexponent]
  · have hmantissa : x.mantissa = 2 ^ 52 := by
      rw [mantissa, hiddenBit, if_neg] <;> omega
    have hexponent : x.exponent = k + 1 := by
      rw [exponent, hiddenBit, if_neg] <;> omega
    rw [hmantissa, hexponent, zpow_add_one₀ two_ne_zero]
    push_cast
    ring

end Binary64

namespace Ratio

def units (a : Ratio) : Nat := (a.scaleDown a.binaryExponent).roundHalfEven

theorem nearestMagnitude_eq {a : Ratio} (hnum : a.num ≠ 0) : a.nearestMagnitude =
    min Binary64.infiniteMagnitude
      ((a.binaryExponent + 1074).toNat * Binary64.hiddenBit + a.units) := by
  rw [nearestMagnitude, if_neg hnum]
  rfl

theorem nearestMagnitude_le (a : Ratio) : a.nearestMagnitude ≤ Binary64.infiniteMagnitude := by
  rw [nearestMagnitude]
  split
  · exact Nat.zero_le _
  · exact min_le_left _ _

section Nearest
variable {a : Ratio} (hnum : a.num ≠ 0) (ha : 0 < a.den)
include hnum ha

theorem units_le : a.units ≤ 2 ^ 53 := by
  refine roundHalfEven_le (den_scaleDown_pos ha _) ?_
  rw [value_scaleDown, div_le_iff₀ (by positivity)]
  exact_mod_cast (binaryExponent_spec hnum ha).2.1.le

theorem le_units (h : -1074 < a.binaryExponent) : 2 ^ 52 ≤ a.units := by
  refine le_roundHalfEven (den_scaleDown_pos ha _) ?_
  rw [value_scaleDown, le_div_iff₀ (by positivity)]
  exact_mod_cast (binaryExponent_spec hnum ha).2.2 h

theorem value_ofRatio_eq (hlt : a.nearestMagnitude < Binary64.infiniteMagnitude) (negative : Bool) :
    (Binary64.ofRatio negative a).toRatio.value = a.units * (2 : ℚ) ^ a.binaryExponent := by
  refine Binary64.value_of_units (binaryExponent_spec hnum ha).1 (units_le hnum ha)
    (le_units hnum ha) ?_
  rw [Binary64.ofRatio, Binary64.magnitude_ofMagnitude a.nearestMagnitude_le]
  rw [nearestMagnitude_eq hnum] at hlt ⊢
  omega

/-- Measured in units, no double is nearer than the one a quotient is rounded to: those with a
smaller unit are all below the quotient. -/
theorem abs_units_sub_le (y : Binary64) :
    |(a.units : ℚ) - a.value / 2 ^ a.binaryExponent| ≤
      |y.toRatio.value / 2 ^ a.binaryExponent - a.value / 2 ^ a.binaryExponent| := by
  have hpos : (0 : ℚ) < 2 ^ a.binaryExponent := by positivity
  have hnear (z : ℤ) := roundHalfEven_nearest (den_scaleDown_pos ha a.binaryExponent) z
  rw [value_scaleDown] at hnear
  rw [Binary64.value_toRatio]
  -- a double with a smaller unit lies below the quotient, any other is a whole number of units
  rcases le_or_gt a.binaryExponent y.exponent with hle | hlt
  · obtain ⟨n, hn⟩ := Int.le.dest hle
    have hwhole : (y.mantissa : ℚ) * 2 ^ y.exponent / 2 ^ a.binaryExponent =
        ((y.mantissa * 2 ^ n : Nat) : ℤ) := by
      rw [← hn, zpow_add₀ two_ne_zero, zpow_natCast]
      push_cast
      field_simp
    rw [hwhole]
    exact hnear _
  · obtain ⟨-, -, hlow⟩ := binaryExponent_spec hnum ha
    have hge := y.exponent_ge
    have hs : (2 : ℚ) ^ 52 ≤ a.value / 2 ^ a.binaryExponent := by
      rw [le_div_iff₀ hpos]
      exact hlow (by omega)
    have hy : (y.mantissa : ℚ) * 2 ^ y.exponent / 2 ^ a.binaryExponent ≤ 2 ^ 52 := by
      have hmantissa : (y.mantissa : ℚ) ≤ 2 ^ 53 := by exact_mod_cast y.mantissa_lt.le
      have hunit : (2 : ℚ) ^ y.exponent ≤ 2 ^ (a.binaryExponent - 1) :=
        zpow_le_zpow_right₀ one_le_two (by omega)
      rw [div_le_iff₀ hpos]
      calc (y.mantissa : ℚ) * 2 ^ y.exponent ≤ 2 ^ 53 * 2 ^ (a.binaryExponent - 1) := by gcongr
        _ = 2 ^ 52 * 2 ^ a.binaryExponent := by
          rw [zpow_sub_one₀ two_ne_zero]
          ring
    have hcast : ((2 ^ 52 : ℤ) : ℚ) = 2 ^ 52 := by norm_num
    have hnear52 := hnear (2 ^ 52)
    have hbelow : (2 : ℚ) ^ 52 - a.value / 2 ^ a.binaryExponent ≤ 0 := by linarith
    rw [hcast, abs_of_nonpos hbelow] at hnear52
    rw [abs_of_nonpos (by linarith : (y.mantissa : ℚ) * 2 ^ y.exponent / 2 ^ a.binaryExponent -
      a.value / 2 ^ a.binaryExponent ≤ 0)]
    exact hnear52.trans (by linarith)

end Nearest

theorem value_ofRatio_zero {a : Ratio} (hnum : a.num = 0) (negative : Bool) :
    (Binary64.ofRatio negative a).toRatio.value = 0 := by
  have hmagnitude : (Binary64.ofRatio negative a).magnitude = 0 := by
    rw [Binary64.ofRatio, Binary64.magnitude_ofMagnitude a.nearestMagnitude_le, nearestMagnitude,
      if_pos hnum]
  have hmantissa : (Binary64.ofRatio negative a).mantissa = 0 := by
    rw [Binary64.mantissa, hmagnitude]
    rfl
  rw [Binary64.value_toRatio, hmantissa, Nat.cast_zero, zero_mul]

/-- A quotient that does not become infinite is rounded to the nearest double. -/
theorem ofRatio_nearest {a : Ratio} (ha : 0 < a.den)
    (hlt : a.nearestMagnitude < Binary64.infiniteMagnitude) (negative : Bool) (y : Binary64) :
    |(Binary64.ofRatio negative a).toRatio.value - a.value| ≤ |y.toRatio.value - a.value| := by
  by_cases hnum : a.num = 0
  · have hvalue : a.value = 0 := by rw [value, hnum, Nat.cast_zero, zero_div]
    rw [value_ofRatio_zero hnum, hvalue, sub_zero, abs_zero]
    exact abs_nonneg _
  · have hpos : (0 : ℚ) < 2 ^ a.binaryExponent := by positivity
    have hscale (x : ℚ) : |x * 2 ^ a.binaryExponent - a.value| =
        |x - a.value / 2 ^ a.binaryExponent| * 2 ^ a.binaryExponent := by
      rw [← abs_of_pos hpos, ← abs_mul, abs_of_pos hpos, sub_mul, div_mul_cancel₀ _ hpos.ne']
    have hy : y.toRatio.value = y.toRatio.value / 2 ^ a.binaryExponent * 2 ^ a.binaryExponent :=
      (div_mul_cancel₀ _ hpos.ne').symm
    rw [value_ofRatio_eq hnum ha hlt, hy, hscale, hscale]
    exact mul_le_mul_of_nonneg_right (abs_units_sub_le hnum ha y) hpos.le

def greatest : ℚ := (2 ^ 53 - 1) * 2 ^ (971 : ℤ)

/-- Up to the greatest double nothing becomes infinite. -/
theorem nearestMagnitude_lt {a : Ratio} (ha : 0 < a.den) (h : a.value ≤ greatest) :
    a.nearestMagnitude < Binary64.infiniteMagnitude := by
  by_cases hnum : a.num = 0
  · rw [nearestMagnitude, if_pos hnum]
    decide
  · obtain ⟨hge, -, hlow⟩ := binaryExponent_spec hnum ha
    have hunits := units_le hnum ha
    have hle : a.binaryExponent ≤ 971 := by
      by_contra hgt
      have hpow : (2 : ℚ) ^ (971 + 1 : ℤ) ≤ 2 ^ a.binaryExponent :=
        zpow_le_zpow_right₀ one_le_two (by omega)
      have hbelow := hlow (by omega)
      have hpos : (0 : ℚ) < 2 ^ (971 : ℤ) := zpow_pos two_pos _
      rw [zpow_add_one₀ two_ne_zero] at hpow
      rw [greatest] at h
      generalize (2 : ℚ) ^ (971 : ℤ) = p at *
      linarith
    -- in the last unit the greatest double has the greatest number of 53 bits
    have hlast (hk : a.binaryExponent = 971) : a.units ≤ 2 ^ 53 - 1 := by
      refine roundHalfEven_le (den_scaleDown_pos ha _) ?_
      have hcast : ((2 ^ 53 - 1 : ℕ) : ℚ) = 2 ^ 53 - 1 := by norm_num
      rw [value_scaleDown, hk, div_le_iff₀ (zpow_pos two_pos _), hcast]
      exact h
    rw [nearestMagnitude_eq hnum, Binary64.infiniteMagnitude, Binary64.hiddenBit]
    rcases lt_or_eq_of_le hle with hlt | heq
    · omega
    · have hunits := hlast heq
      omega

end Ratio

namespace Binary64

theorem isFinite_ofRatio {a : Ratio} {negative : Bool} :
    (ofRatio negative a).isFinite = true ↔ a.nearestMagnitude < infiniteMagnitude := by
  rw [isFinite, decide_eq_true_eq, ofRatio, magnitude_ofMagnitude a.nearestMagnitude_le]

theorem den_toRatio_pos (x : Binary64) : 0 < x.toRatio.den := by
  rw [toRatio]
  split
  · exact Nat.one_pos
  · exact Nat.pow_pos (by decide)

theorem value_toRatio_le {x : Binary64} (h : x.isFinite = true) :
    x.toRatio.value ≤ Ratio.greatest := by
  have hmantissa : (x.mantissa : ℚ) ≤ 2 ^ 53 - 1 := by
    have hlt : (x.mantissa : ℚ) + 1 ≤ 2 ^ 53 := by exact_mod_cast x.mantissa_lt
    linarith
  have hexponent : (2 : ℚ) ^ x.exponent ≤ 2 ^ (971 : ℤ) :=
    zpow_le_zpow_right₀ one_le_two (exponent_le h)
  rw [value_toRatio, Ratio.greatest]
  exact mul_le_mul hmantissa hexponent (zpow_nonneg two_pos.le _) (by norm_num)

/-- The double for a quotient is the nearest of all, those with a minus sign included. -/
theorem value_ofRatio_nearest {a : Ratio} (ha : 0 < a.den)
    (hlt : a.nearestMagnitude < infiniteMagnitude) (y : Binary64) :
    |(ofRatio false a).value - a.value| ≤ |y.value - a.value| := by
  have hnear (y : Binary64) :
      |(ofRatio false a).value - a.value| ≤ |y.toRatio.value - a.value| := by
    have hsign : (ofRatio false a).value = (ofRatio false a).toRatio.value := by
      rw [value, ofRatio, isNegative_ofMagnitude a.nearestMagnitude_le]
      rfl
    rw [hsign]
    exact a.ofRatio_nearest ha hlt false y
  rw [value.eq_def y]
  split
  · -- zero is not nearer, and lies between a negative number and the quotient
    have hzero := hnear (ofRatio false (.ofNat 0))
    have hvalue : (ofRatio false (.ofNat 0)).toRatio.value = 0 := Ratio.value_ofRatio_zero rfl false
    have hy := y.toRatio.value_nonneg
    have ha := a.value_nonneg
    rw [hvalue, zero_sub, abs_neg, abs_of_nonneg ha] at hzero
    have hfar : |-y.toRatio.value - a.value| = y.toRatio.value + a.value := by
      rw [abs_of_nonpos (by linarith)]
      ring
    rw [hfar]
    linarith
  · exact hnear y

end Binary64
end TreeQuery
