import ContainerWatch.Binary64.Basic
import Mathlib.Algebra.Order.Field.Power
import Mathlib.Data.Int.Log
import Mathlib.Data.Rat.Floor
import Mathlib.Tactic.FieldSimp
import Mathlib.Tactic.Linarith
import Mathlib.Tactic.Positivity

/-!
# Rounding to 53 binary digits

What a ratio is rounded to depends on its value alone, not on the two integers that it is written
with.  A ratio that lies close to a number of the format, closer than a part in twenty thousand
million million, is rounded to that number.
-/

namespace ContainerWatch

section RoundHalfEven

variable {num den : Nat}

theorem abs_roundHalfEven_sub_le (num : Nat) (positive : 0 < den) :
    |(roundHalfEven num den : ℚ) - (num : ℚ) / den| ≤ 1 / 2 := by
  have denominator : (0 : ℚ) < den := by exact_mod_cast positive
  obtain ⟨upper, lower⟩ := two_mul_roundHalfEven num positive
  have value : (num : ℚ) = (num : ℚ) / den * den := (div_mul_cancel₀ _ denominator.ne').symm
  have upper' : (2 * (roundHalfEven num den * den) : ℚ) ≤ 2 * num + den := by exact_mod_cast upper
  have lower' : (2 * num : ℚ) ≤ 2 * (roundHalfEven num den * den) + den := by exact_mod_cast lower
  rw [abs_le]
  constructor
  · refine le_of_mul_le_mul_right ?_ denominator
    linarith
  · refine le_of_mul_le_mul_right ?_ denominator
    linarith

theorem roundHalfEven_le {most : Nat} (positive : 0 < den) (high : (num : ℚ) / den ≤ most) :
    roundHalfEven num den ≤ most := by
  have near := (abs_le.mp (abs_roundHalfEven_sub_le num positive)).2
  have less : (roundHalfEven num den : ℚ) < (most + 1 : Nat) := by
    push_cast
    linarith
  exact Nat.le_of_lt_succ (by exact_mod_cast less)

theorem le_roundHalfEven {least : Nat} (positive : 0 < den) (low : (least : ℚ) ≤ (num : ℚ) / den) :
    least ≤ roundHalfEven num den := by
  have near := (abs_le.mp (abs_roundHalfEven_sub_le num positive)).1
  have less : (least : ℚ) < (roundHalfEven num den + 1 : Nat) := by
    push_cast
    linarith
  exact Nat.le_of_lt_succ (by exact_mod_cast less)

/-- A quotient is rounded to a natural that its value is less than half a unit away from. -/
theorem roundHalfEven_eq_of_abs_lt {q : Nat} (positive : 0 < den)
    (near : |(num : ℚ) / den - q| < 1 / 2) : roundHalfEven num den = q := by
  obtain ⟨below, above⟩ := abs_lt.mp near
  obtain ⟨below', above'⟩ := abs_le.mp (abs_roundHalfEven_sub_le num positive)
  have less : (roundHalfEven num den : ℚ) < (q + 1 : Nat) := by
    push_cast
    linarith
  have greater : (q : ℚ) < (roundHalfEven num den + 1 : Nat) := by
    push_cast
    linarith
  have less : roundHalfEven num den < q + 1 := by exact_mod_cast less
  have greater : q < roundHalfEven num den + 1 := by exact_mod_cast greater
  omega

theorem roundHalfEven_mul_right (num den : Nat) {factor : Nat} (positive : 0 < factor) :
    roundHalfEven (num * factor) (den * factor) = roundHalfEven num den := by
  have scale (a b : Nat) : (a * factor < b * factor ↔ a < b) ∧ (a * factor = b * factor ↔ a = b) :=
    ⟨Nat.mul_lt_mul_right positive, Nat.mul_left_inj (by omega)⟩
  simp only [roundHalfEven, Nat.mul_div_mul_right _ _ positive, Nat.mul_mod_mul_right,
    ← Nat.mul_assoc, scale]

theorem roundHalfEven_congr {num' den' : Nat} (positive : 0 < den) (positive' : 0 < den')
    (same : num * den' = num' * den) : roundHalfEven num den = roundHalfEven num' den' := by
  rw [← roundHalfEven_mul_right num den positive', same, Nat.mul_comm den den',
    roundHalfEven_mul_right num' den' positive]

end RoundHalfEven

namespace Binary64

/-- A finite number in the one form that the format has for it: the exponent is as small as 53
    digits and the least exponent allow. -/
def Canonical : Binary64 → Prop
  | finite _ mantissa exponent =>
      mantissa < 2 ^ 53 ∧ -1074 ≤ exponent ∧ exponent ≤ 971 ∧
        (2 ^ 52 ≤ mantissa ∨ exponent = -1074)
  | _ => False

instance : DecidablePred Canonical
  | finite _ _ _ => inferInstanceAs (Decidable (_ ∧ _))
  | infinite _ | nan => inferInstanceAs (Decidable False)

/-! ## Ratios -/

section Ratios

variable {num den num' den' : Nat}

/-- A ratio divided by a power of a base, as numerator and denominator. -/
def scaledBy (base num den : Nat) (exponent : Int) : Nat × Nat :=
  if 0 ≤ exponent then (num, den * Nat.pow base exponent.toNat)
  else (num * Nat.pow base (-exponent).toNat, den)

theorem scaled_eq (num den : Nat) (exponent : Int) :
    scaled num den exponent = scaledBy 2 num den exponent := rfl

theorem scaledBy_pos {base : Nat} (proper : 0 < base) (num : Nat) (positive : 0 < den)
    (exponent : Int) : 0 < (scaledBy base num den exponent).2 := by
  unfold scaledBy
  split
  · exact Nat.mul_pos positive (Nat.pow_pos proper)
  · exact positive

theorem scaledBy_ratio (base num den : Nat) (exponent : Int) :
    ((scaledBy base num den exponent).1 : ℚ) / (scaledBy base num den exponent).2
      = (num : ℚ) / den / base ^ exponent := by
  unfold scaledBy
  split
  case isTrue nonneg =>
    obtain ⟨k, rfl⟩ := Int.eq_ofNat_of_zero_le nonneg
    simp [Nat.pow_eq, div_div]
  case isFalse negative =>
    obtain ⟨k, rfl⟩ : ∃ k : Nat, exponent = -k := ⟨(-exponent).toNat, by omega⟩
    simp [Nat.pow_eq]
    ring

/-- The numerator of a scaled ratio reaches the denominator if the ratio reaches the power. -/
theorem scaledBy_le_iff {base : Nat} (proper : 0 < base) (num : Nat) (positive : 0 < den)
    (exponent : Int) :
    (scaledBy base num den exponent).2 ≤ (scaledBy base num den exponent).1 ↔
      (base : ℚ) ^ exponent ≤ (num : ℚ) / den := by
  have denominator : (0 : ℚ) < (scaledBy base num den exponent).2 := by
    exact_mod_cast scaledBy_pos proper num positive exponent
  have power : (0 : ℚ) < base ^ exponent := by positivity
  rw [← one_le_div power, ← scaledBy_ratio, one_le_div denominator, Nat.cast_le]

theorem scaled_pos (num : Nat) (positive : 0 < den) (exponent : Int) :
    0 < (scaled num den exponent).2 := scaledBy_pos (by omega) num positive exponent

theorem scaled_ratio (num den : Nat) (exponent : Int) :
    ((scaled num den exponent).1 : ℚ) / (scaled num den exponent).2
      = (num : ℚ) / den / 2 ^ exponent := by
  rw [scaled_eq, scaledBy_ratio, Nat.cast_ofNat]

theorem log_eq {ratio : ℚ} {exponent : Int} (low : (2 : ℚ) ^ exponent ≤ ratio)
    (high : ratio < 2 ^ (exponent + 1)) : Int.log 2 ratio = exponent := by
  have positive : 0 < ratio := lt_of_lt_of_le (zpow_pos (by norm_num) _) low
  have least : exponent ≤ Int.log 2 ratio :=
    (Int.zpow_le_iff_le_log (by norm_num) positive).mp (by exact_mod_cast low)
  have greatest : Int.log 2 ratio < exponent + 1 :=
    (Int.lt_zpow_iff_log_lt (by norm_num) positive).mp (by exact_mod_cast high)
  omega

theorem binaryLog_eq (above : 0 < num) (below : 0 < den) :
    binaryLog num den = Int.log 2 ((num : ℚ) / den) := by
  have denominator : (0 : ℚ) < den := by exact_mod_cast below
  have numLow : (2 : ℚ) ^ Nat.log2 num ≤ num := by exact_mod_cast Nat.log2_self_le (by omega)
  have numHigh : (num : ℚ) < 2 ^ (Nat.log2 num + 1) := by exact_mod_cast Nat.lt_log2_self
  have denLow : (2 : ℚ) ^ Nat.log2 den ≤ den := by exact_mod_cast Nat.log2_self_le (by omega)
  have denHigh : (den : ℚ) < 2 ^ (Nat.log2 den + 1) := by exact_mod_cast Nat.lt_log2_self
  have low : (2 : ℚ) ^ ((Nat.log2 num : Int) - Nat.log2 den - 1) ≤ (num : ℚ) / den := by
    rw [le_div_iff₀ denominator]
    calc (2 : ℚ) ^ ((Nat.log2 num : Int) - Nat.log2 den - 1) * den
        ≤ 2 ^ ((Nat.log2 num : Int) - Nat.log2 den - 1) * 2 ^ (Nat.log2 den + 1) := by gcongr
      _ = 2 ^ Nat.log2 num := by
        rw [← zpow_natCast, ← zpow_natCast, ← zpow_add₀ (by norm_num)]
        congr 1
        push_cast
        ring
      _ ≤ num := numLow
  have high : (num : ℚ) / den < 2 ^ ((Nat.log2 num : Int) - Nat.log2 den + 1) := by
    rw [div_lt_iff₀ denominator]
    calc (num : ℚ) < 2 ^ (Nat.log2 num + 1) := numHigh
      _ = 2 ^ ((Nat.log2 num : Int) - Nat.log2 den + 1) * 2 ^ Nat.log2 den := by
        rw [← zpow_natCast, ← zpow_natCast, ← zpow_add₀ (by norm_num)]
        congr 1
        push_cast
        ring
      _ ≤ 2 ^ ((Nat.log2 num : Int) - Nat.log2 den + 1) * den := by gcongr
  have reached := scaledBy_le_iff two_pos num below ((Nat.log2 num : Int) - Nat.log2 den)
  rw [← scaled_eq, Nat.cast_ofNat] at reached
  simp only [binaryLog]
  by_cases reaches : (2 : ℚ) ^ ((Nat.log2 num : Int) - Nat.log2 den) ≤ (num : ℚ) / den
  · rw [if_pos (reached.mpr reaches), log_eq reaches high]
  · rw [if_neg (mt reached.mp reaches), log_eq low]
    rw [Int.sub_add_cancel]
    exact not_le.mp reaches

/-- The exponent at which a ratio is rounded depends on its value alone. -/
theorem exponentFor_eq (above : 0 < num) (below : 0 < den) :
    exponentFor num den = max (Int.log 2 ((num : ℚ) / den) - 52) (-1074) := by
  rw [exponentFor, binaryLog_eq above below]

theorem ofRatio_congr (negative : Bool) (below : 0 < den) (below' : 0 < den')
    (same : (num : ℚ) / den = (num' : ℚ) / den') :
    ofRatio negative num den = ofRatio negative num' den' := by
  have denominator : (0 : ℚ) < den := by exact_mod_cast below
  have denominator' : (0 : ℚ) < den' := by exact_mod_cast below'
  by_cases zero : num = 0
  · have zero' : num' = 0 := by
      have : (num' : ℚ) / den' = 0 := by rw [← same, zero]; simp
      simpa [denominator'.ne'] using this
    rw [zero, zero']
    simp [ofRatio]
  · have above : 0 < num := by omega
    have above' : 0 < num' := by
      have : (0 : ℚ) < (num' : ℚ) / den' := by rw [← same]; positivity
      have : (0 : ℚ) < num' := by simpa [denominator'] using this
      exact_mod_cast this
    have exponents : exponentFor num den = exponentFor num' den' := by
      rw [exponentFor_eq above below, exponentFor_eq above' below', same]
    have positive := scaled_pos num below (exponentFor num den)
    have positive' := scaled_pos num' below' (exponentFor num den)
    have ratios := scaled_ratio num den (exponentFor num den)
    rw [same, ← scaled_ratio, div_eq_div_iff (by exact_mod_cast positive.ne')
      (by exact_mod_cast positive'.ne')] at ratios
    have rounded := roundHalfEven_congr positive positive' (by exact_mod_cast ratios)
    simp only [ofRatio, if_neg zero, if_neg above'.ne', rounded, ← exponents]

/-! ## Numbers near by -/

/-- A ratio is rounded at an exponent to the mantissa that it is less than half a unit away from. -/
theorem roundHalfEven_scaled (num mantissa : Nat) (exponent : Int) (below : 0 < den)
    (near : |(num : ℚ) / den - mantissa * 2 ^ exponent| < 2 ^ exponent / 2) :
    roundHalfEven (scaled num den exponent).1 (scaled num den exponent).2 = mantissa := by
  have unit : (0 : ℚ) < 2 ^ exponent := by positivity
  refine roundHalfEven_eq_of_abs_lt (scaled_pos num below exponent) ?_
  rw [scaled_ratio, ← mul_lt_mul_iff_left₀ unit, ← abs_of_pos unit, ← abs_mul, abs_of_pos unit,
    sub_mul, div_mul_cancel₀ _ unit.ne']
  linarith

theorem two_pow_mul_zpow (k : Nat) (exponent : Int) :
    (2 : ℚ) ^ k * 2 ^ exponent = 2 ^ (exponent + k) := by
  rw [zpow_add₀ (by norm_num), zpow_natCast, mul_comm]

/-- A ratio below `2 ^ 53` units whose exponent is not below that of the unit is rounded there. -/
theorem exponentFor_eq_of_lt {exponent : Int} (above : 0 < num) (below : 0 < den)
    (least : -1074 ≤ exponent) (high : (num : ℚ) / den < 2 ^ 53 * 2 ^ exponent)
    (low : exponent = -1074 ∨ 2 ^ 52 * 2 ^ exponent ≤ (num : ℚ) / den) :
    exponentFor num den = exponent := by
  have ratio : (0 : ℚ) < (num : ℚ) / den := by positivity
  rw [two_pow_mul_zpow] at high low
  have upper : Int.log 2 ((num : ℚ) / den) < exponent + 53 :=
    (Int.lt_zpow_iff_log_lt (by norm_num) ratio).mp (by exact_mod_cast high)
  rw [exponentFor_eq above below]
  rcases low with bottom | low
  · omega
  · have lower : exponent + 52 ≤ Int.log 2 ((num : ℚ) / den) :=
      (Int.zpow_le_iff_le_log (by norm_num) ratio).mp (by exact_mod_cast low)
    omega

/-- A ratio is rounded where it is below `2 ^ 53` units and reaches `2 ^ 52` of them, or at the
    least exponent. -/
theorem exponentFor_bounds (above : 0 < num) (below : 0 < den) :
    -1074 ≤ exponentFor num den ∧
      (num : ℚ) / den < 2 ^ 53 * 2 ^ exponentFor num den ∧
      (exponentFor num den = -1074 ∨ 2 ^ 52 * 2 ^ exponentFor num den ≤ (num : ℚ) / den) := by
  have ratio : (0 : ℚ) < (num : ℚ) / den := by positivity
  have placed := exponentFor_eq above below
  rw [two_pow_mul_zpow, two_pow_mul_zpow]
  refine ⟨by omega, ?_, ?_⟩
  · have high : Int.log 2 ((num : ℚ) / den) < exponentFor num den + 53 := by omega
    exact_mod_cast (Int.lt_zpow_iff_log_lt (by norm_num) ratio).mpr high
  · rcases le_total (Int.log 2 ((num : ℚ) / den) - 52) (-1074) with bottom | normal
    · exact .inl (by omega)
    · have low : exponentFor num den + 52 ≤ Int.log 2 ((num : ℚ) / den) := by omega
      exact .inr (by exact_mod_cast (Int.zpow_le_iff_le_log (by norm_num) ratio).mpr low)

/-- A ratio that is very close to a positive number of the format is rounded to it. -/
theorem ofRatio_eq_of_near {negative : Bool} {mantissa : Nat} {exponent : Int}
    (canonical : Canonical (finite negative mantissa exponent)) (positive : 0 < mantissa)
    (below : 0 < den)
    (near : |(num : ℚ) / den - mantissa * 2 ^ exponent| * (2 * 10 ^ 16) ≤ mantissa * 2 ^ exponent) :
    ofRatio negative num den = finite negative mantissa exponent := by
  obtain ⟨small, least, greatest, full⟩ := canonical
  have unit : (0 : ℚ) < 2 ^ exponent := by positivity
  have one : (2 : ℚ) ^ exponent ≤ mantissa * 2 ^ exponent :=
    le_mul_of_one_le_left unit.le (by exact_mod_cast positive)
  have most : (mantissa : ℚ) * 2 ^ exponent ≤ (2 ^ 53 - 1) * 2 ^ exponent := by
    have : ((mantissa + 1 : Nat) : ℚ) ≤ (2 ^ 53 : Nat) := by exact_mod_cast small
    push_cast at this
    gcongr
    linarith
  obtain ⟨lower, upper⟩ := abs_le.mp (le_refl |(num : ℚ) / den - mantissa * 2 ^ exponent|)
  have ratio : (0 : ℚ) < (num : ℚ) / den := by linarith
  have above : 0 < num := by
    rcases Nat.eq_zero_or_pos num with zero | above
    · simp [zero] at ratio
    · exact above
  by_cases low : exponent = -1074 ∨ (2 : ℚ) ^ 52 * 2 ^ exponent ≤ (num : ℚ) / den
  · have placed : exponentFor num den = exponent :=
      exponentFor_eq_of_lt above below least (by linarith) low
    have rounded := roundHalfEven_scaled num mantissa exponent below (by linarith)
    have noCarry : mantissa ≠ Nat.pow 2 53 := by
      rw [Nat.pow_eq]
      omega
    simp only [ofRatio, if_neg above.ne', placed, rounded, pack, if_neg noCarry,
      if_neg (show ¬971 < exponent by omega)]
  · -- The number is a power of two, and the ratio lies below it, where numbers are twice as dense.
    have bottom : exponent ≠ -1074 := fun bottom => low (.inl bottom)
    have under : (num : ℚ) / den < 2 ^ 52 * 2 ^ exponent := not_le.mp fun least => low (.inr least)
    have power : mantissa = 2 ^ 52 := by
      have : (mantissa : ℚ) * 2 ^ exponent < (2 ^ 52 + 1) * 2 ^ exponent := by linarith
      have : (mantissa : ℚ) < 2 ^ 52 + 1 := lt_of_mul_lt_mul_right this unit.le
      have : mantissa < 2 ^ 52 + 1 := by exact_mod_cast this
      omega
    have half : (2 : ℚ) ^ exponent = 2 * 2 ^ (exponent - 1) := by
      rw [zpow_sub_one₀ (by norm_num)]
      ring
    have size : (mantissa : ℚ) * 2 ^ exponent = (2 ^ 53 : Nat) * 2 ^ (exponent - 1) := by
      rw [half, power]
      push_cast
      ring
    have size' : (mantissa : ℚ) * 2 ^ exponent = 2 ^ 52 * 2 ^ exponent := by
      rw [power]
      push_cast
      rfl
    have placed : exponentFor num den = exponent - 1 :=
      exponentFor_eq_of_lt above below (by omega) (by linarith) (.inr (by linarith))
    have rounded := roundHalfEven_scaled num (2 ^ 53) (exponent - 1) below
      (by rw [← size]; linarith)
    simp only [ofRatio, if_neg above.ne', placed, rounded, pack, Nat.pow_eq, if_true,
      Int.sub_add_cancel, if_neg (show ¬971 < exponent by omega), power]

/-! ## Canonical results -/

/-- What a ratio is rounded to is in canonical form unless it is infinite. -/
theorem canonical_ofRatio (negative : Bool) (below : 0 < den)
    (isFinite : (ofRatio negative num den).isFinite = true) :
    (ofRatio negative num den).Canonical := by
  rcases Nat.eq_zero_or_pos num with zero | above
  · simp [ofRatio, zero, Canonical]
  · obtain ⟨least, high, low⟩ := exponentFor_bounds above below
    have unit : (0 : ℚ) < 2 ^ exponentFor num den := by positivity
    have divisor := scaled_pos num below (exponentFor num den)
    have ratio := scaled_ratio num den (exponentFor num den)
    have small : roundHalfEven (scaled num den (exponentFor num den)).1
        (scaled num den (exponentFor num den)).2 ≤ 2 ^ 53 := by
      refine roundHalfEven_le divisor ?_
      rw [ratio, div_le_iff₀ unit]
      exact_mod_cast high.le
    have full : exponentFor num den = -1074 ∨ 2 ^ 52 ≤ roundHalfEven
        (scaled num den (exponentFor num den)).1 (scaled num den (exponentFor num den)).2 := by
      refine low.imp_right fun low => le_roundHalfEven divisor ?_
      rw [ratio, le_div_iff₀ unit]
      exact_mod_cast low
    simp only [ofRatio, if_neg above.ne', pack, Nat.pow_eq] at isFinite ⊢
    generalize roundHalfEven _ _ = mantissa at *
    by_cases carry : mantissa = 2 ^ 53
    · simp only [carry, if_true] at isFinite ⊢
      split at isFinite
      case isTrue => cases isFinite
      case isFalse within =>
        rw [if_neg within]
        exact ⟨by norm_num, by omega, by omega, .inl le_rfl⟩
    · simp only [if_neg carry] at isFinite ⊢
      split at isFinite
      case isTrue => cases isFinite
      case isFalse within =>
        rw [if_neg within]
        exact ⟨by omega, least, by omega, full.symm⟩

end Ratios

end Binary64

end ContainerWatch
