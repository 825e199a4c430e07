import ContainerWatch.Proofs.Binary64.Nearest

/-!
# The values of numbers

A finite number has an exact value, and an operation on finite numbers gives the number nearest to
what it would give on their values.  The fraction of a number is a number itself, so that taking it
rounds nothing.
-/

namespace ContainerWatch

/-- The integer part of a ratio, toward zero. -/
def wholePart (ratio : ℚ) : ℤ := if 0 ≤ ratio then ⌊ratio⌋ else ⌈ratio⌉

theorem wholePart_neg (ratio : ℚ) : wholePart (-ratio) = -wholePart ratio := by
  rcases lt_trichotomy ratio 0 with negative | rfl | positive
  · rw [wholePart, wholePart, if_pos (by linarith), if_neg (by linarith), Int.floor_neg]
  · simp [wholePart]
  · rw [wholePart, wholePart, if_neg (by linarith), if_pos positive.le, Int.ceil_neg]

theorem wholePart_mono {ratio ratio' : ℚ} (le : ratio ≤ ratio') :
    wholePart ratio ≤ wholePart ratio' := by
  rcases le_or_gt 0 ratio with nonneg | negative
  · rw [wholePart, wholePart, if_pos nonneg, if_pos (nonneg.trans le)]
    exact Int.floor_mono le
  · rcases le_or_gt 0 ratio' with nonneg' | negative'
    · have below : ⌈ratio⌉ ≤ 0 := Int.ceil_le.mpr (by exact_mod_cast negative.le)
      have above : 0 ≤ ⌊ratio'⌋ := Int.floor_nonneg.mpr nonneg'
      rw [wholePart, wholePart, if_neg (not_le.mpr negative), if_pos nonneg']
      exact below.trans above
    · rw [wholePart, wholePart, if_neg (not_le.mpr negative), if_neg (not_le.mpr negative')]
      exact Int.ceil_mono le

theorem wholePart_div (num den : Nat) : wholePart ((num : ℚ) / den) = (num / den : Nat) := by
  rw [wholePart, if_pos (by positivity), Rat.floor_natCast_div_natCast]
  rfl

theorem tdiv_eq_wholePart (num : ℤ) (den : Nat) : num.tdiv den = wholePart ((num : ℚ) / den) := by
  by_cases nonneg : 0 ≤ num
  · obtain ⟨count, rfl⟩ := Int.eq_ofNat_of_zero_le nonneg
    rw [Int.cast_natCast, wholePart_div]
    rfl
  · obtain ⟨count, rfl⟩ : ∃ count : Nat, num = -count := ⟨num.natAbs, by omega⟩
    rw [Int.neg_tdiv, Int.cast_neg, neg_div, wholePart_neg, Int.cast_natCast, wholePart_div]
    rfl

theorem sub_wholePart_div (num : Nat) {den : Nat} (positive : 0 < den) :
    (num : ℚ) / den - wholePart ((num : ℚ) / den) = ((num % den : Nat) : ℚ) / den := by
  have denominator : (den : ℚ) ≠ 0 := by exact_mod_cast positive.ne'
  have split : ((den * (num / den) + num % den : Nat) : ℚ) = num := by rw [Nat.div_add_mod]
  push_cast at split
  rw [wholePart_div, Int.cast_natCast, div_sub' denominator]
  congr 1
  linarith

/-- What is left of a ratio without its integer part is less than one, on the same side of zero. -/
theorem sub_wholePart_bounds (ratio : ℚ) :
    (0 ≤ ratio → 0 ≤ ratio - wholePart ratio ∧ ratio - wholePart ratio < 1) ∧
      (ratio ≤ 0 → -1 < ratio - wholePart ratio ∧ ratio - wholePart ratio ≤ 0) := by
  constructor
  · intro nonneg
    have low := Int.floor_le ratio
    have high := Int.lt_floor_add_one ratio
    rw [wholePart, if_pos nonneg]
    constructor
    · linarith
    · linarith
  · intro nonpos
    rw [wholePart]
    split
    case isTrue nonneg =>
      obtain rfl : ratio = 0 := le_antisymm nonpos nonneg
      simp
    case isFalse =>
      have low := Int.le_ceil ratio
      have high := Int.ceil_lt_add_one ratio
      constructor
      · linarith
      · linarith

theorem abs_sub_wholePart_lt (ratio : ℚ) : |ratio - wholePart ratio| < 1 := by
  obtain ⟨above, below⟩ := sub_wholePart_bounds ratio
  rw [abs_lt]
  rcases le_total 0 ratio with nonneg | nonpos
  · exact ⟨by linarith [above nonneg], (above nonneg).2⟩
  · exact ⟨(below nonpos).1, by linarith [below nonpos]⟩

namespace Binary64

variable {num den mantissa : Nat} {negative : Bool} {exponent : ℤ} {x : Binary64}

/-- A ratio with a sign. -/
def withSign (negative : Bool) (size : ℚ) : ℚ := if negative then -size else size

/-- The exact value of a finite number; the others count as zero. -/
def value : Binary64 → ℚ
  | finite negative mantissa exponent => withSign negative (mantissa * 2 ^ exponent)
  | _ => 0

theorem ratio?_finite (negative : Bool) (mantissa : Nat) (exponent : ℤ) :
    (finite negative mantissa exponent).ratio?
      = some (if negative then -((magnitude mantissa exponent).1 : ℤ)
          else (magnitude mantissa exponent).1, (magnitude mantissa exponent).2) := rfl

theorem divNat_finite (negative : Bool) (mantissa : Nat) (exponent : ℤ) (divisor : Nat) :
    (finite negative mantissa exponent).divNat divisor
      = ofRatio negative (magnitude mantissa exponent).1
          ((magnitude mantissa exponent).2 * divisor) := rfl

theorem mulNat_finite (negative : Bool) (mantissa : Nat) (exponent : ℤ) (factor : Nat) :
    (finite negative mantissa exponent).mulNat factor
      = ofRatio negative ((magnitude mantissa exponent).1 * factor)
          (magnitude mantissa exponent).2 := rfl

theorem fraction_finite (negative : Bool) (mantissa : Nat) (exponent : ℤ) :
    (finite negative mantissa exponent).fraction
      = ofRatio negative ((magnitude mantissa exponent).1 % (magnitude mantissa exponent).2)
          (magnitude mantissa exponent).2 := rfl

theorem abs_withSign (negative : Bool) {size : ℚ} (nonneg : 0 ≤ size) :
    |withSign negative size| = size := by
  cases negative with
  | true => rw [withSign, if_pos rfl, abs_neg, abs_of_nonneg nonneg]
  | false => rw [withSign, if_neg Bool.false_ne_true, abs_of_nonneg nonneg]

theorem withSign_mul (negative : Bool) (size factor : ℚ) :
    withSign negative size * factor = withSign negative (size * factor) := by
  cases negative <;> simp [withSign]

theorem sub_wholePart_withSign (negative : Bool) (num : Nat) (below : 0 < den) :
    withSign negative ((num : ℚ) / den) - wholePart (withSign negative ((num : ℚ) / den))
      = withSign negative (((num % den : Nat) : ℚ) / den) := by
  rw [← sub_wholePart_div num below]
  cases negative with
  | true =>
      simp only [withSign, if_true, wholePart_neg]
      push_cast
      ring
  | false => rfl

theorem Nearest.withSign {size rounded : ℚ} (nearest : Nearest size rounded) (negative : Bool) :
    Nearest (withSign negative size) (Binary64.withSign negative rounded) := by
  cases negative with
  | true => exact nearest.neg
  | false => exact nearest

theorem exists_ratio? (finite : x.isFinite = true) :
    ∃ num den, x.ratio? = some (num, den) ∧ 0 < den ∧ (num : ℚ) / den = value x := by
  cases x with
  | finite negative mantissa exponent =>
      refine ⟨_, _, ratio?_finite negative mantissa exponent, magnitude_pos mantissa exponent, ?_⟩
      rw [value, ← magnitude_ratio]
      cases negative with
      | true =>
          rw [if_pos rfl, withSign, if_pos rfl, Int.cast_neg, neg_div]
          rfl
      | false =>
          rw [if_neg Bool.false_ne_true, withSign, if_neg Bool.false_ne_true]
          rfl
  | infinite => cases finite
  | nan => cases finite

/-- A finite number is cut off at the integer part of its value. -/
theorem truncate?_eq_wholePart (finite : x.isFinite = true) :
    x.truncate? = some (wholePart (value x)) := by
  obtain ⟨num, den, ratio, -, value⟩ := exists_ratio? finite
  rw [truncate?, ratio, Option.map_some, ← value, ← tdiv_eq_wholePart]

/-! ## What a ratio is rounded to -/

/-- A finite number that a ratio is rounded to counts its units.  A carry into a further digit changes
    mantissa and exponent, but not the value. -/
theorem value_ofRatio (negative : Bool) (nonzero : num ≠ 0)
    (finite : (ofRatio negative num den).isFinite = true) :
    value (ofRatio negative num den) = withSign negative
      ((roundHalfEven (scaled num den (exponentFor num den)).1
        (scaled num den (exponentFor num den)).2 : ℤ) * 2 ^ exponentFor num den) := by
  simp only [ofRatio, if_neg nonzero, pack, Nat.pow_eq] at finite ⊢
  generalize roundHalfEven _ _ = count at finite ⊢
  by_cases carry : count = 2 ^ 53
  · subst carry
    simp only [if_true] at finite ⊢
    split at finite
    case isTrue => cases finite
    case isFalse within =>
      rw [if_neg within, value]
      congr 1
      push_cast
      rw [zpow_add_one₀ (by norm_num)]
      ring
  · simp only [if_neg carry] at finite ⊢
    split at finite
    case isTrue => cases finite
    case isFalse within =>
      rw [if_neg within, value]
      push_cast
      rfl

theorem nearest_ofRatio (negative : Bool) (below : 0 < den)
    (finite : (ofRatio negative num den).isFinite = true) :
    Nearest (withSign negative ((num : ℚ) / den)) (value (ofRatio negative num den)) := by
  by_cases zero : num = 0
  · subst zero
    have itself := Nearest.of_units (show |(0 : ℤ)| < 2 ^ 53 by norm_num)
      (show (-1074 : ℤ) ≤ 0 by norm_num)
    have vanishes : value (ofRatio negative 0 den) = withSign negative 0 := by
      rw [ofRatio, if_pos rfl, value, Nat.cast_zero, zero_mul]
    rw [vanishes, Nat.cast_zero, zero_div]
    exact Nearest.withSign (by simpa using itself) negative
  · have above : 0 < num := by omega
    have ratio : (0 : ℚ) < (num : ℚ) / den := by positivity
    have placed : unitExponent ((num : ℚ) / den) = exponentFor num den := by
      rw [unitExponent, abs_of_pos ratio, exponentFor_eq above below]
    have rounds := roundsTo_roundHalfEven (scaled num den (exponentFor num den)).1
      (scaled_pos num below (exponentFor num den))
    rw [scaled_ratio, ← placed] at rounds
    rw [value_ofRatio negative zero finite, ← placed]
    exact Nearest.withSign ⟨_, rounds, by rw [placed]⟩ negative

theorem isFinite_ofRatio (negative : Bool) (below : 0 < den)
    (small : (num : ℚ) / den < 2 ^ (1023 : ℤ)) : (ofRatio negative num den).isFinite = true := by
  by_cases zero : num = 0
  · rw [ofRatio, if_pos zero]
    rfl
  · have above : 0 < num := by omega
    have ratio : (0 : ℚ) < (num : ℚ) / den := by positivity
    have log : Int.log 2 ((num : ℚ) / den) < 1023 :=
      (Int.lt_zpow_iff_log_lt (by norm_num) ratio).mp (by exact_mod_cast small)
    have placed := exponentFor_eq above below
    simp only [ofRatio, if_neg zero, pack]
    split
    · rw [if_neg (by omega)]
      rfl
    · rw [if_neg (by omega)]
      rfl

theorem abs_value_lt (canonical : x.Canonical) : |value x| < 2 ^ (1024 : ℤ) := by
  cases x with
  | finite negative mantissa exponent =>
      obtain ⟨small, -, greatest, -⟩ := canonical
      have unit := unit_pos exponent
      have small : (mantissa : ℚ) < 2 ^ 53 := by exact_mod_cast small
      rw [value, abs_withSign negative (by positivity)]
      calc (mantissa : ℚ) * 2 ^ exponent < 2 ^ 53 * 2 ^ exponent := by gcongr
        _ = 2 ^ (exponent + 53) := two_pow_mul_zpow 53 exponent
        _ ≤ 2 ^ (1024 : ℤ) := zpow_le_zpow_right₀ (by norm_num) (by omega)
  | infinite => cases canonical
  | nan => cases canonical

/-! ## Operations -/

theorem nearest_ofInt {n : ℤ} (finite : (ofInt n).isFinite = true) :
    Nearest n (value (ofInt n)) := by
  have nearest := nearest_ofRatio (decide (n < 0)) one_pos finite
  have size : withSign (decide (n < 0)) ((n.natAbs : ℚ) / (1 : Nat)) = n := by
    rw [Nat.cast_one, div_one, Nat.cast_natAbs, withSign]
    by_cases below : n < 0
    · rw [if_pos (by simpa using below), abs_of_neg below, Int.cast_neg, neg_neg]
    · rw [if_neg (by simpa using below), abs_of_nonneg (by omega)]
  rw [size] at nearest
  exact nearest

theorem isFinite_ofInt {n : ℤ} (small : |(n : ℚ)| < 2 ^ (1023 : ℤ)) :
    (ofInt n).isFinite = true := by
  apply isFinite_ofRatio _ one_pos
  rw [Nat.cast_one, div_one, Nat.cast_natAbs, Int.cast_abs]
  exact small

theorem ratio_value (negative : Bool) (mantissa : Nat) (exponent : ℤ) :
    withSign negative (((magnitude mantissa exponent).1 : ℚ) / (magnitude mantissa exponent).2)
      = value (finite negative mantissa exponent) := by
  rw [magnitude_ratio, value]

/-- A number in canonical form that is divided by two or more stays finite. -/
theorem isFinite_divNat {divisor : Nat} (canonical : x.Canonical) (proper : 2 ≤ divisor) :
    (x.divNat divisor).isFinite = true := by
  have small := abs_value_lt canonical
  cases x with
  | finite negative mantissa exponent =>
      have divisible : (2 : ℚ) ≤ divisor := by exact_mod_cast proper
      have positive : (0 : ℚ) < divisor := by linarith
      have below := magnitude_pos mantissa exponent
      apply isFinite_ofRatio _ (Nat.mul_pos below (lt_of_lt_of_le two_pos proper))
      have nonneg : (0 : ℚ) ≤ (magnitude mantissa exponent).1 / (magnitude mantissa exponent).2 :=
        div_nonneg (Nat.cast_nonneg _) (Nat.cast_nonneg _)
      rw [← ratio_value, abs_withSign negative nonneg] at small
      rw [Nat.cast_mul, ← div_div, div_lt_iff₀ positive]
      calc ((magnitude mantissa exponent).1 : ℚ) / (magnitude mantissa exponent).2
          < 2 ^ (1024 : ℤ) := small
        _ = 2 ^ (1023 : ℤ) * 2 := by
          rw [← zpow_add_one₀ (by norm_num)]
          rfl
        _ ≤ 2 ^ (1023 : ℤ) * divisor := by gcongr
  | infinite => cases canonical
  | nan => cases canonical

theorem canonical_divNat {divisor : Nat} (proper : 0 < divisor)
    (finite : (x.divNat divisor).isFinite = true) : (x.divNat divisor).Canonical := by
  cases x with
  | finite negative mantissa exponent =>
      rw [divNat_finite] at finite ⊢
      exact canonical_ofRatio negative (Nat.mul_pos (magnitude_pos mantissa exponent) proper) finite
  | infinite => cases finite
  | nan => cases finite

theorem nearest_divNat {divisor : Nat} (proper : 0 < divisor)
    (finite : (x.divNat divisor).isFinite = true) :
    Nearest (value x / divisor) (value (x.divNat divisor)) := by
  cases x with
  | finite negative mantissa exponent =>
      have below := magnitude_pos mantissa exponent
      rw [divNat_finite] at finite ⊢
      have nearest := nearest_ofRatio negative (Nat.mul_pos below proper) finite
      rw [Nat.cast_mul, ← div_div, div_eq_mul_inv _ (divisor : ℚ), ← withSign_mul,
        ← div_eq_mul_inv, ratio_value] at nearest
      exact nearest
  | infinite => cases finite
  | nan => cases finite

theorem isFinite_mulNat {factor : Nat} (finite : x.isFinite = true)
    (small : |value x * factor| < 2 ^ (1023 : ℤ)) : (x.mulNat factor).isFinite = true := by
  cases x with
  | finite negative mantissa exponent =>
      have nonneg : (0 : ℚ) ≤ (magnitude mantissa exponent).1 / (magnitude mantissa exponent).2
          * factor := mul_nonneg (div_nonneg (Nat.cast_nonneg _) (Nat.cast_nonneg _))
        (Nat.cast_nonneg _)
      rw [← ratio_value, withSign_mul, abs_withSign negative nonneg] at small
      rw [mulNat_finite]
      apply isFinite_ofRatio negative (magnitude_pos mantissa exponent)
      rw [Nat.cast_mul, mul_div_right_comm]
      exact small
  | infinite => cases finite
  | nan => cases finite

theorem nearest_mulNat {factor : Nat} (finite : (x.mulNat factor).isFinite = true) :
    Nearest (value x * factor) (value (x.mulNat factor)) := by
  cases x with
  | finite negative mantissa exponent =>
      rw [mulNat_finite] at finite ⊢
      have nearest := nearest_ofRatio negative (magnitude_pos mantissa exponent) finite
      rw [Nat.cast_mul, mul_div_right_comm, ← withSign_mul, ratio_value] at nearest
      exact nearest
  | infinite => cases finite
  | nan => cases finite

/-- The fraction of a number has no more binary digits than the number. -/
theorem exists_units_fraction (small : mantissa < 2 ^ 53) (exponent : ℤ) :
    ∃ count : ℤ, |count| < 2 ^ 53 ∧
      (((magnitude mantissa exponent).1 % (magnitude mantissa exponent).2 : Nat) : ℚ)
        / (magnitude mantissa exponent).2 = count * 2 ^ exponent := by
  by_cases nonneg : 0 ≤ exponent
  · refine ⟨0, by norm_num, ?_⟩
    rw [magnitude, if_pos nonneg, Nat.mod_one]
    simp
  · have few := Nat.mod_le mantissa (Nat.pow 2 (-exponent).toNat)
    have ratio := magnitude_ratio (mantissa % Nat.pow 2 (-exponent).toNat) exponent
    rw [magnitude, if_neg nonneg] at ratio ⊢
    refine ⟨(mantissa % Nat.pow 2 (-exponent).toNat : Nat), ?_, ratio⟩
    rw [abs_of_nonneg (by positivity)]
    exact_mod_cast lt_of_le_of_lt few small

/-- The fraction of a number is that of its value, and taking it rounds nothing. -/
theorem value_fraction (canonical : x.Canonical) :
    x.fraction.isFinite = true ∧ value x.fraction = value x - wholePart (value x) := by
  cases x with
  | finite negative mantissa exponent =>
      obtain ⟨small, least, -, -⟩ := canonical
      have below := magnitude_pos mantissa exponent
      obtain ⟨count, few, counted⟩ := exists_units_fraction small exponent
      have proper : (((magnitude mantissa exponent).1 % (magnitude mantissa exponent).2 : Nat) : ℚ)
          / (magnitude mantissa exponent).2 < 2 ^ (1023 : ℤ) := by
        have denominator : (0 : ℚ) < (magnitude mantissa exponent).2 := by exact_mod_cast below
        apply lt_of_lt_of_le ((div_lt_one denominator).mpr _) (one_le_zpow₀ _ _)
        · exact_mod_cast Nat.mod_lt _ below
        · norm_num
        · norm_num
      have finite := isFinite_ofRatio negative below proper
      have itself := (Nearest.of_units few least).withSign negative
      rw [← counted] at itself
      rw [fraction_finite, ← ratio_value, sub_wholePart_withSign negative _ below]
      exact ⟨finite, (nearest_ofRatio negative below finite).unique itself⟩
  | infinite => cases canonical
  | nan => cases canonical

end Binary64

end ContainerWatch
