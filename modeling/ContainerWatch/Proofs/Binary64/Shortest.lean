import ContainerWatch.Binary64.Decimal
import ContainerWatch.Proofs.Binary64.Rounding
import ContainerWatch.Proofs.Json.Digits

/-!
# The shortest decimal

The shortest decimal of a number reads back as that number, with either sign.  One of seventeen
digits is so close to the number that it always does, so the search for fewer digits finds
something.
-/

namespace ContainerWatch.Binary64

section Ratios

variable {num den mantissa : Nat} {exponent : Int}

/-! ## Decimals and their ratios -/

theorem exists_ratio_ofDecimal (digits : Nat) (power : Int) :
    ∃ num den : Nat, 0 < den ∧ (num : ℚ) / den = digits * 10 ^ power ∧
      ∀ negative, ofDecimal negative digits power = ofRatio negative num den := by
  by_cases nonneg : 0 ≤ power
  · obtain ⟨k, rfl⟩ := Int.eq_ofNat_of_zero_le nonneg
    exact ⟨digits * 10 ^ k, 1, one_pos, by simp, fun negative => by simp [ofDecimal, Nat.pow_eq]⟩
  · obtain ⟨k, rfl⟩ : ∃ k : Nat, power = -k := ⟨(-power).toNat, by omega⟩
    refine ⟨digits, 10 ^ k, by positivity, ?_, fun negative => ?_⟩
    · simp [div_eq_mul_inv]
    · rw [ofDecimal, if_neg nonneg]
      simp [Nat.pow_eq]

/-- Decimals of one value are read as one number. -/
theorem ofDecimal_congr (negative : Bool) {digits digits' : Nat} {power power' : Int}
    (same : (digits : ℚ) * 10 ^ power = digits' * 10 ^ power') :
    ofDecimal negative digits power = ofDecimal negative digits' power' := by
  obtain ⟨num, den, below, value, read⟩ := exists_ratio_ofDecimal digits power
  obtain ⟨num', den', below', value', read'⟩ := exists_ratio_ofDecimal digits' power'
  rw [read, read']
  exact ofRatio_congr negative below below' (by rw [value, value', same])

theorem magnitude_pos (mantissa : Nat) (exponent : Int) : 0 < (magnitude mantissa exponent).2 := by
  unfold magnitude
  split
  · exact one_pos
  · exact Nat.pow_pos (by omega)

theorem magnitude_fst_pos (exponent : Int) (positive : 0 < mantissa) :
    0 < (magnitude mantissa exponent).1 := by
  unfold magnitude
  split
  · exact Nat.mul_pos positive (Nat.pow_pos (by omega))
  · exact positive

theorem magnitude_ratio (mantissa : Nat) (exponent : Int) :
    ((magnitude mantissa exponent).1 : ℚ) / (magnitude mantissa exponent).2
      = mantissa * 2 ^ exponent := by
  unfold magnitude
  split
  case isTrue nonneg =>
    obtain ⟨k, rfl⟩ := Int.eq_ofNat_of_zero_le nonneg
    simp [Nat.pow_eq]
  case isFalse negative =>
    obtain ⟨k, rfl⟩ : ∃ k : Nat, exponent = -k := ⟨(-exponent).toNat, by omega⟩
    simp [Nat.pow_eq, div_eq_mul_inv]

/-- A number of the format is what its size rounds to, with either sign. -/
theorem ofRatio_of_positive {negative : Bool}
    (rounded : ofRatio false num den = finite false mantissa exponent) :
    ofRatio negative num den = finite negative mantissa exponent := by
  simp only [ofRatio, pack] at rounded ⊢
  split_ifs at rounded ⊢ <;> cases rounded <;> rfl

theorem pow_decimalLog_le (above : 0 < num) (below : 0 < den) :
    (10 : ℚ) ^ decimalLog num den ≤ (num : ℚ) / den := by
  have denominator : (0 : ℚ) < den := by exact_mod_cast below
  have reaches (guess : Int) : (if 0 ≤ guess then den * Nat.pow 10 guess.toNat ≤ num
      else den ≤ num * Nat.pow 10 (-guess).toNat) ↔ (10 : ℚ) ^ guess ≤ (num : ℚ) / den := by
    have base : (10 : ℚ) = (10 : Nat) := by norm_num
    rw [base, ← scaledBy_le_iff (by omega) num below, scaledBy]
    split <;> rfl
  simp only [decimalLog, reaches]
  split
  case isTrue reached => exact reached
  case isFalse =>
    have numLow : (10 : ℚ) ^ (Text.decimal num).length ≤ 10 * num := by
      exact_mod_cast Json.pow_length_decimal_le above
    have denHigh : (den : ℚ) ≤ 10 ^ (Text.decimal den).length := by
      exact_mod_cast (Json.lt_pow_length_decimal den).le
    rw [le_div_iff₀ denominator, zpow_sub_one₀ (by norm_num), zpow_sub₀ (by norm_num),
      zpow_natCast, zpow_natCast]
    calc (10 : ℚ) ^ (Text.decimal num).length / 10 ^ (Text.decimal den).length * 10⁻¹ * den
        ≤ 10 * num / 10 ^ (Text.decimal den).length * 10⁻¹ * 10 ^ (Text.decimal den).length := by
          gcongr
      _ = num := by field_simp

/-! ## Seventeen digits -/

/-- The nearest of the multiples of a power of ten that is seventeen places below a number reads
    back as that number. -/
theorem readsBack_nearest (canonical : Canonical (finite false mantissa exponent))
    (positive : 0 < mantissa) (below : 0 < den)
    (size : (num : ℚ) / den = mantissa * 2 ^ exponent) {power : Int}
    (reached : (10 : ℚ) ^ (power + 16) ≤ (num : ℚ) / den) :
    readsBack mantissa exponent
      ⟨roundHalfEven (decimallyScaled num den power).1 (decimallyScaled num den power).2, power⟩
        = true := by
  have divisor := scaledBy_pos (show 0 < 10 by omega) num below power
  have ratio := scaledBy_ratio 10 num den power
  change 0 < (decimallyScaled num den power).2 at divisor
  change ((decimallyScaled num den power).1 : ℚ) / (decimallyScaled num den power).2 = _ at ratio
  have near := abs_roundHalfEven_sub_le (decimallyScaled num den power).1 divisor
  obtain ⟨num', den', below', value, read⟩ := exists_ratio_ofDecimal
    (roundHalfEven (decimallyScaled num den power).1 (decimallyScaled num den power).2) power
  rw [readsBack, read, beq_iff_eq]
  refine ofRatio_eq_of_near canonical positive below' ?_
  have unit : (0 : ℚ) < 10 ^ power := by positivity
  rw [value, ← size]
  rw [ratio, Nat.cast_ofNat] at near
  rw [zpow_add₀ (by norm_num)] at reached
  calc |(roundHalfEven _ _ : ℚ) * 10 ^ power - (num : ℚ) / den| * (2 * 10 ^ 16)
      = |(roundHalfEven _ _ : ℚ) - (num : ℚ) / den / 10 ^ power| * 10 ^ power * (2 * 10 ^ 16) := by
        rw [← abs_of_pos unit, ← abs_mul, abs_of_pos unit, sub_mul, div_mul_cancel₀ _ unit.ne']
    _ ≤ 1 / 2 * 10 ^ power * (2 * 10 ^ 16) := by gcongr
    _ = 10 ^ power * 10 ^ (16 : Int) := by ring
    _ ≤ (num : ℚ) / den := reached

/-- The search for the shortest decimal of a positive number ends with one that reads back. -/
theorem readsBack_shortest (canonical : Canonical (finite false mantissa exponent))
    (positive : 0 < mantissa) :
    readsBack mantissa exponent (shortest mantissa exponent) = true := by
  have below := magnitude_pos mantissa exponent
  have reached := pow_decimalLog_le (magnitude_fst_pos exponent positive) below
  let search (count : Nat) : Option Decimal :=
    (neighbours (magnitude mantissa exponent).1 (magnitude mantissa exponent).2
      (decimalLog (magnitude mantissa exponent).1 (magnitude mantissa exponent).2 - count)).find?
        (readsBack mantissa exponent)
  have last : (search 16).isSome := List.find?_isSome.mpr ⟨_, List.mem_cons_self,
    readsBack_nearest canonical positive below (magnitude_ratio mantissa exponent)
      (by rwa [Nat.cast_ofNat, Int.sub_add_cancel])⟩
  have ends : ((List.range 17).findSome? search).isSome :=
    List.findSome?_isSome_iff.mpr ⟨16, by simp, last⟩
  obtain ⟨decimal, found⟩ := Option.isSome_iff_exists.mp ends
  obtain ⟨count, _, among⟩ := List.exists_of_findSome?_eq_some found
  have chosen : shortest mantissa exponent = decimal := by
    change ((List.range 17).findSome? search).getD _ = decimal
    rw [found, Option.getD_some]
  rw [chosen]
  exact List.find?_some among

/-- The shortest decimal of a positive number reads back as the number, with either sign. -/
theorem ofDecimal_shortest (negative : Bool)
    (canonical : Canonical (finite negative mantissa exponent)) (positive : 0 < mantissa) :
    ofDecimal negative (shortest mantissa exponent).digits (shortest mantissa exponent).power
      = finite negative mantissa exponent := by
  have canonical' : Canonical (finite false mantissa exponent) := canonical
  have readBack := readsBack_shortest canonical' positive
  obtain ⟨num, den, _, _, read⟩ := exists_ratio_ofDecimal (shortest mantissa exponent).digits
    (shortest mantissa exponent).power
  rw [readsBack, read, beq_iff_eq] at readBack
  rw [read]
  exact ofRatio_of_positive readBack

theorem shortest_digits_pos (canonical : Canonical (finite false mantissa exponent))
    (positive : 0 < mantissa) : 0 < (shortest mantissa exponent).digits := by
  rcases Nat.eq_zero_or_pos (shortest mantissa exponent).digits with zero | digits
  · have readBack := ofDecimal_shortest false canonical positive
    rw [zero] at readBack
    have none : ofDecimal false 0 (shortest mantissa exponent).power = finite false 0 (-1074) := by
      simp [ofDecimal, ofRatio]
    rw [none] at readBack
    cases readBack
    omega
  · exact digits

/-- A zero in place of the shortest decimal of a positive number stands for itself: no decimal that
    reads back as the number is zero. -/
theorem shortest_power_of_digits_zero (positive : 0 < mantissa)
    (zero : (shortest mantissa exponent).digits = 0) : (shortest mantissa exponent).power = 0 := by
  simp only [shortest] at zero ⊢
  generalize found : List.findSome? _ (List.range 17) = candidate at zero ⊢
  cases candidate with
  | none => rfl
  | some decimal =>
      obtain ⟨count, _, among⟩ := List.exists_of_findSome?_eq_some found
      have readBack := List.find?_some among
      rw [Option.getD_some] at zero
      have same : finite false 0 (-1074) = finite false mantissa exponent := by
        simpa [readsBack, zero, ofDecimal, ofRatio] using readBack
      cases same
      omega

end Ratios

end ContainerWatch.Binary64
