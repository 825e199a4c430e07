import ContainerWatch.Proofs.Binary64.Shortest

/-!
# Rounding as a relation between ratios

An operation on numbers of 53 binary digits gives the number that its exact result is rounded to.
Which number that is can be said of ratios alone: the exact result is a number of units, of which 53
binary digits can be counted, and an integer of them is taken that is nearest and even on a tie.
Said so, rounding is found to keep the order of ratios and not to move a ratio by more than half a
unit.
-/

namespace ContainerWatch

/-! ## Rounding to integers -/

/-- An integer that a ratio is rounded to: it is at most half a unit away, and even on a tie. -/
structure RoundsTo (ratio : ℚ) (whole : ℤ) : Prop where
  near : |ratio - whole| ≤ 1 / 2
  tie : |ratio - whole| = 1 / 2 → Even whole

namespace RoundsTo

variable {ratio ratio' : ℚ} {whole whole' : ℤ}

theorem of_int (whole : ℤ) : RoundsTo whole whole := by
  constructor
  · norm_num
  · norm_num

theorem neg (rounds : RoundsTo ratio whole) : RoundsTo (-ratio) (-whole) := by
  have mirrored : |(-ratio) - ((-whole : ℤ) : ℚ)| = |ratio - whole| := by
    rw [← abs_neg]
    push_cast
    ring_nf
  constructor
  · rw [mirrored]
    exact rounds.near
  · intro tie
    rw [mirrored] at tie
    exact (rounds.tie tie).neg

theorem mono (rounds : RoundsTo ratio whole) (rounds' : RoundsTo ratio' whole')
    (le : ratio ≤ ratio') : whole ≤ whole' := by
  by_contra less
  have apart : (whole' : ℚ) + 1 ≤ whole := by exact_mod_cast (show whole' + 1 ≤ whole by omega)
  obtain ⟨low, -⟩ := abs_le.mp rounds.near
  obtain ⟨-, high⟩ := abs_le.mp rounds'.near
  -- Only a tie between two neighbours is left, and one of them would be odd.
  have below : ratio - whole = -(1 / 2) := by linarith
  have above : ratio' - whole' = 1 / 2 := by linarith
  have next : whole = whole' + 1 := by
    have : (whole : ℚ) = whole' + 1 := by linarith
    exact_mod_cast this
  have even : Even whole := rounds.tie (by rw [below]; norm_num)
  have even' : Even whole' := rounds'.tie (by rw [above]; norm_num)
  rw [next] at even
  exact (Int.even_add_one.mp even) even'

theorem nonneg (rounds : RoundsTo ratio whole) (sign : 0 ≤ ratio) : 0 ≤ whole :=
  mono (of_int 0) rounds (by simpa using sign)

end RoundsTo

theorem roundsTo_roundHalfEven (num : Nat) {den : Nat} (positive : 0 < den) :
    RoundsTo ((num : ℚ) / den) (roundHalfEven num den) := by
  have denominator : (0 : ℚ) < den := by exact_mod_cast positive
  constructor
  · rw [abs_sub_comm]
    exact_mod_cast abs_roundHalfEven_sub_le num positive
  · intro tie
    have split := Nat.div_add_mod num den
    rw [Nat.mul_comm] at split
    have rest := Nat.mod_lt num positive
    have half : 2 * num = 2 * (roundHalfEven num den * den) + den ∨
        2 * num + den = 2 * (roundHalfEven num den * den) := by
      rcases (abs_eq (by norm_num)).mp tie with above | below
      · left
        rw [sub_eq_iff_eq_add, div_eq_iff denominator.ne'] at above
        have : (2 * num : ℚ) = 2 * (roundHalfEven num den * den) + den := by
          rw [above]
          push_cast
          ring
        exact_mod_cast this
      · right
        rw [sub_eq_iff_eq_add, div_eq_iff denominator.ne'] at below
        have : (2 * num + den : ℚ) = 2 * (roundHalfEven num den * den) := by
          rw [below]
          push_cast
          ring
        exact_mod_cast this
    have even : Even (roundHalfEven num den) := by
      simp only [roundHalfEven] at half ⊢
      rw [Nat.even_iff]
      split at half
      case isTrue down =>
        rw [if_pos down]
        omega
      case isFalse up =>
        rw [if_neg up]
        simp only [Nat.add_mul, Nat.one_mul] at half
        omega
    exact_mod_cast even

theorem roundsTo_roundHalfEvenInt (num : ℤ) {den : Nat} (positive : 0 < den) :
    RoundsTo ((num : ℚ) / den) (roundHalfEvenInt num den) := by
  have size := roundsTo_roundHalfEven num.natAbs positive
  rw [roundHalfEvenInt]
  split
  case isTrue negative =>
    have value : (num : ℚ) / den = -((num.natAbs : ℚ) / den) := by
      rw [← neg_div, Nat.cast_natAbs, abs_of_neg negative, Int.cast_neg, neg_neg]
    rw [value]
    exact size.neg
  case isFalse nonneg =>
    have value : (num : ℚ) = num.natAbs := by
      rw [Nat.cast_natAbs, abs_of_nonneg (by omega)]
    rw [value]
    exact size

namespace Binary64

/-! ## Rounding to 53 binary digits -/

/-- The exponent of the unit that a ratio is rounded in: the one in which it has 53 binary digits, or
    the least there is. -/
def unitExponent (ratio : ℚ) : ℤ := max (Int.log 2 |ratio| - 52) (-1074)

/-- A number that a ratio is rounded to: a whole number of units that is nearest, and even on a
    tie.  There is no greatest exponent here. -/
def Nearest (ratio rounded : ℚ) : Prop :=
  ∃ units : ℤ, RoundsTo (ratio / 2 ^ unitExponent ratio) units ∧
    rounded = units * 2 ^ unitExponent ratio

theorem unit_pos (exponent : ℤ) : (0 : ℚ) < 2 ^ exponent := zpow_pos (by norm_num) exponent

theorem unitExponent_neg (ratio : ℚ) : unitExponent (-ratio) = unitExponent ratio := by
  rw [unitExponent, unitExponent, abs_neg]

/-- A ratio below a power of two has a unit that is 53 places below that power. -/
theorem unitExponent_le {ratio : ℚ} {exponent : ℤ} (nonzero : ratio ≠ 0) (least : -1021 ≤ exponent)
    (small : |ratio| < 2 ^ exponent) : unitExponent ratio ≤ exponent - 53 := by
  have log : Int.log 2 |ratio| < exponent :=
    (Int.lt_zpow_iff_log_lt (by norm_num) (abs_pos.mpr nonzero)).mp (by exact_mod_cast small)
  unfold unitExponent
  omega

theorem abs_lt_units {ratio : ℚ} (nonzero : ratio ≠ 0) :
    |ratio| < 2 ^ (unitExponent ratio + 53) := by
  have log : Int.log 2 |ratio| < unitExponent ratio + 53 := by
    unfold unitExponent
    omega
  exact_mod_cast (Int.lt_zpow_iff_log_lt (by norm_num) (abs_pos.mpr nonzero)).mpr log

/-- A ratio counts at least `2 ^ 52` units, unless these are the least there are. -/
theorem units_le_abs {ratio : ℚ} (nonzero : ratio ≠ 0) (normal : unitExponent ratio ≠ -1074) :
    2 ^ (unitExponent ratio + 52) ≤ |ratio| := by
  have log : unitExponent ratio + 52 ≤ Int.log 2 |ratio| := by
    unfold unitExponent at normal ⊢
    omega
  exact_mod_cast (Int.zpow_le_iff_le_log (by norm_num) (abs_pos.mpr nonzero)).mpr log

namespace Nearest

variable {ratio ratio' rounded rounded' : ℚ}

theorem neg (nearest : Nearest ratio rounded) : Nearest (-ratio) (-rounded) := by
  obtain ⟨units, rounds, rfl⟩ := nearest
  refine ⟨-units, ?_, ?_⟩
  · rw [unitExponent_neg, neg_div]
    exact rounds.neg
  · rw [unitExponent_neg]
    push_cast
    ring

theorem nonneg (nearest : Nearest ratio rounded) (sign : 0 ≤ ratio) : 0 ≤ rounded := by
  obtain ⟨units, rounds, rfl⟩ := nearest
  have unit := unit_pos (unitExponent ratio)
  have counted : 0 ≤ units := rounds.nonneg (div_nonneg sign unit.le)
  exact mul_nonneg (by exact_mod_cast counted) unit.le

theorem nonpos (nearest : Nearest ratio rounded) (sign : ratio ≤ 0) : rounded ≤ 0 := by
  have mirrored := nearest.neg.nonneg (by linarith)
  linarith

theorem le_units (nearest : Nearest ratio rounded) (positive : 0 < ratio) :
    rounded ≤ 2 ^ (unitExponent ratio + 53) := by
  have high := abs_lt_units positive.ne'
  rw [abs_of_pos positive] at high
  obtain ⟨units, rounds, rfl⟩ := nearest
  have unit := unit_pos (unitExponent ratio)
  have few : units ≤ 2 ^ 53 := by
    apply rounds.mono (.of_int _)
    rw [div_le_iff₀ unit, Int.cast_pow, Int.cast_ofNat, two_pow_mul_zpow]
    exact high.le
  have few : (units : ℚ) ≤ 2 ^ 53 := by exact_mod_cast few
  calc units * (2 : ℚ) ^ unitExponent ratio
      ≤ 2 ^ 53 * 2 ^ unitExponent ratio := by gcongr
    _ = 2 ^ (unitExponent ratio + 53) := two_pow_mul_zpow 53 _

/-- A positive ratio is not rounded below `2 ^ 52` of its units, unless these are the least there
    are. -/
theorem units_le (nearest : Nearest ratio rounded) (positive : 0 < ratio)
    (normal : unitExponent ratio ≠ -1074) : 2 ^ (unitExponent ratio + 52) ≤ rounded := by
  have low := units_le_abs positive.ne' normal
  rw [abs_of_pos positive] at low
  obtain ⟨units, rounds, rfl⟩ := nearest
  have unit := unit_pos (unitExponent ratio)
  have many : 2 ^ 52 ≤ units := by
    apply RoundsTo.mono (.of_int _) rounds
    rw [le_div_iff₀ unit, Int.cast_pow, Int.cast_ofNat, two_pow_mul_zpow]
    exact low
  have many : (2 : ℚ) ^ 52 ≤ units := by exact_mod_cast many
  calc (2 : ℚ) ^ (unitExponent ratio + 52)
      = 2 ^ 52 * 2 ^ unitExponent ratio := (two_pow_mul_zpow 52 _).symm
    _ ≤ units * 2 ^ unitExponent ratio := by gcongr

/-- Rounding keeps the order of positive ratios.  Where the greater one has the greater unit, a power
    of two lies between the two numbers. -/
theorem mono_of_pos (nearest : Nearest ratio rounded) (nearest' : Nearest ratio' rounded')
    (positive : 0 < ratio) (le : ratio ≤ ratio') : rounded ≤ rounded' := by
  have positive' : 0 < ratio' := lt_of_lt_of_le positive le
  have least : -1074 ≤ unitExponent ratio := le_max_right _ _
  have ordered : unitExponent ratio ≤ unitExponent ratio' := by
    unfold unitExponent
    rw [abs_of_pos positive, abs_of_pos positive']
    have := Int.log_mono_right (b := 2) positive le
    omega
  rcases ordered.eq_or_lt with same | less
  · obtain ⟨units, rounds, rfl⟩ := nearest
    obtain ⟨units', rounds', rfl⟩ := nearest'
    have unit := unit_pos (unitExponent ratio')
    rw [same] at rounds ⊢
    have counted : units ≤ units' := rounds.mono rounds' (by gcongr)
    have counted : (units : ℚ) ≤ units' := by exact_mod_cast counted
    gcongr
  · calc rounded ≤ 2 ^ (unitExponent ratio + 53) := nearest.le_units positive
      _ ≤ 2 ^ (unitExponent ratio' + 52) := zpow_le_zpow_right₀ (by norm_num) (by omega)
      _ ≤ rounded' := nearest'.units_le positive' (by omega)

theorem mono (nearest : Nearest ratio rounded) (nearest' : Nearest ratio' rounded')
    (le : ratio ≤ ratio') : rounded ≤ rounded' := by
  by_cases positive : 0 < ratio
  · exact mono_of_pos nearest nearest' positive le
  · by_cases negative : ratio' < 0
    · have mirrored := mono_of_pos nearest'.neg nearest.neg (by linarith) (by linarith)
      linarith
    · exact (nearest.nonpos (not_lt.mp positive)).trans (nearest'.nonneg (not_lt.mp negative))

/-- A ratio is rounded to one number only. -/
theorem unique (nearest : Nearest ratio rounded) (nearest' : Nearest ratio rounded') :
    rounded = rounded' :=
  le_antisymm (nearest.mono nearest' le_rfl) (nearest'.mono nearest le_rfl)

/-- A whole number of units of less than 53 binary digits is a number of the format, and is rounded
    to itself. -/
theorem of_units {count exponent : ℤ} (small : |count| < 2 ^ 53) (least : -1074 ≤ exponent) :
    Nearest (count * 2 ^ exponent) (count * 2 ^ exponent) := by
  have unit := unit_pos exponent
  by_cases zero : count = 0
  · subst zero
    exact ⟨0, by simpa using RoundsTo.of_int 0, by simp⟩
  · have nonzero : (count : ℚ) * 2 ^ exponent ≠ 0 :=
      mul_ne_zero (by exact_mod_cast zero) unit.ne'
    have below : |(count : ℚ) * 2 ^ exponent| < 2 ^ (exponent + 53) := by
      have small : |(count : ℚ)| < 2 ^ 53 := by exact_mod_cast small
      calc |(count : ℚ) * 2 ^ exponent| = |(count : ℚ)| * 2 ^ exponent := by
            rw [abs_mul, abs_of_pos unit]
        _ < 2 ^ 53 * 2 ^ exponent := by gcongr
        _ = 2 ^ (exponent + 53) := two_pow_mul_zpow 53 exponent
    have finer := unitExponent_le nonzero (by omega) below
    obtain ⟨shift, shifted⟩ : ∃ shift : Nat,
        exponent = unitExponent (count * 2 ^ exponent) + shift :=
      ⟨(exponent - unitExponent (count * 2 ^ exponent)).toNat, by omega⟩
    have finerUnit := unit_pos (unitExponent (count * 2 ^ exponent))
    have counted : (count : ℚ) * 2 ^ exponent
        = ((count * 2 ^ shift : ℤ) : ℚ) * 2 ^ unitExponent (count * 2 ^ exponent) := by
      push_cast
      rw [mul_assoc, two_pow_mul_zpow, ← shifted]
    refine ⟨count * 2 ^ shift, ?_, counted⟩
    rw [(div_eq_iff finerUnit.ne').mpr counted]
    exact .of_int _

theorem abs_sub_le (nearest : Nearest ratio rounded) :
    |rounded - ratio| ≤ 2 ^ unitExponent ratio / 2 := by
  obtain ⟨units, rounds, rfl⟩ := nearest
  have unit := unit_pos (unitExponent ratio)
  have value : ratio = ratio / 2 ^ unitExponent ratio * 2 ^ unitExponent ratio :=
    (div_mul_cancel₀ ratio unit.ne').symm
  calc |(units : ℚ) * 2 ^ unitExponent ratio - ratio|
      = |ratio / 2 ^ unitExponent ratio - units| * 2 ^ unitExponent ratio := by
        nth_rewrite 2 [value]
        rw [← sub_mul, abs_mul, abs_of_pos unit, abs_sub_comm]
    _ ≤ 1 / 2 * 2 ^ unitExponent ratio := by
        gcongr
        exact rounds.near
    _ = 2 ^ unitExponent ratio / 2 := by ring

/-- Rounding moves a ratio up to a power of two by that power less 54 places at most. -/
theorem abs_sub_le_of_abs_le {exponent : ℤ} (nearest : Nearest ratio rounded)
    (least : -1021 ≤ exponent) (small : |ratio| ≤ 2 ^ exponent) :
    |rounded - ratio| ≤ 2 ^ (exponent - 54) := by
  have exact_of (count : ℤ) (few : |count| < 2 ^ 53) (value : ratio = count * 2 ^ exponent) :
      |rounded - ratio| ≤ 2 ^ (exponent - 54) := by
    have itself := of_units few (show -1074 ≤ exponent by omega)
    rw [← value] at itself
    rw [nearest.unique itself, sub_self, abs_zero]
    exact (unit_pos _).le
  rcases small.eq_or_lt with power | less
  · -- A power of two has the unit of the numbers above it, but is not moved at all.
    rcases (abs_eq (unit_pos exponent).le).mp power with positive | negative
    · exact exact_of 1 (by norm_num) (by simpa using positive)
    · exact exact_of (-1) (by norm_num) (by simpa using negative)
  · by_cases zero : ratio = 0
    · exact exact_of 0 (by norm_num) (by simpa using zero)
    · have finer := unitExponent_le zero least less
      calc |rounded - ratio| ≤ 2 ^ unitExponent ratio / 2 := nearest.abs_sub_le
        _ ≤ 2 ^ (exponent - 53) / 2 := by
          gcongr
          norm_num
        _ = 2 ^ (exponent - 54) := by
          rw [show exponent - 54 = exponent - 53 - 1 by ring, zpow_sub_one₀ (by norm_num)]
          ring

end Nearest

end Binary64

end ContainerWatch
