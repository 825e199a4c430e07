import ContainerWatch.Proofs.Binary64.Values
import ContainerWatch.Proofs.Instants

/-!
# Instants from nanoseconds

A number of nanoseconds is taken to seconds in floating point, and the fraction of these to
microseconds, so that four roundings lie between the nanoseconds and the instant.  Each of them keeps
the order, and so does the change from one second to the next.  Up to the year 2106 the first rounding
moves a number by 256 nanoseconds at most, the second by less than 239, the third by next to nothing
and the last by 500, which is less than a microsecond in all.
-/

namespace ContainerWatch

open Binary64

/-! ## The roundings -/

theorem abs_fraction_mul_lt (seconds : ℚ) :
    |(seconds - wholePart seconds) * 10 ^ 6| < 2 ^ (20 : ℤ) := by
  have fraction := abs_sub_wholePart_lt seconds
  rw [abs_mul]
  norm_num
  linarith

/-- The microseconds that a number of seconds comes to: its fraction is scaled in floating point and
    rounded to an integer. -/
def ComesTo (seconds : ℚ) (micros : ℤ) : Prop :=
  ∃ scaled part, Nearest ((seconds - wholePart seconds) * 10 ^ 6) scaled ∧ RoundsTo scaled part ∧
    micros = wholePart seconds * 10 ^ 6 + part

/-- The microseconds that a number of nanoseconds comes to: it is rounded to a number of the format,
    and so is the quotient of that. -/
def Reckoned (nanoseconds micros : ℤ) : Prop :=
  ∃ number seconds, Nearest nanoseconds number ∧ Nearest (number / 10 ^ 9) seconds ∧
    ComesTo seconds micros

namespace ComesTo

variable {seconds seconds' : ℚ} {micros micros' : ℤ}

/-- A fraction of a second comes to a million microseconds at most, on its own side of zero. -/
theorem part_bounds {scaled fraction : ℚ} {part : ℤ}
    (nearest : Nearest (fraction * 10 ^ 6) scaled) (rounds : RoundsTo scaled part) :
    (fraction ≤ 1 → part ≤ 10 ^ 6) ∧ (-1 ≤ fraction → -10 ^ 6 ≤ part) ∧
      (fraction ≤ 0 → part ≤ 0) ∧ (0 ≤ fraction → 0 ≤ part) := by
  have itself (count : ℤ) (few : |count| < 2 ^ 53) : Nearest count count := by
    simpa using Nearest.of_units few (show -1074 ≤ (0 : ℤ) by norm_num)
  have upper (count : ℤ) (few : |count| < 2 ^ 53) (le : fraction * 10 ^ 6 ≤ count) :
      part ≤ count := rounds.mono (.of_int count) (nearest.mono (itself count few) le)
  have lower (count : ℤ) (few : |count| < 2 ^ 53) (le : count ≤ fraction * 10 ^ 6) :
      count ≤ part := RoundsTo.mono (.of_int count) rounds ((itself count few).mono nearest le)
  refine ⟨fun le => ?_, fun le => ?_, fun le => ?_, fun le => ?_⟩
  · apply upper (10 ^ 6) (by norm_num)
    push_cast
    linarith
  · apply lower (-10 ^ 6) (by norm_num)
    push_cast
    linarith
  · apply upper 0 (by norm_num)
    push_cast
    linarith
  · apply lower 0 (by norm_num)
    push_cast
    linarith

/-- The microseconds lie within a second of the whole seconds, on the side of the fraction. -/
theorem bounds (comes : ComesTo seconds micros) :
    (0 ≤ seconds → wholePart seconds * 10 ^ 6 ≤ micros ∧
      micros ≤ (wholePart seconds + 1) * 10 ^ 6) ∧
    (seconds ≤ 0 → (wholePart seconds - 1) * 10 ^ 6 ≤ micros ∧
      micros ≤ wholePart seconds * 10 ^ 6) := by
  obtain ⟨scaled, part, nearest, rounds, rfl⟩ := comes
  obtain ⟨most, least, nonpos, nonneg⟩ := part_bounds nearest rounds
  obtain ⟨above, below⟩ := sub_wholePart_bounds seconds
  constructor
  · intro sign
    obtain ⟨low, high⟩ := above sign
    have := most high.le
    have := nonneg low
    omega
  · intro sign
    obtain ⟨low, high⟩ := below sign
    have := least low.le
    have := nonpos high
    omega

theorem mono (comes : ComesTo seconds micros) (comes' : ComesTo seconds' micros')
    (le : seconds ≤ seconds') : micros ≤ micros' := by
  by_cases same : wholePart seconds = wholePart seconds'
  · obtain ⟨scaled, part, nearest, rounds, rfl⟩ := comes
    obtain ⟨scaled', part', nearest', rounds', rfl⟩ := comes'
    have ordered : scaled ≤ scaled' := by
      apply nearest.mono nearest'
      rw [same]
      gcongr
    have := rounds.mono rounds' ordered
    omega
  · -- Between different seconds on the same side of zero, or on both sides of it, a second begins.
    obtain ⟨above, below⟩ := comes.bounds
    obtain ⟨above', below'⟩ := comes'.bounds
    have ordered : wholePart seconds ≤ wholePart seconds' := wholePart_mono le
    rcases le_total 0 seconds with sign | sign
    · have := (above sign).2
      have := (above' (sign.trans le)).1
      omega
    · have := (below sign).2
      rcases le_total seconds' 0 with sign' | sign'
      · have := (below' sign').1
        omega
      · have := (above' sign').1
        omega

/-- The microseconds differ from the seconds by hardly more than half of one. -/
theorem near (comes : ComesTo seconds micros) :
    |(micros : ℚ) - seconds * 10 ^ 6| ≤ 1 / 2 + 1 / 2 ^ 34 := by
  obtain ⟨scaled, part, nearest, rounds, rfl⟩ := comes
  have moved := nearest.abs_sub_le_of_abs_le (by norm_num) (abs_fraction_mul_lt seconds).le
  norm_num at moved
  obtain ⟨low, high⟩ := abs_le.mp moved
  obtain ⟨low', high'⟩ := abs_le.mp rounds.near
  rw [abs_le]
  push_cast
  constructor <;> linarith

end ComesTo

namespace Reckoned

variable {nanoseconds nanoseconds' micros micros' : ℤ}

theorem mono (reckoned : Reckoned nanoseconds micros) (reckoned' : Reckoned nanoseconds' micros')
    (le : nanoseconds ≤ nanoseconds') : micros ≤ micros' := by
  obtain ⟨number, seconds, nearest, quotient, comes⟩ := reckoned
  obtain ⟨number', seconds', nearest', quotient', comes'⟩ := reckoned'
  have numbers : number ≤ number' := nearest.mono nearest' (by exact_mod_cast le)
  have ordered : seconds ≤ seconds' := by
    apply quotient.mono quotient'
    gcongr
  exact comes.mono comes' ordered

/-- Up to `2 ^ 32` seconds, the microseconds differ from the nanoseconds by less than one. -/
theorem near (reckoned : Reckoned nanoseconds micros) (nonneg : 0 ≤ nanoseconds)
    (small : nanoseconds ≤ 2 ^ 32 * 10 ^ 9) : |(micros : ℚ) - nanoseconds / 10 ^ 3| < 1 := by
  obtain ⟨number, seconds, nearest, quotient, comes⟩ := reckoned
  have nonneg' : (0 : ℚ) ≤ nanoseconds := by exact_mod_cast nonneg
  have small' : (nanoseconds : ℚ) ≤ 2 ^ 32 * 10 ^ 9 := by exact_mod_cast small
  have moved : |number - nanoseconds| ≤ 2 ^ ((62 : ℤ) - 54) := by
    apply nearest.abs_sub_le_of_abs_le (by norm_num)
    rw [abs_of_nonneg nonneg']
    norm_num at small' ⊢
    linarith
  -- The greatest number of nanoseconds is one of the format, so that none is rounded above it.
  have greatest : Nearest (2 ^ 32 * 10 ^ 9) (2 ^ 32 * 10 ^ 9) := by
    have small : |(5 ^ 9 : ℤ)| < 2 ^ 53 := by norm_num
    have itself := Nearest.of_units small (show (-1074 : ℤ) ≤ 41 by norm_num)
    norm_num at itself ⊢
    exact itself
  have below : number ≤ 2 ^ 32 * 10 ^ 9 := nearest.mono greatest small'
  have above : 0 ≤ number := nearest.nonneg nonneg'
  have moved' : |seconds - number / 10 ^ 9| ≤ 2 ^ ((32 : ℤ) - 54) := by
    apply quotient.abs_sub_le_of_abs_le (by norm_num)
    rw [abs_of_nonneg (by positivity)]
    norm_num at below ⊢
    linarith
  have moved'' := comes.near
  norm_num at moved moved' moved'' ⊢
  obtain ⟨low, high⟩ := abs_le.mp moved
  obtain ⟨low', high'⟩ := abs_le.mp moved'
  obtain ⟨low'', high''⟩ := abs_le.mp moved''
  rw [abs_lt]
  constructor <;> linarith

end Reckoned

/-! ## The instants -/

namespace Instant

/-- Seconds in floating point have the instant of the microseconds that their value comes to. -/
theorem exists_comesTo {x : Binary64} (canonical : x.Canonical) :
    ∃ micros, ComesTo (value x) micros ∧ ofFloat x = ofMicros micros := by
  cases x with
  | finite negative mantissa exponent =>
      obtain ⟨proper, fraction⟩ := value_fraction canonical
      have small : |value (finite negative mantissa exponent).fraction * (1000000 : Nat)|
          < 2 ^ (1023 : ℤ) := by
        rw [fraction, show ((1000000 : Nat) : ℚ) = 10 ^ 6 by norm_num]
        exact (abs_fraction_mul_lt _).trans_le (zpow_le_zpow_right₀ one_le_two (by norm_num))
      have scaled := isFinite_mulNat proper small
      have nearest := nearest_mulNat scaled
      obtain ⟨num, den, ratio, below, value⟩ := exists_ratio? scaled
      have rounds := roundsTo_roundHalfEvenInt num below
      rw [value] at rounds
      rw [fraction] at nearest
      refine ⟨_, ⟨_, _, by exact_mod_cast nearest, rounds, rfl⟩, ?_⟩
      have whole := truncate?_eq_wholePart
        (show (finite negative mantissa exponent).isFinite = true from rfl)
      simp only [ofFloat, whole, ratio, Option.getD_some]
      norm_num
  | infinite => cases canonical
  | nan => cases canonical

/-- Nanoseconds that have a number of the format near them have the instant of the microseconds that
    they come to. -/
theorem exists_reckoned {nanoseconds : ℤ} (finite : (ofInt nanoseconds).isFinite = true) :
    ∃ micros, Reckoned nanoseconds micros ∧ ofNanoseconds nanoseconds = ofMicros micros := by
  have canonical : (ofInt nanoseconds).Canonical := canonical_ofRatio _ one_pos finite
  have proper := isFinite_divNat canonical (show 2 ≤ 1000000000 by norm_num)
  have quotient := nearest_divNat (by norm_num) proper
  obtain ⟨micros, comes, found⟩ := exists_comesTo (canonical_divNat (by norm_num) proper)
  refine ⟨micros, ⟨_, _, nearest_ofInt finite, by exact_mod_cast quotient, comes⟩, ?_⟩
  simp only [ofNanoseconds, finite, if_true]
  exact found

theorem reckoned_of_ofNanoseconds {nanoseconds : ℤ} {instant : Instant}
    (found : ofNanoseconds nanoseconds = .ok instant) : Reckoned nanoseconds instant.micros := by
  by_cases finite : (ofInt nanoseconds).isFinite = true
  · obtain ⟨micros, reckoned, rounded⟩ := exists_reckoned finite
    rw [rounded] at found
    rw [ofMicros_eq_ok_iff.mp found]
    exact reckoned
  · simp only [ofNanoseconds, finite, Bool.false_eq_true, if_false] at found
    cases found

theorem exists_ofNanoseconds {nanoseconds : ℤ} (nonneg : 0 ≤ nanoseconds)
    (small : nanoseconds ≤ 2 ^ 32 * 10 ^ 9) : ∃ instant, ofNanoseconds nanoseconds = .ok instant := by
  have finite : (ofInt nanoseconds).isFinite = true := by
    apply isFinite_ofInt
    apply lt_of_lt_of_le _ (zpow_le_zpow_right₀ one_le_two (show (62 : ℤ) ≤ 1023 by norm_num))
    rw [abs_of_nonneg (by exact_mod_cast nonneg)]
    have small : (nanoseconds : ℚ) ≤ 2 ^ 32 * 10 ^ 9 := by exact_mod_cast small
    norm_num at small ⊢
    linarith
  obtain ⟨micros, reckoned, rounded⟩ := exists_reckoned finite
  obtain ⟨low, high⟩ := abs_lt.mp (reckoned.near nonneg small)
  have nonneg' : (0 : ℚ) ≤ nanoseconds := by exact_mod_cast nonneg
  have small' : (nanoseconds : ℚ) ≤ 2 ^ 32 * 10 ^ 9 := by exact_mod_cast small
  have first : (-1 : ℚ) ≤ micros := by
    have : 0 ≤ (nanoseconds : ℚ) / 10 ^ 3 := by positivity
    linarith
  have last : (micros : ℚ) ≤ 2 ^ 32 * 10 ^ 6 + 1 := by
    norm_num at small' high ⊢
    linarith
  have first : -1 ≤ micros := by exact_mod_cast first
  have last : micros ≤ 2 ^ 32 * 10 ^ 6 + 1 := by exact_mod_cast last
  refine ⟨⟨micros, by omega, by omega⟩, ?_⟩
  rw [rounded, ofMicros_eq_ok_iff]

end Instant

end ContainerWatch
