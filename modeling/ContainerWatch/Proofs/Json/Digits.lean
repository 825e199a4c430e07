import ContainerWatch.Json.Reader
import ContainerWatch.Text.Digits
import Mathlib.Data.List.Induction
import Mathlib.Tactic.IntervalCases
import Mathlib.Tactic.Ring

/-!
# Decimal digits

The digits of a natural number read back as that number, and the number of them tells between which
powers of ten it lies.  No number but zero begins with a zero.  Digits are among the characters that
all of the output consists of.
-/

namespace ContainerWatch.Json

open Text

/-! ## Printable characters -/

/-- A text of printable ASCII characters, none of which ends a line. -/
def Printable (text : List Char) : Prop := ∀ c ∈ text, 0x20 ≤ c.toNat ∧ c.toNat ≤ 0x7E

instance (text : List Char) : Decidable (Printable text) :=
  List.decidableBAll (fun c : Char => 0x20 ≤ c.toNat ∧ c.toNat ≤ 0x7E) text

@[simp] theorem printable_nil : Printable [] := nofun

@[simp] theorem printable_cons {c : Char} {text : List Char} :
    Printable (c :: text) ↔ (0x20 ≤ c.toNat ∧ c.toNat ≤ 0x7E) ∧ Printable text :=
  List.forall_mem_cons

@[simp] theorem printable_append {first last : List Char} :
    Printable (first ++ last) ↔ Printable first ∧ Printable last := List.forall_mem_append

theorem printable_of_isDigit {text : List Char} (all : ∀ c ∈ text, c.isDigit = true) :
    Printable text := by
  intro c member
  have digit := all c member
  simp only [Char.isDigit, Bool.and_eq_true, decide_eq_true_eq] at digit
  obtain ⟨low, high⟩ := digit
  have low : 48 ≤ c.toNat := low
  have high : c.toNat ≤ 57 := high
  omega

/-! ## Single digits -/

theorem toNat_digitChar {d : Nat} (small : d < 10) : (digitChar d).toNat = 48 + d := by
  interval_cases d <;> rfl

theorem isDigit_digitChar {d : Nat} (small : d < 10) : (digitChar d).isDigit = true := by
  interval_cases d <;> rfl

/-! ## What digits write -/

@[simp] theorem naturalOf_nil : naturalOf [] = 0 := rfl

theorem naturalOf_concat (digits : List Char) (c : Char) :
    naturalOf (digits ++ [c]) = 10 * naturalOf digits + (c.toNat - 48) := by
  simp [naturalOf]

theorem naturalOf_append (first last : List Char) :
    naturalOf (first ++ last) = naturalOf first * 10 ^ last.length + naturalOf last := by
  induction last using List.reverseRecOn with
  | nil => simp
  | append_singleton last c ih =>
      rw [← List.append_assoc, naturalOf_concat, naturalOf_concat, ih, List.length_append,
        List.length_singleton, pow_succ]
      ring

@[simp] theorem naturalOf_zeros (count : Nat) : naturalOf (List.replicate count '0') = 0 := by
  induction count with
  | zero => rfl
  | succ count ih => rw [List.replicate_succ', naturalOf_concat, ih]; rfl

/-- The last digits of a number write what is left of it modulo a power of ten. -/
@[simp] theorem naturalOf_fixedDigits (width n : Nat) :
    naturalOf (fixedDigits 10 width n) = n % 10 ^ width := by
  induction width generalizing n with
  | zero => rw [pow_zero, Nat.mod_one]; rfl
  | succ width ih =>
      have last : n % 10 < 10 := Nat.mod_lt _ (by omega)
      rw [fixedDigits, naturalOf_concat, ih, toNat_digitChar last, pow_succ', Nat.mod_mul]
      omega

/-! ## The digits of a number -/

theorem decimal_of_lt {n : Nat} (small : n < 10) : decimal n = [digitChar n] := by
  rw [decimal, digits, dif_pos (.inl small)]

theorem decimal_of_le {n : Nat} (large : 10 ≤ n) :
    decimal n = decimal (n / 10) ++ [digitChar (n % 10)] := by
  rw [decimal, digits, dif_neg (by omega)]
  rfl

/-- What holds of the one digit of a small number, and of more digits if it holds of all but the
    last, holds of the digits of every number. -/
theorem decimal_induction {motive : Nat → List Char → Prop}
    (single : ∀ n, n < 10 → motive n [digitChar n])
    (more : ∀ n, 10 ≤ n → motive (n / 10) (decimal (n / 10)) →
      motive n (decimal (n / 10) ++ [digitChar (n % 10)])) (n : Nat) : motive n (decimal n) := by
  induction n using Nat.strong_induction_on with
  | _ n ih =>
      by_cases small : n < 10
      · rw [decimal_of_lt small]
        exact single n small
      · rw [decimal_of_le (by omega)]
        exact more n (by omega) (ih (n / 10) (by omega))

@[simp] theorem naturalOf_decimal (n : Nat) : naturalOf (decimal n) = n := by
  refine decimal_induction (motive := fun n digits => naturalOf digits = n) ?_ ?_ n
  · intro n small
    rw [← List.nil_append [digitChar n], naturalOf_concat, toNat_digitChar small, naturalOf_nil]
    omega
  · intro n _ ih
    rw [naturalOf_concat, ih, toNat_digitChar (Nat.mod_lt _ (by omega))]
    omega

theorem isDigit_of_mem_decimal {n : Nat} : ∀ c ∈ decimal n, c.isDigit = true := by
  refine decimal_induction (motive := fun _ digits => ∀ c ∈ digits, c.isDigit = true) ?_ ?_ n
  · intro n small c member
    rw [List.mem_singleton.mp member]
    exact isDigit_digitChar small
  · intro n _ ih c member
    rcases List.mem_append.mp member with member | member
    · exact ih c member
    · rw [List.mem_singleton.mp member]
      exact isDigit_digitChar (Nat.mod_lt _ (by omega))

theorem decimal_ne_nil (n : Nat) : decimal n ≠ [] := by
  refine decimal_induction (motive := fun _ digits => digits ≠ []) ?_ ?_ n
  · intro n _
    exact List.cons_ne_nil _ _
  · intro n _ _
    simp

theorem head?_decimal {n : Nat} (positive : 0 < n) : (decimal n).head? ≠ some '0' := by
  refine decimal_induction (motive := fun n digits => 0 < n → digits.head? ≠ some '0') ?_ ?_
    n positive
  · intro n small positive
    interval_cases n <;> decide
  · intro n large ih _
    obtain ⟨first, rest, digits⟩ := List.exists_cons_of_ne_nil (decimal_ne_nil (n / 10))
    rw [digits] at ih ⊢
    exact ih (by omega)

/-- A number is below the power of ten with as many zeros as it has digits. -/
theorem lt_pow_length_decimal (n : Nat) : n < 10 ^ (decimal n).length := by
  refine decimal_induction (motive := fun n digits => n < 10 ^ digits.length) ?_ ?_ n
  · intro n small
    simpa using small
  · intro n _ ih
    rw [List.length_append, List.length_singleton, pow_succ]
    omega

theorem pow_length_decimal_le {n : Nat} (positive : 0 < n) :
    10 ^ (decimal n).length ≤ 10 * n := by
  refine decimal_induction (motive := fun n digits => 0 < n → 10 ^ digits.length ≤ 10 * n) ?_ ?_
    n positive
  · intro n _ positive
    rw [List.length_singleton]
    omega
  · intro n large ih _
    have shorter := ih (by omega)
    rw [List.length_append, List.length_singleton, pow_succ]
    omega

end ContainerWatch.Json
