import ContainerWatch.Json.Writer
import ContainerWatch.Proofs.Binary64.Shortest
import Mathlib.Data.List.TakeWhile

/-!
# Numbers in JSON

A number is written as a numeral: digits, digits behind a point, an exponent.  A numeral is read as
an integer if it has neither a point nor an exponent, and otherwise as the number nearest to its
value.  So integers are read back as they are, and numbers in floating point because their shortest
decimal reads back.
-/

namespace ContainerWatch.Json

open Binary64 Text

/-- A numeral without a sign: the digits in front of the point and behind it, and the exponent. -/
structure Numeral where
  whole : List Char
  fraction : List Char
  exponent : Option Int

/-- What may follow a value: the end of the text, or what continues or closes the array or object
    that the value stands in. -/
def Ends (rest : List Char) : Prop := ∀ c ∈ rest.head?, c = ',' ∨ c = ']' ∨ c = '\x7d'

namespace Numeral

/-- The text of the digits behind the point. -/
def fractionPart : List Char → List Char
  | [] => []
  | digits => '.' :: digits

theorem fractionPart_of_ne_nil {digits : List Char} (nonempty : digits ≠ []) :
    fractionPart digits = '.' :: digits := by
  cases digits with
  | nil => exact absurd rfl nonempty
  | cons d digits => rfl

/-- The text of an exponent, if there is one. -/
def exponentPart : Option Int → List Char
  | none => []
  | some exponent => 'e' :: exponentText exponent

/-- The text of a numeral. -/
def text (numeral : Numeral) : List Char :=
  numeral.whole ++ (fractionPart numeral.fraction ++ exponentPart numeral.exponent)

/-- A numeral as JSON has them: the digits in front of the point are at least one, and do not begin
    with a zero unless that is the only one. -/
structure Proper (numeral : Numeral) : Prop where
  nonempty : numeral.whole ≠ []
  wholes : ∀ c ∈ numeral.whole, c.isDigit = true
  fractions : ∀ c ∈ numeral.fraction, c.isDigit = true
  leading : numeral.whole.head? = some '0' → numeral.whole.length = 1

/-- The value of a numeral. -/
def value (numeral : Numeral) : ℚ :=
  naturalOf (numeral.whole ++ numeral.fraction)
    * 10 ^ (numeral.exponent.getD 0 - numeral.fraction.length)

/-- What a numeral is read as. -/
def denoted (negative : Bool) (numeral : Numeral) : Value :=
  if numeral.fraction = [] ∧ numeral.exponent = none then
    .int (if negative then -(naturalOf numeral.whole : Int) else naturalOf numeral.whole)
  else
    .float (.ofDecimal negative (naturalOf (numeral.whole ++ numeral.fraction))
      (numeral.exponent.getD 0 - numeral.fraction.length))

end Numeral

/-! ## Reading numerals -/

section Reading

variable {digits rest : List Char}

theorem spanDigits_append (all : ∀ c ∈ digits, c.isDigit = true)
    (stops : ∀ c ∈ rest.head?, c.isDigit = false) :
    spanDigits (digits ++ rest) = (digits, rest) := by
  rw [spanDigits, List.span_eq_takeWhile_dropWhile, List.takeWhile_append_of_pos all,
    List.dropWhile_append_of_pos all]
  cases rest with
  | nil => simp
  | cons c rest =>
      have stop : c.isDigit = false := stops c rfl
      simp [stop]

/-- Behind a value there is no digit, point or exponent. -/
theorem Ends.stops (ends : Ends rest) : ∀ c ∈ rest.head?,
    c.isDigit = false ∧ c ≠ '.' ∧ c ≠ 'e' ∧ c ≠ 'E' := by
  intro c first
  rcases ends c first with rfl | rfl | rfl <;> decide

theorem isDigit_of_mem_exponentDigits {exponent : Nat} :
    ∀ c ∈ padLeft '0' 2 (decimal exponent), c.isDigit = true := by
  intro c member
  rcases List.mem_append.mp member with zero | digit
  · rw [List.eq_of_mem_replicate zero]
    rfl
  · exact isDigit_of_mem_decimal c digit

theorem naturalOf_exponentDigits (exponent : Nat) :
    naturalOf (padLeft '0' 2 (decimal exponent)) = exponent := by
  simp [padLeft, naturalOf_append]

theorem readExponentDigits?_exponentDigits (negative : Bool) (exponent : Nat) (ends : Ends rest) :
    readExponentDigits? negative (padLeft '0' 2 (decimal exponent) ++ rest)
      = some (if negative then -(exponent : Int) else exponent, rest) := by
  have nonempty : padLeft '0' 2 (decimal exponent) ≠ [] := by simp [padLeft, decimal_ne_nil]
  rw [readExponentDigits?, spanDigits_append isDigit_of_mem_exponentDigits
    fun c first => (ends.stops c first).1]
  split
  case h_1 none => exact absurd (Prod.ext_iff.mp none).1 nonempty
  case h_2 digits =>
    obtain ⟨rfl, rfl⟩ := Prod.mk.inj digits
    rw [naturalOf_exponentDigits]

theorem readExponent?_exponentText (exponent : Int) (ends : Ends rest) :
    readExponent? ('e' :: exponentText exponent ++ rest) = some (some exponent, rest) := by
  by_cases negative : exponent < 0
  · simp [readExponent?, exponentText, negative, readExponentDigits?_exponentDigits true _ ends,
      abs_of_neg negative]
  · simp [readExponent?, exponentText, negative, readExponentDigits?_exponentDigits false _ ends,
      abs_of_nonneg (not_lt.mp negative)]

theorem readExponent?_exponentPart (exponent : Option Int) (ends : Ends rest) :
    readExponent? (Numeral.exponentPart exponent ++ rest) = some (exponent, rest) := by
  cases exponent with
  | some exponent => exact readExponent?_exponentText exponent ends
  | none =>
      cases rest with
      | nil => rfl
      | cons c rest =>
          obtain ⟨_, _, small, capital⟩ := ends.stops c rfl
          simp [Numeral.exponentPart, readExponent?, small, capital]

theorem readFraction?_fractionPart (all : ∀ c ∈ digits, c.isDigit = true)
    (stops : ∀ c ∈ rest.head?, c.isDigit = false ∧ c ≠ '.') :
    readFraction? (Numeral.fractionPart digits ++ rest) = some (digits, rest) := by
  cases digits with
  | nil =>
      cases rest with
      | nil => rfl
      | cons c rest =>
          have noPoint := (stops c rfl).2
          simp only [Numeral.fractionPart, List.nil_append, readFraction?]
          split
          · simp_all
          · rfl
  | cons d digits =>
      have span := spanDigits_append all fun c first => (stops c first).1
      rw [List.cons_append] at span
      simp [Numeral.fractionPart, readFraction?, span]

/-- Neither a digit nor a point stands behind the digits of a numeral. -/
theorem exponentPart_stops (exponent : Option Int) (ends : Ends rest) :
    ∀ c ∈ (Numeral.exponentPart exponent ++ rest).head?, c.isDigit = false ∧ c ≠ '.' := by
  cases exponent with
  | none =>
      intro c first
      obtain ⟨noDigit, noPoint, _⟩ := ends.stops c first
      exact ⟨noDigit, noPoint⟩
  | some exponent =>
      rintro c ⟨⟩
      decide

theorem fractionPart_stops (digits : List Char)
    (stops : ∀ c ∈ rest.head?, c.isDigit = false ∧ c ≠ '.') :
    ∀ c ∈ (Numeral.fractionPart digits ++ rest).head?, c.isDigit = false := by
  cases digits with
  | nil => exact fun c first => (stops c first).1
  | cons d digits =>
      rintro c ⟨⟩
      rfl

theorem readUnsigned?_text (negative : Bool) {numeral : Numeral} (proper : numeral.Proper)
    (ends : Ends rest) :
    readUnsigned? negative (numeral.text ++ rest) = some (numeral.denoted negative, rest) := by
  obtain ⟨whole, fraction, exponent⟩ := numeral
  have stops := exponentPart_stops exponent ends
  have span := spanDigits_append proper.wholes (fractionPart_stops fraction stops)
  have point := readFraction?_fractionPart proper.fractions stops
  have mark := readExponent?_exponentPart exponent ends
  have leading : ¬(whole.isEmpty = true ∨ whole.head? = some '0' ∧ 1 < whole.length) := by
    rintro (empty | ⟨zero, long⟩)
    · exact proper.nonempty (List.isEmpty_iff.mp empty)
    · have single : whole.length = 1 := proper.leading zero
      omega
  simp only at span point
  simp only [readUnsigned?, Numeral.text, List.append_assoc, span, if_neg leading, point, mark]
  cases exponent with
  | some exponent => simp [Numeral.denoted]
  | none =>
      cases fraction with
      | nil => simp [Numeral.denoted]
      | cons d fraction => simp [Numeral.denoted]

end Reading

/-! ## The shape of the shortest text -/

section Shape

variable {digits : List Char}

/-- The digits of a number are its significant ones and zeros behind them. -/
theorem exists_zeros_of_significant (n : Nat) :
    ∃ zeros, decimal n = significant n ++ List.replicate zeros '0' := by
  have all : (decimal n).reverse.takeWhile (· == '0')
      = List.replicate ((decimal n).reverse.takeWhile (· == '0')).length '0' :=
    List.eq_replicate_of_mem fun c member => by simpa using List.mem_takeWhile_imp member
  have parts := congrArg List.reverse
    ((decimal n).reverse.takeWhile_append_dropWhile (p := (· == '0')))
  rw [List.reverse_append, List.reverse_reverse, all, List.reverse_replicate] at parts
  exact ⟨_, parts.symm⟩

theorem isDigit_of_mem_zeros {count : Nat} : ∀ c ∈ List.replicate count '0', c.isDigit = true := by
  intro c member
  rw [List.eq_of_mem_replicate member]
  rfl

/-- Digits behind a point, with zeros between, are a numeral of their value. -/
theorem exists_numeral_behind (nonempty : digits ≠ []) (all : ∀ c ∈ digits, c.isDigit = true)
    (zeros : Nat) :
    ∃ numeral : Numeral, numeral.Proper ∧
      numeral.text = '0' :: '.' :: List.replicate zeros '0' ++ digits ∧ numeral.fraction ≠ [] ∧
      numeral.value = naturalOf digits * 10 ^ (0 - (zeros + digits.length : Nat) : Int) := by
  have behind : List.replicate zeros '0' ++ digits ≠ [] := by simp [nonempty]
  refine ⟨⟨['0'], List.replicate zeros '0' ++ digits, none⟩,
    ⟨by simp, by simp, ?_, fun _ => rfl⟩, ?_, behind, ?_⟩
  · intro c member
    rcases List.mem_append.mp member with zero | digit
    · exact isDigit_of_mem_zeros c zero
    · exact all c digit
  · simp [Numeral.text, Numeral.fractionPart_of_ne_nil behind, Numeral.exponentPart]
  · have digitValue : naturalOf (['0'] ++ (List.replicate zeros '0' ++ digits))
        = naturalOf digits := by
      rw [naturalOf_append, naturalOf_append, naturalOf_zeros]
      simp [naturalOf]
    simp only [Numeral.value, Option.getD_none, digitValue, List.length_append,
      List.length_replicate]

/-- Digits in front of a point, with zeros between, are a numeral of their value. -/
theorem exists_numeral_in_front (nonempty : digits ≠ []) (all : ∀ c ∈ digits, c.isDigit = true)
    (leading : digits.head? ≠ some '0') (zeros : Nat) :
    ∃ numeral : Numeral, numeral.Proper ∧
      numeral.text = digits ++ List.replicate zeros '0' ++ ['.', '0'] ∧ numeral.fraction ≠ [] ∧
      numeral.value = naturalOf digits * 10 ^ (zeros : Int) := by
  refine ⟨⟨digits ++ List.replicate zeros '0', ['0'], none⟩,
    ⟨by simp [nonempty], ?_, by simp, ?_⟩, ?_, by simp, ?_⟩
  · intro c member
    rcases List.mem_append.mp member with digit | zero
    · exact all c digit
    · exact isDigit_of_mem_zeros c zero
  · intro zero
    obtain ⟨d, others, rfl⟩ := List.exists_cons_of_ne_nil nonempty
    exact absurd zero leading
  · simp [Numeral.text, Numeral.fractionPart, Numeral.exponentPart]
  · simp only [Numeral.value, Option.getD_none, naturalOf_append, naturalOf_zeros, zpow_natCast,
      List.length_replicate, List.length_singleton]
    simp [naturalOf]

/-- Digits with a point among them are a numeral of their value. -/
theorem exists_numeral_among (all : ∀ c ∈ digits, c.isDigit = true)
    (leading : digits.head? ≠ some '0') {point : Nat} (positive : 0 < point)
    (short : point < digits.length) :
    ∃ numeral : Numeral, numeral.Proper ∧
      numeral.text = digits.take point ++ '.' :: digits.drop point ∧ numeral.fraction ≠ [] ∧
      numeral.value = naturalOf digits * 10 ^ (0 - (digits.length - point : Nat) : Int) := by
  have behind : digits.drop point ≠ [] := by
    rw [ne_eq, List.drop_eq_nil_iff]
    omega
  refine ⟨⟨digits.take point, digits.drop point, none⟩, ⟨?_, ?_, ?_, ?_⟩, ?_, behind, ?_⟩
  · rw [ne_eq, List.take_eq_nil_iff]
    rintro (zero | rfl)
    · omega
    · exact absurd short (Nat.not_lt_zero _)
  · exact fun c member => all c (List.mem_of_mem_take member)
  · exact fun c member => all c (List.mem_of_mem_drop member)
  · intro zero
    rw [List.head?_take, if_neg (by omega)] at zero
    exact absurd zero leading
  · simp [Numeral.text, Numeral.fractionPart_of_ne_nil behind, Numeral.exponentPart]
  · simp only [Numeral.value, Option.getD_none, List.take_append_drop, List.length_drop]

/-- Digits with a point at any place are a numeral of their value. -/
theorem exists_numeral_positional (nonempty : digits ≠ []) (all : ∀ c ∈ digits, c.isDigit = true)
    (leading : digits.head? ≠ some '0') (point : Int) :
    ∃ numeral : Numeral, numeral.Proper ∧ numeral.text = positional digits point ∧
      numeral.fraction ≠ [] ∧
      numeral.value = naturalOf digits * 10 ^ (point - digits.length) := by
  simp only [positional]
  split
  case isTrue low =>
    have place : point - digits.length = 0 - ((-point).toNat + digits.length : Nat) := by omega
    rw [place]
    exact exists_numeral_behind nonempty all (-point).toNat
  case isFalse high =>
    split
    case isTrue long =>
      have place : point - digits.length = (point.toNat - digits.length : Nat) := by omega
      rw [place]
      exact exists_numeral_in_front nonempty all leading (point.toNat - digits.length)
    case isFalse short =>
      have place : point - digits.length = 0 - (digits.length - point.toNat : Nat) := by omega
      rw [place]
      exact exists_numeral_among all leading (by omega) (by omega)

/-- Digits with a point behind the first and an exponent are a numeral of their value. -/
theorem exists_numeral_scientific (nonempty : digits ≠ []) (all : ∀ c ∈ digits, c.isDigit = true)
    (exponent : Int) :
    ∃ numeral : Numeral, numeral.Proper ∧ numeral.text = scientific 'e' digits exponent ∧
      numeral.exponent ≠ none ∧
      numeral.value = naturalOf digits * 10 ^ (exponent + 1 - digits.length) := by
  obtain ⟨d, others, rfl⟩ := List.exists_cons_of_ne_nil nonempty
  refine ⟨⟨[d], others, some exponent⟩, ⟨by simp, ?_, ?_, fun _ => rfl⟩, ?_, by simp, ?_⟩
  · simpa using all d List.mem_cons_self
  · exact fun c member => all c (List.mem_cons_of_mem d member)
  · cases others with
    | nil => rfl
    | cons e others => rfl
  · have place : exponent - others.length = exponent + 1 - (d :: others).length := by
      rw [List.length_cons]
      push_cast
      ring
    simp only [Numeral.value, Option.getD_some, List.singleton_append, place]

/-- A numeral with a point or an exponent denotes the number nearest to any decimal of its value. -/
theorem denoted_of_value {numeral : Numeral} {units : Nat} {power : Int}
    (broken : numeral.fraction ≠ [] ∨ numeral.exponent ≠ none)
    (same : numeral.value = units * 10 ^ power) (negative : Bool) :
    numeral.denoted negative = .float (ofDecimal negative units power) := by
  have noInteger : ¬(numeral.fraction = [] ∧ numeral.exponent = none) := by tauto
  rw [Numeral.denoted, if_neg noInteger, ofDecimal_congr negative same]

section Significant

variable {n : Nat}

theorem isDigit_of_mem_significant : ∀ c ∈ significant n, c.isDigit = true := by
  intro c member
  obtain ⟨zeros, parts⟩ := exists_zeros_of_significant n
  refine isDigit_of_mem_decimal (n := n) c ?_
  rw [parts]
  exact List.mem_append_left _ member

theorem exists_value_significant (n : Nat) :
    ∃ zeros, (decimal n).length = (significant n).length + zeros ∧
      n = naturalOf (significant n) * 10 ^ zeros := by
  obtain ⟨zeros, parts⟩ := exists_zeros_of_significant n
  refine ⟨zeros, by simpa using congrArg List.length parts, ?_⟩
  have written := naturalOf_decimal n
  rw [parts, naturalOf_append, naturalOf_zeros, List.length_replicate, Nat.add_zero] at written
  exact written.symm

theorem significant_ne_nil (positive : 0 < n) : significant n ≠ [] := by
  obtain ⟨zeros, _, value⟩ := exists_value_significant n
  intro empty
  rw [empty, naturalOf_nil, Nat.zero_mul] at value
  omega

theorem head?_significant (positive : 0 < n) : (significant n).head? ≠ some '0' := by
  obtain ⟨zeros, parts⟩ := exists_zeros_of_significant n
  intro zero
  refine head?_decimal positive ?_
  rw [parts, List.head?_append, zero, Option.some_or]

end Significant

/-- The text of a decimal other than zero is a numeral of its value, with a point or an exponent. -/
theorem exists_numeral_of_shortest {mantissa : Nat} {exponent : Int}
    (positive : 0 < (shortest mantissa exponent).digits) :
    ∃ numeral : Numeral, numeral.Proper ∧ numeral.text = shortestPositive mantissa exponent ∧
      (numeral.fraction ≠ [] ∨ numeral.exponent ≠ none) ∧
      numeral.value
        = (shortest mantissa exponent).digits * 10 ^ (shortest mantissa exponent).power := by
  simp only [shortestPositive]
  generalize shortest mantissa exponent = shortest at *
  obtain ⟨units, power⟩ := shortest
  simp only at positive ⊢
  have value : (naturalOf (significant units) : ℚ)
      * 10 ^ (power + (decimal units).length - (significant units).length)
        = units * 10 ^ power := by
    obtain ⟨zeros, count, size⟩ := exists_value_significant units
    have place : power + (decimal units).length - (significant units).length = power + zeros := by
      omega
    have sizes : (units : ℚ) = naturalOf (significant units) * 10 ^ zeros := by
      exact_mod_cast size
    rw [place, sizes, zpow_add₀ (by norm_num), zpow_natCast]
    ring
  have nonempty := significant_ne_nil positive
  split
  · obtain ⟨numeral, proper, text, broken, same⟩ := exists_numeral_positional nonempty
      isDigit_of_mem_significant (head?_significant positive) (power + (decimal units).length)
    exact ⟨numeral, proper, text, .inl broken, same.trans value⟩
  · obtain ⟨numeral, proper, text, broken, same⟩ := exists_numeral_scientific nonempty
      isDigit_of_mem_significant (power + (decimal units).length - 1)
    rw [Int.sub_add_cancel] at same
    exact ⟨numeral, proper, text, .inr broken, same.trans value⟩

/-- The shortest text of a positive number is a numeral that is read as the number, with either
    sign. -/
theorem exists_numeral_shortestPositive {mantissa : Nat} {exponent : Int}
    (canonical : Canonical (finite false mantissa exponent)) (positive : 0 < mantissa) :
    ∃ numeral : Numeral, numeral.Proper ∧ numeral.text = shortestPositive mantissa exponent ∧
      ∀ negative, numeral.denoted negative = .float (finite negative mantissa exponent) := by
  obtain ⟨numeral, proper, text, broken, value⟩ :=
    exists_numeral_of_shortest (shortest_digits_pos canonical positive)
  refine ⟨numeral, proper, text, fun negative => ?_⟩
  rw [denoted_of_value broken value, ofDecimal_shortest negative canonical positive]

end Shape

/-! ## Numbers -/

/-- A text is a numeral, with a sign in front of it if it is negative, that denotes a value. -/
def IsNumeral (text : List Char) (value : Value) : Prop :=
  ∃ (negative : Bool) (numeral : Numeral), numeral.Proper ∧
    text = signed negative numeral.text ∧ numeral.denoted negative = value

theorem isNumeral_intText (n : Int) : IsNumeral (intText n).toList (.int n) := by
  refine ⟨n < 0, ⟨decimal n.natAbs, [], none⟩,
    ⟨decimal_ne_nil _, isDigit_of_mem_decimal, nofun, ?_⟩, ?_, ?_⟩
  · intro zero
    rcases Nat.eq_zero_or_pos n.natAbs with none | positive
    · simp [none, decimal_of_lt]
    · exact absurd zero (head?_decimal positive)
  · by_cases negative : n < 0 <;>
      simp [intText, signedDecimal, signed, negative, Numeral.text, Numeral.fractionPart,
        Numeral.exponentPart]
  · have size : (if n < 0 then -(n.natAbs : Int) else n.natAbs) = n := by omega
    simpa [Numeral.denoted] using size

theorem isNumeral_floatText {x : Binary64} (canonical : x.Canonical) :
    IsNumeral (floatText x).toList (.float x) := by
  cases x with
  | infinite negative => exact canonical.elim
  | nan => exact canonical.elim
  | finite negative mantissa exponent =>
      by_cases zero : mantissa = 0
      · obtain ⟨_, least, _, full⟩ := canonical
        have bottom : exponent = -1074 := by omega
        refine ⟨negative, ⟨['0'], ['0'], none⟩, ⟨nofun, by simp, by simp, fun _ => rfl⟩, ?_, ?_⟩
        · simp [floatText, shortestText, zero, Numeral.text, Numeral.fractionPart,
            Numeral.exponentPart]
        · rw [zero, bottom]
          rfl
      · have canonical' : Canonical (finite false mantissa exponent) := canonical
        obtain ⟨numeral, proper, text, denoted⟩ :=
          exists_numeral_shortestPositive canonical' (Nat.pos_of_ne_zero zero)
        refine ⟨negative, numeral, proper, ?_, denoted negative⟩
        simp [floatText, shortestText, zero, text]

section Numerals

variable {text rest : List Char} {value : Value}

theorem Numeral.Proper.exists_head {numeral : Numeral} (proper : numeral.Proper) :
    ∃ c others, numeral.text = c :: others ∧ c.isDigit = true := by
  obtain ⟨c, others, whole⟩ := List.exists_cons_of_ne_nil proper.nonempty
  refine ⟨c, _, by rw [Numeral.text, whole, List.cons_append], proper.wholes c ?_⟩
  rw [whole]
  exact List.mem_cons_self

theorem IsNumeral.exists_head (isNumeral : IsNumeral text value) :
    ∃ c others, text = c :: others ∧ (c.isDigit = true ∨ c = '-') := by
  obtain ⟨negative, numeral, proper, rfl, _⟩ := isNumeral
  obtain ⟨c, others, begins, digit⟩ := proper.exists_head
  cases negative with
  | true => exact ⟨'-', numeral.text, rfl, .inr rfl⟩
  | false => exact ⟨c, others, begins, .inl digit⟩

/-- A numeral with a sign is read as what it denotes. -/
theorem IsNumeral.readNumber? (isNumeral : IsNumeral text value) (ends : Ends rest) :
    readNumber? (text ++ rest) = some (value, rest) := by
  obtain ⟨negative, numeral, proper, rfl, rfl⟩ := isNumeral
  have read := readUnsigned?_text negative proper ends
  cases negative with
  | true => exact read
  | false =>
      obtain ⟨c, others, begins, digit⟩ := proper.exists_head
      have noSign : c ≠ '-' := by
        rintro rfl
        cases digit
      simp only [signed, Bool.false_eq_true, if_false, begins, List.cons_append] at read ⊢
      unfold Json.readNumber?
      split
      case h_1 sign => exact absurd (List.cons.inj sign).1 noSign
      case h_2 => exact read

theorem IsNumeral.printable (isNumeral : IsNumeral text value) : Printable text := by
  obtain ⟨negative, numeral, proper, rfl, _⟩ := isNumeral
  have fraction : Printable (Numeral.fractionPart numeral.fraction) := by
    have digits := printable_of_isDigit proper.fractions
    cases fraction : numeral.fraction with
    | nil => exact printable_nil
    | cons d others =>
        rw [fraction] at digits
        exact printable_cons.mpr ⟨by decide, digits⟩
  have exponent : Printable (Numeral.exponentPart numeral.exponent) := by
    cases numeral.exponent with
    | none => exact printable_nil
    | some exponent =>
        have digits : Printable (padLeft '0' 2 (decimal exponent.natAbs)) :=
          printable_of_isDigit isDigit_of_mem_exponentDigits
        by_cases negative : exponent < 0 <;>
          simpa [Numeral.exponentPart, exponentText, negative] using digits
  have unsigned : Printable numeral.text := by
    simpa [Numeral.text] using ⟨printable_of_isDigit proper.wholes, fraction, exponent⟩
  cases negative with
  | true => exact printable_cons.mpr ⟨by decide, unsigned⟩
  | false => exact unsigned

end Numerals

end ContainerWatch.Json
