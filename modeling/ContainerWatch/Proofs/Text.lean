import ContainerWatch.Text.Pieces
import Mathlib.Data.List.DropRight

/-!
# Pieces and trimmed texts

The pieces of a text are those that a list is split into, and what is left of a text that is trimmed
is told by what stands around it.
-/

namespace ContainerWatch.Text

/-- A text is cut as a list is split. -/
theorem piecesAt_eq_splitOn (separator : Char) (text : List Char) :
    piecesAt separator text = text.splitOn separator := by
  induction text with
  | nil => rfl
  | cons c rest ih =>
      rw [piecesAt, List.splitOn_cons_eq_if_modifyHead, ih]
      by_cases cut : c = separator
      · simp [cut]
      · rw [if_neg cut, if_neg (by simpa using cut)]
        cases pieces : rest.splitOn separator with
        | nil => exact absurd pieces (List.splitOn_ne_nil _ _)
        | cons piece later => rfl

section Trimming

variable {blank : Char → Bool} {text piece before after : List Char}

/-- A text at neither end of which there is a character of a class. -/
structure IsTrim (blank : Char → Bool) (text : List Char) : Prop where
  head : ∀ c ∈ text.head?, blank c = false
  last : ∀ c ∈ text.getLast?, blank c = false

/-- A text that is what is left of a piece without the characters of a class at its two ends. -/
def Trims (blank : Char → Bool) (piece text : List Char) : Prop :=
  ∃ before after, piece = before ++ (text ++ after) ∧ (∀ c ∈ before, blank c) ∧
    (∀ c ∈ after, blank c) ∧ IsTrim blank text

theorem trimBy_eq_rdropWhile (blank : Char → Bool) (text : List Char) :
    trimBy blank text = (text.dropWhile blank).rdropWhile blank := rfl

theorem isTrim_trimBy (blank : Char → Bool) (text : List Char) :
    IsTrim blank (trimBy blank text) := by
  rw [trimBy_eq_rdropWhile]
  constructor
  · intro c found
    -- The first character of what is left is that of the text trimmed at its front.
    obtain ⟨after, dropped⟩ := List.rdropWhile_prefix blank (text.dropWhile blank)
    have first : (text.dropWhile blank).head? = some c := by
      rw [← dropped, List.head?_append, Option.mem_def.mp found, Option.some_or]
    have unblank := List.head?_dropWhile_not blank text
    rw [first] at unblank
    simpa using unblank
  · intro c found
    obtain ⟨filled, rfl⟩ := List.mem_getLast?_eq_getLast found
    simpa using List.rdropWhile_last_not blank (text.dropWhile blank) filled

/-- What is left of a text stands between characters of the class. -/
theorem trims_trimBy (blank : Char → Bool) (piece : List Char) :
    Trims blank piece (trimBy blank piece) := by
  refine ⟨piece.takeWhile blank, (piece.dropWhile blank).rtakeWhile blank, ?_, ?_, ?_,
    isTrim_trimBy blank piece⟩
  · rw [trimBy_eq_rdropWhile, List.rdropWhile_append_rtakeWhile, List.takeWhile_append_dropWhile]
  · exact fun c member => List.mem_takeWhile_imp member
  · exact fun c member => List.mem_rtakeWhile_imp member

theorem Trims.trimBy_eq (trims : Trims blank piece text) : trimBy blank piece = text := by
  obtain ⟨before, after, rfl, blank_before, blank_after, trim⟩ := trims
  rw [trimBy_eq_rdropWhile, List.dropWhile_append_of_pos blank_before]
  cases text with
  | nil =>
      rw [List.nil_append, List.dropWhile_eq_nil_iff.mpr blank_after, List.rdropWhile_nil]
  | cons c rest =>
      have first : blank c = false := trim.head c rfl
      have kept : (c :: rest).rdropWhile blank = c :: rest := by
        rw [List.rdropWhile_eq_self_iff]
        intro filled
        simpa using trim.last _ (List.getLast?_eq_some_getLast filled)
      rw [List.cons_append, List.dropWhile_cons_of_neg (by simp [first]), ← List.cons_append]
      rw [List.rdropWhile, List.reverse_append,
        List.dropWhile_append_of_pos (by simpa using blank_after), ← List.rdropWhile, kept]

theorem trimBy_eq_iff : trimBy blank piece = text ↔ Trims blank piece text := by
  constructor
  · rintro rfl
    exact trims_trimBy blank piece
  · exact Trims.trimBy_eq

theorem trimBy_eq_nil_iff : trimBy blank text = [] ↔ ∀ c ∈ text, blank c := by
  constructor
  · intro nothing
    obtain ⟨before, after, rfl, blank_before, blank_after, -⟩ := trimBy_eq_iff.mp nothing
    simpa [or_imp, forall_and] using ⟨blank_before, blank_after⟩
  · intro all
    exact trimBy_eq_iff.mpr ⟨text, [], by simp, all, by simp, by simp, by simp⟩

end Trimming

end ContainerWatch.Text
