import ContainerWatch.Json.Writer
import ContainerWatch.Proofs.Json.Digits

/-!
# Strings in JSON

Every character of a text is written as itself or as an escape of printable ASCII characters, and
reading that gives the character back: also a character beyond 16 bits, which is written as two
surrogates.
-/

namespace ContainerWatch.Json

open Text

/-! ## Units of 16 bits -/

theorem hexValue?_digitChar {d : Nat} (small : d < 16) : hexValue? (digitChar d) = some d := by
  interval_cases d <;> rfl

theorem printable_digitChar {d : Nat} (small : d < 16) :
    0x20 ≤ (digitChar d).toNat ∧ (digitChar d).toNat ≤ 0x7E := by
  interval_cases d <;> decide

theorem unitEscape_eq (unit : Nat) :
    unitEscape unit = ['\\', 'u', digitChar (unit / 16 / 16 / 16 % 16),
      digitChar (unit / 16 / 16 % 16), digitChar (unit / 16 % 16), digitChar (unit % 16)] := rfl

theorem unit?_digits {unit : Nat} (small : unit < 0x10000) :
    unit? (digitChar (unit / 16 / 16 / 16 % 16)) (digitChar (unit / 16 / 16 % 16))
      (digitChar (unit / 16 % 16)) (digitChar (unit % 16)) = some unit := by
  have digit (n : Nat) : n % 16 < 16 := Nat.mod_lt _ (by omega)
  simp only [unit?, hexValue?_digitChar (digit _), Option.some.injEq]
  omega

theorem printable_unitEscape (unit : Nat) : Printable (unitEscape unit) := by
  have digit (n : Nat) := printable_digitChar (Nat.mod_lt n (show 16 > 0 by omega))
  rw [unitEscape_eq]
  simp only [printable_cons, printable_nil, and_true]
  exact ⟨by decide, by decide, digit _, digit _, digit _, digit _⟩

/-! ## Characters -/

section Characters

variable {c : Char} {read rest : List Char}

/-- Code points are below 17 times 16 bits, and none is a surrogate. -/
theorem valid_toNat (c : Char) : c.toNat < 0xD800 ∨ 0xDFFF < c.toNat ∧ c.toNat < 0x110000 := c.valid

theorem readStringBody_unitEscape (small : c.toNat < 0x10000) :
    readStringBody read (unitEscape c.toNat ++ rest) = readStringBody (c :: read) rest := by
  have noSurrogate : ¬(0xD800 ≤ c.toNat ∧ c.toNat < 0xDC00) ∧
      ¬(0xDC00 ≤ c.toNat ∧ c.toNat < 0xE000) := by
    rcases valid_toNat c with low | high <;> omega
  rw [unitEscape_eq]
  simp [readStringBody, unit?_digits small, noSurrogate.1, noSurrogate.2]

/-- A character beyond 16 bits is read back from its two surrogates. -/
theorem readStringBody_surrogates (large : 0x10000 ≤ c.toNat) :
    readStringBody read (unitEscape (0xD800 + (c.toNat - 0x10000) / 0x400) ++
      (unitEscape (0xDC00 + (c.toNat - 0x10000) % 0x400) ++ rest))
        = readStringBody (c :: read) rest := by
  have small : c.toNat < 0x110000 := by
    rcases valid_toNat c with low | high <;> omega
  rw [unitEscape_eq, unitEscape_eq]
  have high : 0xD800 + (c.toNat - 0x10000) / 0x400 < 0xDC00 := by omega
  have low : 0xDC00 + (c.toNat - 0x10000) % 0x400 < 0xE000 := by omega
  have code : 0x10000 + (0xD800 + (c.toNat - 0x10000) / 0x400 - 0xD800) * 0x400
      + (0xDC00 + (c.toNat - 0x10000) % 0x400 - 0xDC00) = c.toNat := by omega
  have above : 0xD800 ≤ 0xD800 + (c.toNat - 0x10000) / 0x400 := by omega
  have above' : 0xDC00 ≤ 0xDC00 + (c.toNat - 0x10000) % 0x400 := by omega
  simp only [List.cons_append, List.nil_append]
  rw [readStringBody, unit?_digits (by omega)]
  simp only [if_pos (And.intro above high), unit?_digits (show 0xDC00 + (c.toNat - 0x10000) % 0x400
    < 0x10000 by omega), if_pos (And.intro above' low), code, Char.ofNat_toNat]

theorem readStringBody_plain (noMark : c ≠ '"') (noEscape : c ≠ '\\') (visible : 0x20 ≤ c.toNat) :
    readStringBody read (c :: rest) = readStringBody (c :: read) rest := by
  conv_lhs => unfold readStringBody
  split
  all_goals simp_all

theorem readStringBody_escapedChar :
    readStringBody read (escapedChar c ++ rest) = readStringBody (c :: read) rest := by
  unfold escapedChar
  split_ifs with mark escape newLine carriage tab feed back plain small
  · rw [mark]; simp [readStringBody, simpleEscape?]
  · rw [escape]; simp [readStringBody, simpleEscape?]
  · rw [newLine]; simp [readStringBody, simpleEscape?]
  · rw [carriage]; simp [readStringBody, simpleEscape?]
  · rw [tab]; simp [readStringBody, simpleEscape?]
  · rw [feed]; simp [readStringBody, simpleEscape?]
  · rw [back]; simp [readStringBody, simpleEscape?]
  · exact readStringBody_plain mark escape plain.1
  · exact readStringBody_unitEscape small
  · rw [List.append_assoc]
    exact readStringBody_surrogates (by omega)

theorem printable_escapedChar (c : Char) : Printable (escapedChar c) := by
  unfold escapedChar
  have simple (letter : Char) (visible : 0x20 ≤ letter.toNat ∧ letter.toNat ≤ 0x7E) :
      Printable ['\\', letter] := by
    simpa using visible
  split_ifs with _ _ _ _ _ _ _ plain
  · exact simple '"' (by decide)
  · exact simple '\\' (by decide)
  · exact simple 'n' (by decide)
  · exact simple 'r' (by decide)
  · exact simple 't' (by decide)
  · exact simple 'f' (by decide)
  · exact simple 'b' (by decide)
  · rw [printable_cons]
    exact ⟨⟨plain.1, by omega⟩, printable_nil⟩
  · exact printable_unitEscape _
  · exact printable_append.mpr ⟨printable_unitEscape _, printable_unitEscape _⟩

end Characters

/-! ## Texts -/

/-- A text is read back from the escapes of its characters up to the closing mark. -/
theorem readStringBody_escapes (text read rest : List Char) :
    readStringBody read (text.flatMap escapedChar ++ '"' :: rest)
      = some (read.reverse ++ text, rest) := by
  induction text generalizing read with
  | nil => simp [readStringBody]
  | cons c text ih =>
      rw [List.flatMap_cons, List.append_assoc, readStringBody_escapedChar, ih, List.reverse_cons,
        List.append_assoc, List.singleton_append]

/-- The string that is written for a text begins with a mark, behind which the text is read back. -/
theorem exists_writeString (s : String) :
    ∃ body, (writeString s).toList = '"' :: body ∧
      ∀ rest, readStringBody [] (body ++ rest) = some (s.toList, rest) := by
  refine ⟨s.toList.flatMap escapedChar ++ ['"'], by simp [writeString, stringChars], ?_⟩
  intro rest
  rw [List.append_assoc, List.singleton_append, readStringBody_escapes, List.reverse_nil,
    List.nil_append]

theorem printable_writeString (s : String) : Printable (writeString s).toList := by
  have body : Printable (s.toList.flatMap escapedChar) := by
    intro c member
    obtain ⟨d, _, among⟩ := List.mem_flatMap.mp member
    exact printable_escapedChar d c among
  simpa [writeString, stringChars] using body

end ContainerWatch.Json
