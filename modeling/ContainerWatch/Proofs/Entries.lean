import ContainerWatch.Value.Basic
import Mathlib.Data.List.Induction
import Mathlib.Data.List.Nodup

/-!
# Dictionaries

How a dictionary is looked up under texts once a value was put into it, and that a dictionary is
made of its entries.
-/

namespace ContainerWatch

@[simp] theorem Value.sameKey_text (key : Value) (name : String) :
    key.sameKey (.text name) = true ↔ key = .text name := by
  cases key <;> simp [Value.sameKey, Value.number?]

namespace Entries

/-- What was put under a text is found under that text, and what was there under others still is. -/
theorem get?_put (entries : Entries) (key name : String) (value : Value) :
    (entries.put (.text key) value).get? name
      = if key = name then some value else entries.get? name := by
  induction entries with
  | nil => by_cases same : key = name <;> simp [put, get?, same]
  | cons entry rest ih =>
      obtain ⟨k, v⟩ := entry
      by_cases here : k = .text key
      · subst here
        by_cases same : key = name <;> simp [put, get?, same]
      · have put_rest : put (.text key) value ((k, v) :: rest)
            = (k, v) :: put (.text key) value rest := by
          simp [put, here]
        rw [put_rest]
        by_cases found : k = .text name
        · have other : key ≠ name := by
            rintro rfl
            exact here found
          simp [get?, found, other]
        · simpa [get?, List.find?_cons, found] using ih

theorem getNull_put_of_ne (entries : Entries) {key name : String} (value : Value)
    (other : key ≠ name) : (entries.put (.text key) value).getNull name = entries.getNull name := by
  simp [getNull, get?_put, other]

theorem put_of_fresh {entries : Entries} {name : String} (value : Value)
    (fresh : Value.text name ∉ entries.map (·.1)) :
    entries.put (.text name) value = entries ++ [(.text name, value)] := by
  induction entries with
  | nil => rfl
  | cons entry rest ih =>
      obtain ⟨k, v⟩ := entry
      rw [List.map_cons, List.mem_cons, not_or] at fresh
      obtain ⟨other, behind⟩ := fresh
      simp [put, Ne.symm other, ih behind]

/-- A dictionary whose keys are texts, each of them once. -/
structure Named (entries : Entries) : Prop where
  texts : ∀ entry ∈ entries, ∃ name, entry.1 = .text name
  distinct : (entries.map (·.1)).Nodup

theorem named_nil : Named [] := ⟨nofun, .nil⟩

/-- One entry behind others makes a dictionary with texts as its keys if the others do, and its key
    is another text. -/
theorem named_snoc {entries : Entries} {name : String} {value : Value} :
    Named (entries ++ [(.text name, value)]) ↔
      Named entries ∧ Value.text name ∉ entries.map (·.1) := by
  have keys : ((entries ++ [(Value.text name, value)] : Entries).map (·.1)).Nodup ↔
      Value.text name ∉ entries.map (·.1) ∧ (entries.map (·.1)).Nodup := by
    rw [List.map_append, List.map_singleton, ← List.concat_eq_append, List.nodup_concat]
  constructor
  · rintro ⟨texts, distinct⟩
    obtain ⟨apart, before⟩ := keys.mp distinct
    exact ⟨⟨fun entry member => texts entry (List.mem_append_left _ member), before⟩, apart⟩
  · rintro ⟨⟨texts, before⟩, apart⟩
    refine ⟨fun entry member => ?_, keys.mpr ⟨apart, before⟩⟩
    rcases List.mem_append.mp member with member | member
    · exact texts entry member
    · exact ⟨name, by rw [List.mem_singleton.mp member]⟩

/-- Pairs of different texts and values are the dictionary that is made of them. -/
theorem Named.ofPairs_eq_self {pairs : Entries} (named : Named pairs) : ofPairs pairs = pairs := by
  induction pairs using List.reverseRecOn with
  | nil => rfl
  | append_singleton pairs pair ih =>
      obtain ⟨key, value⟩ := pair
      obtain ⟨name, rfl⟩ := named.texts (key, value) (by simp)
      obtain ⟨before, fresh⟩ := named_snoc.mp named
      have last : ofPairs (pairs ++ [(.text name, value)])
          = (ofPairs pairs).put (.text name) value := by
        simp [ofPairs]
      rw [last, ih before, put_of_fresh value fresh]

theorem map_fst_put_of_mem {entries : Entries} {name : String} (value : Value)
    (known : Value.text name ∈ entries.map (·.1)) :
    (entries.put (.text name) value).map (·.1) = entries.map (·.1) := by
  induction entries with
  | nil => cases known
  | cons entry rest ih =>
      obtain ⟨k, v⟩ := entry
      by_cases here : k = .text name
      · simp [put, here]
      · have behind : Value.text name ∈ rest.map (·.1) :=
          (List.mem_cons.mp known).resolve_left fun same => here same.symm
        simp [put, here, ih behind]

theorem Named.put {entries : Entries} (named : Named entries) (name : String) (value : Value) :
    Named (entries.put (.text name) value) := by
  by_cases known : Value.text name ∈ entries.map (·.1)
  · have keys := map_fst_put_of_mem value known
    refine ⟨fun entry member => ?_, by rw [keys]; exact named.distinct⟩
    have key : entry.1 ∈ entries.map (·.1) := by
      rw [← keys]
      exact List.mem_map_of_mem member
    obtain ⟨other, among, same⟩ := List.mem_map.mp key
    rw [← same]
    exact named.texts other among
  · rw [put_of_fresh value known]
    exact named_snoc.mpr ⟨named, known⟩

end Entries

end ContainerWatch
