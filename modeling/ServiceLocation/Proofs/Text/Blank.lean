import Mathlib.Data.List.TakeWhile
import ServiceLocation.Text.Blank

/-!
**Blanks around texts.**

* `trim_of_blank`: blanks around a text are what trimming drops;
* `trim_eq_nil_iff`, `trim_of_notBlank`: nothing is left exactly of a text of blanks, and all of a text
  without them;
* `DifferInBlanks`, `trim_eq_of_differInBlanks`: **texts that differ in the blanks around them alone are
  trimmed to the same.**
-/

namespace ServiceLocation.Text

/-- **Blanks around a text are dropped with those at its ends.** -/
theorem trim_of_blank {before behind : List Char} (text : List Char)
    (blank : ∀ c ∈ before, isBlank c = true) (blank' : ∀ c ∈ behind, isBlank c = true) :
    trim (before ++ text ++ behind) = trim text := by
  have dropped : ∀ front, trimRight (front ++ behind) = trimRight front := by
    intro front
    have reversed : ∀ c ∈ behind.reverse, isBlank c = true :=
      fun c member => blank' c (List.mem_reverse.1 member)
    rw [trimRight, trimRight, List.reverse_append, List.dropWhile_append_of_pos reversed]
  have start : (before ++ text ++ behind).dropWhile isBlank = (text ++ behind).dropWhile isBlank := by
    rw [List.append_assoc, List.dropWhile_append_of_pos blank]
  rw [trim, trim, start, List.dropWhile_append]
  by_cases empty : (text.dropWhile isBlank).isEmpty = true
  · have all : (behind ++ []).dropWhile isBlank = [] := List.dropWhile_append_of_pos blank'
    rw [List.append_nil] at all
    rw [if_pos empty, all, List.isEmpty_iff.1 empty]
  · rw [if_neg empty, dropped]

theorem trim_eq_nil_iff {text : List Char} : trim text = [] ↔ ∀ c ∈ text, isBlank c = true := by
  constructor
  · intro empty
    rw [trim, trimRight, List.reverse_eq_nil_iff, List.dropWhile_eq_nil_iff] at empty
    -- What is left of the start would begin with a character that is no blank.
    cases left : text.dropWhile isBlank with
    | nil => exact List.dropWhile_eq_nil_iff.1 left
    | cons c rest =>
      have blank : isBlank c = true := empty c (by simp [left])
      have ink : isBlank c = false := head_dropWhile_isBlank text c (by simp [left])
      rw [ink] at blank
      cases blank
  · intro blank
    have none : trim (text ++ [] ++ []) = trim [] := trim_of_blank [] blank (List.forall_mem_nil _)
    rw [List.append_nil, List.append_nil] at none
    exact none

/-- A text without blanks is kept as it is. -/
theorem trim_of_notBlank {text : List Char} (ink : ∀ c ∈ text, isBlank c = false) :
    trim text = text := by
  have start : text.dropWhile isBlank = text :=
    dropWhile_isBlank_of_head fun c first => ink c (List.mem_of_head? first)
  rw [trim, start, trimRight_of_getLast fun c last => ink c (List.mem_of_getLast? last)]

/-- Two texts that differ in nothing but the blanks around them. -/
def DifferInBlanks (text text' : List Char) : Prop :=
  ∃ core before behind before' behind', text = before ++ core ++ behind ∧
    text' = before' ++ core ++ behind' ∧
    ∀ c ∈ before ++ behind ++ before' ++ behind', isBlank c = true

/-- **Texts that differ in the blanks around them alone are trimmed to the same.** -/
theorem trim_eq_of_differInBlanks {text text' : List Char} (differ : DifferInBlanks text text') :
    trim text = trim text' := by
  obtain ⟨core, before, behind, before', behind', rfl, rfl, blank⟩ := differ
  simp only [List.forall_mem_append] at blank
  obtain ⟨⟨⟨front, back⟩, front'⟩, back'⟩ := blank
  rw [trim_of_blank core front back, trim_of_blank core front' back']

end ServiceLocation.Text
