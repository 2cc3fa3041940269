import ServiceLocation.Proofs.Result
import ServiceLocation.Proofs.Text.Blank
import ServiceLocation.Proofs.Text.Ending
import ServiceLocation.Zone

/-!
**The canonical form of a zone name.**

Blanks around a name do not count, and a dot is put at its end unless one is there.

* `dropFinal_withFinalDot`: a dot that is put at the end is the one that is dropped there;
* `canonical_eq_ok_iff`: which names have a canonical form, and what it is;
* `canonical_canonical`: **the canonical form is its own**;
* `dots_of_canonical`: **the shape of a canonical form**, and the names that have none;
* `bare_congr`: what is put behind a label is the same for names that agree but for blanks.
-/

namespace ServiceLocation

open ServiceLocation.Text

namespace Zone

theorem dropFinal_withFinalDot (bare : List Char) :
    dropFinal '.' (withFinalDot bare) = dropFinal '.' bare := by
  unfold withFinalDot
  split
  · rfl
  · rename_i noDot
    rw [dropFinal_concat, dropFinal_of_getLast?_ne noDot]

theorem getLast?_withFinalDot (bare : List Char) : (withFinalDot bare).getLast? = some '.' := by
  unfold withFinalDot
  split
  · assumption
  · exact List.getLast?_concat

theorem withFinalDot_withFinalDot (bare : List Char) :
    withFinalDot (withFinalDot bare) = withFinalDot bare :=
  if_pos (getLast?_withFinalDot bare)

theorem head?_withFinalDot {bare : List Char} (nonempty : bare ≠ []) :
    (withFinalDot bare).head? = bare.head? := by
  unfold withFinalDot
  split
  · rfl
  · exact List.head?_append_of_ne_nil bare nonempty

section

variable {zone form : String}

/-- **A name has a canonical form unless it is the root or starts with a dot.** -/
theorem canonical_eq_ok_iff : canonical zone = .ok form ↔
    isRoot (trim zone.toList) = false ∧ (trim zone.toList).head? ≠ some '.' ∧
      form.toList = withFinalDot (trim zone.toList) := by
  unfold canonical
  dsimp only
  cases root : isRoot (trim zone.toList) with
  | true => simp
  | false =>
    by_cases first : (trim zone.toList).head? = some '.'
    · simp [first]
    · simp [first, ← String.toList_inj, eq_comm]

theorem ne_nil_of_isRoot {bare : List Char} (root : isRoot bare = false) : bare ≠ [] := by
  rintro rfl
  cases root

/-- A canonical form has no blanks around it. -/
theorem trim_of_canonical (is : canonical zone = .ok form) : trim form.toList = form.toList := by
  obtain ⟨root, first, written⟩ := canonical_eq_ok_iff.1 is
  have nonempty := ne_nil_of_isRoot root
  have start : form.toList.dropWhile isBlank = form.toList := by
    refine dropWhile_isBlank_of_head fun c head => ?_
    rw [written, head?_withFinalDot nonempty] at head
    exact head_trim _ c head
  have ending : trimRight form.toList = form.toList := by
    refine trimRight_of_getLast fun c last => ?_
    rw [written, getLast?_withFinalDot] at last
    rw [← Option.some.inj last]
    decide
  rw [trim, start, ending]

/-- A canonical form is not the root, and starts with no dot. -/
theorem noRoot_of_canonical (is : canonical zone = .ok form) :
    isRoot form.toList = false ∧ form.toList.head? ≠ some '.' := by
  obtain ⟨root, first, written⟩ := canonical_eq_ok_iff.1 is
  have nonempty := ne_nil_of_isRoot root
  have start : form.toList.head? ≠ some '.' := by rwa [written, head?_withFinalDot nonempty]
  refine ⟨?_, start⟩
  rw [isRoot, Bool.or_eq_false_iff]
  refine ⟨List.isEmpty_eq_false_iff.2 fun empty => ?_, ?_⟩
  · have last := getLast?_withFinalDot (trim zone.toList)
    rw [← written, empty] at last
    cases last
  · rw [beq_eq_false_iff_ne]
    intro dot
    rw [dot] at start
    exact start rfl

/-- **The canonical form of a name is its own canonical form.** -/
theorem canonical_canonical (is : canonical zone = .ok form) : canonical form = .ok form := by
  obtain ⟨root, first⟩ := noRoot_of_canonical is
  have written := (canonical_eq_ok_iff.1 is).2.2
  rw [canonical_eq_ok_iff, trim_of_canonical is]
  exact ⟨root, first, by rw [written, withFinalDot_withFinalDot]⟩

/-- A canonical form is a name that is not empty, and a dot. -/
theorem exists_concat_of_canonical (is : canonical zone = .ok form) :
    ∃ bare, bare ≠ [] ∧ form.toList = bare ++ ['.'] := by
  have written := (canonical_eq_ok_iff.1 is).2.2
  obtain ⟨bare, whole⟩ : ∃ bare, form.toList = bare ++ ['.'] :=
    List.getLast?_eq_some_iff.1 (written ▸ getLast?_withFinalDot _)
  refine ⟨bare, ?_, whole⟩
  rintro rfl
  exact (noRoot_of_canonical is).2 (by rw [whole]; rfl)

/-- What a canonical form has before its last dot is the name it is made of, less a dot. -/
theorem dropFinal_of_canonical (is : canonical zone = .ok form) :
    dropFinal '.' form.toList = dropFinal '.' (trim zone.toList) := by
  rw [(canonical_eq_ok_iff.1 is).2.2, dropFinal_withFinalDot]

/-- A name has no canonical form exactly if it is empty or starts with a dot. -/
theorem canonical_isError_iff : (∃ error, canonical zone = .error error) ↔
    trim zone.toList = [] ∨ (trim zone.toList).head? = some '.' := by
  unfold canonical isRoot
  dsimp only
  by_cases empty : trim zone.toList = []
  · simp [empty]
  · by_cases root : trim zone.toList = ['.']
    · simp [root]
    · by_cases first : (trim zone.toList).head? = some '.'
      · simp [empty, root, first]
      · simp [empty, root, first]

/-- Only what stands between the blanks of a name is looked at. -/
theorem bare_congr {zone' : String} (same : trim zone.toList = trim zone'.toList) :
    bare zone = bare zone' := by
  unfold bare
  rw [same]

end

/-- **A canonical form has no blanks around it, starts with no dot, is a name and a dot, and is its own
canonical form.** The name before that dot ends with a dot exactly if the given one ends with two.
Every name has a canonical form but those that are empty or start with a dot. -/
theorem dots_of_canonical (zone : String) :
    (∀ form, canonical zone = .ok form →
      trim form.toList = form.toList ∧ form.toList.head? ≠ some '.' ∧
        (∃ bare, bare ≠ [] ∧ form.toList = bare ++ ['.'] ∧
          (bare.getLast? = some '.' ↔ ['.', '.'] <:+ trim zone.toList)) ∧
        canonical form = .ok form) ∧
      ((∃ error, canonical zone = .error error) ↔
        trim zone.toList = [] ∨ (trim zone.toList).head? = some '.') := by
  refine ⟨fun form is => ⟨trim_of_canonical is, (noRoot_of_canonical is).2, ?_,
    canonical_canonical is⟩, canonical_isError_iff⟩
  obtain ⟨bare, nonempty, whole⟩ := exists_concat_of_canonical is
  refine ⟨bare, nonempty, whole, ?_⟩
  have same : bare = dropFinal '.' (trim zone.toList) := by
    rw [← dropFinal_of_canonical is, whole, dropFinal_concat]
  rw [same, getLast?_dropFinal_iff]

theorem dots_of_canonical_of_spaced :
    canonical "\t sml.example.org\u00A0" = .ok "sml.example.org." ∧
      canonical "sml.example.org." = .ok "sml.example.org." := by
  have is : canonical "\t sml.example.org\u00A0" = .ok "sml.example.org." :=
    canonical_eq_ok_iff.2 ⟨by decide, by decide, by decide⟩
  exact ⟨is, ((dots_of_canonical _).1 _ is).2.2.2⟩

/-- **Of two dots at its end a name keeps both**, so that one is left before the last one. -/
theorem canonical_of_two_dots : canonical "example.org.." = .ok "example.org.." ∧
    "example.org..".toList = "example.org.".toList ++ ['.'] ∧
    "example.org.".toList.getLast? = some '.' :=
  ⟨canonical_eq_ok_iff.2 ⟨by decide, by decide, by decide⟩, by decide, by decide⟩

end Zone

end ServiceLocation
