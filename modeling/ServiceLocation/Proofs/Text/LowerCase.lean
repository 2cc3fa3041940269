import Mathlib.Data.List.Basic
import ServiceLocation.Proofs.Text.Characters
import ServiceLocation.Text.AsciiCase
import ServiceLocation.Text.LowerCase

/-!
**Lower-casing and letters that differ in case.**

A capital sigma is lowered by what stands around it, so lower-casing a text is more than lower-casing
its characters.

* `eq_of_toLower_congr`: what does not tell an ASCII letter from its small form does not tell texts
  apart that agree up to the case of those letters;
* `lowerCase_congr`: **such texts have one lower case**, for neither the small form of a letter nor
  what a sigma looks at tells them apart;
* `isClearOf_shifts`: no letter of the table is lowered to a capital of the table;
* `IsSmall`, `isSmall_of_mem_lowerChar`: so what a character is lowered to is lowered to itself, and it
  is no sigma that looks around;
* `lowerCase_lowerCase`: so **lower-casing twice changes nothing more.**
-/

namespace ServiceLocation.Text

/-! ### The case of ASCII letters -/

section

variable {α : Type} {f : Char → α}

/-- What does not tell the small form of an ASCII character from it, does so for no character. -/
theorem apply_toLower (ascii : ∀ code < 0x80, f (Char.ofNat code).toLower = f (Char.ofNat code))
    (c : Char) : f c.toLower = f c := by
  by_cases below : c.toNat < 0x80
  · exact of_toNat_lt (P := fun c => f c.toLower = f c) ascii below
  · have noCapital : ¬(c.val ≥ 'A'.val ∧ c.val ≤ 'Z'.val) := fun capital =>
      below (Nat.lt_of_le_of_lt (UInt32.le_iff_toNat_le.1 capital.2) (by decide))
    have kept : c.toLower = c := dif_neg noCapital
    rw [kept]

/-- What does not tell an ASCII letter from its small form does not tell characters apart that agree
up to case. -/
theorem eq_of_toLower_congr
    (ascii : ∀ code < 0x80, f (Char.ofNat code).toLower = f (Char.ofNat code))
    {c d : Char} (same : c.toLower = d.toLower) : f c = f d := by
  rw [← apply_toLower ascii c, same, apply_toLower ascii d]

end

section

variable {c d : Char} (same : c.toLower = d.toLower)

include same

theorem lowerChar_congr : lowerChar c = lowerChar d :=
  eq_of_toLower_congr (by decide) same

theorem isSigma_congr : (c = capitalSigma ↔ d = capitalSigma) := by
  have told : decide (c = capitalSigma) = decide (d = capitalSigma) :=
    eq_of_toLower_congr (f := fun c => decide (c = capitalSigma)) (by decide) same
  simpa using told

theorem contains_cased_congr : cased.contains c = cased.contains d :=
  eq_of_toLower_congr (by decide) same

theorem contains_caseIgnorable_congr : caseIgnorable.contains c = caseIgnorable.contains d :=
  eq_of_toLower_congr (by decide) same

theorem casedAfter_congr (casedBefore : Bool) :
    casedAfter casedBefore c = casedAfter casedBefore d := by
  rw [casedAfter, casedAfter, contains_cased_congr same, contains_caseIgnorable_congr same]

end

/-- Texts that agree up to the case of ASCII letters agree in what a sigma before them looks at. -/
theorem startsCased_congr {first second : List Char} (same : lowerAscii first = lowerAscii second) :
    startsCased first = startsCased second := by
  induction first generalizing second with
  | nil =>
    rw [List.map_eq_nil_iff.1 same.symm]
  | cons c rest ih =>
    obtain ⟨d, rest', rfl, here, later⟩ := List.map_eq_cons_iff.1 same.symm
    rw [startsCased, startsCased, contains_cased_congr here.symm,
      contains_caseIgnorable_congr here.symm, ih later.symm]

theorem lowerFrom_congr (casedBefore : Bool) {first second : List Char}
    (same : lowerAscii first = lowerAscii second) :
    lowerFrom casedBefore first = lowerFrom casedBefore second := by
  induction first generalizing second casedBefore with
  | nil =>
    rw [List.map_eq_nil_iff.1 same.symm]
  | cons c rest ih =>
    obtain ⟨d, rest', rfl, here, later⟩ := List.map_eq_cons_iff.1 same.symm
    have here : c.toLower = d.toLower := here.symm
    have later : lowerAscii rest = lowerAscii rest' := later.symm
    simp only [lowerFrom, lowerChar_congr here, isSigma_congr here, startsCased_congr later,
      casedAfter_congr here, ih _ later]

/-- **Texts that agree up to the case of ASCII letters have one lower case.** -/
theorem lowerCase_congr {first second : List Char} (same : lowerAscii first = lowerAscii second) :
    lowerCase first = lowerCase second :=
  lowerFrom_congr false same

/-! ### Lowering twice -/

/-- A character that is lowered to itself, wherever it stands. -/
structure IsSmall (c : Char) : Prop where
  noSigma : c ≠ capitalSigma
  kept : lowerChar c = [c]

instance (c : Char) : Decidable (IsSmall c) :=
  decidable_of_iff (c ≠ capitalSigma ∧ lowerChar c = [c])
    ⟨fun ⟨noSigma, kept⟩ => ⟨noSigma, kept⟩, fun small => ⟨small.noSigma, small.kept⟩⟩

/-- A run lowers the capitals that it holds. -/
theorem Shift.mem_pairs_of_lower? {run : Shift} {code small : Nat}
    (lowered : run.lower? code = some small) : (code, small) ∈ run.pairs := by
  unfold Shift.lower? at lowered
  split at lowered
  · rename_i inside
    obtain ⟨first, last, step⟩ := inside
    have whole : run.first + (code - run.first) / run.stride * run.stride = code := by
      have parts := Nat.div_add_mod' (code - run.first) run.stride
      omega
    refine List.mem_map.2 ⟨(code - run.first) / run.stride, List.mem_range.2 ?_, ?_⟩
    · exact Nat.lt_succ_of_le (Nat.div_le_div_right (by omega))
    · dsimp only
      rw [whole, Option.some.inj lowered]
  · cases lowered

/-- Whether the small letters of a run are no capitals of another: they lie before it or behind it, or
between its steps. -/
def Shift.isClearOf (run other : Shift) : Bool :=
  decide ((run.last + run.distance).toNat < other.first) ||
    decide (other.last < (run.first + run.distance).toNat) ||
    run.pairs.all fun pair => (other.lower? pair.2).isNone

theorem Shift.lower?_of_isClearOf {run other : Shift} (clear : run.isClearOf other = true)
    {code small : Nat} (lowered : run.lower? code = some small) : other.lower? small = none := by
  rw [isClearOf, Bool.or_eq_true, Bool.or_eq_true, decide_eq_true_eq, decide_eq_true_eq] at clear
  have ⟨low, high⟩ : (run.first + run.distance).toNat ≤ small ∧
      small ≤ (run.last + run.distance).toNat := by
    unfold Shift.lower? at lowered
    split at lowered
    · have is := Option.some.inj lowered
      omega
    · cases lowered
  rcases clear with (before | behind) | between
  · exact if_neg fun inside => by omega
  · exact if_neg fun inside => by omega
  · exact Option.isNone_iff_eq_none.1
      (List.all_eq_true.1 between _ (mem_pairs_of_lower? lowered))

/-- **No letter of the table is lowered to a capital of the table.** -/
theorem isClearOf_shifts : (shifts.all fun run => shifts.all run.isClearOf) = true := by
  decide +kernel

theorem ne_dotted_of_mem_pairs :
    ∀ run ∈ shifts, ∀ pair ∈ run.pairs, Char.ofNat pair.2 ≠ 'İ' := by
  decide +kernel

/-- A character that is no capital of the table, nor the one that becomes two, is lowered to
itself. -/
theorem isSmall_of_unlisted {c : Char} (noDotted : c ≠ 'İ')
    (unlisted : shifts.findSome? (·.lower? c.toNat) = none) : IsSmall c := by
  by_cases below : c.toNat < 0x80
  · exact of_toNat_lt
      (P := fun c => shifts.findSome? (·.lower? c.toNat) = none → IsSmall c) (by decide +kernel)
      below unlisted
  · constructor
    · rintro rfl
      exact absurd unlisted (by decide)
    · rw [lowerChar, if_neg below, if_neg noDotted, unlisted]

theorem isSmall_of_lower? {run : Shift} (listed : run ∈ shifts) {code small : Nat}
    (lowered : run.lower? code = some small) : IsSmall (Char.ofNat small) := by
  by_cases valid : small.isValidChar
  · have number : (Char.ofNat small).toNat = small := by
      rw [Char.ofNat, dif_pos valid]
      rfl
    refine isSmall_of_unlisted
      (ne_dotted_of_mem_pairs run listed _ (Shift.mem_pairs_of_lower? lowered)) ?_
    rw [number, List.findSome?_eq_none_iff]
    intro other listed'
    have clear := List.all_eq_true.1 (List.all_eq_true.1 isClearOf_shifts run listed) other listed'
    exact Shift.lower?_of_isClearOf clear lowered
  · rw [Char.ofNat, dif_neg valid]
    decide

/-- **What a character is lowered to by itself is lowered to itself**, wherever it stands. -/
theorem isSmall_of_mem_lowerChar {c d : Char} (member : d ∈ lowerChar c) : IsSmall d := by
  unfold lowerChar at member
  split at member
  · rename_i below
    rw [List.mem_singleton.1 member]
    exact of_toNat_lt (P := fun c => IsSmall c.toLower) (by decide) below
  · split at member
    · rcases List.mem_pair.1 member with rfl | rfl <;> decide
    · rename_i noDotted
      split at member
      · rename_i found
        obtain ⟨run, listed, lowered⟩ := List.exists_of_findSome?_eq_some found
        rw [List.mem_singleton.1 member]
        exact isSmall_of_lower? listed lowered
      · rename_i unlisted
        rw [List.mem_singleton.1 member]
        exact isSmall_of_unlisted noDotted unlisted

/-- What a text is lowered to is lowered to itself, character by character. -/
theorem isSmall_of_mem_lowerFrom {casedBefore : Bool} {text : List Char} :
    ∀ c ∈ lowerFrom casedBefore text, IsSmall c := by
  induction text generalizing casedBefore with
  | nil => exact List.forall_mem_nil _
  | cons c rest ih =>
    rw [lowerFrom]
    refine List.forall_mem_append.2 ⟨?_, ih⟩
    split
    · split
      · exact List.forall_mem_singleton.2 (by decide)
      · exact List.forall_mem_singleton.2 (by decide)
    · exact fun d member => isSmall_of_mem_lowerChar member

/-- A text of characters that are lowered to themselves is lowered to itself. -/
theorem lowerFrom_of_isSmall {casedBefore : Bool} {text : List Char}
    (small : ∀ c ∈ text, IsSmall c) : lowerFrom casedBefore text = text := by
  induction text generalizing casedBefore with
  | nil => rfl
  | cons c rest ih =>
    obtain ⟨here, later⟩ := List.forall_mem_cons.1 small
    rw [lowerFrom, if_neg here.noSigma, here.kept, ih later]
    rfl

/-- **Lower-casing twice changes nothing more.** -/
theorem lowerCase_lowerCase (text : List Char) : lowerCase (lowerCase text) = lowerCase text :=
  lowerFrom_of_isSmall isSmall_of_mem_lowerFrom

end ServiceLocation.Text
