import Mathlib.Data.List.Basic
import ServiceLocation.Naptr.Substitution
import ServiceLocation.Proofs.Text.Pieces

/-!
**The expressions of substitutions.**

* `Substitution.expression`: the text that writes a substitution with a delimiter;
* `Separates`: a delimiter that stands in no part of a substitution, so that it sets them apart;
* `ofText?_eq_some_iff`: **a text is read as the substitution that it writes**;
* `exists_writes_iff`: a text writes one exactly if its first character stands in it three times;
* `writes_unique`: and then it writes one only, with one delimiter;
* `parse_exact`: the same for expressions, with the fault of those that write none.
-/

namespace ServiceLocation.Naptr

open ServiceLocation.Text

namespace Substitution

/-- The text that writes a substitution: its parts, each behind the delimiter. -/
def expression (substitution : Substitution) (delimiter : Char) : String :=
  .ofList (delimiter :: (substitution.pattern.toList ++
    delimiter :: (substitution.replacement.toList ++ delimiter :: substitution.flags.toList)))

/-- The delimiter stands in no part of the substitution. -/
structure Separates (delimiter : Char) (substitution : Substitution) : Prop where
  pattern : delimiter ∉ substitution.pattern.toList
  replacement : delimiter ∉ substitution.replacement.toList
  flags : delimiter ∉ substitution.flags.toList

/-- A text writes a substitution with a delimiter that sets its parts apart. -/
def Writes (text : String) (delimiter : Char) (substitution : Substitution) : Prop :=
  Separates delimiter substitution ∧ text = substitution.expression delimiter

/-- The parts of a substitution. -/
def parts (substitution : Substitution) : List (List Char) :=
  [substitution.pattern.toList, substitution.replacement.toList, substitution.flags.toList]

theorem parts_ne_nil (substitution : Substitution) : substitution.parts ≠ [] :=
  List.cons_ne_nil _ _

theorem separates_iff {delimiter : Char} {substitution : Substitution} :
    Separates delimiter substitution ↔ ∀ part ∈ substitution.parts, delimiter ∉ part := by
  simp only [parts, List.forall_mem_cons, List.not_mem_nil, false_imp_iff, forall_true_iff, and_true]
  exact ⟨fun ⟨pattern, replacement, flags⟩ => ⟨pattern, replacement, flags⟩,
    fun ⟨pattern, replacement, flags⟩ => ⟨pattern, replacement, flags⟩⟩

theorem toList_expression (substitution : Substitution) (delimiter : Char) :
    (substitution.expression delimiter).toList =
      delimiter :: List.intercalate [delimiter] substitution.parts := by
  simp [expression, parts, List.intercalate_cons_cons]

/-- A text is read as a substitution exactly if it is cut into its parts. -/
theorem ofText?_cons_eq_some_iff {delimiter : Char} {body : List Char}
    {substitution : Substitution} :
    ofText? (delimiter :: body) = some substitution ↔ body.splitOn delimiter = substitution.parts := by
  have shape : ∀ {pattern replacement flags : List Char},
      ({ pattern := .ofList pattern, replacement := .ofList replacement
         flags := .ofList flags } : Substitution) = substitution ↔
        [pattern, replacement, flags] = substitution.parts := by
    intro pattern replacement flags
    cases substitution
    simp [parts, ← String.toList_inj]
  unfold ofText?
  dsimp only
  split
  · rename_i pattern replacement flags cut
    rw [cut, Option.some.injEq, shape]
  · rename_i other
    refine iff_of_false (fun impossible => by cases impossible) fun cut => ?_
    exact other _ _ _ cut

/-- **A text is read as the substitution that it writes.** -/
theorem ofText?_eq_some_iff {text : String} {substitution : Substitution} :
    ofText? text.toList = some substitution ↔ ∃ delimiter, Writes text delimiter substitution := by
  simp only [Writes, ← String.toList_inj, toList_expression, separates_iff]
  cases text.toList with
  | nil => simp [ofText?]
  | cons first body =>
    rw [ofText?_cons_eq_some_iff, splitOn_eq_iff substitution.parts_ne_nil]
    constructor
    · rintro ⟨free, rfl⟩
      exact ⟨first, free, rfl⟩
    · rintro ⟨delimiter, free, same⟩
      obtain ⟨rfl, rfl⟩ := List.cons.inj same
      exact ⟨free, rfl⟩

/-- **A text writes a substitution exactly if its first character stands in it three times.** -/
theorem exists_writes_iff {text : String} :
    (∃ delimiter substitution, Writes text delimiter substitution) ↔
      ∃ first, text.toList.head? = some first ∧ text.toList.count first = 3 := by
  rw [exists_comm]
  simp only [← ofText?_eq_some_iff]
  cases text.toList with
  | nil => simp [ofText?]
  | cons first body =>
    simp only [ofText?_cons_eq_some_iff, List.head?_cons, Option.some.injEq, exists_eq_left']
    rw [List.count_cons_self, ← length_splitOn, List.length_eq_three]
    constructor
    · rintro ⟨substitution, cut⟩
      exact ⟨_, _, _, cut⟩
    · rintro ⟨pattern, replacement, flags, cut⟩
      exact ⟨⟨.ofList pattern, .ofList replacement, .ofList flags⟩, by simp [cut, parts]⟩

/-- **A text writes one substitution at most**, with one delimiter. -/
theorem writes_unique {text : String} {delimiter delimiter' : Char}
    {substitution substitution' : Substitution} (writes : Writes text delimiter substitution)
    (writes' : Writes text delimiter' substitution') :
    delimiter = delimiter' ∧ substitution = substitution' := by
  have first : ∀ {delimiter substitution}, Writes text delimiter substitution →
      text.toList.head? = some delimiter := by
    rintro delimiter substitution ⟨_, rfl⟩
    rw [toList_expression, List.head?_cons]
  have read := ofText?_eq_some_iff.2 ⟨delimiter, writes⟩
  have read' := ofText?_eq_some_iff.2 ⟨delimiter', writes'⟩
  exact ⟨Option.some.inj ((first writes).symm.trans (first writes')),
    Option.some.inj (read.symm.trans read')⟩

theorem parse_eq_ok_iff {text : String} {substitution : Substitution} :
    parse text = .ok substitution ↔ ofText? text.toList = some substitution := by
  unfold parse
  cases ofText? text.toList <;> simp

theorem parse_eq_error_iff {text : String} {fault : SubstitutionFault} :
    parse text = .error fault ↔ ofText? text.toList = none ∧ fault = .malformed text := by
  unfold parse
  cases ofText? text.toList <;> simp [eq_comm]

/-- **An expression is read as the substitution that it writes**, with the one delimiter that sets its
parts apart. It writes one exactly if its first character stands in it three times, and is
malformed otherwise. -/
theorem parse_exact (text : String) :
    (∀ substitution, parse text = .ok substitution ↔
      ∃ delimiter, Writes text delimiter substitution) ∧
    ((∃ substitution, parse text = .ok substitution) ↔
      ∃ first, text.toList.head? = some first ∧ text.toList.count first = 3) ∧
    ((∃ substitution, parse text = .ok substitution) ↔
      ∃! written : Char × Substitution, Writes text written.1 written.2) ∧
    ∀ fault, parse text = .error fault ↔
      fault = .malformed text ∧ ¬∃ delimiter substitution, Writes text delimiter substitution := by
  have read : ∀ substitution, parse text = .ok substitution ↔
      ∃ delimiter, Writes text delimiter substitution :=
    fun substitution => parse_eq_ok_iff.trans ofText?_eq_some_iff
  have some_ : (∃ substitution, parse text = .ok substitution) ↔
      ∃ delimiter substitution, Writes text delimiter substitution := by
    simp only [read]
    exact exists_comm
  refine ⟨read, some_.trans exists_writes_iff, some_.trans ?_, fun fault => ?_⟩
  · constructor
    · rintro ⟨delimiter, substitution, writes⟩
      refine ⟨(delimiter, substitution), writes, fun other writes' => ?_⟩
      obtain ⟨same, same'⟩ := writes_unique writes' writes
      exact Prod.ext same same'
    · rintro ⟨written, writes, _⟩
      exact ⟨written.1, written.2, writes⟩
  · rw [parse_eq_error_iff, and_comm, exists_comm]
    simp only [← ofText?_eq_some_iff]
    rw [Option.eq_none_iff_forall_ne_some, not_exists]

/-- A delimiter of four bytes, and a part that is empty. -/
example : Substitution.parse "😀^(.*)$😀😀i" = .ok ⟨"^(.*)$", "", "i"⟩ := by decide

end Substitution

end ServiceLocation.Naptr
