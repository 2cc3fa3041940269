import Mathlib.Data.List.Chain
import ServiceLocation.Text.Ending

/-!
**Ends and parts of texts.**

* `dropFinal_cases`: a mark at the end is dropped, or there is none;
* `getLast?_dropFinal_iff`: **what is left still ends with the mark if there were two of them**;
* `holds_iff`: what a text holds stands in it as a whole;
* `pair_isInfix_append_iff`: a pair stands in one of two joined texts, or where they are joined.
-/

namespace ServiceLocation.Text

/-! ### Ends -/

section

variable {mark : Char} {text front : List Char}

theorem dropFinal_of_getLast?_ne (other : text.getLast? ≠ some mark) : dropFinal mark text = text :=
  if_neg other

/-- A text in which the mark does not occur is kept as it is. -/
theorem dropFinals_of_notMem (absent : mark ∉ text) : dropFinals mark text = text := by
  have none : ∀ c ∈ text.reverse, ¬ (c == mark) = true := by
    intro c member is
    rw [beq_iff_eq.1 is, List.mem_reverse] at member
    exact absent member
  have kept : text.reverse.dropWhile (· == mark) = text.reverse := by
    cases reversed : text.reverse with
    | nil => rfl
    | cons c rest =>
      rw [reversed] at none
      exact List.dropWhile_cons_of_neg (none c List.mem_cons_self)
  rw [dropFinals, kept, List.reverse_reverse]

/-- A text ends with the mark that is dropped, or is kept as it is. -/
theorem dropFinal_cases (mark : Char) (text : List Char) :
    (text.getLast? ≠ some mark ∧ dropFinal mark text = text) ∨
      text = dropFinal mark text ++ [mark] := by
  by_cases last : text.getLast? = some mark
  · obtain ⟨front, rfl⟩ := List.getLast?_eq_some_iff.1 last
    rw [dropFinal_concat]
    exact .inr rfl
  · exact .inl ⟨last, dropFinal_of_getLast?_ne last⟩

theorem length_le_dropFinal (mark : Char) (text : List Char) :
    text.length ≤ (dropFinal mark text).length + 1 := by
  rcases dropFinal_cases mark text with ⟨_, same⟩ | whole
  · rw [same]
    omega
  · exact Nat.le_of_eq (by rw [← List.length_singleton (a := mark), ← List.length_append, ← whole])

/-- Only the end of a text matters for what is dropped. -/
theorem dropFinal_append (nonempty : text ≠ []) :
    dropFinal mark (front ++ text) = front ++ dropFinal mark text := by
  unfold dropFinal
  rw [List.getLast?_append_of_ne_nil front nonempty]
  split
  · exact List.dropLast_append_of_ne_nil nonempty
  · rfl

/-- **A text that still ends with the mark ended with two of them.** -/
theorem getLast?_dropFinal_iff :
    (dropFinal mark text).getLast? = some mark ↔ [mark, mark] <:+ text := by
  rcases dropFinal_cases mark text with ⟨other, same⟩ | whole
  · rw [same]
    refine ⟨fun last => absurd last other, ?_⟩
    rintro ⟨front, rfl⟩
    exact absurd (List.getLast?_append_of_ne_nil front (List.cons_ne_nil _ _)) other
  · constructor
    · intro last
      obtain ⟨front, same⟩ := List.getLast?_eq_some_iff.1 last
      rw [whole, same, List.append_assoc]
      exact List.suffix_append front _
    · rintro ⟨front, rfl⟩
      rw [dropFinal_append (List.cons_ne_nil _ _), show dropFinal mark [mark, mark] = [mark] from
        dropFinal_concat mark [mark], List.getLast?_concat]

end

/-! ### Parts -/

/-- **A text holds what stands in it as a whole.** -/
theorem holds_iff {part text : List Char} : holds part text = true ↔ part <:+: text := by
  induction text with
  | nil => rw [holds, Bool.or_false, List.isPrefixOf_iff_prefix, List.prefix_nil, List.infix_nil]
  | cons c rest ih =>
    rw [holds, Bool.or_eq_true, List.isPrefixOf_iff_prefix, ih, List.infix_cons_iff]

theorem not_pair_isInfix_iff {a b : Char} {text : List Char} :
    ¬[a, b] <:+: text ↔ text.IsChain fun c d => ¬(c = a ∧ d = b) := by
  rw [List.isChain_iff_forall_rel_of_append_cons_cons]
  constructor
  · rintro free c d front behind rfl ⟨rfl, rfl⟩
    exact free ⟨front, behind, by simp⟩
  · rintro chain ⟨front, behind, rfl⟩
    exact chain (List.append_assoc front [a, b] behind) ⟨rfl, rfl⟩

/-- **A pair stands in one of two joined texts, or where they are joined.** -/
theorem pair_isInfix_append_iff {a b : Char} {front behind : List Char} :
    [a, b] <:+: front ++ behind ↔ [a, b] <:+: front ∨ [a, b] <:+: behind ∨
      front.getLast? = some a ∧ behind.head? = some b := by
  rw [← not_iff_not, not_pair_isInfix_iff, List.isChain_append, ← not_pair_isInfix_iff,
    ← not_pair_isInfix_iff, not_or, not_or]
  refine and_congr_right fun _ => and_congr_right fun _ => ?_
  constructor
  · rintro joined ⟨last, first⟩
    exact joined a last b first ⟨rfl, rfl⟩
  · rintro joined c last d first ⟨rfl, rfl⟩
    exact joined ⟨last, first⟩

end ServiceLocation.Text
