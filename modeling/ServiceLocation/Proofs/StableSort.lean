import Mathlib.Data.List.Enum
import Mathlib.Tactic.Common

/-!
**What a stable sort keeps.**

For a total and transitive comparison `le`:

* `filter_mergeSort`: choosing and sorting commute;
* `filter_tiesWith_mergeSort`: elements that `le` does not tell apart keep their order;
* `mergeSort_eq_mergeSort_iff`: **two lists are sorted alike exactly if those elements stand in them in
  the same order**, for each class of them;
* `findSome?_mergeSort`: the first success in a sorted list is the success of an element that comes
  first by `le`, and by its position in the list where `le` does not tell.

Positions enter through `List.mergeSort_zipIdx`: a stable sort is the sort of the numbered list that
breaks ties by the numbers, with the numbers forgotten afterwards.
-/

namespace ServiceLocation.StableSort

variable {α β : Type} {le : α → α → Bool}

/-- Two lists that agree as a whole and are cut where `q` stops to hold are cut alike. -/
theorem append_inj_of_filter {q : α → Bool} {before after before' after' : List α}
    (same : before ++ after = before' ++ after') (holds : ∀ x ∈ before, q x = true)
    (fails : ∀ x ∈ after, q x = false) (holds' : ∀ x ∈ before', q x = true)
    (fails' : ∀ x ∈ after', q x = false) : before = before' ∧ after = after' := by
  have front := congrArg (List.filter q) same
  rw [List.filter_append, List.filter_append, List.filter_eq_self.2 holds,
    List.filter_eq_self.2 holds', List.filter_eq_nil_iff.2 fun x member => by simp [fails x member],
    List.filter_eq_nil_iff.2 fun x member => by simp [fails' x member], List.append_nil,
    List.append_nil] at front
  subst front
  exact ⟨rfl, List.append_cancel_left same⟩

/-- A success among chosen elements is a success of an element that is chosen. -/
theorem findSome?_filter (p : α → Bool) (f : α → Option β) (l : List α) :
    (l.filter p).findSome? f = l.findSome? fun x => if p x then f x else none := by
  induction l with
  | nil => rfl
  | cons a l ih =>
    by_cases chosen : p a = true
    · rw [List.filter_cons_of_pos chosen, List.findSome?_cons, List.findSome?_cons, if_pos chosen,
        ih]
    · rw [List.filter_cons_of_neg chosen, List.findSome?_cons, if_neg chosen, ih]

section Total

variable (trans : ∀ a b c, le a b = true → le b c = true → le a c = true)
  (total : ∀ a b, (le a b || le b a) = true)
include trans total

/-- The place of a new first element: before all that it does not exceed, and after all others. -/
theorem mergeSort_cons_split (a : α) (l : List α) :
    ∃ before after, (a :: l).mergeSort le = before ++ a :: after ∧
      l.mergeSort le = before ++ after ∧ (∀ b ∈ before, le a b = false) ∧
      ∀ b ∈ after, le a b = true := by
  obtain ⟨before, after, whole, rest, strict⟩ := List.mergeSort_cons trans total a l
  have sorted := List.pairwise_mergeSort trans total (a :: l)
  rw [whole] at sorted
  refine ⟨before, after, whole, rest, fun b member => ?_, fun b member => ?_⟩
  · simpa using strict b member
  · exact List.rel_of_pairwise_cons (List.pairwise_append.1 sorted).2.1 member

/-- **Choosing and sorting commute.** -/
theorem filter_mergeSort (p : α → Bool) (l : List α) :
    (l.mergeSort le).filter p = (l.filter p).mergeSort le := by
  induction l with
  | nil => simp
  | cons a l ih =>
    obtain ⟨before, after, whole, rest, strict, weak⟩ := mergeSort_cons_split trans total a l
    rw [rest, List.filter_append] at ih
    rw [whole, List.filter_append]
    by_cases chosen : p a = true
    · obtain ⟨before', after', whole', rest', strict', weak'⟩ :=
        mergeSort_cons_split trans total a (l.filter p)
      rw [rest'] at ih
      have cut := append_inj_of_filter (q := fun b => !le a b) ih
        (fun b member => by simp [strict b (List.mem_of_mem_filter member)])
        (fun b member => by simp [weak b (List.mem_of_mem_filter member)])
        (fun b member => by simp [strict' b member]) (fun b member => by simp [weak' b member])
      rw [List.filter_cons_of_pos chosen, List.filter_cons_of_pos chosen, whole', cut.1, cut.2]
    · rw [List.filter_cons_of_neg chosen, List.filter_cons_of_neg chosen, ih]

/-- Whether the comparison does not tell two elements apart. -/
def tiesWith (le : α → α → Bool) (a b : α) : Bool := le a b && le b a

/-- **Sorting keeps the order of elements that are not told apart.** -/
theorem filter_tiesWith_mergeSort (a : α) (l : List α) :
    (l.mergeSort le).filter (tiesWith le a) = l.filter (tiesWith le a) := by
  rw [filter_mergeSort trans total]
  refine List.mergeSort_of_pairwise (List.pairwise_of_forall_mem_list fun b member c member' => ?_)
  have before := (Bool.and_eq_true_iff.1 (List.mem_filter.1 member).2).2
  have after := (Bool.and_eq_true_iff.1 (List.mem_filter.1 member').2).1
  exact trans b a c before after

omit trans in
theorem tiesWith_self (a : α) : tiesWith le a a = true := by
  have weak : le a a = true := by simpa using total a a
  exact Bool.and_eq_true_iff.2 ⟨weak, weak⟩

omit trans in
/-- Lists with the same classes have the same elements. -/
theorem mem_iff_of_filter_tiesWith {s s' : List α}
    (same : ∀ a, s.filter (tiesWith le a) = s'.filter (tiesWith le a)) (a : α) :
    a ∈ s ↔ a ∈ s' := by
  have inClass : ∀ l : List α, a ∈ l ↔ a ∈ l.filter (tiesWith le a) := fun l => by
    rw [List.mem_filter, tiesWith_self total a, eq_self, and_true]
  rw [inClass s, same a, ← inClass s']

omit trans in
/-- Sorted lists are equal if all elements that are not told apart stand in them in the same order. -/
theorem eq_of_filter_tiesWith {s s' : List α} (sorted : s.Pairwise fun a b => le a b = true)
    (sorted' : s'.Pairwise fun a b => le a b = true)
    (same : ∀ a, s.filter (tiesWith le a) = s'.filter (tiesWith le a)) : s = s' := by
  have mem_iff := mem_iff_of_filter_tiesWith total same
  have least : ∀ {a : α} {l : List α}, (a :: l).Pairwise (fun a b => le a b = true) →
      ∀ b ∈ a :: l, le a b = true := by
    intro a l sorted
    exact List.forall_mem_cons.2 ⟨by simpa using total a a, (List.pairwise_cons.1 sorted).1⟩
  induction s generalizing s' with
  | nil => exact (List.eq_nil_iff_forall_not_mem.2 fun a member => by
      cases (mem_iff a).2 member).symm
  | cons a s ih =>
    cases s' with
    | nil => cases (mem_iff a).1 List.mem_cons_self
    | cons b s' =>
      -- The first elements are not told apart, so each is the first of one and the same class.
      have tied : tiesWith le a b = true := Bool.and_eq_true_iff.2
        ⟨least sorted b ((mem_iff b).2 List.mem_cons_self),
          least sorted' a ((mem_iff a).1 List.mem_cons_self)⟩
      have first := same a
      rw [List.filter_cons_of_pos (tiesWith_self total a), List.filter_cons_of_pos tied] at first
      obtain ⟨rfl, _⟩ := List.cons.inj first
      have rest : ∀ c, s.filter (tiesWith le c) = s'.filter (tiesWith le c) := by
        intro c
        have whole := same c
        by_cases inside : tiesWith le c a = true
        · rw [List.filter_cons_of_pos inside, List.filter_cons_of_pos inside] at whole
          exact (List.cons.inj whole).2
        · rwa [List.filter_cons_of_neg inside, List.filter_cons_of_neg inside] at whole
      rw [ih sorted.of_cons sorted'.of_cons rest (mem_iff_of_filter_tiesWith total rest)]

/-- **Lists are sorted alike exactly if all elements that are not told apart stand in them in the same
order.** -/
theorem mergeSort_eq_mergeSort_iff {l l' : List α} :
    l.mergeSort le = l'.mergeSort le ↔
      ∀ a, l.filter (tiesWith le a) = l'.filter (tiesWith le a) := by
  constructor
  · intro same a
    rw [← filter_tiesWith_mergeSort trans total, same, filter_tiesWith_mergeSort trans total]
  · intro same
    refine eq_of_filter_tiesWith total (List.pairwise_mergeSort trans total l)
      (List.pairwise_mergeSort trans total l') fun a => ?_
    rw [filter_tiesWith_mergeSort trans total, filter_tiesWith_mergeSort trans total, same]

/-- **The first success in a sorted list.** -/
theorem findSome?_mergeSort {f : α → Option β} {l : List α} {b : β}
    (found : (l.mergeSort le).findSome? f = some b) :
    ∃ i a, l[i]? = some a ∧ f a = some b ∧
      ∀ j c, l[j]? = some c → f c ≠ none → List.zipIdxLE le (a, i) (c, j) = true := by
  have sorted := List.pairwise_mergeSort (List.zipIdxLE_trans trans) (List.zipIdxLE_total total)
    l.zipIdx
  rw [← List.mergeSort_zipIdx, List.findSome?_map, List.findSome?_eq_some_iff] at found
  obtain ⟨before, ⟨a, i⟩, after, whole, success, failures⟩ := found
  have place : ∀ {c j}, (c, j) ∈ l.zipIdx.mergeSort (List.zipIdxLE le) ↔ l[j]? = some c := by
    intro c j
    rw [List.mem_mergeSort, List.mk_mem_zipIdx_iff_getElem?]
  refine ⟨i, a, place.1 (by rw [whole]; simp), success, fun j c placed other => ?_⟩
  have member := place.2 placed
  rw [whole] at member sorted
  rcases List.mem_append.1 member with earlier | later
  · exact absurd (failures _ earlier) other
  · rcases List.mem_cons.1 later with same | later
    · rw [same]
      simpa using List.zipIdxLE_total total (a, i) (a, i)
    · exact List.rel_of_pairwise_cons (List.pairwise_append.1 sorted).2.1 later

end Total

end ServiceLocation.StableSort
