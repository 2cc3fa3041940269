import Mathlib.Tactic.Common

/-!
**The pieces of cut texts.**

A text is cut at each of its marks by `List.splitOn`, and put together again by `List.intercalate`.

* `mem_splitOn_of_mem`, `mem_of_mem_splitOn`: the characters of a text are those of its pieces, and the
  mark where it is cut;
* `splitOn_append_of_notMem`: a text without a mark is put behind the last piece;
* `length_splitOn`: a text has one piece more than it has marks;
* `splitOn_eq_iff`: **the pieces of a text are the texts without a mark that it joins.**
-/

namespace ServiceLocation.Text

variable {mark c : Char} {text piece : List Char} {texts : List (List Char)}

/-! ### Joined texts -/

theorem mem_or_of_mem_intercalate {between : List Char}
    (member : c ∈ List.intercalate between texts) : c ∈ between ∨ ∃ text ∈ texts, c ∈ text := by
  induction texts with
  | nil => cases member
  | cons first rest ih =>
    cases rest with
    | nil => exact .inr ⟨first, List.mem_cons_self, by simpa [List.intercalate] using member⟩
    | cons second rest =>
      rw [List.intercalate_cons_cons, List.mem_append, List.mem_append] at member
      rcases member with (here | mark) | later
      · exact .inr ⟨first, List.mem_cons_self, here⟩
      · exact .inl mark
      · rcases ih later with inMark | ⟨text, listed, inside⟩
        · exact .inl inMark
        · exact .inr ⟨text, List.mem_cons_of_mem _ listed, inside⟩

theorem mem_intercalate_of_mem {between : List Char} (listed : text ∈ texts) (inside : c ∈ text) :
    c ∈ List.intercalate between texts := by
  induction texts with
  | nil => cases listed
  | cons first rest ih =>
    cases rest with
    | nil =>
      rw [List.intercalate_singleton, ← List.mem_singleton.1 listed]
      exact inside
    | cons second rest =>
      rw [List.intercalate_cons_cons, List.mem_append, List.mem_append]
      rcases List.mem_cons.1 listed with rfl | later
      · exact .inl (.inl inside)
      · exact .inr (ih later)

/-! ### The characters of pieces -/

/-- **The characters of a text are those of its pieces**, and the mark. -/
theorem mem_splitOn_of_mem (mark : Char) (member : c ∈ text) :
    c = mark ∨ ∃ piece ∈ text.splitOn mark, c ∈ piece := by
  have joined : List.intercalate [mark] (text.splitOn mark) = text := List.intercalate_splitOn mark
  rw [← joined] at member
  exact (mem_or_of_mem_intercalate member).imp_left List.mem_singleton.1

/-- The characters of a piece are those of the text. -/
theorem mem_of_mem_splitOn (listed : piece ∈ text.splitOn mark) (inside : c ∈ piece) : c ∈ text := by
  have joined : List.intercalate [mark] (text.splitOn mark) = text := List.intercalate_splitOn mark
  rw [← joined]
  exact mem_intercalate_of_mem listed inside

/-- A property of the mark and of all pieces is one of the text. -/
theorem forall_mem_of_splitOn (mark : Char) {P : Char → Prop} (atMark : P mark)
    (inside : ∀ piece ∈ text.splitOn mark, ∀ c ∈ piece, P c) : ∀ c ∈ text, P c := by
  intro c member
  rcases mem_splitOn_of_mem mark member with same | ⟨piece, listed, there⟩
  · exact same ▸ atMark
  · exact inside piece listed c there

/-! ### Pieces, character by character -/

theorem splitOn_cons_self (mark : Char) (rest : List Char) :
    (mark :: rest).splitOn mark = [] :: rest.splitOn mark :=
  List.splitOn_append_cons_self [] rest

/-- A character that is no mark stands in front of the first piece. -/
theorem exists_splitOn_cons (other : c ≠ mark) (rest : List Char) :
    ∃ piece more, rest.splitOn mark = piece :: more ∧
      (c :: rest).splitOn mark = (c :: piece) :: more := by
  obtain ⟨piece, more, whole⟩ := List.exists_cons_of_ne_nil (List.splitOn_ne_nil mark rest)
  refine ⟨piece, more, whole, ?_⟩
  rw [List.splitOn_cons_eq_if_modifyHead, if_neg (by simpa using other), whole, List.modifyHead_cons]

/-- A text without the mark is put behind the last piece. -/
theorem splitOn_append_of_notMem (front : List Char) {behind : List Char} (free : mark ∉ behind) :
    ∃ before last, front.splitOn mark = before ++ [last] ∧
      (front ++ behind).splitOn mark = before ++ [last ++ behind] := by
  induction front with
  | nil => exact ⟨[], [], rfl, List.splitOn_eq_singleton free⟩
  | cons c rest ih =>
    obtain ⟨before, last, cut, cut'⟩ := ih
    by_cases same : c = mark
    · rw [same, List.cons_append, splitOn_cons_self, splitOn_cons_self, cut, cut']
      exact ⟨[] :: before, last, rfl, rfl⟩
    · obtain ⟨first, more, whole, here⟩ := exists_splitOn_cons same rest
      obtain ⟨first', more', whole', here'⟩ := exists_splitOn_cons same (rest ++ behind)
      rw [whole] at cut
      rw [whole'] at cut'
      rw [List.cons_append, here, here']
      cases before with
      | nil =>
        obtain ⟨one, none⟩ := List.cons.inj cut
        obtain ⟨one', none'⟩ := List.cons.inj cut'
        rw [one, one', none, none']
        exact ⟨[], c :: last, rfl, rfl⟩
      | cons piece before =>
        obtain ⟨one, later⟩ := List.cons.inj cut
        obtain ⟨one', later'⟩ := List.cons.inj cut'
        rw [one, one', later, later']
        exact ⟨(c :: piece) :: before, last, rfl, rfl⟩

/-- No piece holds the mark. -/
theorem notMem_of_mem_splitOn (listed : piece ∈ text.splitOn mark) : mark ∉ piece := by
  induction text generalizing piece with
  | nil =>
    rw [List.mem_singleton.1 listed]
    exact List.not_mem_nil
  | cons c rest ih =>
    by_cases same : c = mark
    · rw [same, splitOn_cons_self] at listed
      rcases List.mem_cons.1 listed with rfl | later
      · exact List.not_mem_nil
      · exact ih later
    · obtain ⟨first, more, whole, cut⟩ := exists_splitOn_cons same rest
      rw [cut] at listed
      rw [whole] at ih
      rcases List.mem_cons.1 listed with rfl | later
      · exact List.not_mem_cons_of_ne_of_not_mem (Ne.symm same) (ih List.mem_cons_self)
      · exact ih (List.mem_cons_of_mem _ later)

/-- **A text has one piece more than it has marks.** -/
theorem length_splitOn (mark : Char) (text : List Char) :
    (text.splitOn mark).length = text.count mark + 1 := by
  induction text with
  | nil => rfl
  | cons c rest ih =>
    by_cases same : c = mark
    · rw [same, splitOn_cons_self, List.length_cons, ih, List.count_cons_self]
    · obtain ⟨first, more, whole, cut⟩ := exists_splitOn_cons same rest
      rw [whole, List.length_cons] at ih
      rw [cut, List.length_cons, ih, List.count_cons_of_ne same]

/-! ### Texts that are pieces -/

/-- **The pieces of a text are the texts without the mark that it joins.** -/
theorem splitOn_eq_iff (nonempty : texts ≠ []) : text.splitOn mark = texts ↔
    (∀ piece ∈ texts, mark ∉ piece) ∧ text = List.intercalate [mark] texts := by
  constructor
  · rintro rfl
    exact ⟨fun piece => notMem_of_mem_splitOn, (List.intercalate_splitOn mark).symm⟩
  · rintro ⟨free, rfl⟩
    exact List.splitOn_intercalate mark free nonempty

theorem splitOn_eq_singleton_iff : text.splitOn mark = [piece] ↔ mark ∉ piece ∧ text = piece := by
  rw [splitOn_eq_iff (List.cons_ne_nil _ _), List.forall_mem_singleton, List.intercalate_singleton]

theorem splitOn_eq_pair_iff {front behind : List Char} :
    text.splitOn mark = [front, behind] ↔
      mark ∉ front ∧ mark ∉ behind ∧ text = front ++ mark :: behind := by
  rw [splitOn_eq_iff (List.cons_ne_nil _ _), List.forall_mem_cons, List.forall_mem_singleton,
    List.intercalate_cons_cons, List.intercalate_singleton, List.append_assoc, List.singleton_append,
    and_assoc]

end ServiceLocation.Text
