import Mathlib.Data.List.Forall2

/-!
**When a computation that may fail succeeds.**

* `bind_eq_ok_iff`, `bind_eq_error_iff`: a sequence of two does if both do, and fails if one of them
  fails;
* `map_eq_ok_iff`: a computation whose result is changed does if it did before;
* `mapM_eq_ok_iff`, `mapM_eq_error_iff`: readings of a list succeed together, or fail with the first that
  fails;
* `mapM_of_forall`, `map_of_mapM`: readings that give nothing if they fail succeed together, and are
  undone together.
-/

namespace ServiceLocation

section

variable {ε α β : Type}

theorem bind_eq_ok_iff {first : Except ε α} {next : α → Except ε β} {result : β} :
    first >>= next = .ok result ↔ ∃ value, first = .ok value ∧ next value = .ok result := by
  cases first <;> simp [bind, Except.bind]

theorem bind_eq_error_iff {first : Except ε α} {next : α → Except ε β} {error : ε} :
    first >>= next = .error error ↔
      first = .error error ∨ ∃ value, first = .ok value ∧ next value = .error error := by
  cases first <;> simp [bind, Except.bind]

theorem map_eq_ok_iff {change : α → β} {first : Except ε α} {result : β} :
    change <$> first = .ok result ↔ ∃ value, first = .ok value ∧ change value = result := by
  cases first <;> simp [Functor.map, Except.map]

end

section

variable {ε α β : Type} {read : α → Except ε β} {list : List α}

/-- **Readings of a list succeed together.** -/
theorem mapM_eq_ok_iff {results : List β} :
    list.mapM read = .ok results ↔
      List.Forall₂ (fun a result => read a = .ok result) list results := by
  induction list generalizing results with
  | nil =>
    rw [List.mapM_nil, List.forall₂_nil_left_iff]
    exact ⟨fun is => (Except.ok.inj is).symm, fun is => is ▸ rfl⟩
  | cons a rest ih =>
    simp only [List.mapM_cons, bind_eq_ok_iff, ih, List.forall₂_cons_left_iff]
    constructor
    · rintro ⟨first, here, more, later, same⟩
      exact ⟨first, more, here, later, (Except.ok.inj same).symm⟩
    · rintro ⟨first, more, here, later, rfl⟩
      exact ⟨first, here, more, later, rfl⟩

theorem exists_of_mapM {results : List β} (all : list.mapM read = .ok results) {a : α}
    (member : a ∈ list) :
    ∃ result, read a = .ok result := by
  induction mapM_eq_ok_iff.1 all with
  | nil => cases member
  | @cons first result rest more here later ih =>
    rcases List.mem_cons.1 member with rfl | behind
    · exact ⟨result, here⟩
    · exact ih (mapM_eq_ok_iff.2 later) behind

/-- **Readings of a list fail with the first that fails.** -/
theorem mapM_eq_error_iff {error : ε} :
    list.mapM read = .error error ↔ ∃ before a after, list = before ++ a :: after ∧
      (∀ earlier ∈ before, ∃ result, read earlier = .ok result) ∧ read a = .error error := by
  induction list with
  | nil =>
    rw [List.mapM_nil]
    refine iff_of_false nofun ?_
    rintro ⟨before, a, after, split, _⟩
    cases before <;> cases split
  | cons a rest ih =>
    simp only [List.mapM_cons, bind_eq_error_iff, ih]
    constructor
    · rintro (here | ⟨first, read, ⟨before, b, after, rfl, earlier, failed⟩ | ⟨_, _, never⟩⟩)
      · exact ⟨[], a, rest, rfl, fun _ member => (nomatch member), here⟩
      · exact ⟨a :: before, b, after, rfl, List.forall_mem_cons.2 ⟨⟨first, read⟩, earlier⟩, failed⟩
      · cases never
    · rintro ⟨_ | ⟨_, before⟩, b, after, split, earlier, failed⟩
      · obtain ⟨rfl, rfl⟩ := List.cons.inj split
        exact .inl failed
      · obtain ⟨rfl, rfl⟩ := List.cons.inj split
        obtain ⟨⟨first, read⟩, later⟩ := List.forall_mem_cons.1 earlier
        exact .inr ⟨first, read, .inl ⟨before, b, after, rfl, later, failed⟩⟩

end

section

variable {α β : Type} {read : α → Option β} {list : List α}

/-- Readings that all succeed succeed together. -/
theorem mapM_of_forall {result : α → β}
    (every : ∀ a ∈ list, read a = some (result a)) : list.mapM read = some (list.map result) := by
  induction list with
  | nil => rfl
  | cons a rest ih =>
    obtain ⟨here, later⟩ := List.forall_mem_cons.1 every
    rw [List.mapM_cons, here, ih later]
    rfl

/-- Readings that are undone by the same function are undone together. -/
theorem map_of_mapM {back : β → α} {results : List β}
    (undo : ∀ a ∈ list, ∀ result, read a = some result → back result = a)
    (all : list.mapM read = some results) : results.map back = list := by
  induction list generalizing results with
  | nil =>
    rw [List.mapM_nil] at all
    rw [← Option.some.inj all]
    rfl
  | cons a rest ih =>
    simp only [List.mapM_cons, Option.bind_eq_bind, Option.bind_eq_some_iff] at all
    obtain ⟨first, here, more, later, same⟩ := all
    obtain ⟨undoHere, undoLater⟩ := List.forall_mem_cons.1 undo
    rw [← Option.some.inj same, List.map_cons, undoHere first here, ih undoLater later]

end

end ServiceLocation
