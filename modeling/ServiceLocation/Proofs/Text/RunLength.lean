import ServiceLocation.Proofs.Text.Pieces
import ServiceLocation.Text.RunLength

/-!
**What written tables say.**

A table of runs is searched by halving. Since the runs stand in the order of their starts, that
finds what a walk along the runs finds:

* `valueOf`: the value of a code point, by such a walk;
* `Partition.valueAt_ofText`: **a table that is searched by halving gives that value**;
* `Partition.valueAt_of_start`: so the runs that a table starts with tell the values of the first
  code points, and the rest of the table need not be read;
* `all_splitOn_join_cons`: a fact about all pieces of lines is checked line by line.
-/

namespace ServiceLocation.Text

/-! ### Lines

Reading the characters off a long text is what takes long, so a line is given with its characters. -/

section

variable {mark : Char} {keep : List Char → Bool} {line : String} {lines : List String}
  {characters start : List Char}

theorem toList_join_cons (written : line = String.ofList characters) :
    (String.join (line :: lines)).toList = characters ++ (String.join lines).toList := by
  rw [String.toList_join, String.toList_join, List.flatMap_cons, written, String.toList_ofList]

/-- What the first line starts with, all of them start with. -/
theorem prefix_toList_join (written : line = String.ofList characters)
    (begins : start <+: characters) : start <+: (String.join (line :: lines)).toList :=
  toList_join_cons written ▸ begins.trans (List.prefix_append _ _)

/-- All lines start with the first line and what the others start with. -/
theorem append_prefix_toList_join {whole : List Char} (written : line = String.ofList characters)
    (same : whole = characters ++ start) (begins : start <+: (String.join lines).toList) :
    whole <+: (String.join (line :: lines)).toList := by
  rw [toList_join_cons written, same]
  exact (List.prefix_append_right_inj characters).2 begins

/-- A fact about all pieces of lines that end with the mark is checked line by line. -/
theorem all_splitOn_join_cons (written : line = String.ofList characters)
    (here : characters.getLast? = some mark ∧ (characters.dropLast.splitOn mark).all keep = true)
    (later : ((String.join lines).toList.splitOn mark).all keep = true) :
    ((String.join (line :: lines)).toList.splitOn mark).all keep = true := by
  obtain ⟨front, rfl⟩ := List.getLast?_eq_some_iff.1 here.1
  rw [List.dropLast_concat] at here
  rw [toList_join_cons written, List.append_assoc, List.singleton_append, List.splitOn_append_cons_self,
    List.all_append, here.2, later]
  rfl

theorem all_splitOn_join_singleton (written : line = String.ofList characters)
    (here : (characters.splitOn mark).all keep = true) :
    ((String.join [line]).toList.splitOn mark).all keep = true := by
  have none : (String.join []).toList = [] := rfl
  rw [toList_join_cons written, none, List.append_nil, here]

end

/-! ### Tables of runs -/

/-- The value of a code point: that of the run it lies in, the last run having no end. -/
def valueOf {α : Type} (fallback : α) : List (α × Nat) → Nat → α
  | [], _ => fallback
  | [(value, _)], _ => value
  | (value, length) :: next :: rest, code =>
    if code < length then value else valueOf fallback (next :: rest) (code - length)

/-- How many code points runs cover. -/
def reach {α : Type} : List (α × Nat) → Nat
  | [] => 0
  | (_, length) :: rest => length + reach rest

section

variable {α : Type} {fallback : α}

/-- What holds of the values of all runs, and of the fallback, holds of every value. -/
theorem forall_valueOf {P : α → Prop} {runs : List (α × Nat)} (otherwise : P fallback)
    (every : ∀ run ∈ runs, P run.1) (code : Nat) : P (valueOf fallback runs code) := by
  induction runs generalizing code with
  | nil => exact otherwise
  | cons run rest ih =>
    obtain ⟨here, later⟩ := List.forall_mem_cons.1 every
    cases rest with
    | nil => exact here
    | cons next rest =>
      rw [valueOf]
      split
      · exact here
      · exact ih later _

/-- Runs that reach beyond a code point tell its value. -/
theorem valueOf_append {runs : List (α × Nat)} (more : List (α × Nat)) {code : Nat}
    (inside : code < reach runs) :
    valueOf fallback (runs ++ more) code = valueOf fallback runs code := by
  induction runs generalizing code with
  | nil => exact absurd inside (Nat.not_lt_zero _)
  | cons run rest ih =>
    obtain ⟨value, length⟩ := run
    rw [reach] at inside
    cases rest with
    | nil =>
      have short : code < length := inside
      cases more with
      | nil => rfl
      | cons next more => exact if_pos short
    | cons next rest =>
      show (if code < length then value else _) = if code < length then value else _
      split
      · rfl
      · exact ih (by omega)

/-- What `lastStart` finds: a position in its range, the start there, and the one behind it. -/
theorem lastStart_spec {starts : Array Nat} {code low high : Nat} (nonempty : low < high)
    (before : starts.getD low 0 ≤ code) :
    let found := lastStart starts code low high
    low ≤ found ∧ found < high ∧ starts.getD found 0 ≤ code ∧
      (found + 1 < high → code < starts.getD (found + 1) 0) := by
  fun_induction lastStart starts code low high with
  | case1 low high wide middle within ih =>
    obtain ⟨lower, upper, atStart, behind⟩ := ih (by omega) within
    exact ⟨by omega, upper, atStart, behind⟩
  | case2 low high wide middle beyond ih =>
    obtain ⟨lower, upper, atStart, behind⟩ := ih (by omega) before
    refine ⟨lower, by omega, atStart, fun inside => ?_⟩
    by_cases last : lastStart starts code low middle + 1 = middle
    · rw [last]
      omega
    · exact behind (by omega)
  | case3 low high narrow => exact ⟨Nat.le_refl _, by omega, before, by omega⟩

theorem le_getD_runningSums {steps : List Nat} {start i : Nat} (within : i < steps.length) :
    start ≤ (runningSums start steps).getD i 0 := by
  induction steps generalizing start i with
  | nil => exact absurd within (Nat.not_lt_zero i)
  | cons step rest ih =>
    cases i with
    | zero => exact Nat.le_add_right start step
    | succ i => exact Nat.le_trans (Nat.le_add_right start step) (ih (Nat.lt_of_succ_lt_succ within))

/-- The run between whose start and end a code point lies is where the walk along the runs ends. -/
theorem getD_eq_valueOf {runs : List (α × Nat)} {start code i : Nat} (within : i < runs.length)
    (least : start ≤ code)
    (atStart : (start :: runningSums start (runs.map (·.2))).getD i 0 ≤ code)
    (behind : i + 1 < runs.length → code < (runningSums start (runs.map (·.2))).getD i 0) :
    (runs.map (·.1)).getD i fallback = valueOf fallback runs (code - start) := by
  induction runs generalizing start i with
  | nil => exact absurd within (Nat.not_lt_zero i)
  | cons run rest ih =>
    obtain ⟨value, length⟩ := run
    cases rest with
    | nil =>
      obtain rfl : i = 0 := Nat.lt_one_iff.1 within
      rfl
    | cons next rest =>
      show _ = if code - start < length then value else
        valueOf fallback (next :: rest) (code - start - length)
      cases i with
      | zero =>
        have short : code < start + length := behind (by simp)
        rw [if_pos (by omega)]
        rfl
      | succ i =>
        have within' : i < (next :: rest).length := Nat.lt_of_succ_lt_succ within
        have reached : start + length ≤ code := by
          refine Nat.le_trans ?_ atStart
          cases i with
          | zero => exact Nat.le_refl _
          | succ i =>
            have inside : i < ((next :: rest).map (·.2)).length := by
              rw [List.length_map]
              omega
            exact le_getD_runningSums inside
        rw [if_neg (by omega), Nat.sub_sub]
        exact ih within' reached atStart fun inside => behind (Nat.succ_lt_succ inside)

@[simp] theorem length_runningSums (start : Nat) (steps : List Nat) :
    (runningSums start steps).length = steps.length := by
  induction steps generalizing start with
  | nil => rfl
  | cons step rest ih => rw [runningSums, List.length_cons, List.length_cons, ih]

/-- **A table that is searched by halving gives the value that a walk along its runs ends at.** -/
theorem Partition.valueAt_ofText (read : List Char → α) (text : String) (code : Nat) :
    (ofText read text).valueAt fallback code =
      valueOf fallback ((text.toList.splitOn ' ').map (readRun read)) code := by
  unfold valueAt ofText
  generalize whole : (text.toList.splitOn ' ').map (readRun read) = runs
  have nonempty : 0 < runs.length := by
    rw [← whole, List.length_map]
    exact List.length_pos_iff.2 (List.splitOn_ne_nil _ _)
  dsimp only
  generalize sums : runningSums 0 (runs.map (·.2)) = ends
  have length : ends.length = runs.length := by rw [← sums, length_runningSums, List.length_map]
  -- The start behind the last run is left out, and no run starts there.
  have kept : ∀ i < runs.length, (0 :: ends).dropLast.toArray.getD i 0 = (0 :: ends).getD i 0 := by
    intro i within
    rw [Array.getD_eq_getD_getElem?, List.getElem?_toArray, List.getElem?_dropLast,
      if_pos (by simpa [length] using within), List.getD_eq_getElem?_getD]
  have size : (0 :: ends).dropLast.toArray.size = runs.length := by simp [length]
  have first : (0 :: ends).dropLast.toArray.getD 0 0 ≤ code := by
    rw [kept 0 nonempty]
    exact Nat.zero_le _
  obtain ⟨_, within, atStart, behind⟩ := lastStart_spec nonempty first
  rw [size, Array.getD_eq_getD_getElem?, List.getElem?_toArray, ← List.getD_eq_getElem?_getD]
  rw [kept _ within] at atStart
  refine getD_eq_valueOf within (Nat.zero_le code) ?_ fun inside => ?_
  · rw [sums]
    exact atStart
  · have next := behind inside
    rw [kept _ inside] at next
    rw [sums]
    exact next

/-- **The runs that a table starts with tell the values of the first code points.** -/
theorem Partition.valueAt_of_start {read : List Char → α} {text : String} {start : List Char}
    (begins : start ++ [' '] <+: text.toList) {code : Nat}
    (inside : code < reach ((start.splitOn ' ').map (readRun read))) :
    (ofText read text).valueAt fallback code =
      valueOf fallback ((start.splitOn ' ').map (readRun read)) code := by
  obtain ⟨more, whole⟩ := begins
  rw [valueAt_ofText, ← whole, List.append_assoc, List.singleton_append, List.splitOn_append_cons_self,
    List.map_append, valueOf_append _ inside]

end

end ServiceLocation.Text
